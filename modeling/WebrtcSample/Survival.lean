import WebrtcSample.Endings
import WebrtcSample.Agreement

/-!
When a session goes well.

No message brings down the side it reaches by itself: every message is read as what
it was sent as, and no handler finds a null pointer. What does is listed in
`session_survives_iff`: libwebrtc refuses an object, a description or a candidate; it
reports something when the connection is no longer open; the server's data channel
opens when the connection is not; `exit` arrives twice; or a line is read although
the connection never opened. Along every run of a session both sides go on or end
regularly exactly if none of these happens.

The list is not only the environment's doing. The server's own `on_success` closes the
connection, and the next report on either side comes too late.
-/

namespace WebrtcSample

open Prog Effect WebRtcManager

def Phase.isAborted : Phase → Bool
  | .aborted _ => true
  | _ => false

theorem Event.isAborted_outcome {m : Manager} {p : Process} (ev : Event)
    (regular : p.phase.isAborted = false) (next : m.afterRun.isAborted = false)
    (why : Option Abort) : (ev.outcome m p why).isAborted = false ↔ why = none := by
  cases why with
  | some why => simp [Event.outcome, Phase.isAborted]
  | none =>
      refine iff_of_true ?_ rfl
      cases ev with
      | runReturned => exact next
      | line text =>
          show (if text = utf8 "exit" then Phase.quitting else .main).isAborted = false
          split <;> rfl
      | eof => rfl
      | quit => rfl
      | _ => exact regular

namespace Session

/-- Neither program has ended by an exception, a failed check or a null pointer. -/
def Survives (s : Session) : Prop :=
  s.client.phase.isAborted = false ∧ s.server.phase.isAborted = false

/-- The message after `received` is one that the other side's libwebrtc takes:
the description that `x` applied to itself, or the next of its candidates. -/
def Accepted (W : WebRtc) (type : SdpType) (x : Process) (received : List Bytes) : Prop :=
  if received = [] then
    ∀ desc, (0, desc) ∈ localDescriptions x →
      ∃ remote, W.createSessionDescription type (utf8 desc.text) = .ok remote
  else
    ∀ ice, x.state.iceList[received.length - 1]? = some ice → ice.Complete ∧ ¬ Rejects W ice

/-- What the environment must not do for both programs to go on. -/
def Benign (Wc Ws : WebRtc) (s : Session) (a : Action) (_ : Session) : Prop :=
  match a with
  | .act .client (.wsOpen _) =>
      Wc.createPeerConnection 0 = true ∧ Wc.createDataChannel s.client.state.channels = true
  | .act .client (.callback (.sdpCreated _ _)) => s.client.conn = .open
  | .act .client (.callback (.iceCandidate _ _)) => s.client.conn = .open
  | .act .client (.line _) => s.client.state.wsHdl.isSome = true
  | .act .server (.callback (.sdpCreated _ _)) => s.server.conn = .open
  | .act .server (.callback (.iceCandidate _ _)) => s.server.conn = .open
  | .act .server (.callback (.stateChange dc st)) =>
      Server.latestOpens s.server.state dc st = true → s.server.conn = .open
  | .act .server (.callback (.message _ data)) =>
      data = utf8 "exit" → s.server.state.listening = true
  | .deliver .client => Accepted Wc .answer s.server s.toClient.received
  | .deliver .server =>
      (s.toServer.received = [] → Ws.createPeerConnection 0 = true) ∧
        Accepted Ws .offer s.client s.toServer.received
  | _ => True

variable {L : JsonLibs} {Wc Ws : WebRtc} {s t : Session} {p : Process} {ev : Event}

/-- What decides the fate of both sides. -/
structure Vital (L : JsonLibs) (Wc Ws : WebRtc) (s : Session) : Prop where
  inv : Inv L Wc Ws s
  client : ∃ es, Client.Vital es s.client
  server : ∃ es, Server.Vital L es s.server

theorem vital_initial : Vital L Wc Ws initial :=
  ⟨inv_initial, ⟨[], Client.vital_initial⟩, ⟨[], Server.vital_initial⟩⟩

theorem Vital.step (vital : Vital L Wc Ws s) {a : Action}
    (h : Session.step L Wc Ws s a = some t) : Vital L Wc Ws t := by
  have inv := vital.inv.step h
  obtain ⟨es, client⟩ := vital.client
  obtain ⟨fs, server⟩ := vital.server
  have clientStep : ∀ {ev p}, Process.step (Client.manager L Wc) s.client ev = some p →
      Client.Vital (es ++ [ev]) p.flushed := fun moved => by
    obtain ⟨pointers, hdl, others, idle⟩ := client.step moved
    exact ⟨⟨pointers.unset, pointers.set, pointers.quitting⟩, hdl, others, idle⟩
  have serverStep : ∀ {ev p}, Process.step (Server.manager L Ws) s.server ev = some p →
      Server.Vital L (fs ++ [ev]) p.flushed := fun moved => by
    obtain ⟨serving, offers, noPeer, last, handled, listening⟩ := server.step moved
    obtain ⟨holds, noLines, quitting, stopped, observed⟩ := serving
    exact ⟨⟨⟨holds.owned, holds.latest⟩, noLines, quitting, stopped, observed⟩, offers, noPeer,
      last, handled, listening⟩
  rcases step_cases h with ⟨ev, p, rfl, solo, moved, rfl⟩ | ⟨ev, p, rfl, solo, moved, rfl⟩ |
    ⟨payload, rest, p, rfl, popped, moved, rfl⟩ | ⟨payload, rest, p, rfl, popped, moved, rfl⟩
  · exact ⟨inv, ⟨_, clientStep moved⟩, ⟨_, server⟩⟩
  · exact ⟨inv, ⟨_, client⟩, ⟨_, serverStep moved⟩⟩
  · exact ⟨inv, ⟨_, clientStep moved⟩, ⟨_, server⟩⟩
  · exact ⟨inv, ⟨_, client⟩, ⟨_, serverStep moved⟩⟩

/-! ### Each action -/

/-- A side with a peer connection sends exactly while its connection is open. -/
theorem isOpen_of_callback {message : Bytes → Bytes} {sent : List Bytes}
    (speaker : Speaker L message p sent) (peer : p.signaling.peers = 1) :
    p.state.isOpen = true ↔ p.conn = .open := by
  rw [isOpen_eq (speaker.hdl peer), decide_eq_true_eq]

/-- The client's own events. -/
theorem Vital.client_fate (vital : Vital L Wc Ws s) {es : List Event}
    (client : Client.Vital es s.client) (solo : ev.isSolo = true)
    (h : Process.step (Client.manager L Wc) s.client ev = some p) :
    Client.fate L Wc es s.client ev = none ↔ Benign Wc Ws s (.act .client ev) t := by
  have enabled := (Process.step_eq_some h).1
  cases ev with
  | wsOpen hdl =>
      have zero : hdl = 0 := by simpa [Event.isSolo] using solo
      simp only [Event.enabled, decide_eq_true_eq, zero] at enabled
      have none : s.client.state.peers = 0 := vital.inv.client.fresh enabled.2.2
      simp [Client.fate, Benign, none]
  | wsMessage hdl payload => cases solo
  | callback c =>
      cases c with
      | sdpCreated pc desc => simp [Client.fate, Benign, Process.conn]
      | iceCandidate pc candidate => simp [Client.fate, Benign, Process.conn]
      | _ => exact iff_of_true rfl trivial
  | line text =>
      simp only [Client.fate, Benign, client.hdl]
      cases es.any Client.isOpening <;> simp
  | _ => exact iff_of_true rfl trivial

/-- The server's own events. -/
theorem Vital.server_fate (vital : Vital L Wc Ws s) {es : List Event}
    (server : Server.Vital L es s.server) (solo : ev.isSolo = true)
    (h : Process.step (Server.manager L Ws) s.server ev = some p) :
    Server.fate L Ws es s.server ev = none ↔ Benign Wc Ws s (.act .server ev) t := by
  have speaker := vital.inv.server
  -- a peer that calls back is the one peer connection of the session
  have peer : ∀ {c : Callback}, c.enabled s.server.state = true →
      s.server.signaling.peers = 1 := by
    intro c enabled
    have below : c.peer s.server.state < s.server.signaling.peers :=
      server.serving.holds.owned.peer_lt enabled
    exact le_antisymm speaker.one (Nat.zero_lt_of_lt below)
  cases ev with
  | wsMessage hdl payload => cases solo
  | callback c =>
      have isOpen := isOpen_of_callback speaker (peer (Process.callback_enabled h))
      cases c with
      | sdpCreated pc desc => simp [Server.fate, Benign, Server.lastOpen_eq server, isOpen]
      | iceCandidate pc candidate => simp [Server.fate, Benign, Server.lastOpen_eq server, isOpen]
      | stateChange dc st =>
          simp only [Server.fate, Benign, Server.lastOpen_eq server, ← isOpen]
          cases Server.latestOpens s.server.state dc st <;> cases s.server.state.isOpen <;> simp
      | message dc data =>
          simp only [Server.fate, Benign, server.listening]
          cases es.any Server.isExit <;> simp
      | _ => exact iff_of_true rfl trivial
  | _ => exact iff_of_true rfl trivial

/-- A message that reached the server. -/
theorem Vital.server_deliver (vital : Vital L Wc Ws s) {es : List Event}
    (server : Server.Vital L es s.server) {payload : Bytes} {rest : Fifo Bytes}
    (popped : s.toServer.pop = some (payload, rest))
    (h : Process.step (Server.manager L Ws) s.server (.wsMessage 0 payload) = some p) :
    Server.fate L Ws es s.server (.wsMessage 0 payload) = none ↔
      Benign Wc Ws s (.deliver .server) t := by
  have inv := vital.inv
  have alive := Process.alive_of_step h
  have order := order_of_pop popped
  have offers : Server.offers L es = s.server.signaling.peers := (server.offers alive).symm
  by_cases first : s.toServer.received = []
  · rw [first, List.nil_append] at order
    obtain ⟨desc, said, rfl⟩ := inv.client.first_payload order
    have unheard : s.server.signaling.heard = [] := by
      cases inv.toServer with
      | nothing _ heard => exact heard
      | rejected _ _ _ count => simp [first] at count
      | accepted _ _ _ _ _ _ _ arrived => exact absurd first arrived
    rw [inv.serverPeer alive unheard] at offers
    simp only [Server.fate, Server.request_offerMessage, offers, Benign, Accepted, first, if_true,
      localDescriptions_of_script said, List.mem_singleton, Prod.mk.injEq, true_and, forall_eq]
    cases Ws.createPeerConnection 0 <;>
      cases Ws.createSessionDescription .offer (utf8 desc.text) <;> simp
  · obtain ⟨ice, found, text, rfl⟩ := inv.client.later_payload order first
    have found' : s.client.state.iceList[s.toServer.received.length - 1]? = some ice := found
    have peer : s.server.signaling.peers = 1 := by
      cases inv.toServer with
      | nothing none => exact absurd none first
      | rejected _ _ _ _ ended => simp [alive] at ended
      | accepted _ _ _ _ _ peer => exact peer
    rw [peer] at offers
    simp only [Server.fate, Server.request_toJsonString text, offers, Benign, Accepted, first,
      if_false, found', Option.some.injEq, forall_eq']
    by_cases complete : ice.Complete <;> by_cases rejected : Rejects Ws ice <;>
      simp [complete, rejected]

/-- A message that reached the client. -/
theorem Vital.client_deliver (vital : Vital L Wc Ws s) {es : List Event} {payload : Bytes}
    {rest : Fifo Bytes} (popped : s.toClient.pop = some (payload, rest)) :
    Client.fate L Wc es s.client (.wsMessage 0 payload) = none ↔
      Benign Wc Ws s (.deliver .client) t := by
  have inv := vital.inv
  have order := order_of_pop popped
  by_cases first : s.toClient.received = []
  · rw [first, List.nil_append] at order
    obtain ⟨desc, said, rfl⟩ := inv.server.first_payload order
    simp only [Client.fate, Client.request_answerMessage, Benign, Accepted, first, if_true,
      localDescriptions_of_script said, List.mem_singleton, Prod.mk.injEq, true_and, forall_eq]
    cases Wc.createSessionDescription .answer (utf8 desc.text) <;> simp
  · obtain ⟨ice, found, text, rfl⟩ := inv.server.later_payload order first
    have found' : s.server.state.iceList[s.toClient.received.length - 1]? = some ice := found
    simp only [Client.fate, Client.request_toJsonString text, Benign, Accepted, first,
      if_false, found', Option.some.injEq, forall_eq']
    by_cases complete : ice.Complete <;> by_cases rejected : Rejects Wc ice <;>
      simp [complete, rejected]

/-- One action: both sides survive it exactly if it is benign. -/
theorem Vital.survives_iff (vital : Vital L Wc Ws s) (survives : Survives s) {a : Action}
    (h : Session.step L Wc Ws s a = some t) : Survives t ↔ Benign Wc Ws s a t := by
  obtain ⟨regularC, regularS⟩ := survives
  obtain ⟨es, client⟩ := vital.client
  obtain ⟨fs, server⟩ := vital.server
  have clientSide : ∀ {ev p}, Process.step (Client.manager L Wc) s.client ev = some p →
      (p.phase.isAborted = false ↔ Client.fate L Wc es s.client ev = none) := fun moved => by
    rw [client.phase_of_step moved]
    exact Event.isAborted_outcome _ regularC rfl _
  have serverSide : ∀ {ev p}, Process.step (Server.manager L Ws) s.server ev = some p →
      (p.phase.isAborted = false ↔ Server.fate L Ws fs s.server ev = none) := fun moved => by
    rw [server.phase_of_step moved]
    exact Event.isAborted_outcome _ regularS rfl _
  rcases step_cases h with ⟨ev, p, rfl, solo, moved, rfl⟩ | ⟨ev, p, rfl, solo, moved, rfl⟩ |
    ⟨payload, rest, p, rfl, popped, moved, rfl⟩ | ⟨payload, rest, p, rfl, popped, moved, rfl⟩
  · exact (and_iff_left regularS).trans ((clientSide moved).trans
      (vital.client_fate client solo moved))
  · exact (and_iff_right regularC).trans ((serverSide moved).trans
      (vital.server_fate server solo moved))
  · exact (and_iff_left regularS).trans ((clientSide moved).trans (vital.client_deliver popped))
  · exact (and_iff_right regularC).trans ((serverSide moved).trans
      (vital.server_deliver server popped moved))

end Session

/-- **When a session goes well.** Along every run of a session, in every
interleaving, neither program ends by an exception, a failed check or a null
pointer exactly if every step of the environment is benign. -/
theorem session_survives_iff (L : JsonLibs) (Wc Ws : WebRtc) (es : List Action) :
    (Session.machine L Wc Ws).EachStep (fun _ _ t => t.Survives) Session.initial es ↔
      (Session.machine L Wc Ws).EachStep (Session.Benign Wc Ws) Session.initial es :=
  Automaton.EachStep.kept_iff_of_invariant (J := Session.Vital L Wc Ws)
    (fun _ _ _ vital h => vital.step h)
    (fun _ _ _ vital survives h => vital.survives_iff survives h)
    Session.vital_initial ⟨rfl, rfl⟩

end WebrtcSample
