import WebrtcSample.Agreement
import WebrtcSample.Lib.Exchange
import WebrtcSample.Lib.Simulation

/-!
A session is an offer/answer exchange.

Seen from outside, the two programs of a session say descriptions and candidates
and take in what the other said. What a program has said are the description it
applied to itself and its `ice_list_`; what it has taken in are the texts and the
candidates it handed to libwebrtc as the other side's. With these the session
refines `Exchange` (`Session.refinement`): WebSocket messages, lost connections,
libwebrtc's own schedule and processes that end never show in anything but the
order in which the exchange itself may proceed (`session_refines_exchange`).
-/

namespace WebrtcSample

open Exchange

/-- What a call takes in of what the other side said. -/
def Call.taken? : Call → Option (Item Bytes Ice)
  | .createSessionDescription _ sdp => some (.description sdp)
  | .pushIce _ ice => some (.candidate ice)
  | _ => none

namespace Process

/-- What the program has handed to libwebrtc as said by the other side. -/
def taken (p : Process) : List (Item Bytes Ice) := p.state.calls.filterMap Call.taken?

/-- What the program has said. -/
def told (p : Process) : List (Item Bytes Ice) :=
  (localDescriptions p).map (fun d => .description (utf8 d.2.text)) ++
    p.state.iceList.map .candidate

end Process

def Side.role : Side → Role
  | .client => .caller
  | .server => .callee

/-- What an event at a side is for the exchange. -/
def Event.move (who : Role) : Event → Option (Move Bytes Ice)
  | .callback (.sdpCreated _ desc) => some (.describe who (utf8 desc.text))
  | .callback (.iceCandidate _ candidate) => some (.report who (Connection.toIce candidate))
  | _ => none

/-- What a message is for the exchange: its receiver takes it in, or does not. -/
def takes (p q : Process) (who : Role) : Option (Move Bytes Ice) :=
  if q.taken.length = p.taken.length then none else some (.take who)

namespace Session

/-- A session as the exchange sees it. -/
def abs (s : Session) : State Bytes Ice :=
  ⟨⟨s.client.told, s.client.taken⟩, ⟨s.server.told, s.server.taken⟩⟩

/-- What an action is for the exchange. -/
def label (s : Session) (a : Action) (t : Session) : Option (Move Bytes Ice) :=
  match a with
  | .act side ev => ev.move side.role
  | .deliver .client => takes s.client t.client .caller
  | .deliver .server => takes s.server t.server .callee

end Session

/-! ### What a step says and takes in -/

section Steps

variable {L : JsonLibs} {message : Bytes → Bytes} {W : WebRtc} {type : SdpType}
  {x y p q : Process} {ev : Event} {sent received : List Bytes}

theorem Process.taken_eq (p : Process) : p.taken = p.signaling.heard.filterMap Call.taken? := by
  show _ = (p.state.calls.filter Call.isHeard).filterMap Call.taken?
  rw [List.filterMap_filter]
  apply List.filterMap_congr
  intro c _
  cases c <;> rfl

theorem Process.taken_of_heard (heard : q.signaling.heard = p.signaling.heard) :
    q.taken = p.taken := by
  rw [taken_eq, taken_eq, heard]

theorem Process.told_of_said (said : q.signaling.said = p.signaling.said)
    (ices : q.signaling.iceList = p.signaling.iceList) : q.told = p.told := by
  have list : q.state.iceList = p.state.iceList := ices
  rw [told, told, Session.localDescriptions_of_said said, list]

@[simp] theorem Process.taken_flushed (p : Process) : p.flushed.taken = p.taken := rfl

@[simp] theorem Process.told_flushed (p : Process) : p.flushed.told = p.told := rfl

/-- What a side that has spoken has said. -/
theorem told_of_script {desc : SessionDescription} {ices : List Ice}
    (said : p.signaling.said = script L message desc ices) :
    p.told = .description (utf8 desc.text) :: p.signaling.iceList.map .candidate := by
  rw [Process.told, localDescriptions_of_script said]
  rfl

theorem told_of_silent (said : p.signaling.said = []) (ices : p.signaling.iceList = []) :
    p.told = [] := by
  have list : p.state.iceList = [] := ices
  rw [Process.told, localDescriptions_eq, said, list]
  rfl

/-- What a local step adds to what was said. -/
def Event.adds : Event → List (Item Bytes Ice)
  | .callback (.sdpCreated _ desc) => [.description (utf8 desc.text)]
  | .callback (.iceCandidate _ candidate) => [.candidate (Connection.toIce candidate)]
  | _ => []

theorem Speaker.told_step (inv : Speaker L message p sent) (alive : p.phase.alive = true)
    (h : Local L message p ev q) : q.told = p.told ++ ev.adds := by
  cases h with
  | quiet same _ isQuiet =>
      have none : ev.adds = [] := by
        cases ev with
        | callback c => cases c <;> first | rfl | cases isQuiet
        | _ => rfl
      rw [none, List.append_nil]
      exact Process.told_of_said (by rw [same]) (by rw [same])
  | failed same | closed same | withdrawn _ same | quit same =>
      exact (Process.told_of_said (by rw [same]) (by rw [same])).trans (List.append_nil _).symm
  | undescribed pending null =>
      obtain ⟨-, -, peer, -⟩ := inv.told_of_pending pending
      rw [inv.current alive peer] at null
      cases null
  | @described pc cur desc q pending current same =>
      obtain ⟨-, -, peer, said, ices, -⟩ := inv.told_of_pending pending
      have zero : cur = 0 := by simpa [inv.current alive peer] using current.symm
      have script : q.signaling.said = script L message desc [] := by
        simp [same, said, zero, inv.hdl peer, WebrtcSample.script]
      rw [told_of_silent said ices, told_of_script script]
      simp [same, ices, Event.adds]
  | @candidate pc candidate q gathers same =>
      cases inv.told with
      | nothing _ _ described => simp [described] at gathers
      | spoke desc peer _ said =>
          have script : q.signaling.said =
              script L message desc (p.signaling.iceList ++ [Connection.toIce candidate]) := by
            simp [same, said, inv.hdl peer, script_append]
          rw [told_of_script said, told_of_script script]
          simp [same, Event.adds]

/-- What was taken in is a first part of what was said. -/
theorem Listener.taken_prefix (inv : Listener L message W type x y received) :
    y.taken <+: x.told := by
  rw [Process.taken_eq]
  cases inv with
  | nothing _ heard =>
      rw [heard]
      exact List.nil_prefix
  | rejected desc ices said _ _ heard =>
      rw [told_of_script said]
      exact (heard.filterMap Call.taken?).trans (by simp [Call.taken?])
  | accepted desc remote pushed said _ _ heard _ _ pushed_first =>
      have taken : y.signaling.heard.filterMap Call.taken? =
          .description (utf8 desc.text) :: pushed.map .candidate := by
        rw [heard, List.filterMap_append, List.filterMap_map]
        simp [Call.taken?, List.filterMap_cons, Function.comp_def]
      rw [taken, told_of_script said, List.prefix_cons_inj]
      exact (pushed_first.trans (List.take_prefix _ _)).map _

/-- A message is taken in once, or not at all. -/
def TakesOne (p q : Process) : Prop := q.taken = p.taken ∨ ∃ item, q.taken = p.taken ++ [item]

theorem takesOne_of_heard {more : List Call}
    (heard : q.signaling.heard = p.signaling.heard ++ more)
    (one : (more.filterMap Call.taken?).length ≤ 1) : TakesOne p q := by
  have taken : q.taken = p.taken ++ more.filterMap Call.taken? := by
    rw [Process.taken_eq, Process.taken_eq, heard, List.filterMap_append]
  match items : more.filterMap Call.taken? with
  | [] => exact .inl (by rw [taken, items, List.append_nil])
  | [item] => exact .inr ⟨item, by rw [taken, items]⟩
  | _ :: _ :: _ => simp [items] at one

theorem Server.takesOne_of_message {payload : Bytes}
    (h : Process.step (Server.manager L W) p (.wsMessage 0 payload) = some q) : TakesOne p q := by
  cases read : Server.request L payload with
  | error what =>
      exact .inl (Process.taken_of_heard (by rw [(signaling_unreadable rfl read h).2.2]))
  | ok r =>
      cases r with
      | ice ice =>
          exact takesOne_of_heard (by rw [(signaling_ice rfl read h).2]) (by simp [Call.taken?])
      | sdp sdp =>
          obtain ⟨-, ⟨desc, -, same⟩ | ⟨-, pc, peers, heard, -, head, same⟩⟩ :=
            Server.signaling_offer read h
          · exact takesOne_of_heard (by rw [same]) (by simp [Call.taken?, List.filterMap_cons])
          · exact takesOne_of_heard (by rw [same])
              ((List.length_filterMap_le _ _).trans head.length_le)

theorem Client.takesOne_of_message {pc : PcId} {payload : Bytes}
    (current : p.signaling.peerConnection = some pc)
    (h : Process.step (Client.manager L W) p (.wsMessage 0 payload) = some q) : TakesOne p q := by
  cases read : Client.request L payload with
  | error what =>
      exact .inl (Process.taken_of_heard (by rw [(signaling_unreadable rfl read h).2.2]))
  | ok r =>
      cases r with
      | ice ice =>
          exact takesOne_of_heard (by rw [(signaling_ice rfl read h).2]) (by simp [Call.taken?])
      | sdp sdp =>
          obtain ⟨-, ⟨desc, -, same⟩ | ⟨-, same⟩⟩ := Client.signaling_answer read current h
          · exact takesOne_of_heard (by rw [same]) (by simp [Call.taken?, List.filterMap_cons])
          · exact takesOne_of_heard (by rw [same]) (by simp [Call.taken?])

end Steps

/-! ### The refinement -/

section Moves

variable {L : JsonLibs} {message : Bytes → Bytes} {p q : Process} {ev : Event} {sent : List Bytes}
  {x : State Bytes Ice} (who : Role)

/-- A party that neither says nor takes in anything. -/
theorem advance_none (party : x.party who = ⟨p.told, p.taken⟩) (told : q.told = p.told)
    (taken : q.taken = p.taken) :
    (machine Bytes Ice).advance x none = some (x.set ⟨q.told, q.taken⟩ who) := by
  rw [told, taken, ← party]
  cases who <;> rfl

/-- A local step of a side is what the exchange lets its party do. -/
theorem Speaker.advance (inv : Speaker L message p sent) (alive : p.phase.alive = true)
    (h : Local L message p ev q) (party : x.party who = ⟨p.told, p.taken⟩)
    (may : p.signaling.peers = 1 → x.maySpeak who = true) :
    (machine Bytes Ice).advance x (ev.move who) = some (x.set ⟨q.told, q.taken⟩ who) := by
  have told := inv.told_step alive h
  have taken : q.taken = p.taken := Process.taken_of_heard h.heard_eq.1
  cases ev with
  | callback c =>
      cases c with
      | sdpCreated pc desc =>
          have pending : pc ∈ p.signaling.requests := by
            cases h with
            | quiet _ _ isQuiet => cases isQuiet
            | described pending => exact pending
            | undescribed pending => exact pending
          obtain ⟨-, -, peer, said, ices, -⟩ := inv.told_of_pending pending
          have none := told_of_silent said ices
          rw [none] at told
          show Exchange.step x (.describe who (utf8 desc.text)) = _
          simp [Exchange.step, party, none, may peer, told, taken, Event.adds]
      | iceCandidate pc candidate =>
          have spoke : p.told ≠ [] := by
            cases h with
            | quiet _ _ isQuiet => cases isQuiet
            | candidate gathers =>
                cases inv.told with
                | nothing _ _ described => simp [described] at gathers
                | spoke desc _ _ said => simp [told_of_script said]
          show Exchange.step x (.report who (Connection.toIce candidate)) = _
          simp [Exchange.step, party, spoke, told, taken, Event.adds]
      | _ => exact advance_none who party (told.trans (List.append_nil _)) taken
  | _ => exact advance_none who party (told.trans (List.append_nil _)) taken

/-- A message that is taken in is the next thing the other side said. -/
theorem TakesOne.advance (one : TakesOne p q) (party : x.party who = ⟨p.told, p.taken⟩)
    (told : q.told = p.told) (order : q.taken <+: (x.other who).said) :
    (machine Bytes Ice).advance x (takes p q who) = some (x.set ⟨q.told, q.taken⟩ who) := by
  rcases one with same | ⟨item, grown⟩
  · rw [takes, if_pos (by rw [same])]
    exact advance_none who party told same
  · rw [takes, if_neg (by simp [grown])]
    obtain ⟨rest, eq⟩ := order
    have next : (x.other who).said[p.taken.length]? = some item := by
      rw [← eq, grown]
      simp
    show Exchange.step x (.take who) = _
    simp only [Exchange.step, party, next, told, grown, Option.map_some]

end Moves

namespace Session

variable {L : JsonLibs} {Wc Ws : WebRtc} {s t : Session}

/-- A live server with a peer connection has been spoken to. -/
theorem Inv.maySpeak (inv : Inv L Wc Ws s) (alive : s.server.phase.alive = true)
    (peer : s.server.signaling.peers = 1) : (abs s).maySpeak .callee = true := by
  have some : s.server.taken ≠ [] := by
    rw [Process.taken_eq]
    cases inv.toServer with
    | nothing _ heard =>
        have := inv.serverPeer alive heard
        omega
    | rejected _ _ _ _ ended => simp [alive] at ended
    | accepted _ _ _ _ _ _ heard => simp [heard, Call.taken?, List.filterMap_cons]
  simpa [State.maySpeak, abs] using some

/-- **Every action is a move of the exchange or none.** -/
theorem Inv.advance (inv : Inv L Wc Ws s) {a : Action}
    (h : Session.step L Wc Ws s a = some t) :
    (Exchange.machine Bytes Ice).advance (abs s) (label s a t) = some (abs t) := by
  have next := inv.step h
  rcases step_cases h with ⟨ev, p, rfl, solo, moved, rfl⟩ | ⟨ev, p, rfl, solo, moved, rfl⟩ |
    ⟨payload, rest, p, rfl, popped, moved, rfl⟩ | ⟨payload, rest, p, rfl, popped, moved, rfl⟩
  · rcases isLocal_of_isSolo solo with rfl | isLocal
    · obtain ⟨-, -, same | ⟨-, pc, peers, -, same⟩⟩ := Client.signaling_open moved <;>
        exact advance_none (x := abs s) (q := p) .caller rfl
          (Process.told_of_said (by rw [same]) (by rw [same]))
          (Process.taken_of_heard (by rw [same]))
    · exact inv.client.advance (x := abs s) (q := p) .caller
        (Process.alive_of_step moved) (local_of_step (Client.speaks L Wc) isLocal moved) rfl
        fun _ => rfl
  · rcases isLocal_of_isSolo solo with rfl | isLocal
    · obtain ⟨-, -, same⟩ := Server.signaling_open moved
      exact advance_none (x := abs s) (q := p) .callee rfl
        (Process.told_of_said (by rw [same]) (by rw [same]))
        (Process.taken_of_heard (by rw [same]))
    · have alive := Process.alive_of_step moved
      exact inv.server.advance (x := abs s) (q := p) .callee alive
        (local_of_step (Server.speaks L Ws) isLocal moved) rfl fun peer =>
          inv.maySpeak alive peer
  · have alive := Process.alive_of_step moved
    have current := inv.client.current alive (inv.clientPeer alive (present_of_message moved))
    obtain ⟨heard, same⟩ := Client.signaling_message current moved
    exact (Client.takesOne_of_message current moved).advance (x := abs s) .caller rfl
      (Process.told_of_said (by rw [same]) (by rw [same])) next.toClient.taken_prefix
  · obtain ⟨said, ices⟩ := Server.signaling_message moved
    exact (Server.takesOne_of_message moved).advance (x := abs s) .callee rfl
      (Process.told_of_said said ices) next.toServer.taken_prefix

/-- The session refines the exchange. -/
def refinement (L : JsonLibs) (Wc Ws : WebRtc) :
    (machine L Wc Ws).Refinement (Exchange.machine Bytes Ice) where
  abs := abs
  label := label
  Inv := Inv L Wc Ws
  inv_init := inv_initial
  inv_step := fun _ _ _ inv h => inv.step h
  abs_init := rfl
  simulates := fun _ _ _ inv h => inv.advance h

end Session

/-- **A session is an offer/answer exchange.** For every run of a session, the
descriptions, the candidates and the messages that were taken in form a run of the
exchange, which ends with what both programs have said and taken in; and the two
agree. -/
theorem session_refines_exchange {L : JsonLibs} {Wc Ws : WebRtc} {es : List Action} {s : Session}
    (run : (Session.machine L Wc Ws).run es = some s) :
    (Exchange.machine Bytes Ice).run ((Session.refinement L Wc Ws).trace es) = some s.abs ∧
      s.abs.Agrees :=
  ⟨Automaton.Refinement.run_trace (r := Session.refinement L Wc Ws) run,
    Automaton.Refinement.invariant (r := Session.refinement L Wc Ws)
      (fun _ reach => agrees_of_reachable reach) ⟨es, run⟩⟩

/-- In the session in which both sides report a candidate, the server has taken in
both things the client said. -/
theorem session_refines_exchange_trace :
    ∃ s, (Session.machine .reference .reference .reference).run Session.exchange = some s ∧
      (Exchange.machine Bytes Ice).run
        ((Session.refinement .reference .reference .reference).trace Session.exchange) =
          some s.abs ∧
      s.server.taken = s.client.told ∧ s.client.taken.length = 1 := by
  have checked : ((Session.machine .reference .reference .reference).run Session.exchange).any
      (fun s => s.server.taken = s.client.told ∧ s.client.taken.length = 1) = true := by
    decide +kernel
  obtain ⟨s, run, facts⟩ := (Option.any_eq_true _ _).mp checked
  obtain ⟨all, one⟩ := of_decide_eq_true facts
  exact ⟨s, run, (session_refines_exchange run).1, all, one⟩

end WebrtcSample
