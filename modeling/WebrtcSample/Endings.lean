import WebrtcSample.Lifetime
import WebrtcSample.Pointers

/-!
How the programs end.

Neither program catches anything: an exception, a failed check or a null pointer
in a handler or an observer is the end of the process. Whether an event is the
last one can be told from what has happened so far, from the state in which the
libraries hold the program's connection and channel, and from what they answer.
`Server.fate` and `Client.fate` say how, and the code does exactly that, in every
run (`server_ends`, `client_ends`).

websocketpp is taken as documented. Its throwing functions throw "Bad Connection"
on a handle without a connection and "invalid state" on a connection or an acceptor
in the wrong state. A connection leaves the open state before its close handler is
called, and its object goes after that.

The two functions are shorter than the code. Most of its uses of a pointer cannot
fail in any run, and the check at the end of `create_offer_sdp` is never reached
with a null pointer.
-/

namespace WebrtcSample

open Prog Effect WebRtcManager

/-- What websocketpp throws for a connection or an acceptor in the wrong state. -/
def invalidState : Abort := .exception (utf8 "invalid state")

/-- What it throws for a handle without a connection. -/
def badConnection : Abort := .exception (utf8 "Bad Connection")

/-- What it throws for a handle whose connection is not open: the connection may
still be there or not. -/
def Process.refused (p : Process) (hdl : Option Hdl) : Abort :=
  if hdl.all fun hdl => p.state.conns hdl = .closed ∧ p.state.gone hdl then badConnection
  else invalidState

theorem Process.refused_wsHdl (p : Process) :
    p.refused p.state.wsHdl = .exception p.state.refusal := by
  unfold Process.refused Endpoint.refusal Endpoint.lost
  cases p.state.wsHdl <;> simp only [Option.all_none, Option.all_some] <;> split <;> rfl

/-- The main thread goes on as the code says, or the process is over. -/
def Event.outcome (m : Manager) (p : Process) (ev : Event) : Option Abort → Phase
  | none => ev.next m p.phase
  | some why => .aborted why

/-- A report is sent on the stored handle; it is the end unless the connection is
open. -/
theorem Process.phase_of_report {m : Manager} {p q : Process} {ev : Event} {e : Endpoint}
    {payload : Bytes} (h : Process.step m p ev = some q)
    (run : (ev.code m p.state).run (ev.enter p.state) = (wsSend payload).run e) :
    q.phase = ev.outcome m p (if e.isOpen then none else some (.exception e.refusal)) := by
  rw [run_wsSend] at run
  split at run
  · rename_i isOpen
    rw [if_pos isOpen]
    exact (Process.step_ok h run).2
  · rename_i shut
    rw [if_neg shut]
    exact (Process.step_error h run).2

/-! ### The server -/

namespace Server

variable (L : JsonLibs) (W : WebRtc)

/-- An offer reaches the server. -/
def isOffer : Event → Bool
  | .wsMessage _ payload =>
      match request L payload with
      | .ok (.sdp _) => true
      | _ => false
  | _ => false

def offers (es : List Event) : Nat := es.countP (isOffer L)

/-- An `exit` reaches the server. -/
def isExit : Event → Bool
  | .callback (.message _ data) => data = utf8 "exit"
  | _ => false

/-- Whether the next event ends the server after the events `es`, and how. -/
def fate (es : List Event) (p : Process) : Event → Option Abort
  | .wsMessage _ payload =>
      match request L payload with
      | .error what => some (.exception what)
      | .ok (.sdp sdp) =>
          match W.createPeerConnection (offers L es), W.createSessionDescription .offer sdp with
          | true, .ok _ => none
          | _, _ => some .exitFailure
      | .ok (.ice ice) =>
          if Rejects W ice then some .exitFailure
          else if offers L es = 0 then some .nullDereference
          else none
  | .callback (.sdpCreated _ _) =>
      if lastOpen es p then none else some (p.refused (lastHandler es))
  | .callback (.iceCandidate _ _) =>
      if lastOpen es p then none else some (p.refused (lastHandler es))
  | .callback (.stateChange dc st) =>
      if latestOpens p.state dc st ∧ lastOpen es p = false then
        some (p.refused (lastHandler es))
      else none
  | .callback (.message _ data) =>
      if data = utf8 "exit" ∧ es.any isExit then some invalidState else none
  | _ => none

/-- What the fate of the server depends on, after the events `es`. -/
structure Vital (es : List Event) (p : Process) : Prop where
  serving : Serving es p
  offers : p.phase.alive = true → p.state.peers = offers L es
  noPeer : p.phase.alive = true → p.state.peers = 0 → p.state.peerConnection = none
  last : p.state.wsHdl = lastHandler es
  handled : 0 < p.state.peers → p.state.wsHdl.isSome = true
  listening : p.state.listening = !es.any isExit

variable {L W} {es : List Event} {p q : Process} {ev : Event}

theorem lastOpen_eq (inv : Vital L es p) : lastOpen es p = p.state.isOpen := by
  rw [lastOpen, ← inv.last, Endpoint.isOpen]
  cases p.state.wsHdl <;> rfl

theorem refused_eq (inv : Vital L es p) :
    p.refused (lastHandler es) = .exception p.state.refusal := by
  rw [← inv.last, Process.refused_wsHdl]

/-- Only an offer touches the server's objects through a message. -/
theorem peers_of_noOffer {hdl : Hdl} {payload : Bytes}
    (noOffer : isOffer L (.wsMessage hdl payload) = false)
    (h : Process.step (manager L W) p (.wsMessage hdl payload) = some q) :
    q.state.peers = p.state.peers := by
  have state : q.state = final ((messageHandler L W hdl payload).run p.state) :=
    Process.state_of_step h
  rw [run_messageHandler] at state
  cases read : request L payload with
  | error what =>
      rw [state, read]
      rfl
  | ok r =>
      cases r with
      | sdp sdp => simp [isOffer, read] at noOffer
      | ice ice =>
          rw [state, read]
          exact keeps_pushIce_of_ignores (f := Endpoint.peers) (fun _ _ _ => rfl) _ _

/-- A server that goes on has a peer connection for each offer. -/
theorem offers_of_step (alive : q.phase.alive = true)
    (h : Process.step (manager L W) p ev = some q) :
    q.state.peers = p.state.peers + if isOffer L ev then 1 else 0 := by
  by_cases message : ∃ hdl payload, ev = .wsMessage hdl payload
  · obtain ⟨hdl, payload, rfl⟩ := message
    by_cases offer : isOffer L (.wsMessage hdl payload) = true
    · rw [if_pos offer]
      cases read : request L payload with
      | error what => simp [isOffer, read] at offer
      | ok r =>
          cases r with
          | ice ice => simp [isOffer, read] at offer
          | sdp sdp =>
              rcases offer_cases read h with ⟨desc, -, -, state⟩ | ⟨phase, -⟩ | ⟨phase, -⟩
              · rw [state]
              · rw [phase] at alive
                cases alive
              · rw [phase] at alive
                cases alive
    · rw [if_neg offer]
      exact peers_of_noOffer (by simpa using offer) h
  · have noOffer : isOffer L ev = false := by
      cases ev with
      | wsMessage hdl payload => exact absurd ⟨hdl, payload, rfl⟩ message
      | _ => rfl
    rw [noOffer, if_neg Bool.false_ne_true, Nat.add_zero]
    rcases peers_of_step h with same | ⟨more, hdl, handler⟩
    · exact same
    · by_cases callback : ∃ c, ev = .callback c
      · obtain ⟨c, rfl⟩ := callback
        cases handler
      · push Not at message callback
        obtain ⟨pc, objects, -⟩ := objects_other message callback h
        exact congrArg Objects.peers objects

/-- Without a peer connection the pointer stays null. -/
theorem noPeer_of_step (alive : q.phase.alive = true)
    (null : p.state.peers = 0 → p.state.peerConnection = none)
    (h : Process.step (manager L W) p ev = some q) (unasked : q.state.peers = 0) :
    q.state.peerConnection = none := by
  have pointer : q.state.peerConnection = q.state.objects.peerConnection := rfl
  have peers : q.state.objects.peers = 0 := unasked
  by_cases message : ∃ hdl payload, ev = .wsMessage hdl payload
  · obtain ⟨hdl, payload, rfl⟩ := message
    rcases objects_message h with same | ⟨-, objects⟩ | ⟨dead, -⟩
    · rw [same] at peers
      rw [pointer, same]
      exact null peers
    · rw [objects] at peers
      cases peers
    · rw [alive] at dead
      cases dead
  by_cases callback : ∃ c, ev = .callback c
  · obtain ⟨c, rfl⟩ := callback
    rw [objects_callback h] at peers
    rw [pointer, objects_callback h]
    cases c <;> exact null peers
  push Not at message callback
  obtain ⟨pc, objects, kept⟩ := objects_other message callback h
  rw [objects] at peers
  rw [pointer, objects, kept (Process.ne_quit_of_alive h alive)]
  exact null peers

theorem exits_of_step (h : Process.step (manager L W) p ev = some q) :
    q.state.listening = (p.state.listening && !isExit ev) := by
  by_cases quit : ev = .quit
  · rw [Process.state_of_step h, quit]
    refine (keeps_quit_of_ignores (f := Endpoint.listening) (fun _ _ _ => rfl)
      (fun _ => rfl) _).trans ?_
    simp [isExit, Event.enter]
  · have listening : q.state.listening = q.state.serving.1 := rfl
    rw [listening, serving_of_step quit h]
    cases ev with
    | callback c =>
        cases c with
        | message dc data => simp [isExit]
        | _ => simp [isExit, Endpoint.serving]
    | _ => simp [isExit, Endpoint.serving]

theorem vital_initial : Vital L [] Process.initial where
  serving := serving_initial
  offers := fun _ => rfl
  noPeer := fun _ _ => rfl
  last := rfl
  handled := fun some => absurd some (Nat.lt_irrefl 0)
  listening := rfl

theorem Vital.step (inv : Vital L es p) (h : Process.step (manager L W) p ev = some q) :
    Vital L (es ++ [ev]) q := by
  have wsHdl := wsHdl_of_step h
  refine ⟨inv.serving.step h, fun alive => ?_, fun alive => ?_, ?_, fun some => ?_, ?_⟩
  · rw [offers_of_step alive h, inv.offers (Process.alive_of_step h)]
    simp [Server.offers, List.countP_append, List.countP_singleton]
  · exact noPeer_of_step alive (inv.noPeer (Process.alive_of_step h)) h
  · rw [wsHdl, lastHandler_concat, inv.last]
  · rw [wsHdl]
    rcases peers_of_step h with same | ⟨-, hdl, handler⟩
    · rw [Option.isSome_or, inv.handled (same ▸ some), Bool.or_true]
    · rw [handler]
      rfl
  · rw [exits_of_step h, inv.listening, List.any_append]
    simp

theorem vital_of_run (run : (Process.machine (manager L W)).run es = some p) : Vital L es p :=
  Automaton.run_history (I := Vital L) vital_initial (fun _ _ _ _ inv h => inv.step h) run

/-! ### Each event -/

/-- A payload is read, and then an offer needs a peer connection that takes it and
a candidate one that is there. -/
theorem Vital.phase_message (inv : Vital L es p) {hdl : Hdl} {payload : Bytes}
    (h : Process.step (manager L W) p (.wsMessage hdl payload) = some q) :
    q.phase = Event.outcome (manager L W) p (.wsMessage hdl payload)
      (fate L W es p (.wsMessage hdl payload)) := by
  have alive := Process.alive_of_step h
  have offers := inv.offers alive
  have run : ((Event.wsMessage hdl payload).code (manager L W) p.state).run
      (Event.enter p.state (.wsMessage hdl payload)) =
        (messageHandler L W hdl payload).run p.state := rfl
  rw [run_messageHandler] at run
  simp only [fate]
  cases read : request L payload with
  | error what =>
      rw [read] at run
      exact (Process.step_error h run).2
  | ok r =>
      rw [read] at run
      cases r with
      | sdp sdp =>
          dsimp only
          cases pc : W.createPeerConnection (Server.offers L es) with
          | false =>
              rw [← offers] at pc
              exact (Process.step_error h (run.trans (run_createAnswerSdp_noPeer sdp pc))).2
          | true =>
              rw [← offers] at pc
              cases parsed : W.createSessionDescription .offer sdp with
              | error err =>
                  exact (Process.step_error h
                    (run.trans (run_createAnswerSdp_badOffer pc parsed))).2
              | ok desc =>
                  exact (Process.step_ok h (run.trans (run_createAnswerSdp pc parsed))).2
      | ice ice =>
          dsimp only
          by_cases rejected : Rejects W ice
          · rw [if_pos rejected]
            exact (Process.step_error h (run.trans (run_pushIce_rejected rejected))).2
          rw [if_neg rejected, ← offers]
          by_cases none : p.state.peers = 0
          · rw [if_pos none]
            have null := inv.noPeer alive none
            exact (Process.step_error h (run.trans (run_pushIce_null null rejected))).2
          · rw [if_neg none]
            obtain ⟨pc, current⟩ := Option.isSome_iff_exists.mp
              (inv.serving.peerConnection alive (Nat.pos_of_ne_zero none))
            exact (Process.step_ok h (run.trans (run_pushIce current rejected))).2

/-- A channel that is open lets `on_success` close the connection. -/
theorem Vital.phase_stateChange (inv : Vital L es p) {dc : DcId} {st : DataState}
    (h : Process.step (manager L W) p (.callback (.stateChange dc st)) = some q) :
    q.phase = Event.outcome (manager L W) p (.callback (.stateChange dc st))
      (fate L W es p (.callback (.stateChange dc st))) := by
  have alive := Process.alive_of_step h
  have enabled := Process.callback_enabled h
  simp only [Callback.enabled, decide_eq_true_eq] at enabled
  let e : Endpoint := { p.state with channelState := Function.update p.state.channelState dc st }
  obtain ⟨cur, current⟩ := Option.isSome_iff_exists.mp
    (inv.serving.observed alive (List.ne_nil_of_mem enabled.1))
  have run : ((Event.callback (.stateChange dc st)).code (manager L W) p.state).run
      (Event.enter p.state (.callback (.stateChange dc st))) =
        (Connection.onStateChange (callbacks L)).run e := rfl
  have here : e.dataChannel = some cur := current
  rw [Connection.run_onStateChange _ here] at run
  simp only [fate, latestOpens, lastOpen_eq inv, refused_eq inv, current, Option.any_some,
    decide_eq_true_eq]
  by_cases opens : Function.update p.state.channelState dc st cur = .open
  · have opened : e.channelState cur = .open := opens
    have success : (callbacks L).onSuccess.run (e.log .onSuccess) =
        onSuccess.run (e.log .onSuccess) := rfl
    rw [if_pos opened, success] at run
    cases isOpen : p.state.isOpen with
    | true =>
        obtain ⟨hdl, stored, up⟩ := Endpoint.isOpen_iff.mp isOpen
        rw [if_neg (by simp)]
        exact (Process.step_ok h (run.trans (run_onSuccess stored up))).2
    | false =>
        have shut : (e.log .onSuccess).isOpen = false := isOpen
        rw [if_pos ⟨opens, rfl⟩]
        exact (Process.step_error h (run.trans (run_onSuccess_shut shut))).2
  · have shut : e.channelState cur ≠ .open := opens
    rw [if_neg shut] at run
    rw [if_neg (by simp [opens])]
    exact (Process.step_ok h run).2

theorem Vital.phase_channelMessage (inv : Vital L es p) {dc : DcId} {data : Bytes}
    (h : Process.step (manager L W) p (.callback (.message dc data)) = some q) :
    q.phase = Event.outcome (manager L W) p (.callback (.message dc data))
      (fate L W es p (.callback (.message dc data))) := by
  have run : ((Event.callback (.message dc data)).code (manager L W) p.state).run
      (Event.enter p.state (.callback (.message dc data))) = (onMessage data).run p.state := rfl
  simp only [fate]
  by_cases exit : data = utf8 "exit"
  · subst exit
    rw [run_onMessage_exit, run_stopListening, inv.listening] at run
    cases before : es.any isExit with
    | true =>
        rw [if_pos ⟨rfl, rfl⟩]
        rw [before] at run
        exact (Process.step_error h run).2
    | false =>
        rw [if_neg (by simp)]
        rw [before] at run
        exact (Process.step_ok h run).2
  · have enabled := Process.callback_enabled h
    simp only [Callback.enabled, decide_eq_true_eq] at enabled
    obtain ⟨cur, current⟩ := Option.isSome_iff_exists.mp
      (inv.serving.observed (Process.alive_of_step h) (List.ne_nil_of_mem enabled))
    rw [run_onMessage_echo exit, run_send _ current] at run
    rw [if_neg (fun both => exit both.1)]
    exact (Process.step_ok h run).2

/-- **One event**: it ends the server exactly as `fate` says. -/
theorem Vital.phase_of_step (inv : Vital L es p)
    (h : Process.step (manager L W) p ev = some q) :
    q.phase = ev.outcome (manager L W) p (fate L W es p ev) := by
  have alive := Process.alive_of_step h
  cases ev with
  | wsMessage hdl payload => exact inv.phase_message h
  | callback c =>
      cases c with
      | sdpCreated pc desc =>
          have owner := inv.serving.holds.owned.peer_lt (Process.callback_enabled h)
          obtain ⟨cur, current⟩ := Option.isSome_iff_exists.mp
            (inv.serving.peerConnection alive (Nat.zero_lt_of_lt owner))
          have set : (Event.enter p.state (.callback (.sdpCreated pc desc))).peerConnection =
              some cur := current
          have phase := Process.phase_of_report h
            (Connection.run_onSuccessCsd (callbacks L) desc set)
          simp only [fate, lastOpen_eq inv, refused_eq inv]
          exact phase
      | iceCandidate pc candidate =>
          have phase := Process.phase_of_report h
            (run_reportIce (L := L) (Connection.toIce candidate))
          simp only [fate, lastOpen_eq inv, refused_eq inv]
          exact phase
      | stateChange dc st => exact inv.phase_stateChange h
      | message dc data => exact inv.phase_channelMessage h
      | sdpFailed pc => exact (Process.step_ok h rfl).2
      | dataChannel pc => exact (Process.step_ok h rfl).2
  | line text =>
      have enabled := (Process.step_eq_some h).1
      simp only [Event.enabled, decide_eq_true_eq] at enabled
      exact absurd enabled inv.serving.noLines
  | quit =>
      have enabled := (Process.step_eq_some h).1
      simp only [Event.enabled, decide_eq_true_eq] at enabled
      obtain ⟨-, some⟩ := inv.serving.stopped (inv.serving.quitting enabled)
      obtain ⟨pc, current⟩ := Option.isSome_iff_exists.mp (inv.serving.peerConnection alive some)
      exact (Process.step_ok h (run_quit current)).2
  | wsOpen hdl => exact (Process.step_ok h rfl).2
  | wsFail hdl => exact (Process.step_ok h rfl).2
  | wsClose hdl => exact (Process.step_ok h rfl).2
  | wsClosing hdl => exact (Process.step_ok h rfl).2
  | wsGone hdl => exact (Process.step_ok h rfl).2
  | runReturned => exact (Process.step_ok h rfl).2
  | eof => exact (Process.step_ok h rfl).2

end Server

/-! ### The client -/

namespace Client

variable (L : JsonLibs) (W : WebRtc)

/-- The connection opens. -/
def isOpening : Event → Bool
  | .wsOpen _ => true
  | _ => false

/-- Whether the next event ends the client after the events `es`, and how. -/
def fate (es : List Event) (p : Process) : Event → Option Abort
  | .wsOpen _ =>
      if W.createPeerConnection p.state.peers && W.createDataChannel p.state.channels then none
      else some .nullDereference
  | .wsMessage _ payload =>
      match request L payload with
      | .error what => some (.exception what)
      | .ok (.sdp sdp) =>
          match W.createSessionDescription .answer sdp with
          | .ok _ => none
          | .error _ => some .exitFailure
      | .ok (.ice ice) => if Rejects W ice then some .exitFailure else none
  | .callback (.sdpCreated _ _) =>
      if p.state.conns 0 = .open then none else some (p.refused (some 0))
  | .callback (.iceCandidate _ _) =>
      if p.state.conns 0 = .open then none else some (p.refused (some 0))
  | .line _ => if es.any isOpening then none else some .nullDereference
  | _ => none

/-- What the fate of the client depends on, after the events `es`. -/
structure Vital (es : List Event) (p : Process) : Prop where
  pointers : Pointers p
  hdl : p.state.wsHdl = if es.any isOpening then some 0 else none
  others : ∀ hdl, hdl ≠ 0 → p.state.conns hdl = .absent
  idle : p.state.wsHdl = none →
    p.state.requests = [] ∧ p.state.described = [] ∧ p.state.observed = []

variable {L W} {es : List Event} {p q : Process} {ev : Event}

/-- What the handlers depend on. -/
def contact (e : Endpoint) : Option Hdl × (Hdl → WsState) := (e.wsHdl, e.conns)

theorem keeps_contact_createOfferSdp : Keeps contact (createOfferSdp W) := by
  intro e
  cases pc : W.createPeerConnection e.peers with
  | false => rw [run_createOfferSdp_noPeer pc]; rfl
  | true =>
      cases dc : W.createDataChannel e.channels with
      | false => rw [run_createOfferSdp_noChannel pc dc]; rfl
      | true => rw [run_createOfferSdp pc dc]; rfl

/-- A step stores the connection whose handler it runs, and the client's code
leaves the connections to websocketpp. -/
theorem contact_of_step (h : Process.step (manager L W) p ev = some q) :
    contact q.state = (ev.hdl?.or p.state.wsHdl, (ev.enter p.state).conns) := by
  have log : ∀ (e : Endpoint) (c : Call), c.isPlain = true → contact (e.log c) = contact e :=
    fun _ _ _ => rfl
  rw [Process.state_of_step h]
  cases ev with
  | wsOpen hdl => exact keeps_contact_createOfferSdp _
  | wsMessage hdl payload => exact final_messageHandler_of_ignores log hdl payload p.state
  | callback c =>
      cases c with
      | sdpCreated pc desc =>
          exact keeps_onSuccessCsd_of_ignores log (fun _ _ => rfl)
            (keeps_wsSend_of_ignores log (fun _ _ => rfl) _) _
      | iceCandidate pc candidate =>
          exact keeps_reportIce_of_ignores log (fun _ _ => rfl) (fun _ _ => rfl) _ _
      | stateChange dc st =>
          exact keeps_onStateChange_of_ignores (f := contact) (fun _ => rfl) (keeps_pure ()) _
      | _ => rfl
  | line text => exact keeps_send_of_ignores (f := contact) (fun _ _ => rfl) text _
  | quit => exact keeps_quit_of_ignores log (fun _ => rfl) _
  | _ => rfl

/-- There is no other connection than 0. -/
theorem Vital.zero_of_present (inv : Vital es p) {hdl : Hdl}
    (present : p.state.conns hdl = .open ∨ p.state.conns hdl = .closing) : hdl = 0 := by
  by_contra other
  rw [inv.others hdl other] at present
  rcases present with up | up <;> cases up

/-- Handlers run for connection 0. -/
theorem Vital.hdl_zero (inv : Vital es p) (h : Process.step (manager L W) p ev = some q)
    {hdl : Hdl} (handler : ev.hdl? = some hdl) : hdl = 0 := by
  have enabled := (Process.step_eq_some h).1
  cases ev with
  | wsOpen hdl' =>
      cases handler
      simp only [Event.enabled, decide_eq_true_eq] at enabled
      simpa [manager] using enabled.2.1
  | wsClose hdl' =>
      cases handler
      simp only [Event.enabled, decide_eq_true_eq] at enabled
      exact inv.zero_of_present enabled.2
  | wsMessage hdl' payload =>
      cases handler
      simp only [Event.enabled, decide_eq_true_eq] at enabled
      exact inv.zero_of_present enabled.2
  | _ => cases handler

/-- Before its connection has opened, the client has no handler but `OpenHandler`
to run, and libwebrtc nothing to call it for. -/
theorem Vital.idle_step (inv : Vital es p) (h : Process.step (manager L W) p ev = some q)
    (closed : p.state.wsHdl = none) (handler : ev.hdl? = none) :
    q.state.requests = p.state.requests ∧ q.state.described = p.state.described ∧
      q.state.observed = p.state.observed := by
  obtain ⟨requests, described, observed⟩ := inv.idle closed
  have state := Process.state_of_step h
  cases ev with
  | callback c =>
      have enabled := Process.callback_enabled h
      cases c <;> simp [Callback.enabled, requests, described, observed,
        (inv.pointers.unset closed).1] at enabled
  | wsOpen hdl => cases handler
  | wsClose hdl => cases handler
  | wsMessage hdl payload => cases handler
  | line text =>
      have none := (inv.pointers.unset closed).2.1
      obtain ⟨state, -⟩ := Process.step_error h (run_send_null text none)
      rw [state]
      exact ⟨rfl, rfl, rfl⟩
  | quit =>
      have enabled := (Process.step_eq_some h).1
      simp only [Event.enabled, decide_eq_true_eq] at enabled
      have set := inv.pointers.quitting enabled
      simp [closed] at set
  | _ => rw [state]; exact ⟨rfl, rfl, rfl⟩

/-- Only connection 0 changes its state. -/
theorem Vital.enter_conns (inv : Vital es p) (h : Process.step (manager L W) p ev = some q)
    {hdl : Hdl} (other : hdl ≠ 0) : (ev.enter p.state).conns hdl = p.state.conns hdl := by
  have enabled := (Process.step_eq_some h).1
  cases ev with
  | wsOpen hdl' =>
      rw [inv.hdl_zero h rfl]
      exact Function.update_of_ne other _ _
  | wsFail hdl' =>
      simp only [Event.enabled, decide_eq_true_eq] at enabled
      have zero : hdl' = 0 := by simpa [manager] using enabled.2.1
      rw [zero]
      exact Function.update_of_ne other _ _
  | wsClose hdl' =>
      rw [inv.hdl_zero h rfl]
      exact Function.update_of_ne other _ _
  | wsClosing hdl' =>
      simp only [Event.enabled, decide_eq_true_eq] at enabled
      rw [inv.zero_of_present (.inl enabled.2)]
      exact Function.update_of_ne other _ _
  | callback c => cases c <;> rfl
  | _ => rfl

/-- A handler that runs, runs on a connection that has opened. -/
theorem Vital.opened (inv : Vital es p) (h : Process.step (manager L W) p ev = some q)
    {hdl : Hdl} (handler : ev.hdl? = some hdl) : (es ++ [ev]).any isOpening = true := by
  have enabled := (Process.step_eq_some h).1
  have before : p.state.wsHdl.isSome = true → (es ++ [ev]).any isOpening = true := by
    intro set
    rw [inv.hdl] at set
    rw [List.any_append]
    cases opened : es.any isOpening with
    | true => rfl
    | false => simp [opened] at set
  cases ev with
  | wsOpen hdl' => simp [isOpening]
  | wsClose hdl' =>
      simp only [Event.enabled, decide_eq_true_eq] at enabled
      exact before (inv.pointers.hdl_of_present enabled.2)
  | wsMessage hdl' payload =>
      simp only [Event.enabled, decide_eq_true_eq] at enabled
      exact before (inv.pointers.hdl_of_present enabled.2)
  | _ => cases handler

theorem vital_initial : Vital [] Process.initial :=
  ⟨pointers_initial, rfl, fun _ _ => rfl, fun _ => ⟨rfl, rfl, rfl⟩⟩

theorem Vital.step (inv : Vital es p) (h : Process.step (manager L W) p ev = some q) :
    Vital (es ++ [ev]) q := by
  have contact := contact_of_step h
  have wsHdl : q.state.wsHdl = ev.hdl?.or p.state.wsHdl := congrArg Prod.fst contact
  have conns : q.state.conns = (ev.enter p.state).conns := congrArg Prod.snd contact
  refine ⟨inv.pointers.step h, ?_, fun hdl other => ?_, fun closed => ?_⟩
  · cases handler : ev.hdl? with
    | some hdl => rw [wsHdl, handler, inv.opened h handler, inv.hdl_zero h handler]; rfl
    | none =>
        rw [wsHdl, handler, Option.none_or, inv.hdl, List.any_append]
        cases ev with
        | wsOpen hdl => cases handler
        | _ => simp [isOpening]
  · rw [conns, inv.enter_conns h other]
    exact inv.others hdl other
  · rw [wsHdl, Option.or_eq_none_iff] at closed
    obtain ⟨requests, described, observed⟩ := inv.idle_step h closed.2 closed.1
    rw [requests, described, observed]
    exact inv.idle closed.2

theorem vital_of_run (run : (Process.machine (manager L W)).run es = some p) : Vital es p :=
  Automaton.run_history (I := Vital) vital_initial (fun _ _ _ _ inv h => inv.step h) run

/-! ### Each event -/

/-- A callback comes after `OpenHandler`, which has stored the handle. -/
theorem Vital.set_of_callback (inv : Vital es p) {c : Callback}
    (enabled : c.enabled p.state = true) : p.state.wsHdl = some 0 := by
  have set : p.state.wsHdl ≠ none := by
    intro closed
    obtain ⟨requests, described, observed⟩ := inv.idle closed
    cases c <;> simp [Callback.enabled, requests, described, observed,
      (inv.pointers.unset closed).1] at enabled
  rw [inv.hdl] at set ⊢
  split
  · rfl
  · rename_i closed
    rw [if_neg closed] at set
    exact absurd rfl set

theorem Vital.phase_message (inv : Vital es p) {hdl : Hdl} {payload : Bytes}
    (h : Process.step (manager L W) p (.wsMessage hdl payload) = some q) :
    q.phase = Event.outcome (manager L W) p (.wsMessage hdl payload)
      (fate L W es p (.wsMessage hdl payload)) := by
  have enabled := (Process.step_eq_some h).1
  simp only [Event.enabled, decide_eq_true_eq] at enabled
  obtain ⟨pc, current⟩ := Option.isSome_iff_exists.mp
    (inv.pointers.set (Process.alive_of_step h) (inv.pointers.hdl_of_present enabled.2)).1
  have run : ((Event.wsMessage hdl payload).code (manager L W) p.state).run
      (Event.enter p.state (.wsMessage hdl payload)) =
        (messageHandler L W hdl payload).run p.state := rfl
  rw [run_messageHandler] at run
  simp only [fate]
  cases read : request L payload with
  | error what =>
      rw [read] at run
      exact (Process.step_error h run).2
  | ok r =>
      rw [read] at run
      have here : ({ p.state with wsHdl := some hdl } : Endpoint).peerConnection = some pc :=
        current
      cases r with
      | sdp sdp =>
          dsimp only
          cases parsed : W.createSessionDescription .answer sdp with
          | error err =>
              exact (Process.step_error h (run.trans (run_pushReplySdp_badAnswer parsed))).2
          | ok desc => exact (Process.step_ok h (run.trans (run_pushReplySdp here parsed))).2
      | ice ice =>
          dsimp only
          by_cases rejected : Rejects W ice
          · rw [if_pos rejected]
            exact (Process.step_error h (run.trans (run_pushIce_rejected rejected))).2
          · rw [if_neg rejected]
            exact (Process.step_ok h (run.trans (run_pushIce here rejected))).2

/-- **One event**: it ends the client exactly as `fate` says. -/
theorem Vital.phase_of_step (inv : Vital es p)
    (h : Process.step (manager L W) p ev = some q) :
    q.phase = ev.outcome (manager L W) p (fate L W es p ev) := by
  have alive := Process.alive_of_step h
  cases ev with
  | wsOpen hdl =>
      simp only [fate]
      rcases openHandler_cases hdl h with ⟨pc, dc, phase, -⟩ | ⟨null, phase, -⟩
      · rw [pc, dc]
        exact phase
      · rcases null with none | none
        · rw [none]
          exact phase
        · rw [none, Bool.and_false]
          exact phase
  | wsMessage hdl payload => exact inv.phase_message h
  | callback c =>
      have set := inv.set_of_callback (Process.callback_enabled h)
      have open_iff : p.state.isOpen = true ↔ p.state.conns 0 = .open := by
        rw [Endpoint.isOpen, set, decide_eq_true_eq]
      have refused : p.refused (some 0) = .exception p.state.refusal := by
        rw [← set, Process.refused_wsHdl]
      have report : (if p.state.conns 0 = .open then none else some (p.refused (some 0))) =
          if p.state.isOpen then none else some (.exception p.state.refusal) := by
        simp only [open_iff, refused]
      have pointers := inv.pointers.set alive (by rw [set]; rfl)
      cases c with
      | sdpCreated pc desc =>
          obtain ⟨cur, current⟩ := Option.isSome_iff_exists.mp pointers.1
          have here : (Event.enter p.state (.callback (.sdpCreated pc desc))).peerConnection =
              some cur := current
          have phase := Process.phase_of_report h
            (Connection.run_onSuccessCsd (callbacks L) desc here)
          simp only [fate, report]
          exact phase
      | iceCandidate pc candidate =>
          have phase := Process.phase_of_report h
            (run_reportIce (L := L) (Connection.toIce candidate))
          simp only [fate, report]
          exact phase
      | stateChange dc st =>
          obtain ⟨cur, current⟩ := Option.isSome_iff_exists.mp pointers.2
          have here : (Event.enter p.state (.callback (.stateChange dc st))).dataChannel =
              some cur := current
          have run := Connection.run_onStateChange (callbacks L) here
          split at run
          · exact (Process.step_ok h run).2
          · exact (Process.step_ok h run).2
      | sdpFailed pc => exact (Process.step_ok h rfl).2
      | dataChannel pc => exact (Process.step_ok h rfl).2
      | message dc data => exact (Process.step_ok h rfl).2
  | line text =>
      simp only [fate]
      cases opened : es.any isOpening with
      | true =>
          have set : p.state.wsHdl.isSome = true := by rw [inv.hdl, opened]; rfl
          obtain ⟨dc, current⟩ := Option.isSome_iff_exists.mp (inv.pointers.set alive set).2
          exact (Process.step_ok h (run_send text current)).2
      | false =>
          have closed : p.state.wsHdl = none := by rw [inv.hdl, opened]; rfl
          exact (Process.step_error h (run_send_null text (inv.pointers.unset closed).2.1)).2
  | quit =>
      have enabled := (Process.step_eq_some h).1
      simp only [Event.enabled, decide_eq_true_eq] at enabled
      obtain ⟨pc, current⟩ := Option.isSome_iff_exists.mp
        (inv.pointers.set alive (inv.pointers.quitting enabled)).1
      exact (Process.step_ok h (run_quit current)).2
  | wsFail hdl => exact (Process.step_ok h rfl).2
  | wsClose hdl => exact (Process.step_ok h rfl).2
  | wsClosing hdl => exact (Process.step_ok h rfl).2
  | wsGone hdl => exact (Process.step_ok h rfl).2
  | runReturned => exact (Process.step_ok h rfl).2
  | eof => exact (Process.step_ok h rfl).2

end Client

/-- The client makes its offer, the connection is closed, and the constructor gives up
its pointer. -/
def Client.disconnected : List Event :=
  [.wsOpen 0, .callback (.sdpCreated 0 ⟨.offer, "v=0"⟩), .wsClosing 0, .wsClose 0, .runReturned,
    .wsGone 0]

end WebrtcSample
