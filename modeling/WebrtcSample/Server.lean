import WebrtcSample.Util.Signal
import WebrtcSample.Process

/-!
`class WebSocketServerManager` of `src/server/server.cpp`: the callbacks its
constructor registers and its three WebSocket handlers.
-/

namespace WebrtcSample.Server

open Prog WebRtcManager

variable (L : JsonLibs) (W : WebRtc)

/-! ### Callbacks -/

/-- `rtc_manager_.on_ice`. -/
def onIce (ice : Ice) : Prog Unit := reportIce L ice

/-- `rtc_manager_.on_message`. -/
def onMessage (message : Bytes) : Prog Unit :=
  if message = utf8 "exit" then stopListening
  else send (utf8 "Echo of: " ++ message)

/-- `rtc_manager_.on_sdp`. -/
def onSdp (sdp : Bytes) : Prog Unit := wsSend (answerMessage L sdp)

/-- `rtc_manager_.on_success`. -/
def onSuccess : Prog Unit := do
  pauseReading
  wsClose

def callbacks : Callbacks where
  onSdp := onSdp L
  onIce := onIce L
  onSuccess := onSuccess
  onMessage := onMessage

/-! ### WebSocket handlers -/

/-- `OpenHandler`. -/
def openHandler (hdl : Hdl) : Prog Unit := modify fun e => { e with wsHdl := some hdl }

/-- `CloseHandler`. -/
def closeHandler (hdl : Hdl) : Prog Unit := modify fun e => { e with wsHdl := some hdl }

/-- `MessageHandler`: offers go to `create_answer_sdp`. -/
def messageHandler (hdl : Hdl) (message : Bytes) : Prog Unit :=
  receive L W (utf8 "offer") (utf8 "sdp") (createAnswerSdp W) hdl message

/-- The server as a program: `run()` ends once it stopped listening, and `main`
goes on to `quit`. -/
def manager : Manager where
  callbacks := callbacks L
  openHandler := openHandler
  closeHandler := closeHandler
  messageHandler := messageHandler L W
  accepts _ := true
  runReturns e := !e.listening
  holds := false
  afterRun := .quitting

/-- How `MessageHandler` reads a payload. -/
def request (message : Bytes) : Throwing Request :=
  dispatch L (utf8 "offer") (utf8 "sdp") message

/-! ### Specifications -/

variable {L W} {e : Endpoint}

theorem run_messageHandler (hdl : Hdl) (message : Bytes) :
    (messageHandler L W hdl message).run e =
      match request L message with
      | .ok (.sdp sdp) => (createAnswerSdp W sdp).run { e with wsHdl := some hdl }
      | .ok (.ice ice) => (pushIce W ice).run { e with wsHdl := some hdl }
      | .error what => .error (.exception what) { e with wsHdl := some hdl } :=
  run_receive _ _ _ hdl message

/-- The client's offer reaches `create_answer_sdp` with its SDP. -/
theorem request_offerMessage (text : String) :
    request L (offerMessage L (utf8 text)) = .ok (.sdp (utf8 text)) :=
  dispatch_sdp (stringToJson_offerMessage text) rfl rfl

theorem request_toJsonString {ice : Ice} (text : ice.IsText) :
    request L (ice.toJsonString L) =
      if ice.Complete then .ok (.ice ice) else .error (utf8 "Invalid json string for ICE.") :=
  dispatch_toJsonString (by decide) text

/-- The calls of `on_success`: it does not come to the close without a connection. -/
def closeCalls (e : Endpoint) : List Call :=
  .pauseReading e.wsHdl :: if e.lost then [] else [.wsClose e.wsHdl]

/-- `on_success` closes an open connection. -/
theorem run_onSuccess {hdl : Hdl} (current : e.wsHdl = some hdl) (isOpen : e.conns hdl = .open) :
    onSuccess.run e = .ok () { e with
      calls := e.calls ++ closeCalls e
      conns := Function.update e.conns hdl .closing } := by
  have there := Endpoint.lost_of_open (Endpoint.isOpen_iff.mpr ⟨hdl, current, isOpen⟩)
  have closes := run_wsClose (e := e.log (.pauseReading e.wsHdl)) current isOpen
  rw [onSuccess, EStateM.run_bind, run_pauseReading, there, if_neg Bool.false_ne_true]
  refine closes.trans ?_
  simp [Endpoint.log, closeCalls, current, there]

/-- It throws on any other. -/
theorem run_onSuccess_shut (shut : e.isOpen = false) :
    onSuccess.run e =
      .error (.exception e.refusal) { e with calls := e.calls ++ closeCalls e } := by
  rw [onSuccess, EStateM.run_bind, run_pauseReading]
  cases lost : e.lost with
  | true => simp [closeCalls, lost, Endpoint.log]
  | false =>
      have throws := run_wsClose_shut (e := e.log (.pauseReading e.wsHdl)) shut
      rw [if_neg Bool.false_ne_true]
      refine throws.trans ?_
      simp [closeCalls, lost, Endpoint.log]
      rfl

theorem calls_onSuccess (e : Endpoint) :
    (Effect.final (onSuccess.run e)).calls = e.calls ++ closeCalls e := by
  cases isOpen : e.isOpen with
  | true =>
      obtain ⟨hdl, current, up⟩ := Endpoint.isOpen_iff.mp isOpen
      rw [run_onSuccess current up, Effect.final_ok]
  | false => rw [run_onSuccess_shut isOpen, Effect.final_error]

theorem run_onMessage_exit : (onMessage (utf8 "exit")).run e = stopListening.run e := by
  simp [onMessage]

theorem run_onMessage_echo {message : Bytes} (other : message ≠ utf8 "exit") :
    (onMessage message).run e = (send (utf8 "Echo of: " ++ message)).run e := by
  simp [onMessage, other]

/-- What an offer can come to: a peer connection that is asked for an answer, or
the end of the process, because there is no peer connection or the offer does not
parse. -/
theorem offer_cases {p q : Process} {hdl : Hdl} {payload sdp : Bytes}
    (read : request L payload = .ok (.sdp sdp))
    (h : Process.step (manager L W) p (.wsMessage hdl payload) = some q) :
    (∃ desc, W.createSessionDescription .offer sdp = .ok desc ∧ q.phase = p.phase ∧
        q.state = { p.state with
          wsHdl := some hdl
          peerConnection := some p.state.peers
          peers := p.state.peers + 1
          requests := p.state.requests ++ [p.state.peers]
          calls := p.state.calls ++ answerCalls p.state.peers sdp desc }) ∨
      (q.phase = .aborted .exitFailure ∧ q.state = { p.state with
        wsHdl := some hdl
        peerConnection := none
        calls := p.state.calls ++ [.createPeerConnection none] }) ∨
      (q.phase = .aborted .exitFailure ∧ q.state = { p.state with
        wsHdl := some hdl
        peerConnection := some p.state.peers
        peers := p.state.peers + 1
        calls := p.state.calls ++ [.createPeerConnection (some p.state.peers),
          .createSessionDescription .offer sdp] }) := by
  have run : ((Event.wsMessage hdl payload).code (manager L W) p.state).run
      (Event.enter p.state (.wsMessage hdl payload)) =
        (createAnswerSdp W sdp).run { p.state with wsHdl := some hdl } := by
    show (messageHandler L W hdl payload).run p.state = _
    rw [run_messageHandler, read]
  cases pc : W.createPeerConnection p.state.peers with
  | false =>
      obtain ⟨state, phase⟩ := Process.step_error h (run.trans (run_createAnswerSdp_noPeer sdp pc))
      exact .inr (.inl ⟨phase, state⟩)
  | true =>
      cases parsed : W.createSessionDescription .offer sdp with
      | error err =>
          obtain ⟨state, phase⟩ :=
            Process.step_error h (run.trans (run_createAnswerSdp_badOffer pc parsed))
          exact .inr (.inr ⟨phase, state⟩)
      | ok desc =>
          obtain ⟨state, phase⟩ := Process.step_ok h (run.trans (run_createAnswerSdp pc parsed))
          exact .inl ⟨desc, rfl, phase, state⟩

/-! ### What is left alone -/

section Frames

open Effect

variable {γ : Type*} {f : Endpoint → γ}

/-- A message sets the handle; what an offer does beyond calls concerns its peer
connection. -/
theorem final_messageHandler_of_ignores
    (ignores : ∀ e c, c.isPlain = true → f (Endpoint.log e c) = f e)
    (others : ∀ e pc peers, f { e with peerConnection := pc, peers := peers } = f e)
    (requests : ∀ e requests, f { e with requests := requests } = f e) (hdl : Hdl)
    (message : Bytes) (e : Endpoint) :
    f (final ((messageHandler L W hdl message).run e)) = f { e with wsHdl := some hdl } := by
  rw [run_messageHandler]
  split
  · exact keeps_createAnswerSdp_of_ignores ignores others requests _ _
  · exact keeps_pushIce_of_ignores ignores _ _
  · rfl

theorem keeps_onSuccess_of_ignores (pauses : ∀ e hdl, f (Endpoint.log e (.pauseReading hdl)) = f e)
    (closes : ∀ e hdl, f (Endpoint.log e (.wsClose hdl)) = f e)
    (conns : ∀ e conns, f { e with conns := conns } = f e) : Keeps f onSuccess := by
  have paused : Keeps f pauseReading := by
    refine keeps_get.bind fun _ => (keeps_call_of_ignores fun e => pauses e _).bind fun _ => ?_
    exact Keeps.ite (keeps_throw _) (keeps_pure _)
  refine paused.bind fun _ => ?_
  refine keeps_get.bind fun _ => (keeps_call_of_ignores fun e => closes e _).bind fun _ => ?_
  split
  · exact keeps_throw _
  · exact Keeps.ite (keeps_modify fun e => conns e _) (keeps_throw _)

theorem keeps_onMessage_of_ignores (ignores : ∀ e c, f (Endpoint.log e c) = f e)
    (listening : ∀ e on, f { e with listening := on } = f e) (message : Bytes) :
    Keeps f (onMessage message) := by
  refine Keeps.ite ?_ (keeps_send_of_ignores ignores _)
  exact (keeps_call_of_ignores fun e => ignores e _).bind fun _ => keeps_get.bind fun _ =>
    Keeps.ite (keeps_modify fun e => listening e _) (keeps_throw _)

/-- A view of the state that signaling does not touch. -/
structure Unsignaled (f : Endpoint → γ) : Prop where
  log : ∀ e c, c.isPlain = true → f (Endpoint.log e c) = f e
  wsHdl : ∀ e hdl, f { e with wsHdl := hdl } = f e
  conns : ∀ e conns, f { e with conns := conns } = f e
  gone : ∀ e gone, f { e with gone := gone } = f e
  outbox : ∀ e payloads, f { e with outbox := payloads } = f e
  iceList : ∀ e list, f { e with iceList := list } = f e
  peers : ∀ e pc peers, f { e with peerConnection := pc, peers := peers } = f e
  requests : ∀ e requests, f { e with requests := requests } = f e
  described : ∀ e pcs, f { e with described := pcs } = f e

/-- Handlers, and callbacks about descriptions and candidates. -/
def isSignaling : Event → Bool
  | .callback (.dataChannel _) => false
  | .callback (.stateChange _ _) => false
  | .callback (.message _ _) => false
  | .line _ => false
  | .quit => false
  | _ => true

theorem Unsignaled.step (view : Unsignaled f) {p q : Process} {ev : Event}
    (signaling : isSignaling ev = true) (h : Process.step (manager L W) p ev = some q) :
    f q.state = f p.state := by
  rw [Process.state_of_step h]
  cases ev with
  | wsOpen hdl => exact (view.wsHdl _ _).trans (view.conns _ _)
  | wsFail hdl => exact view.conns _ _
  | wsClosing hdl => exact view.conns _ _
  | wsGone hdl => exact view.gone _ _
  | wsClose hdl => exact (view.wsHdl _ _).trans (view.conns _ _)
  | wsMessage hdl payload =>
      exact (final_messageHandler_of_ignores view.log view.peers view.requests hdl payload
        p.state).trans (view.wsHdl _ _)
  | callback c =>
      cases c with
      | sdpCreated pc desc =>
          have sends :=
            keeps_wsSend_of_ignores view.log view.outbox (answerMessage L (utf8 desc.text))
          exact (keeps_onSuccessCsd_of_ignores view.log view.described sends _).trans
            (view.requests _ _)
      | sdpFailed pc => exact view.requests _ _
      | iceCandidate pc candidate =>
          exact keeps_reportIce_of_ignores view.log view.outbox view.iceList _ p.state
      | dataChannel pc => cases signaling
      | stateChange dc st => cases signaling
      | message dc data => cases signaling
  | runReturned => rfl
  | line text => cases signaling
  | eof => rfl
  | quit => cases signaling

end Frames

end WebrtcSample.Server
