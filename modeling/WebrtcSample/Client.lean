import WebrtcSample.Util.Signal
import WebrtcSample.Process

/-!
`class WebSocketClientManager` of `src/client/client.cpp`: the callbacks its
constructor registers and its three WebSocket handlers.
-/

namespace WebrtcSample.Client

open Prog WebRtcManager

variable (L : JsonLibs) (W : WebRtc)

/-! ### Callbacks -/

/-- `rtc_manager_.on_ice`. -/
def onIce (ice : Ice) : Prog Unit := reportIce L ice

/-- `rtc_manager_.on_message`: prints the message. -/
def onMessage (_message : Bytes) : Prog Unit := pure ()

/-- `rtc_manager_.on_sdp`. -/
def onSdp (sdp : Bytes) : Prog Unit := wsSend (offerMessage L sdp)

/-- `rtc_manager_.on_success`: prints a line. -/
def onSuccess : Prog Unit := pure ()

def callbacks : Callbacks where
  onSdp := onSdp L
  onIce := onIce L
  onSuccess := onSuccess
  onMessage := onMessage

/-! ### WebSocket handlers -/

/-- `OpenHandler`. -/
def openHandler (hdl : Hdl) : Prog Unit := do
  modify fun e => { e with wsHdl := some hdl }
  createOfferSdp W

/-- `CloseHandler`. -/
def closeHandler (hdl : Hdl) : Prog Unit := modify fun e => { e with wsHdl := some hdl }

/-- `MessageHandler`: answers go to `push_reply_sdp`. -/
def messageHandler (hdl : Hdl) (message : Bytes) : Prog Unit :=
  receive L W (utf8 "answer") (utf8 "answer") (pushReplySdp W) hdl message

/-- The client as a program: `run()` ends once its only connection is gone, and
`main` goes on to read lines. -/
def manager : Manager where
  callbacks := callbacks L
  openHandler := openHandler W
  closeHandler := closeHandler
  messageHandler := messageHandler L W
  accepts hdl := hdl = 0
  runReturns e := e.conns 0 = .closed
  holds := true
  afterRun := .main

/-- How `MessageHandler` reads a payload. -/
def request (message : Bytes) : Throwing Request :=
  dispatch L (utf8 "answer") (utf8 "answer") message

/-! ### Specifications -/

variable {L W} {e : Endpoint}

theorem run_messageHandler (hdl : Hdl) (message : Bytes) :
    (messageHandler L W hdl message).run e =
      match request L message with
      | .ok (.sdp sdp) => (pushReplySdp W sdp).run { e with wsHdl := some hdl }
      | .ok (.ice ice) => (pushIce W ice).run { e with wsHdl := some hdl }
      | .error what => .error (.exception what) { e with wsHdl := some hdl } :=
  run_receive _ _ _ hdl message

/-- The server's answer reaches `push_reply_sdp` with its SDP. -/
theorem request_answerMessage (text : String) :
    request L (answerMessage L (utf8 text)) = .ok (.sdp (utf8 text)) :=
  dispatch_sdp (stringToJson_answerMessage text) rfl rfl

theorem request_toJsonString {ice : Ice} (text : ice.IsText) :
    request L (ice.toJsonString L) =
      if ice.Complete then .ok (.ice ice) else .error (utf8 "Invalid json string for ICE.") :=
  dispatch_toJsonString (by decide) text

open Effect in
/-- A message sets the handle; the rest of what it does is calls. -/
theorem final_messageHandler_of_ignores {γ : Type*} {f : Endpoint → γ}
    (ignores : ∀ e c, c.isPlain = true → f (Endpoint.log e c) = f e) (hdl : Hdl)
    (message : Bytes) (e : Endpoint) :
    f (final ((messageHandler L W hdl message).run e)) = f { e with wsHdl := some hdl } := by
  rw [run_messageHandler]
  split
  · exact keeps_pushReplySdp_of_ignores ignores _ _
  · exact keeps_pushIce_of_ignores ignores _ _
  · rfl

end WebrtcSample.Client
