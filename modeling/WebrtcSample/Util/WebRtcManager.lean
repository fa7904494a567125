import WebrtcSample.Util.Endpoint

/-!
`class Connection` and `class WebRTCManager` of `src/util/webrtc_manager.h`.

`Connection` turns libwebrtc's callbacks into the four callbacks the owning
program registered (`Callbacks`; neither program registers `on_accept_ice`).
`WebRTCManager` creates the peer connection and drives the handshake. Each
function is followed by its specification: the state it leaves, for every way
the libraries can answer. Later modules cite these and never unfold the code.
-/

namespace WebrtcSample

open Prog

/-- The `std::function` members of `Connection` that the programs set. -/
structure Callbacks where
  onSdp : Bytes → Prog Unit
  onIce : Ice → Prog Unit
  onSuccess : Prog Unit
  onMessage : Bytes → Prog Unit

/-! ### Connection -/

namespace Connection

/-- `on_state_change`: reads the state of the current `data_channel`. -/
def onStateChange (cb : Callbacks) : Prog Unit := do
  let dc ← deref (← get).dataChannel
  if (← get).channelState dc = .open then
    call .onSuccess
    cb.onSuccess

/-- `on_success_csd`. -/
def onSuccessCsd (cb : Callbacks) (desc : SessionDescription) : Prog Unit := do
  let pc ← deref (← get).peerConnection
  call (.setLocalDescription pc desc)
  modify fun e => { e with described := e.described ++ [pc] }
  cb.onSdp (utf8 desc.text)

/-- The `Ice` that `on_ice_candidate` fills in. -/
def toIce (candidate : IceCandidate) : Ice where
  candidate := utf8 candidate.candidate
  sdpMid := utf8 candidate.sdpMid
  sdpMlineIndex := candidate.sdpMlineIndex

/-- `on_ice_candidate`. -/
def onIceCandidate (cb : Callbacks) (candidate : IceCandidate) : Prog Unit :=
  cb.onIce (toIce candidate)

/-- `PCO::OnDataChannel`. -/
def onDataChannel (dc : DcId) : Prog Unit := do
  modify fun e => { e with dataChannel := some dc }
  call (.registerObserver dc)
  modify fun e => { e with observed := e.observed ++ [dc] }

theorem toIce_isText (candidate : IceCandidate) : (toIce candidate).IsText :=
  ⟨⟨candidate.candidate, rfl⟩, ⟨candidate.sdpMid, rfl⟩⟩

theorem run_onStateChange {e : Endpoint} {dc : DcId} (cb : Callbacks)
    (current : e.dataChannel = some dc) :
    (onStateChange cb).run e =
      if e.channelState dc = .open then cb.onSuccess.run (e.log .onSuccess) else .ok () e := by
  simp only [onStateChange, EStateM.run_bind, EStateM.run_get, current, run_deref_some]
  split <;> rfl

theorem run_onStateChange_null {e : Endpoint} (cb : Callbacks) (null : e.dataChannel = none) :
    (onStateChange cb).run e = .error .nullDereference e := by
  simp only [onStateChange, EStateM.run_bind, EStateM.run_get, null, run_deref_none]

theorem run_onSuccessCsd {e : Endpoint} {pc : PcId} (cb : Callbacks) (desc : SessionDescription)
    (current : e.peerConnection = some pc) :
    (onSuccessCsd cb desc).run e =
      (cb.onSdp (utf8 desc.text)).run
        { e.log (.setLocalDescription pc desc) with described := e.described ++ [pc] } := by
  simp only [onSuccessCsd, EStateM.run_bind, EStateM.run_get, current, run_deref_some, run_call,
    EStateM.run_modify]
  rfl

theorem run_onSuccessCsd_null {e : Endpoint} (cb : Callbacks) (desc : SessionDescription)
    (null : e.peerConnection = none) :
    (onSuccessCsd cb desc).run e = .error .nullDereference e := by
  simp only [onSuccessCsd, EStateM.run_bind, EStateM.run_get, null, run_deref_none]

end Connection

/-! ### WebRTCManager -/

namespace WebRtcManager

variable (W : WebRtc)

/-- `connection.peer_connection = factory->CreatePeerConnection(…)`. -/
def newPeerConnection : Prog Unit :=
  modify fun e =>
    if W.createPeerConnection e.peers then
      { e.log (.createPeerConnection (some e.peers)) with
        peerConnection := some e.peers
        peers := e.peers + 1 }
    else { e.log (.createPeerConnection none) with peerConnection := none }

/-- `connection.data_channel = peer_connection->CreateDataChannel(…)`. -/
def newDataChannel (pc : PcId) : Prog Unit :=
  modify fun e =>
    if W.createDataChannel e.channels then
      { e.log (.createDataChannel pc (some e.channels)) with
        dataChannel := some e.channels
        channels := e.channels + 1
        channelPeer := Function.update e.channelPeer e.channels pc
        channelState := Function.update e.channelState e.channels .connecting }
    else { e.log (.createDataChannel pc none) with dataChannel := none }

/-- `webrtc::CreateSessionDescription`, and `exit` where it returns null. -/
def parseDescription (type : SdpType) (parameter : Bytes) : Prog SessionDescription := do
  call (.createSessionDescription type parameter)
  match W.createSessionDescription type parameter with
  | .ok desc => pure desc
  | .error _ => exit

/-- `create_offer_sdp`. The null check comes after the first two uses. -/
def createOfferSdp : Prog Unit := do
  newPeerConnection W
  newDataChannel W (← deref (← get).peerConnection)
  let dc ← deref (← get).dataChannel
  call (.registerObserver dc)
  modify fun e => { e with observed := e.observed ++ [dc] }
  if (← get).peerConnection.isNone then
    exit
  let pc ← deref (← get).peerConnection
  call (.createOffer pc)
  modify fun e => { e with requests := e.requests ++ [pc] }

/-- `create_answer_sdp`. -/
def createAnswerSdp (parameter : Bytes) : Prog Unit := do
  newPeerConnection W
  if (← get).peerConnection.isNone then
    exit
  let desc ← parseDescription W .offer parameter
  let pc ← deref (← get).peerConnection
  call (.setRemoteDescription pc desc)
  call (.createAnswer pc)
  modify fun e => { e with requests := e.requests ++ [pc] }

/-- `push_reply_sdp`. -/
def pushReplySdp (parameter : Bytes) : Prog Unit := do
  let desc ← parseDescription W .answer parameter
  call (.setRemoteDescription (← deref (← get).peerConnection) desc)

/-- `push_ice`. It gives up only when both texts of the error are set. -/
def pushIce (ice : Ice) : Prog Unit := do
  call (.pushIce (← get).peerConnection ice)
  let (candidate, err) := W.createIceCandidate ice.sdpMid ice.sdpMlineIndex ice.candidate
  if err.line ≠ [] ∧ err.description ≠ [] then
    exit
  call (.addIceCandidate (← deref (← get).peerConnection) candidate)

/-- `send`. The result of `Send` is not looked at. -/
def send (parameter : Bytes) : Prog Unit := do
  call (.send (← deref (← get).dataChannel) parameter)

/-- `quit`. -/
def quit : Prog Unit := do
  call (.close (← deref (← get).peerConnection))
  modify fun e => { e with peerConnection := none, dataChannel := none }

/-! ### Specifications -/

variable {W} {e : Endpoint}

/-- The calls of a `create_offer_sdp` that returns. -/
def offerCalls (pc : PcId) (dc : DcId) : List Call :=
  [.createPeerConnection (some pc), .createDataChannel pc (some dc), .registerObserver dc,
    .createOffer pc]

theorem run_createOfferSdp (pc : W.createPeerConnection e.peers = true)
    (dc : W.createDataChannel e.channels = true) :
    (createOfferSdp W).run e = .ok ()
      { e with
        peerConnection := some e.peers
        peers := e.peers + 1
        requests := e.requests ++ [e.peers]
        dataChannel := some e.channels
        channels := e.channels + 1
        channelPeer := Function.update e.channelPeer e.channels e.peers
        channelState := Function.update e.channelState e.channels .connecting
        observed := e.observed ++ [e.channels]
        calls := e.calls ++ offerCalls e.peers e.channels } := by
  simp [createOfferSdp, newPeerConnection, newDataChannel, Endpoint.log, pc, dc, offerCalls]

/-- When the factory returns null, `create_offer_sdp` uses the pointer before it
looks at it. -/
theorem run_createOfferSdp_noPeer (pc : W.createPeerConnection e.peers = false) :
    (createOfferSdp W).run e = .error .nullDereference
      { e with peerConnection := none, calls := e.calls ++ [.createPeerConnection none] } := by
  simp [createOfferSdp, newPeerConnection, Endpoint.log, pc]

/-- The same for a data channel, which it never looks at. -/
theorem run_createOfferSdp_noChannel (pc : W.createPeerConnection e.peers = true)
    (dc : W.createDataChannel e.channels = false) :
    (createOfferSdp W).run e = .error .nullDereference
      { e with
        peerConnection := some e.peers
        peers := e.peers + 1
        dataChannel := none
        calls := e.calls ++ [.createPeerConnection (some e.peers),
          .createDataChannel e.peers none] } := by
  simp [createOfferSdp, newPeerConnection, newDataChannel, Endpoint.log, pc, dc]

/-- The calls of a `create_answer_sdp` that returns. -/
def answerCalls (pc : PcId) (parameter : Bytes) (desc : SessionDescription) : List Call :=
  [.createPeerConnection (some pc), .createSessionDescription .offer parameter,
    .setRemoteDescription pc desc, .createAnswer pc]

theorem run_createAnswerSdp {parameter : Bytes} {desc : SessionDescription}
    (pc : W.createPeerConnection e.peers = true)
    (parsed : W.createSessionDescription .offer parameter = .ok desc) :
    (createAnswerSdp W parameter).run e = .ok ()
      { e with
        peerConnection := some e.peers
        peers := e.peers + 1
        requests := e.requests ++ [e.peers]
        calls := e.calls ++ answerCalls e.peers parameter desc } := by
  simp [createAnswerSdp, newPeerConnection, parseDescription, Endpoint.log, pc, parsed, answerCalls]

/-- `create_answer_sdp` ends the process when the factory returns null. -/
theorem run_createAnswerSdp_noPeer (parameter : Bytes)
    (pc : W.createPeerConnection e.peers = false) :
    (createAnswerSdp W parameter).run e = .error .exitFailure
      { e with peerConnection := none, calls := e.calls ++ [.createPeerConnection none] } := by
  simp [createAnswerSdp, newPeerConnection, Endpoint.log, pc]

/-- `create_answer_sdp` ends the process when the offer does not parse. -/
theorem run_createAnswerSdp_badOffer {parameter : Bytes} {err : SdpParseError}
    (pc : W.createPeerConnection e.peers = true)
    (parsed : W.createSessionDescription .offer parameter = .error err) :
    (createAnswerSdp W parameter).run e = .error .exitFailure
      { e with
        peerConnection := some e.peers
        peers := e.peers + 1
        calls := e.calls ++ [.createPeerConnection (some e.peers),
          .createSessionDescription .offer parameter] } := by
  simp [createAnswerSdp, newPeerConnection, parseDescription, Endpoint.log, pc, parsed]

theorem run_pushReplySdp {parameter : Bytes} {desc : SessionDescription} {pc : PcId}
    (current : e.peerConnection = some pc)
    (parsed : W.createSessionDescription .answer parameter = .ok desc) :
    (pushReplySdp W parameter).run e = .ok ()
      { e with calls := e.calls ++
          [.createSessionDescription .answer parameter, .setRemoteDescription pc desc] } := by
  simp [pushReplySdp, parseDescription, Endpoint.log, current, parsed]

theorem run_pushReplySdp_badAnswer {parameter : Bytes} {err : SdpParseError}
    (parsed : W.createSessionDescription .answer parameter = .error err) :
    (pushReplySdp W parameter).run e = .error .exitFailure
      (e.log (.createSessionDescription .answer parameter)) := by
  simp [pushReplySdp, parseDescription, parsed]

/-- The parser reported an error with both its texts set. -/
def Rejects (W : WebRtc) (ice : Ice) : Prop :=
  (W.createIceCandidate ice.sdpMid ice.sdpMlineIndex ice.candidate).2.line ≠ [] ∧
    (W.createIceCandidate ice.sdpMid ice.sdpMlineIndex ice.candidate).2.description ≠ []

instance (ice : Ice) : Decidable (Rejects W ice) := by unfold Rejects; infer_instance

theorem run_pushIce {ice : Ice} {pc : PcId} (current : e.peerConnection = some pc)
    (accepted : ¬ Rejects W ice) :
    (pushIce W ice).run e = .ok ()
      { e with calls := e.calls ++ [.pushIce (some pc) ice, .addIceCandidate pc
          (W.createIceCandidate ice.sdpMid ice.sdpMlineIndex ice.candidate).1] } := by
  unfold Rejects at accepted
  simp [pushIce, Endpoint.log, current, accepted]

theorem run_pushIce_rejected {ice : Ice} (rejected : Rejects W ice) :
    (pushIce W ice).run e = .error .exitFailure (e.log (.pushIce e.peerConnection ice)) := by
  unfold Rejects at rejected
  simp [pushIce, rejected]

theorem run_pushIce_null {ice : Ice} (null : e.peerConnection = none)
    (accepted : ¬ Rejects W ice) :
    (pushIce W ice).run e = .error .nullDereference (e.log (.pushIce none ice)) := by
  unfold Rejects at accepted
  simp [pushIce, Endpoint.log, null, accepted]

theorem run_send {dc : DcId} (parameter : Bytes) (current : e.dataChannel = some dc) :
    (send parameter).run e = .ok () (e.log (.send dc parameter)) := by
  simp [send, current]

theorem run_send_null (parameter : Bytes) (null : e.dataChannel = none) :
    (send parameter).run e = .error .nullDereference e := by
  simp [send, null]

theorem run_quit {pc : PcId} (current : e.peerConnection = some pc) :
    quit.run e = .ok ()
      { e.log (.close pc) with peerConnection := none, dataChannel := none } := by
  simp [quit, current]

theorem run_quit_null (null : e.peerConnection = none) :
    quit.run e = .error .nullDereference e := by
  simp [quit, null]

/-! ### What is left alone -/

section Frames

open Effect

variable {γ : Type*} {f : Endpoint → γ}

theorem keeps_send_of_ignores (ignores : ∀ e c, f (Endpoint.log e c) = f e) (parameter : Bytes) :
    Keeps f (send parameter) :=
  keeps_get.bind fun _ => (keeps_deref _).bind fun _ => keeps_call_of_ignores fun e => ignores e _

variable (ignores : ∀ e c, c.isPlain = true → f (Endpoint.log e c) = f e)

include ignores

theorem keeps_parseDescription_of_ignores (type : SdpType) (sdp : Bytes) :
    Keeps f (parseDescription W type sdp) := by
  refine (keeps_call_of_ignores fun e => ignores e _ rfl).bind fun _ => ?_
  cases W.createSessionDescription type sdp with
  | ok desc => exact keeps_pure desc
  | error err => exact keeps_throw _

theorem keeps_quit_of_ignores
    (pointers : ∀ e, f { e with peerConnection := none, dataChannel := none } = f e) :
    Keeps f quit :=
  keeps_get.bind fun _ => (keeps_deref _).bind fun _ =>
    (keeps_call_of_ignores fun e => ignores e _ rfl).bind fun _ => keeps_modify fun e => pointers e

theorem keeps_pushReplySdp_of_ignores (sdp : Bytes) : Keeps f (pushReplySdp W sdp) :=
  (keeps_parseDescription_of_ignores ignores _ _).bind fun _ => keeps_get.bind fun _ =>
    (keeps_deref _).bind fun _ => keeps_call_of_ignores fun e => ignores e _ rfl

theorem keeps_pushIce_of_ignores (ice : Ice) : Keeps f (pushIce W ice) := by
  refine keeps_get.bind fun _ => (keeps_call_of_ignores fun e => ignores e _ rfl).bind fun _ => ?_
  refine Keeps.ite (Keeps.bind (keeps_throw _) fun _ => ?_) ?_ <;>
  · refine keeps_get.bind fun _ => (keeps_deref _).bind fun _ => ?_
    exact keeps_call_of_ignores fun e => ignores e _ rfl

theorem keeps_onSuccessCsd_of_ignores (described : ∀ e pcs, f { e with described := pcs } = f e)
    {cb : Callbacks} {desc : SessionDescription} (sends : Keeps f (cb.onSdp (utf8 desc.text))) :
    Keeps f (Connection.onSuccessCsd cb desc) := by
  refine keeps_get.bind fun _ => (keeps_deref _).bind fun _ => ?_
  refine (keeps_call_of_ignores fun e => ignores e _ rfl).bind fun _ => ?_
  exact Keeps.bind (keeps_modify fun e => described e _) fun _ => sends

omit ignores in
theorem keeps_onStateChange_of_ignores (ignores : ∀ e, f (Endpoint.log e .onSuccess) = f e)
    {cb : Callbacks} (success : Keeps f cb.onSuccess) : Keeps f (Connection.onStateChange cb) := by
  refine keeps_get.bind fun _ => (keeps_deref _).bind fun _ => keeps_get.bind fun _ => ?_
  exact Keeps.ite ((keeps_call_of_ignores ignores).bind fun _ => success) (keeps_pure ())

/-- `create_answer_sdp` touches the log, the pointer and what libwebrtc keeps. -/
theorem keeps_createAnswerSdp_of_ignores
    (others : ∀ e pc peers, f { e with peerConnection := pc, peers := peers } = f e)
    (requests : ∀ e requests, f { e with requests := requests } = f e) (sdp : Bytes) :
    Keeps f (createAnswerSdp W sdp) := by
  have created : Keeps f (newPeerConnection W) := by
    refine keeps_modify fun e => ?_
    split
    · exact (others _ _ _).trans (ignores e _ rfl)
    · exact (others (e.log (.createPeerConnection none)) none e.peers).trans (ignores e _ rfl)
  refine created.bind fun _ => keeps_get.bind fun _ => ?_
  refine Keeps.ite (Keeps.bind (keeps_throw _) fun _ => ?_) ?_ <;>
  · refine (keeps_parseDescription_of_ignores ignores _ _).bind fun _ => keeps_get.bind fun _ => ?_
    refine (keeps_deref _).bind fun _ => ?_
    refine (keeps_call_of_ignores fun e => ignores e _ rfl).bind fun _ => ?_
    refine (keeps_call_of_ignores fun e => ignores e _ rfl).bind fun _ => ?_
    exact keeps_modify fun e => requests e _

end Frames

end WebRtcManager

end WebrtcSample
