import WebrtcSample.Server
import WebrtcSample.Client
import WebrtcSample.JsClient

/-!
The signaling codec: what one program writes, the others read.

Three programs write the messages by hand (the C++ client, the script and the
server) and read them by hand, with one member name for the SDP of an offer and
another for that of an answer. `codec_agreement` says that the pairs agree on
every text and every candidate, where the sentinel values of
`Ice::FromJsonString` make a candidate unreadable, and which m-line indices an
`RTCIceCandidate` can hold: `Ice` has an `int` there and the browser an unsigned
short (`index_truncated`).
-/

namespace WebrtcSample

open Prog WebRtcManager

/-- On an open connection the code returns and hands websocketpp this message. -/
def Emits (p : Prog Unit) (message : Bytes) : Prop :=
  ∀ e : Endpoint, e.isOpen = true → ∃ e', p.run e = .ok () e' ∧ e'.outbox = e.outbox ++ [message]

theorem emits_wsSend (message : Bytes) : Emits (wsSend message) message := by
  intro e isOpen
  exact ⟨_, by rw [run_wsSend, if_pos isOpen], rfl⟩

theorem emits_reportIce (L : JsonLibs) (ice : Ice) :
    Emits (reportIce L ice) (ice.toJsonString L) := by
  intro e isOpen
  obtain ⟨e', run, out⟩ :=
    emits_wsSend (ice.toJsonString L) { e with iceList := e.iceList ++ [ice] } isOpen
  exact ⟨e', by rw [run_reportIce, run], out⟩

section Readers

variable (L : JsonLibs)

/-- The server's `MessageHandler` runs `create_answer_sdp` on this SDP. -/
def ServerAnswers (message sdp : Bytes) : Prop :=
  ∀ (W : WebRtc) (hdl : Hdl) (e : Endpoint),
    (Server.messageHandler L W hdl message).run e =
      (createAnswerSdp W sdp).run { e with wsHdl := some hdl }

/-- The C++ client's `MessageHandler` runs `push_reply_sdp` on this SDP. -/
def ClientTakesAnswer (message sdp : Bytes) : Prop :=
  ∀ (W : WebRtc) (hdl : Hdl) (e : Endpoint),
    (Client.messageHandler L W hdl message).run e =
      (pushReplySdp W sdp).run { e with wsHdl := some hdl }

/-- Both C++ `MessageHandler`s run `push_ice` on this candidate. -/
def PushesIce (message : Bytes) (ice : Ice) : Prop :=
  ∀ (W : WebRtc) (hdl : Hdl) (e : Endpoint),
    (Server.messageHandler L W hdl message).run e =
        (pushIce W ice).run { e with wsHdl := some hdl } ∧
      (Client.messageHandler L W hdl message).run e =
        (pushIce W ice).run { e with wsHdl := some hdl }

/-- The script, once it has a peer connection, does this to it. -/
def ScriptDoes (B : JsClient.WebIdl) (message : Bytes) (action : JsClient.RemoteAction) : Prop :=
  ∀ (tab : Browser.Tab) (pc : PcId), tab.peerConnection = some pc →
    (Browser.onWebSocketMessage L B message).run tab =
      .ok () { tab with acts := tab.acts ++ [.remote pc action] }

/-- The script, once it has a peer connection and an open socket, applies this SDP and
sends this message. -/
def ScriptOffers (sdp : String) (message : Bytes) : Prop :=
  ∀ (tab : Browser.Tab) (pc : PcId) (ws : Browser.SocketId), tab.peerConnection = some pc →
    tab.webSocketConnection = some ws → tab.readyState ws = .open →
    ∃ tab', (Browser.onOfferSuccess L sdp).run tab = .ok () tab' ∧
      tab'.acts = tab.acts ++ [.setLocalDescription pc sdp, .socketSend ws message]

/-- The script builds a candidate with the members of this one and adds it. -/
def ScriptBuilds (B : JsClient.WebIdl) (message : Bytes) (ice : Ice) : Prop :=
  ∃ built : JsClient.RtcIceCandidate, ScriptDoes L B message (.addIceCandidate built) ∧
    built.candidate = ice.candidate ∧ built.sdpMid = some ice.sdpMid ∧
    built.sdpMLineIndex.map (fun index => (index.toNat : Int)) = some ice.sdpMlineIndex.toInt

/-- The exception of a `MessageHandler`'s last branch. -/
def UnknownType {α : Type} (r : Throwing α) : Prop :=
  ∃ type, r = .error (utf8 "Unkown json message type: " ++ type)

variable {L}

theorem serverAnswers_of_request {message sdp : Bytes}
    (read : Server.request L message = .ok (.sdp sdp)) : ServerAnswers L message sdp := by
  intro W hdl e
  rw [Server.run_messageHandler, read]

theorem clientTakesAnswer_of_request {message sdp : Bytes}
    (read : Client.request L message = .ok (.sdp sdp)) : ClientTakesAnswer L message sdp := by
  intro W hdl e
  rw [Client.run_messageHandler, read]

theorem scriptDoes_of_readMessage {B : JsClient.WebIdl} {message : Bytes}
    {action : JsClient.RemoteAction} (read : JsClient.readMessage L B message = .ok action) :
    ScriptDoes L B message action :=
  fun _ _ peer => Browser.run_onWebSocketMessage read peer

theorem scriptOffers_offerText (sdp : String) :
    ScriptOffers L sdp (JsClient.offerText L (utf8 sdp)) := by
  intro tab pc ws peer socket isOpen
  exact ⟨_, Browser.run_onOfferSuccess sdp peer socket (by rw [isOpen]; nofun), rfl⟩

/-- The script does one thing with a message. -/
theorem ScriptDoes.unique {B : JsClient.WebIdl} {message : Bytes}
    {action action' : JsClient.RemoteAction} (does : ScriptDoes L B message action)
    (does' : ScriptDoes L B message action') : action = action' := by
  let tab : Browser.Tab := { Browser.Tab.initial with peerConnection := some 0 }
  have same := (does tab 0 rfl).symm.trans (does' tab 0 rfl)
  simpa using same

/-- An unsigned short holds the index of a candidate exactly if it is in its range. -/
theorem scriptBuilds_iff {B : JsClient.WebIdl} {ice : Ice} (text : ice.IsText) :
    ScriptBuilds L B (ice.toJsonString L) ice ↔
      0 ≤ ice.sdpMlineIndex.toInt ∧ ice.sdpMlineIndex.toInt < 65536 := by
  have does := scriptDoes_of_readMessage (JsClient.readMessage_toJsonString (L := L) (B := B) text)
  have kept := JsClient.toNat_unsignedShort ice.sdpMlineIndex.toInt
  constructor
  · rintro ⟨built, builds, -, -, index⟩
    obtain rfl := JsClient.RemoteAction.addIceCandidate.inj (builds.unique does)
    have same : ((UInt16.ofInt ice.sdpMlineIndex.toInt).toNat : Int) = ice.sdpMlineIndex.toInt :=
      Option.some.inj index
    omega
  · rintro ⟨least, most⟩
    refine ⟨.ofIce ice, does, rfl, rfl, ?_⟩
    show some ((UInt16.ofInt ice.sdpMlineIndex.toInt).toNat : Int) = _
    rw [kept, Int.emod_eq_of_lt least most]

/-- A script's offer is read as the C++ client's is. -/
theorem request_offerText (text : String) :
    Server.request L (JsClient.offerText L (utf8 text)) = .ok (.sdp (utf8 text)) :=
  dispatch_sdp (JsClient.stringToJson_offerText text) rfl rfl

/-- The two texts an unreadable candidate could be confused by differ at once. -/
theorem invalid_ice_ne_unknown (type : Bytes) :
    utf8 "Invalid json string for ICE." ≠ utf8 "Unkown json message type: " ++ type := by
  intro eq
  have head : some (73 : UInt8) = some 85 := congrArg List.head? eq
  exact absurd head (by decide)

theorem not_unknown_ok {α : Type} (a : α) : ¬ UnknownType (.ok a : Throwing α) := by
  rintro ⟨type, h⟩
  cases h

theorem not_unknown_ice {ice : Ice} (text : ice.IsText) :
    ¬ UnknownType (Server.request L (ice.toJsonString L)) ∧
      ¬ UnknownType (Client.request L (ice.toJsonString L)) := by
  rw [Server.request_toJsonString text, Client.request_toJsonString text]
  split
  · exact ⟨not_unknown_ok _, not_unknown_ok _⟩
  · refine ⟨?_, ?_⟩ <;>
    · rintro ⟨type, h⟩
      exact invalid_ice_ne_unknown type (Except.error.inj h)

theorem pushesIce_of_complete {ice : Ice} (text : ice.IsText) (complete : ice.Complete) :
    PushesIce L (ice.toJsonString L) ice := by
  intro W hdl e
  rw [Server.run_messageHandler, Client.run_messageHandler, Server.request_toJsonString text,
    Client.request_toJsonString text]
  simp [complete]

end Readers

/-- **Codec agreement.** For every SDP text and every candidate with Unicode
strings: both clients' offers reach `create_answer_sdp` with their SDP; the
server's answer reaches `push_reply_sdp` and the script's
`setRemoteDescription`; a candidate is read back exactly when none of its fields
holds a sentinel, and then both C++ programs push it and the script builds a
candidate, which is the same exactly if an `RTCIceCandidate` can hold its m-line index;
no message a program sends is of unknown type to its receiver. -/
theorem codec_agreement (L : JsonLibs) (B : JsClient.WebIdl) :
    (∀ sdp : String,
      (∃ message, Emits (Client.onSdp L (utf8 sdp)) message ∧
        ServerAnswers L message (utf8 sdp) ∧ ¬ UnknownType (Server.request L message)) ∧
      ∃ message, ScriptOffers L sdp message ∧
        ServerAnswers L message (utf8 sdp) ∧ ¬ UnknownType (Server.request L message)) ∧
    (∀ sdp : String, ∃ message, Emits (Server.onSdp L (utf8 sdp)) message ∧
      ClientTakesAnswer L message (utf8 sdp) ∧
      ScriptDoes L B message (.setRemoteDescription (utf8 sdp)) ∧
      ¬ UnknownType (Client.request L message)) ∧
    ∀ ice : Ice, ice.IsText →
      (Ice.fromJsonString L (ice.toJsonString L) = .ok ice ↔
        ice.candidate ≠ [] ∧ ice.sdpMid ≠ [] ∧ ice.sdpMlineIndex ≠ -1) ∧
      (¬ (ice.candidate ≠ [] ∧ ice.sdpMid ≠ [] ∧ ice.sdpMlineIndex ≠ -1) →
        ∃ what, Ice.fromJsonString L (ice.toJsonString L) = .error what) ∧
      (Ice.fromJsonString L (ice.toJsonString L) = .ok ice →
        PushesIce L (ice.toJsonString L) ice ∧
        ScriptDoes L B (ice.toJsonString L) (.addIceCandidate (.ofIce ice)) ∧
        (ScriptBuilds L B (ice.toJsonString L) ice ↔
          0 ≤ ice.sdpMlineIndex.toInt ∧ ice.sdpMlineIndex.toInt < 65536)) ∧
      Emits (Client.onIce L ice) (ice.toJsonString L) ∧
      Emits (Server.onIce L ice) (ice.toJsonString L) ∧
      ¬ UnknownType (Server.request L (ice.toJsonString L)) ∧
      ¬ UnknownType (Client.request L (ice.toJsonString L)) ∧
      JsClient.readMessage L B (ice.toJsonString L) ≠ .error .unknownMessageType := by
  refine ⟨?_, ?_, ?_⟩
  · intro sdp
    constructor
    · have read := Server.request_offerMessage (L := L) sdp
      exact ⟨_, emits_wsSend _, serverAnswers_of_request read, read ▸ not_unknown_ok _⟩
    · have read := request_offerText (L := L) sdp
      exact ⟨_, scriptOffers_offerText sdp, serverAnswers_of_request read,
        read ▸ not_unknown_ok _⟩
  · intro sdp
    have read := Client.request_answerMessage (L := L) sdp
    exact ⟨_, emits_wsSend _, clientTakesAnswer_of_request read,
      scriptDoes_of_readMessage (JsClient.readMessage_answerMessage sdp), read ▸ not_unknown_ok _⟩
  · intro ice text
    have back := Ice.fromJsonString_toJsonString (L := L) text
    have script := JsClient.readMessage_toJsonString (L := L) (B := B) text
    have returns : Ice.fromJsonString L (ice.toJsonString L) = .ok ice ↔ ice.Complete := by
      rw [back]
      by_cases complete : ice.Complete <;> simp [complete]
    refine ⟨returns, fun missing => ⟨_, by rw [back, if_neg (show ¬ ice.Complete from missing)]⟩,
      fun ok => ⟨pushesIce_of_complete text (returns.mp ok), scriptDoes_of_readMessage script,
        scriptBuilds_iff text⟩,
      emits_reportIce L ice, emits_reportIce L ice, (not_unknown_ice text).1,
      (not_unknown_ice text).2, by simp [script]⟩

/-- The agreement at the reference libraries, for a host candidate. -/
theorem codec_agreement_host :
    (Ice.mk (utf8 "candidate:1 1 udp 2122260223 192.168.0.2 49152 typ host") (utf8 "0") 0).IsText ∧
      Ice.fromJsonString .reference
          ((Ice.mk (utf8 "candidate:1 1 udp 2122260223 192.168.0.2 49152 typ host") (utf8 "0")
            0).toJsonString .reference) =
        .ok (Ice.mk (utf8 "candidate:1 1 udp 2122260223 192.168.0.2 49152 typ host") (utf8 "0")
          0) ∧
      ScriptBuilds .reference .reference
        ((Ice.mk (utf8 "candidate:1 1 udp 2122260223 192.168.0.2 49152 typ host") (utf8 "0")
          0).toJsonString .reference)
        (Ice.mk (utf8 "candidate:1 1 udp 2122260223 192.168.0.2 49152 typ host") (utf8 "0") 0) := by
  have text : (Ice.mk (utf8 "candidate:1 1 udp 2122260223 192.168.0.2 49152 typ host") (utf8 "0")
      0).IsText := ⟨⟨_, rfl⟩, ⟨_, rfl⟩⟩
  have agreement := (codec_agreement .reference .reference).2.2 _ text
  have back := agreement.1.mpr ⟨by decide, by decide, by decide⟩
  exact ⟨text, back, (agreement.2.2.1 back).2.2.mpr ⟨by decide, by decide⟩⟩

/-- An index that an unsigned short cannot hold: the C++ programs read 65536 back, the
script builds a candidate with 0. -/
theorem index_truncated :
    (Ice.mk (utf8 "candidate:1") (utf8 "0") 65536).IsText ∧
      Ice.fromJsonString .reference
          ((Ice.mk (utf8 "candidate:1") (utf8 "0") 65536).toJsonString .reference) =
        .ok (Ice.mk (utf8 "candidate:1") (utf8 "0") 65536) ∧
      ScriptDoes .reference .reference
        ((Ice.mk (utf8 "candidate:1") (utf8 "0") 65536).toJsonString .reference)
        (.addIceCandidate ⟨utf8 "candidate:1", some (utf8 "0"), some 0⟩) ∧
      ¬ ScriptBuilds .reference .reference
        ((Ice.mk (utf8 "candidate:1") (utf8 "0") 65536).toJsonString .reference)
        (Ice.mk (utf8 "candidate:1") (utf8 "0") 65536) := by
  have text : (Ice.mk (utf8 "candidate:1") (utf8 "0") 65536).IsText := ⟨⟨_, rfl⟩, ⟨_, rfl⟩⟩
  refine ⟨text, ?_, scriptDoes_of_readMessage (JsClient.readMessage_toJsonString text), ?_⟩
  · rw [Ice.fromJsonString_toJsonString text]
    exact if_pos (by decide)
  · rw [scriptBuilds_iff text]
    exact fun range => absurd range.2 (by decide)

end WebrtcSample
