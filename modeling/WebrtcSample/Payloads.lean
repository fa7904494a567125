import WebrtcSample.Server

/-!
The server under arbitrary payloads.

`MessageHandler` has no way to refuse a payload and go on: what it cannot read
leaves it by an exception that nobody catches, and what libwebrtc does not accept
leads to `exit`. So a sequence of payloads is acted on one after the other until
one of them ends the server (`payloads_served`), and the payload that does leaves
the RTC state as it was, except that a bad offer has already replaced the peer
connection. The two places where `push_ice` uses a pointer it has not looked at
are set apart as `Unguarded`.
-/

namespace WebrtcSample

open Prog Effect WebRtcManager

/-- The RTC state of a program. -/
structure Rtc where
  peerConnection : Option PcId
  dataChannel : Option DcId
  iceList : List Ice
deriving DecidableEq

def Endpoint.rtc (e : Endpoint) : Rtc := ⟨e.peerConnection, e.dataChannel, e.iceList⟩

namespace Server

variable (L : JsonLibs) (W : WebRtc)

/-- `run()` handing payloads to `MessageHandler`, each with its connection. -/
def serve : List (Hdl × Bytes) → Prog Unit
  | [] => pure ()
  | (hdl, payload) :: rest => do
      messageHandler L W hdl payload
      serve rest

/-! ### The fates of a payload -/

/-- The payload is acted on: an offer gets a peer connection of its own, which
is given the offer and asked for an answer, and a candidate is added to the
current peer connection. -/
inductive Acts (e : Endpoint) (payload : Bytes) (e' : Endpoint) : Prop
  | offer {sdp : Bytes} {desc : SessionDescription} (read : request L payload = .ok (.sdp sdp))
      (parsed : W.createSessionDescription .offer sdp = .ok desc)
      (rtc : e'.rtc = { e.rtc with peerConnection := some e.peers })
      (calls : e'.calls = e.calls ++ answerCalls e.peers sdp desc)
  | candidate {ice : Ice} {pc : PcId} {candidate : IceCandidate}
      (read : request L payload = .ok (.ice ice)) (current : e.peerConnection = some pc)
      (parsed : (W.createIceCandidate ice.sdpMid ice.sdpMlineIndex ice.candidate).1 =
        some candidate)
      (rtc : e'.rtc = e.rtc)
      (calls : e'.calls = e.calls ++
        [.pushIce (some pc) ice, .addIceCandidate pc (some candidate)])

/-- The payload ends the server. -/
inductive Ends (e : Endpoint) (payload : Bytes) : Abort → Endpoint → Prop
  | unreadable {what : Bytes} {e' : Endpoint} (read : request L payload = .error what)
      (rtc : e'.rtc = e.rtc) : Ends e payload (.exception what) e'
  | rejected {ice : Ice} {e' : Endpoint} (read : request L payload = .ok (.ice ice))
      (rejects : Rejects W ice) (rtc : e'.rtc = e.rtc) : Ends e payload .exitFailure e'
  | noPeer {sdp : Bytes} {e' : Endpoint} (read : request L payload = .ok (.sdp sdp))
      (refused : W.createPeerConnection e.peers = false) : Ends e payload .exitFailure e'
  | badOffer {sdp : Bytes} {err : SdpParseError} {e' : Endpoint}
      (read : request L payload = .ok (.sdp sdp))
      (parsed : W.createSessionDescription .offer sdp = .error err) : Ends e payload .exitFailure e'

/-- A candidate for which `push_ice` uses a null pointer: there is no peer
connection, or the parser failed without setting both texts of its error. -/
def Unguarded (e : Endpoint) (payload : Bytes) : Prop :=
  ∃ ice, request L payload = .ok (.ice ice) ∧ ¬ Rejects W ice ∧
    (e.peerConnection = none ∨
      (W.createIceCandidate ice.sdpMid ice.sdpMlineIndex ice.candidate).1 = none)

/-- Each payload is acted on in turn, by the handler in the state that the one before
has left. -/
inductive Serves : Endpoint → List (Hdl × Bytes) → Endpoint → Prop
  | nil (e : Endpoint) : Serves e [] e
  | cons {e mid e' : Endpoint} {hdl : Hdl} {payload : Bytes} {rest : List (Hdl × Bytes)} :
      (messageHandler L W hdl payload).run e = .ok () mid → Acts L W e payload mid →
      Serves mid rest e' → Serves e ((hdl, payload) :: rest) e'

variable {L W}

/-- **One payload**: it is acted on, or it ends the server, or it reaches one of
the unguarded uses. -/
theorem messageHandler_cases (e : Endpoint) (hdl : Hdl) (payload : Bytes) :
    (∃ e', (messageHandler L W hdl payload).run e = .ok () e' ∧ Acts L W e payload e') ∨
      (∃ why e', (messageHandler L W hdl payload).run e = .error why e' ∧
        Ends L W e payload why e') ∨
      Unguarded L W e payload := by
  rw [run_messageHandler]
  cases read : request L payload with
  | error what => exact .inr (.inl ⟨_, _, rfl, .unreadable read rfl⟩)
  | ok r =>
      cases r with
      | sdp sdp =>
          let here : Endpoint := { e with wsHdl := some hdl }
          cases pc : W.createPeerConnection e.peers with
          | false =>
              have noPeer : W.createPeerConnection here.peers = false := pc
              exact .inr (.inl ⟨_, _, run_createAnswerSdp_noPeer sdp noPeer, .noPeer read pc⟩)
          | true =>
              have peer : W.createPeerConnection here.peers = true := pc
              cases parsed : W.createSessionDescription .offer sdp with
              | error err =>
                  exact .inr (.inl ⟨_, _, run_createAnswerSdp_badOffer peer parsed,
                    .badOffer read parsed⟩)
              | ok desc =>
                  exact .inl ⟨_, run_createAnswerSdp peer parsed, .offer read parsed rfl rfl⟩
      | ice ice =>
          by_cases rejects : Rejects W ice
          · exact .inr (.inl ⟨_, _, run_pushIce_rejected rejects, .rejected read rejects rfl⟩)
          rcases Option.eq_none_or_eq_some e.peerConnection with null | ⟨pc, current⟩
          · exact .inr (.inr ⟨ice, read, rejects, .inl null⟩)
          cases parsed : (W.createIceCandidate ice.sdpMid ice.sdpMlineIndex ice.candidate).1 with
          | none => exact .inr (.inr ⟨ice, read, rejects, .inr parsed⟩)
          | some candidate =>
              have set : ({ e with wsHdl := some hdl } : Endpoint).peerConnection = some pc :=
                current
              refine .inl ⟨_, run_pushIce set rejects, .candidate read current parsed rfl ?_⟩
              rw [parsed]

theorem serve_cons_ok {e e' : Endpoint} {hdl : Hdl} {payload : Bytes}
    (run : (messageHandler L W hdl payload).run e = .ok () e') (rest : List (Hdl × Bytes)) :
    (serve L W ((hdl, payload) :: rest)).run e = (serve L W rest).run e' := by
  rw [serve, EStateM.run_bind, run]

theorem serve_cons_error {e e' : Endpoint} {hdl : Hdl} {payload : Bytes} {why : Abort}
    (run : (messageHandler L W hdl payload).run e = .error why e') (rest : List (Hdl × Bytes)) :
    (serve L W ((hdl, payload) :: rest)).run e = .error why e' := by
  rw [serve, EStateM.run_bind, run]

/-- No payload touches the data channel or the candidate list. -/
theorem keeps_serve (payloads : List (Hdl × Bytes)) :
    Keeps (fun e => (e.dataChannel, e.iceList)) (serve L W payloads) := by
  induction payloads with
  | nil => exact keeps_pure ()
  | cons first rest ih =>
      apply Keeps.bind
      · intro e
        exact final_messageHandler_of_ignores (f := fun e => (e.dataChannel, e.iceList))
          (fun _ _ _ => rfl) (fun _ _ _ => rfl) (fun _ _ => rfl) first.1 first.2 e
      · intro _
        exact ih

end Server

/-- **Payloads are acted on until one ends the server.** For every sequence of
payloads and every state of the server: a first part is acted on, each payload in
turn; then either nothing is left and the server goes on, or the next payload
ends it, or that payload reaches an unguarded use. Throughout, `data_channel` and
`ice_list_` stay as they were. -/
theorem payloads_served (L : JsonLibs) (W : WebRtc) (e : Endpoint)
    (payloads : List (Hdl × Bytes)) :
    (∃ served e', Server.Serves L W e served e' ∧
      (served = payloads ∧ (Server.serve L W payloads).run e = .ok () e' ∨
        ∃ hdl payload rest, payloads = served ++ (hdl, payload) :: rest ∧
          ((∃ why last, (Server.serve L W payloads).run e = .error why last ∧
              Server.Ends L W e' payload why last) ∨
            Server.Unguarded L W e' payload))) ∧
      (final ((Server.serve L W payloads).run e)).dataChannel = e.dataChannel ∧
      (final ((Server.serve L W payloads).run e)).iceList = e.iceList := by
  refine ⟨?_, (Prod.mk.inj (Server.keeps_serve payloads e)).1,
    (Prod.mk.inj (Server.keeps_serve payloads e)).2⟩
  induction payloads generalizing e with
  | nil => exact ⟨[], e, .nil e, .inl ⟨rfl, rfl⟩⟩
  | cons first rest ih =>
      obtain ⟨hdl, payload⟩ := first
      rcases Server.messageHandler_cases e hdl payload with
        ⟨mid, run, acts⟩ | ⟨why, last, run, ends⟩ | unguarded
      · rw [Server.serve_cons_ok run]
        obtain ⟨served, e', serves, outcome⟩ := ih mid
        refine ⟨(hdl, payload) :: served, e', .cons run acts serves, ?_⟩
        rcases outcome with ⟨rfl, done⟩ | ⟨hdl', payload', rest', split, fate⟩
        · exact .inl ⟨rfl, done⟩
        · exact .inr ⟨hdl', payload', rest', by rw [split, List.cons_append], fate⟩
      · rw [Server.serve_cons_error run]
        exact ⟨[], e, .nil e, .inr ⟨hdl, payload, rest, rfl, .inl ⟨why, last, rfl, ends⟩⟩⟩
      · exact ⟨[], e, .nil e, .inr ⟨hdl, payload, rest, rfl, .inr unguarded⟩⟩

/-- The server goes on after these payloads. -/
def Server.Survives (L : JsonLibs) (W : WebRtc) (payloads : List (Hdl × Bytes)) : Prop :=
  ∃ e, (Server.serve L W payloads).run .initial = .ok () e

/-- A payload of an unknown type ends the server by an exception, and an offer
that is not SDP by `exit`. -/
theorem fatal_payloads :
    ¬ Server.Survives .reference .reference
        [(0, jsonToString .reference (.obj [(utf8 "type", .str (utf8 "bye"))]))] ∧
      ¬ Server.Survives .reference .reference [(0, offerMessage .reference (utf8 "hello"))] := by
  have unknown : Server.request .reference
      (jsonToString .reference (.obj [(utf8 "type", .str (utf8 "bye"))])) =
        .error (utf8 "Unkown json message type: bye") := by
    decide +kernel
  have offer : Server.request .reference (offerMessage .reference (utf8 "hello")) =
      .ok (.sdp (utf8 "hello")) :=
    Server.request_offerMessage "hello"
  constructor
  · rintro ⟨e, run⟩
    rw [Server.serve_cons_error (by rw [Server.run_messageHandler, unknown])] at run
    cases run
  · rintro ⟨e, run⟩
    rw [Server.serve_cons_error (by
      rw [Server.run_messageHandler, offer]
      exact run_createAnswerSdp_badOffer rfl rfl)] at run
    cases run

end WebrtcSample
