import WebrtcSample.Util.WebRtcManager

/-!
The three kinds of signaling messages, and the code both programs have in common.

An offer carries its SDP under `sdp`, an answer under `answer`, a candidate the
three members of `Ice::ToJsonString`. This module builds the documents as the
two `on_sdp` lambdas do and says what a reader sees in them. The two `on_ice`
lambdas are one function, `reportIce`; the two `MessageHandler`s differ in the
description they take and are `receive` at different arguments. `dispatch` is
what `receive` makes of a payload before it touches the RTC state, and
`run_receive` says that the handler is exactly that reading followed by the
action.
-/

namespace WebrtcSample

open Prog WebRtcManager

variable (L : JsonLibs)

/-- `json.get(key, "").asString()`. -/
def readString (json : Json) (key : Bytes) : Throwing Bytes := do
  (← json.get key (.str [])).asString L

/-- The document of a description: its type, and its text under `key`. -/
def sdpJson (type key : Bytes) (sdp : Bytes) : Json :=
  (Json.null.setMember (utf8 "type") (.str type)).setMember key (.str sdp)

/-- What the client's `on_sdp` sends. -/
def offerMessage (sdp : Bytes) : Bytes := jsonToString L (sdpJson (utf8 "offer") (utf8 "sdp") sdp)

/-- What the server's `on_sdp` sends. -/
def answerMessage (sdp : Bytes) : Bytes :=
  jsonToString L (sdpJson (utf8 "answer") (utf8 "answer") sdp)

/-- The members of an offer, in the order of their keys. -/
def offerMembers (sdp : Bytes) : Json.Members :=
  [(utf8 "sdp", .str sdp), (utf8 "type", .str (utf8 "offer"))]

/-- The members of an answer, in the order of their keys. -/
def answerMembers (sdp : Bytes) : Json.Members :=
  [(utf8 "answer", .str sdp), (utf8 "type", .str (utf8 "answer"))]

variable {L}

theorem offerMembers_sorted (sdp : Bytes) : Json.Sorted (offerMembers sdp) := by
  show List.Pairwise (· < ·) [utf8 "sdp", utf8 "type"]
  decide

theorem answerMembers_sorted (sdp : Bytes) : Json.Sorted (answerMembers sdp) := by
  show List.Pairwise (· < ·) [utf8 "answer", utf8 "type"]
  decide

theorem offerMembers_flat (text : String) : FlatText (offerMembers (utf8 text)) := by
  intro m hm
  simp only [offerMembers, List.mem_cons, List.not_mem_nil, or_false] at hm
  rcases hm with rfl | rfl
  · exact ⟨⟨_, rfl⟩, .inl ⟨text, rfl⟩⟩
  · exact ⟨⟨_, rfl⟩, .inl ⟨"offer", rfl⟩⟩

theorem answerMembers_flat (text : String) : FlatText (answerMembers (utf8 text)) := by
  intro m hm
  simp only [answerMembers, List.mem_cons, List.not_mem_nil, or_false] at hm
  rcases hm with rfl | rfl
  · exact ⟨⟨_, rfl⟩, .inl ⟨text, rfl⟩⟩
  · exact ⟨⟨_, rfl⟩, .inl ⟨"answer", rfl⟩⟩

theorem stringToJson_offerMessage (text : String) :
    stringToJson L (offerMessage L (utf8 text)) = .ok (.obj (offerMembers (utf8 text))) :=
  stringToJson_jsonToString (offerMembers_sorted _) (offerMembers_flat text)

theorem stringToJson_answerMessage (text : String) :
    stringToJson L (answerMessage L (utf8 text)) = .ok (.obj (answerMembers (utf8 text))) :=
  stringToJson_jsonToString (answerMembers_sorted _) (answerMembers_flat text)

/-- A string member is read as it is. -/
theorem readString_obj {ms : Json.Members} {key s : Bytes}
    (found : Json.find? key ms = some (.str s)) : readString L (.obj ms) key = .ok s := by
  simp [readString, found, bind, Except.bind]

/-! ### Sending a candidate, receiving a message -/

/-- `rtc_manager_.on_ice` of both programs. -/
def reportIce (L : JsonLibs) (ice : Ice) : Prog Unit := do
  modify fun e => { e with iceList := e.iceList ++ [ice] }
  wsSend (ice.toJsonString L)

/-- `MessageHandler` of both programs: `type` is the description the program
takes, `key` the member with its text and `take` what it does with it. -/
def receive (L : JsonLibs) (W : WebRtc) (type key : Bytes) (take : Bytes → Prog Unit) (hdl : Hdl)
    (message : Bytes) : Prog Unit := do
  modify fun e => { e with wsHdl := some hdl }
  let json ← throwing (stringToJson L message)
  let received ← throwing (readString L json (utf8 "type"))
  if received = type then
    let sdp ← throwing (readString L json key)
    take sdp
  else if received = utf8 "ice" then
    let ice ← throwing (Ice.fromJsonString L message)
    pushIce W ice
  else
    throw (.exception (utf8 "Unkown json message type: " ++ received))

/-- What a message asks its receiver to do. -/
inductive Request where
  | sdp (sdp : Bytes)
  | ice (ice : Ice)
deriving DecidableEq, Repr

/-- How a receiver of `type` descriptions reads a payload. -/
def dispatch (L : JsonLibs) (type key : Bytes) (message : Bytes) : Throwing Request := do
  let json ← stringToJson L message
  let received ← readString L json (utf8 "type")
  if received = type then
    return .sdp (← readString L json key)
  else if received = utf8 "ice" then
    return .ice (← Ice.fromJsonString L message)
  else
    throw (utf8 "Unkown json message type: " ++ received)

theorem run_reportIce {e : Endpoint} (ice : Ice) :
    (reportIce L ice).run e =
      (wsSend (ice.toJsonString L)).run { e with iceList := e.iceList ++ [ice] } := rfl

open Effect in
/-- Reporting a candidate touches the list, the log and the outbox. -/
theorem keeps_reportIce_of_ignores {γ : Type*} {f : Endpoint → γ}
    (ignores : ∀ e c, c.isPlain = true → f (Endpoint.log e c) = f e)
    (outbox : ∀ e payloads, f { e with outbox := payloads } = f e)
    (iceList : ∀ e list, f { e with iceList := list } = f e) (ice : Ice) :
    Keeps f (reportIce L ice) :=
  Keeps.bind (keeps_modify fun e => iceList e _) fun _ => keeps_wsSend_of_ignores ignores outbox _

/-- A receiver takes the handle, reads the payload and acts on it; a payload it
cannot read leaves by an exception. -/
theorem run_receive {W : WebRtc} {e : Endpoint} (type key : Bytes) (take : Bytes → Prog Unit)
    (hdl : Hdl) (message : Bytes) :
    (receive L W type key take hdl message).run e =
      match dispatch L type key message with
      | .ok (.sdp sdp) => (take sdp).run { e with wsHdl := some hdl }
      | .ok (.ice ice) => (pushIce W ice).run { e with wsHdl := some hdl }
      | .error what => .error (.exception what) { e with wsHdl := some hdl } := by
  simp only [receive, dispatch, EStateM.run_bind, EStateM.run_modify]
  cases stringToJson L message with
  | error what => rfl
  | ok json =>
      cases read : readString L json (utf8 "type") with
      | error what => simp [read, bind, Except.bind]
      | ok received =>
          simp only [run_throwing_ok, read, bind, Except.bind]
          split
          · cases readString L json key <;> rfl
          split
          · cases Ice.fromJsonString L message <;> rfl
          · rfl

/-- A description is read as the text under its receiver's key. -/
theorem dispatch_sdp {type key sdp message : Bytes} {ms : Json.Members}
    (parsed : stringToJson L message = .ok (.obj ms))
    (typed : Json.find? (utf8 "type") ms = some (.str type))
    (keyed : Json.find? key ms = some (.str sdp)) :
    dispatch L type key message = .ok (.sdp sdp) := by
  simp [dispatch, parsed, readString_obj typed, readString_obj keyed, bind, Except.bind, pure,
    Except.pure]

/-- A candidate reaches `push_ice` exactly when `FromJsonString` returns it. -/
theorem dispatch_toJsonString {type key : Bytes} {ice : Ice} (other : utf8 "ice" ≠ type)
    (text : ice.IsText) :
    dispatch L type key (ice.toJsonString L) =
      if ice.Complete then .ok (.ice ice) else .error (utf8 "Invalid json string for ICE.") := by
  simp only [dispatch, Ice.stringToJson_toJsonString text, readString_obj (Ice.find_type ice), bind,
    Except.bind, other, if_false, if_true, Ice.fromJsonString_toJsonString text]
  by_cases complete : ice.Complete <;> simp [complete, pure, Except.pure]

end WebrtcSample
