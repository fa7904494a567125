import WebrtcSample.Util.JsonUtils

/-!
`struct Ice` of `src/util/webrtc_manager.h` and its JSON form.

`fromJsonString_toJsonString` is the exact round trip: an `Ice` whose strings
are Unicode comes back unchanged unless one of its fields holds the value that
`FromJsonString` takes for "missing", and then reading it throws.
-/

namespace WebrtcSample

/-- An ICE candidate as the two programs exchange it. -/
structure Ice where
  candidate : Bytes
  sdpMid : Bytes
  sdpMlineIndex : Int32
deriving DecidableEq, Repr

namespace Ice

/-- Both strings are Unicode text. -/
def IsText (ice : Ice) : Prop :=
  (∃ text : String, ice.candidate = utf8 text) ∧ ∃ mid : String, ice.sdpMid = utf8 mid

/-- No field holds a value that stands for a missing member. -/
def Complete (ice : Ice) : Prop :=
  ice.candidate ≠ [] ∧ ice.sdpMid ≠ [] ∧ ice.sdpMlineIndex ≠ -1

instance (ice : Ice) : Decidable ice.Complete := by
  unfold Complete; infer_instance

/-- The document `ToJsonString` builds. -/
def toJson (ice : Ice) : Json :=
  (((Json.null.setMember (utf8 "type") (.str (utf8 "ice"))).setMember
    (utf8 "candidate") (.str ice.candidate)).setMember
    (utf8 "sdpMid") (.str ice.sdpMid)).setMember
    (utf8 "sdpMLineIndex") (.int ice.sdpMlineIndex.toInt)

/-- `Ice::ToJsonString`. -/
def toJsonString (L : JsonLibs) (ice : Ice) : Bytes := jsonToString L ice.toJson

/-- `Ice::FromJsonString`. -/
def fromJsonString (L : JsonLibs) (jsonStr : Bytes) : Throwing Ice := do
  let json ← stringToJson L jsonStr
  let type ← (← json.get (utf8 "type") (.str [])).asString L
  if type = utf8 "ice" then
    let candidate ← (← json.get (utf8 "candidate") (.str [])).asString L
    let sdpMid ← (← json.get (utf8 "sdpMid") (.str [])).asString L
    let sdpMlineIndex ← (← json.get (utf8 "sdpMLineIndex") (.int (-1))).asInt
    if candidate = [] ∨ sdpMid = [] ∨ sdpMlineIndex = -1 then
      throw (utf8 "Invalid json string for ICE.")
    return { candidate, sdpMid, sdpMlineIndex }
  else
    throw (utf8 "Unkown json message type: " ++ type)

/-- The members of an ICE document, in the order of their keys. -/
def members (ice : Ice) : Json.Members :=
  [(utf8 "candidate", .str ice.candidate), (utf8 "sdpMLineIndex", .int ice.sdpMlineIndex.toInt),
    (utf8 "sdpMid", .str ice.sdpMid), (utf8 "type", .str (utf8 "ice"))]

theorem toJson_eq (ice : Ice) : ice.toJson = .obj ice.members := rfl

theorem members_sorted (ice : Ice) : Json.Sorted ice.members := by
  show List.Pairwise (· < ·)
    [utf8 "candidate", utf8 "sdpMLineIndex", utf8 "sdpMid", utf8 "type"]
  decide

theorem members_flat {ice : Ice} (text : ice.IsText) : FlatText ice.members := by
  obtain ⟨⟨candidate, hc⟩, ⟨mid, hm⟩⟩ := text
  intro m hm'
  simp only [members, List.mem_cons, List.not_mem_nil, or_false] at hm'
  rcases hm' with rfl | rfl | rfl | rfl
  · exact ⟨⟨_, rfl⟩, .inl ⟨candidate, by rw [hc]⟩⟩
  · exact ⟨⟨_, rfl⟩, .inr ⟨_, rfl⟩⟩
  · exact ⟨⟨_, rfl⟩, .inl ⟨mid, by rw [hm]⟩⟩
  · exact ⟨⟨_, rfl⟩, .inl ⟨"ice", rfl⟩⟩

/-- The receiver parses the document the sender wrote. -/
theorem stringToJson_toJsonString {L : JsonLibs} {ice : Ice} (text : ice.IsText) :
    stringToJson L (ice.toJsonString L) = .ok (.obj ice.members) := by
  rw [toJsonString, toJson_eq]
  exact stringToJson_jsonToString ice.members_sorted (members_flat text)

@[simp] theorem find_type (ice : Ice) :
    Json.find? (utf8 "type") ice.members = some (.str (utf8 "ice")) := rfl

@[simp] theorem find_candidate (ice : Ice) :
    Json.find? (utf8 "candidate") ice.members = some (.str ice.candidate) := rfl

@[simp] theorem find_sdpMid (ice : Ice) :
    Json.find? (utf8 "sdpMid") ice.members = some (.str ice.sdpMid) := rfl

@[simp] theorem find_sdpMlineIndex (ice : Ice) :
    Json.find? (utf8 "sdpMLineIndex") ice.members = some (.int ice.sdpMlineIndex.toInt) := rfl

/-- **Round trip of a candidate.** Reading back what was written returns the
candidate exactly when it is complete, and throws otherwise. -/
theorem fromJsonString_toJsonString {L : JsonLibs} {ice : Ice} (text : ice.IsText) :
    fromJsonString L (ice.toJsonString L) =
      if ice.Complete then .ok ice else .error (utf8 "Invalid json string for ICE.") := by
  simp only [fromJsonString, stringToJson_toJsonString text, bind, Except.bind, Json.get_obj,
    find_type, find_candidate, find_sdpMid, find_sdpMlineIndex, Option.getD_some,
    Json.asString_str, Json.asInt_toInt, if_true]
  by_cases complete : ice.Complete
  · have present : ¬ (ice.candidate = [] ∨ ice.sdpMid = [] ∨ ice.sdpMlineIndex = -1) := by
      simpa [Complete, not_or] using complete
    simp [present, complete, pure, Except.pure]
  · have missing : ice.candidate = [] ∨ ice.sdpMid = [] ∨ ice.sdpMlineIndex = -1 := by
      by_contra present
      exact complete (by simpa [Complete, not_or] using present)
    simp [missing, complete, throw, throwThe, MonadExceptOf.throw]

/-- A message of another type is refused. -/
theorem fromJsonString_other {L : JsonLibs} {message type : Bytes} {ms : Json.Members}
    (parsed : stringToJson L message = .ok (.obj ms))
    (typed : Json.find? (utf8 "type") ms = some (.str type)) (other : type ≠ utf8 "ice") :
    fromJsonString L message = .error (utf8 "Unkown json message type: " ++ type) := by
  simp only [fromJsonString, parsed, bind, Except.bind, Json.get_obj, typed, Option.getD_some,
    Json.asString_str, other, if_false]
  rfl

end Ice

end WebrtcSample
