import WebrtcSample.Lib.Json

/-!
The JSON layer of the signaling messages (`src/util/json_utils.h`).

jsoncpp 1.9.4 and the browser's `JSON` object are not part of the repository.
`JsonLibs` takes them as parameters, with what the programs rely on: a flat
object of Unicode strings and `int`s comes out of either reader as it went into
the writer. `setMember`, `get`, `asString` and `asInt` are jsoncpp's documented
operations on values; an exception is modelled by its `what()` text.
`JsonLibs.reference` is a concrete pair of libraries that meets the contract,
built on the text codec of `WebrtcSample.Lib.Json`.
-/

namespace WebrtcSample

/-- A computation that returns or throws; the error is the exception's text. -/
abbrev Throwing := Except Bytes

/-- Every key is a text and every member is a text or a C++ `int`. -/
def FlatText (ms : Json.Members) : Prop :=
  ∀ m ∈ ms, (∃ key : String, m.1 = utf8 key) ∧
    ((∃ text : String, m.2 = .str (utf8 text)) ∨ ∃ i : Int32, m.2 = .int i.toInt)

/-- jsoncpp's writer and reader with default settings, and the browser's. -/
structure JsonLibs where
  /-- `Json::writeString(Json::StreamWriterBuilder(), value)`. -/
  writeString : Json → Bytes
  /-- `Json::CharReader::parse`: the document, or the reader's error text. -/
  parse : Bytes → Except Bytes Json
  /-- How jsoncpp prints a floating-point number. -/
  realText : Rat → Bytes
  /-- `JSON.stringify` of an object with these members, in insertion order. -/
  stringify : Json.Members → Bytes
  /-- `JSON.parse`; `none` when it throws a `SyntaxError`. -/
  jsParse : Bytes → Option Json
  parse_writeString : ∀ ms, Json.Sorted ms → FlatText ms →
    parse (writeString (.obj ms)) = .ok (.obj ms)
  parse_stringify : ∀ ms, FlatText ms → parse (stringify ms) = .ok (Json.ofMembers ms)
  jsParse_writeString : ∀ ms, Json.Sorted ms → FlatText ms →
    jsParse (writeString (.obj ms)) = some (.obj ms)
  realText_digit : ∀ r, ∃ b ∈ realText r, Json.isDigit b = true

end WebrtcSample

/-! ### jsoncpp values -/

namespace Json

/-- `json[key] = value`. The documents of this program start from a null value,
which the first assignment turns into an object. -/
def setMember (json : Json) (key : Bytes) (value : Json) : Json :=
  match json with
  | .obj ms => .obj (insertMember key value ms)
  | _ => .obj [(key, value)]

/-- The value stored under a key. -/
def find? (key : Bytes) : Members → Option Json
  | [] => none
  | (k, v) :: rest => if k = key then some v else find? key rest

/-- `json.get(key, default)`: the default stands in for an absent member only. -/
def get (json : Json) (key : Bytes) (default : Json) : WebrtcSample.Throwing Json :=
  match json with
  | .null => .ok default
  | .obj ms => .ok ((find? key ms).getD default)
  | _ => .error (utf8 "in Json::Value::find(begin, end): requires objectValue or nullValue")

/-- `json.asString()`. -/
def asString (L : WebrtcSample.JsonLibs) : Json → WebrtcSample.Throwing Bytes
  | .null => .ok []
  | .str s => .ok s
  | .bool b => .ok (utf8 (if b then "true" else "false"))
  | .int i => .ok (writeInt i)
  | .real r => .ok (L.realText r)
  | _ => .error (utf8 "Type is not convertible to string")

/-- `json.asInt()`: a real number in range is truncated towards zero. -/
def asInt : Json → WebrtcSample.Throwing Int32
  | .null => .ok 0
  | .bool b => .ok (if b then 1 else 0)
  | .int i =>
      if -2147483648 ≤ i ∧ i ≤ 2147483647 then .ok (Int32.ofInt i)
      else .error (utf8 "LargestInt out of Int range")
  | .real r =>
      if -2147483648 ≤ r ∧ r ≤ 2147483647 then .ok (Int32.ofInt (r.num.tdiv r.den))
      else .error (utf8 "double out of Int range")
  | _ => .error (utf8 "Value is not convertible to Int.")

@[simp] theorem get_obj (ms : Members) (key : Bytes) (default : Json) :
    (Json.obj ms).get key default = .ok ((find? key ms).getD default) := rfl

@[simp] theorem asString_str (L : WebrtcSample.JsonLibs) (s : Bytes) :
    (Json.str s).asString L = .ok s := rfl

/-- An `int` survives the trip through a document. -/
@[simp] theorem asInt_toInt (i : Int32) : (Json.int i.toInt).asInt = .ok i := by
  have range : -2147483648 ≤ i.toInt ∧ i.toInt ≤ 2147483647 :=
    ⟨i.le_toInt, Int.lt_add_one_iff.mp i.toInt_lt⟩
  simp only [asInt, if_pos range, Int32.ofInt_toInt]

end Json

namespace WebrtcSample

section JsonUtils

variable (L : JsonLibs)

/-- `JsonToString`. -/
def jsonToString (json : Json) : Bytes := L.writeString json

/-- `StringToJson`. -/
def stringToJson (jsonStr : Bytes) : Throwing Json :=
  match L.parse jsonStr with
  | .ok json => .ok json
  | .error err => .error (utf8 "Failed to parse string to json, error: " ++ err)

variable {L}

/-- A document either program writes is the one its reader sees. -/
theorem stringToJson_jsonToString {ms : Json.Members} (sorted : Json.Sorted ms)
    (flat : FlatText ms) : stringToJson L (jsonToString L (.obj ms)) = .ok (.obj ms) := by
  simp [stringToJson, jsonToString, L.parse_writeString ms sorted flat]

/-- The same for a document written by the browser. -/
theorem stringToJson_stringify {ms : Json.Members} (flat : FlatText ms) :
    stringToJson L (L.stringify ms) = .ok (Json.ofMembers ms) := by
  simp [stringToJson, L.parse_stringify ms flat]

end JsonUtils

/-! ### A pair of libraries that meets the contract -/

/-- jsoncpp's default style: one tab-indented member to a line. -/
def styled : Json.Layout := ⟨[0x0a, 0x09], [0x20], [0x0a], by decide, by decide, by decide⟩

/-- `JSON.stringify` without an indent argument. -/
def compact : Json.Layout := ⟨[], [], [], by decide, by decide, by decide⟩

theorem FlatText.scalar {ms : Json.Members} (flat : FlatText ms) : ∀ m ∈ ms, m.2.Scalar := by
  intro m hm
  rcases (flat m hm).2 with ⟨text, eq⟩ | ⟨i, eq⟩ <;> simp [eq, Json.Scalar]

/-- Flat objects in both libraries' own layouts. Their readers take flat objects
only, and write no other document. -/
def JsonLibs.reference : JsonLibs where
  writeString
    | .obj ms => Json.write styled ms
    | _ => utf8 "null"
  parse bs :=
    match Json.read bs with
    | some ms => .ok (Json.ofMembers ms)
    | none => .error (utf8 "* Line 1, Column 1\n  Syntax error: value, object or array expected.\n")
  realText r := Json.decimal r.num.natAbs
  stringify ms := Json.write compact ms
  jsParse bs := (Json.read bs).map Json.ofMembers
  parse_writeString ms sorted flat := by
    simp [Json.read_write styled flat.scalar, Json.ofMembers_eq sorted]
  parse_stringify ms flat := by simp [Json.read_write compact flat.scalar]
  jsParse_writeString ms sorted flat := by
    simp [Json.read_write styled flat.scalar, Json.ofMembers_eq sorted]
  realText_digit r := by
    obtain ⟨d, ds, eq, digit⟩ := Json.decimal_head r.num.natAbs
    exact ⟨d, by simp [eq], digit⟩

end WebrtcSample
