import WebrtcSample.Util.Ice

/-!
The documents `Ice::FromJsonString` takes for an ICE message.

An ICE message is an object of type "ice" with two non-empty strings and the
zero-based index of an m-line (`IsDocument`). `FromJsonString` converts the three
members first and looks at the results afterwards, so it also takes the documents
whose members only convert to such values (`Lossy`): a null, a boolean, a
fraction or a negative number other than -1 for the index, a number or a boolean
for one of the strings. `reads_exactly_iff` says that these are all.
-/

namespace Json

/-- What `asString` turns into a text that is not empty. -/
def ReadsAsText : Json → Prop
  | .str s => s ≠ []
  | .bool _ | .int _ | .real _ => True
  | .null | .arr _ | .obj _ => False

/-- What `asInt` turns into an index other than -1. -/
def ReadsAsIndex : Json → Prop
  | .null | .bool _ => True
  | .int i => -2147483648 ≤ i ∧ i ≤ 2147483647 ∧ i ≠ -1
  | .real r => -2147483648 ≤ r ∧ r ≤ 2147483647 ∧ ¬ (-2 < r ∧ r ≤ -1)
  | .str _ | .arr _ | .obj _ => False

/-- A JSON string. -/
def IsString (json : Json) : Prop := ∃ s, json = .str s

/-- A JSON integer that is not negative. -/
def IsNatural (json : Json) : Prop := ∃ i, json = .int i ∧ 0 ≤ i

/-! ### Conversions to a string -/

theorem writeInt_digit (i : Int) : ∃ b ∈ writeInt i, isDigit b = true := by
  cases i with
  | ofNat n =>
      obtain ⟨d, ds, eq, digit⟩ := decimal_head n
      exact ⟨d, by simp [writeInt, eq], digit⟩
  | negSucc n =>
      obtain ⟨d, ds, eq, digit⟩ := decimal_head (n + 1)
      exact ⟨d, by simp [writeInt, eq], digit⟩

/-- A text with a digit in it is neither empty nor the name of a type. -/
theorem text_of_digit {s : Bytes} (digit : ∃ b ∈ s, isDigit b = true) :
    s ≠ [] ∧ s ≠ utf8 "ice" := by
  obtain ⟨b, mem, digit⟩ := digit
  constructor
  · rintro rfl
    cases mem
  · rintro rfl
    have none : (utf8 "ice").any isDigit = false := by decide
    rw [List.any_eq_false] at none
    exact none b mem digit

section AsString

variable {L : WebrtcSample.JsonLibs} {v : Json}

/-- Only the string "ice" reads as "ice". -/
theorem asString_eq_ice : v.asString L = .ok (utf8 "ice") ↔ v = .str (utf8 "ice") := by
  constructor
  · intro h
    cases v with
    | str s => exact congrArg Json.str (Except.ok.inj h)
    | int i => exact absurd (Except.ok.inj h) (text_of_digit (writeInt_digit i)).2
    | real r => exact absurd (Except.ok.inj h) (text_of_digit (L.realText_digit r)).2
    | bool b => cases b <;> exact absurd (Except.ok.inj h) (by decide)
    | null => exact absurd (Except.ok.inj h) (by decide)
    | arr items => cases h
    | obj ms => cases h
  · rintro rfl
    rfl

theorem readsAsText_iff : v.ReadsAsText ↔ ∃ s, v.asString L = .ok s ∧ s ≠ [] := by
  cases v with
  | str s => simp [ReadsAsText, asString]
  | int i => simp [ReadsAsText, asString, (text_of_digit (writeInt_digit i)).1]
  | real r => simp [ReadsAsText, asString, (text_of_digit (L.realText_digit r)).1]
  | bool b => cases b <;> simp [ReadsAsText, asString, utf8_ne_nil]
  | null => simp [ReadsAsText, asString]
  | arr items => simp [ReadsAsText, asString]
  | obj ms => simp [ReadsAsText, asString]

end AsString

/-! ### Conversions to an `int` -/

/-- A quotient is truncated to -1 when it lies above -2 and is at most -1. -/
theorem tdiv_eq_neg_one {n d : Int} (positive : 0 < d) :
    n.tdiv d = -1 ↔ -2 * d < n ∧ n ≤ -d := by
  by_cases sign : 0 ≤ n
  · have quotient : 0 ≤ n.tdiv d := Int.tdiv_nonneg sign (by omega)
    omega
  · obtain ⟨m, rfl⟩ : ∃ m, n = -m := ⟨-n, by omega⟩
    have quotient : m / d = 1 ↔ 1 * d ≤ m ∧ m < 1 * d + d := Int.ediv_eq_iff_of_pos positive
    rw [Int.neg_tdiv, Int.tdiv_eq_ediv_of_nonneg (by omega)]
    omega

/-- The comparisons of a number with an integer, on its numerator and denominator. -/
theorem intCast_le {r : Rat} {i : Int} : (i : Rat) ≤ r ↔ i * r.den ≤ r.num := by
  rw [Rat.le_iff]
  simp

theorem le_intCast {r : Rat} {i : Int} : r ≤ (i : Rat) ↔ r.num ≤ i * r.den := by
  rw [Rat.le_iff]
  simp

theorem truncated_eq_neg_one (r : Rat) : r.num.tdiv r.den = -1 ↔ -2 < r ∧ r ≤ -1 := by
  have positive : (0 : Int) < r.den := Int.natCast_pos.mpr r.den_pos
  have low : -2 < r ↔ -2 * (r.den : Int) < r.num := by
    rw [← Rat.not_le, ← Int.not_le]
    exact not_congr (le_intCast (i := -2))
  have high : r ≤ -1 ↔ r.num ≤ -1 * (r.den : Int) := le_intCast (i := -1)
  rw [tdiv_eq_neg_one positive, low, high]
  omega

theorem truncated_range {r : Rat} (low : -2147483648 ≤ r) (high : r ≤ 2147483647) :
    -2147483648 ≤ r.num.tdiv r.den ∧ r.num.tdiv r.den ≤ 2147483647 := by
  have positive : (0 : Int) < r.den := Int.natCast_pos.mpr r.den_pos
  have least : -2147483648 * (r.den : Int) ≤ r.num := intCast_le (i := -2147483648).mp low
  have most : r.num ≤ 2147483647 * (r.den : Int) := le_intCast (i := 2147483647).mp high
  constructor
  · exact Int.le_tdiv_of_mul_le positive least
  · calc r.num.tdiv r.den ≤ (2147483647 * (r.den : Int)).tdiv r.den :=
          Int.tdiv_le_tdiv positive most
      _ = 2147483647 := Int.mul_tdiv_cancel _ (by omega)

theorem toInt_ofInt {i : Int} (low : -2147483648 ≤ i) (high : i ≤ 2147483647) :
    (Int32.ofInt i).toInt = i :=
  Int32.toInt_ofInt_of_le low (by omega)

/-- An integer in range is read as -1 only when it is -1. -/
theorem ofInt_ne_neg_one {i : Int} (low : -2147483648 ≤ i) (high : i ≤ 2147483647) :
    Int32.ofInt i ≠ -1 ↔ i ≠ -1 := by
  rw [Ne, ← Int32.toInt_inj, toInt_ofInt low high]
  rfl

theorem readsAsIndex_iff {v : Json} : v.ReadsAsIndex ↔ ∃ i, v.asInt = .ok i ∧ i ≠ -1 := by
  cases v with
  | null => simp [ReadsAsIndex, asInt]
  | bool b => cases b <;> simp [ReadsAsIndex, asInt]
  | int i =>
      by_cases range : -2147483648 ≤ i ∧ i ≤ 2147483647
      · simp only [ReadsAsIndex, asInt, if_true, Except.ok.injEq, exists_eq_left',
          ofInt_ne_neg_one range.1 range.2, range, true_and]
      · simp only [ReadsAsIndex, asInt, if_false, ← and_assoc, range, false_and,
          reduceCtorEq, exists_false]
  | real r =>
      by_cases range : -2147483648 ≤ r ∧ r ≤ 2147483647
      · have whole := truncated_range range.1 range.2
        simp only [ReadsAsIndex, asInt, if_true, Except.ok.injEq, exists_eq_left',
          ofInt_ne_neg_one whole.1 whole.2, range, true_and, ← truncated_eq_neg_one, Ne]
      · simp only [ReadsAsIndex, asInt, if_false, ← and_assoc (a := -2147483648 ≤ r), range,
          false_and, reduceCtorEq, exists_false]
  | str s => simp [ReadsAsIndex, asInt]
  | arr items => simp [ReadsAsIndex, asInt]
  | obj ms => simp [ReadsAsIndex, asInt]

end Json

namespace WebrtcSample.Ice

/-- The document is an object of type "ice" with these members. -/
def HasMembers (json candidate sdpMid sdpMlineIndex : Json) : Prop :=
  ∃ ms, json = .obj ms ∧ Json.find? (utf8 "type") ms = some (.str (utf8 "ice")) ∧
    Json.find? (utf8 "candidate") ms = some candidate ∧
    Json.find? (utf8 "sdpMid") ms = some sdpMid ∧
    Json.find? (utf8 "sdpMLineIndex") ms = some sdpMlineIndex

/-- The document is the ICE message of this candidate. -/
def IsDocument (json : Json) (ice : Ice) : Prop :=
  ∃ i : Int, HasMembers json (.str ice.candidate) (.str ice.sdpMid) (.int i) ∧
    ice.candidate ≠ [] ∧ ice.sdpMid ≠ [] ∧ 0 ≤ i ∧ i ≤ 2147483647 ∧ ice.sdpMlineIndex.toInt = i

/-- The members convert to the values of a candidate without being of its types:
one of the texts is no JSON string, or the index is no JSON integer from 0 on. -/
def Lossy (json : Json) : Prop :=
  ∃ candidate sdpMid sdpMlineIndex, HasMembers json candidate sdpMid sdpMlineIndex ∧
    candidate.ReadsAsText ∧ sdpMid.ReadsAsText ∧ sdpMlineIndex.ReadsAsIndex ∧
    ¬ (candidate.IsString ∧ sdpMid.IsString ∧ sdpMlineIndex.IsNatural)

/-- `FromJsonString` returns the candidate of an ICE message and throws on every
other document. -/
structure ReadsExactly (L : JsonLibs) (message : Bytes) (json : Json) : Prop where
  returns : ∀ ice, fromJsonString L message = .ok ice ↔ IsDocument json ice
  throws : (∀ ice, ¬ IsDocument json ice) → ∃ what, fromJsonString L message = .error what

theorem HasMembers.unique {json c m x c' m' x' : Json} (h : HasMembers json c m x)
    (h' : HasMembers json c' m' x') : c' = c ∧ m' = m ∧ x' = x := by
  obtain ⟨ms, rfl, -, hc, hm, hx⟩ := h
  obtain ⟨ms', eq, -, hc', hm', hx'⟩ := h'
  obtain rfl := Json.obj.inj eq
  rw [hc] at hc'
  rw [hm] at hm'
  rw [hx] at hx'
  exact ⟨(Option.some.inj hc').symm, (Option.some.inj hm').symm, (Option.some.inj hx').symm⟩

section Reading

variable {L : JsonLibs} {message : Bytes} {json : Json} {ice : Ice}

theorem bind_eq_ok {α β : Type} {p : Throwing α} {k : α → Throwing β} {b : β} :
    (p >>= k) = .ok b ↔ ∃ a, p = .ok a ∧ k a = .ok b := by
  cases p with
  | ok a => simp [bind, Except.bind]
  | error what => simp [bind, Except.bind]

/-- A value other than the default comes from a member. -/
theorem get_eq_ok {key : Bytes} {default v : Json} (read : json.get key default = .ok v)
    (other : v ≠ default) : ∃ ms, json = .obj ms ∧ Json.find? key ms = some v := by
  cases json with
  | obj ms =>
      cases found : Json.find? key ms with
      | none =>
          rw [Json.get_obj, found] at read
          exact absurd (Except.ok.inj read).symm other
      | some w =>
          rw [Json.get_obj, found] at read
          cases read
          exact ⟨ms, rfl, found⟩
  | null => exact absurd (Except.ok.inj read).symm other
  | bool b => cases read
  | int i => cases read
  | real r => cases read
  | str s => cases read
  | arr items => cases read

/-- A member that converts to something else than its default does is there. -/
theorem find_of_getD {α : Type} {ms : Json.Members} {key : Bytes} {default : Json}
    {f : Json → Throwing α} {a : α} (read : f ((Json.find? key ms).getD default) = .ok a)
    (other : f default ≠ .ok a) : ∃ v, Json.find? key ms = some v ∧ f v = .ok a := by
  cases found : Json.find? key ms with
  | none =>
      rw [found] at read
      exact absurd read other
  | some v =>
      rw [found] at read
      exact ⟨v, rfl, read⟩

/-- What is read from a document: it has all members, and they convert to a
complete candidate. -/
theorem fromJsonString_eq_ok (parsed : stringToJson L message = .ok json) :
    fromJsonString L message = .ok ice ↔
      ∃ candidate sdpMid sdpMlineIndex, HasMembers json candidate sdpMid sdpMlineIndex ∧
        candidate.asString L = .ok ice.candidate ∧ sdpMid.asString L = .ok ice.sdpMid ∧
        sdpMlineIndex.asInt = .ok ice.sdpMlineIndex ∧ ice.Complete := by
  constructor
  · intro h
    simp only [fromJsonString, bind_eq_ok, parsed, Except.ok.injEq, exists_eq_left'] at h
    obtain ⟨v, read, type, typed, h⟩ := h
    split at h
    · rename_i isIce
      rw [isIce] at typed
      obtain rfl := Json.asString_eq_ice.mp typed
      obtain ⟨ms, rfl, ht⟩ := get_eq_ok read (by simp [utf8_ne_nil])
      simp only [bind_eq_ok, Json.get_obj, Except.ok.injEq, exists_eq_left'] at h
      obtain ⟨candidate, hc, sdpMid, hm, index, hx, h⟩ := h
      split at h
      · cases h
      · rename_i present
        cases h
        simp only [not_or] at present
        obtain ⟨c, hc, candidate⟩ := find_of_getD hc (by simpa using Ne.symm present.1)
        obtain ⟨m, hm, sdpMid⟩ := find_of_getD hm (by simpa using Ne.symm present.2.1)
        obtain ⟨x, hx, index⟩ := find_of_getD hx (by simpa [Json.asInt] using Ne.symm present.2.2)
        exact ⟨c, m, x, ⟨ms, rfl, ht, hc, hm, hx⟩, candidate, sdpMid, index, present⟩
    · cases h
  · rintro ⟨c, m, x, ⟨ms, rfl, ht, hc, hm, hx⟩, candidate, sdpMid, index, complete⟩
    have present : ¬ (ice.candidate = [] ∨ ice.sdpMid = [] ∨ ice.sdpMlineIndex = -1) := by
      simpa [Complete, not_or] using complete
    simp only [fromJsonString, parsed, bind, Except.bind, Json.get_obj, ht, hc, hm, hx,
      Option.getD_some, Json.asString_str, if_true, candidate, sdpMid, index, present, if_false]
    rfl

/-- A lossy document is read, as the candidate of no ICE message. -/
theorem Lossy.read (parsed : stringToJson L message = .ok json) (lossy : Lossy json) :
    ∃ ice, fromJsonString L message = .ok ice ∧ ¬ IsDocument json ice := by
  obtain ⟨c, m, x, members, candidate, sdpMid, index, improper⟩ := lossy
  obtain ⟨candidate, hc, nonempty⟩ := (Json.readsAsText_iff (L := L)).mp candidate
  obtain ⟨sdpMid, hm, nonempty'⟩ := (Json.readsAsText_iff (L := L)).mp sdpMid
  obtain ⟨index, hx, known⟩ := Json.readsAsIndex_iff.mp index
  refine ⟨⟨candidate, sdpMid, index⟩, ?_, ?_⟩
  · exact (fromJsonString_eq_ok parsed).mpr
      ⟨c, m, x, members, hc, hm, hx, nonempty, nonempty', known⟩
  · rintro ⟨i, proper, -, -, natural, -⟩
    obtain ⟨rfl, rfl, rfl⟩ := proper.unique members
    exact improper ⟨⟨_, rfl⟩, ⟨_, rfl⟩, ⟨i, rfl, natural⟩⟩

/-- The candidate of an ICE message is read. -/
theorem IsDocument.read (parsed : stringToJson L message = .ok json)
    (document : IsDocument json ice) : fromJsonString L message = .ok ice := by
  obtain ⟨i, members, candidate, sdpMid, natural, -, rfl⟩ := document
  refine (fromJsonString_eq_ok parsed).mpr
    ⟨_, _, _, members, rfl, rfl, Json.asInt_toInt _, candidate, sdpMid, ?_⟩
  intro missing
  rw [missing] at natural
  exact absurd natural (by decide)

/-- A document that is read without a loss is an ICE message. -/
theorem isDocument_of_read (parsed : stringToJson L message = .ok json) (proper : ¬ Lossy json)
    (read : fromJsonString L message = .ok ice) : IsDocument json ice := by
  obtain ⟨c, m, x, members, hc, hm, hx, candidate, sdpMid, known⟩ :=
    (fromJsonString_eq_ok parsed).mp read
  have index : x.ReadsAsIndex := Json.readsAsIndex_iff.mpr ⟨_, hx, known⟩
  have types : c.IsString ∧ m.IsString ∧ x.IsNatural := by
    by_contra improper
    exact proper ⟨c, m, x, members, Json.readsAsText_iff.mpr ⟨_, hc, candidate⟩,
      Json.readsAsText_iff.mpr ⟨_, hm, sdpMid⟩, index, improper⟩
  obtain ⟨⟨c, rfl⟩, ⟨m, rfl⟩, ⟨i, rfl, natural⟩⟩ := types
  obtain ⟨low, high, -⟩ := index
  cases hc
  cases hm
  have value : Int32.ofInt i = ice.sdpMlineIndex := by
    simpa only [Json.asInt, if_pos (And.intro low high), Except.ok.injEq] using hx
  refine ⟨i, members, candidate, sdpMid, natural, high, ?_⟩
  rw [← value, Json.toInt_ofInt low high]

/-- **The documents that are read as ICE messages.** `FromJsonString` takes
exactly the ICE messages unless the document is lossy. -/
theorem reads_exactly_iff (parsed : stringToJson L message = .ok json) :
    ReadsExactly L message json ↔ ¬ Lossy json := by
  constructor
  · intro exactly lossy
    obtain ⟨ice, read, other⟩ := lossy.read parsed
    exact other ((exactly.returns ice).mp read)
  · intro proper
    have returns : ∀ ice, fromJsonString L message = .ok ice ↔ IsDocument json ice :=
      fun ice => ⟨isDocument_of_read parsed proper, IsDocument.read parsed⟩
    refine ⟨returns, fun other => ?_⟩
    cases read : fromJsonString L message with
    | ok ice => exact absurd ((returns ice).mp read) (other ice)
    | error what => exact ⟨what, rfl⟩

end Reading

/-- The members of a document that was written for a candidate. -/
theorem hasMembers_members (ice : Ice) : HasMembers (.obj ice.members) (.str ice.candidate)
    (.str ice.sdpMid) (.int ice.sdpMlineIndex.toInt) :=
  ⟨ice.members, rfl, rfl, rfl, rfl, rfl⟩

/-- The document of a candidate with an index is read as an ICE message. -/
theorem reads_exactly_host :
    stringToJson .reference ((Ice.mk (utf8 "candidate:1") (utf8 "0") 0).toJsonString .reference) =
        .ok (.obj (Ice.mk (utf8 "candidate:1") (utf8 "0") 0).members) ∧
      ReadsExactly .reference
        ((Ice.mk (utf8 "candidate:1") (utf8 "0") 0).toJsonString .reference)
        (.obj (Ice.mk (utf8 "candidate:1") (utf8 "0") 0).members) := by
  have text : (Ice.mk (utf8 "candidate:1") (utf8 "0") 0).IsText := ⟨⟨_, rfl⟩, ⟨_, rfl⟩⟩
  have parsed := stringToJson_toJsonString (L := .reference) text
  refine ⟨parsed, (reads_exactly_iff parsed).mpr ?_⟩
  rintro ⟨c, m, x, members, -, -, -, improper⟩
  obtain ⟨rfl, rfl, rfl⟩ := (hasMembers_members _).unique members
  exact improper ⟨⟨_, rfl⟩, ⟨_, rfl⟩, ⟨_, rfl, by decide⟩⟩

/-- The document with the index -2 is read as a candidate too. -/
theorem reads_negative_index :
    stringToJson .reference ((Ice.mk (utf8 "candidate:1") (utf8 "0") (-2)).toJsonString .reference)
        = .ok (.obj (Ice.mk (utf8 "candidate:1") (utf8 "0") (-2)).members) ∧
      fromJsonString .reference
          ((Ice.mk (utf8 "candidate:1") (utf8 "0") (-2)).toJsonString .reference) =
        .ok (Ice.mk (utf8 "candidate:1") (utf8 "0") (-2)) ∧
      ¬ ReadsExactly .reference
        ((Ice.mk (utf8 "candidate:1") (utf8 "0") (-2)).toJsonString .reference)
        (.obj (Ice.mk (utf8 "candidate:1") (utf8 "0") (-2)).members) := by
  have text : (Ice.mk (utf8 "candidate:1") (utf8 "0") (-2)).IsText := ⟨⟨_, rfl⟩, ⟨_, rfl⟩⟩
  have read : fromJsonString .reference
      ((Ice.mk (utf8 "candidate:1") (utf8 "0") (-2)).toJsonString .reference) =
        .ok (Ice.mk (utf8 "candidate:1") (utf8 "0") (-2)) := by
    rw [fromJsonString_toJsonString text, if_pos (by decide)]
  refine ⟨stringToJson_toJsonString text, read, ?_⟩
  intro exactly
  obtain ⟨i, members, -, -, natural, -⟩ := (exactly.returns _).mp read
  obtain ⟨-, -, eq⟩ := (hasMembers_members _).unique members
  rw [Json.int.inj eq] at natural
  exact absurd natural (by decide)

end WebrtcSample.Ice
