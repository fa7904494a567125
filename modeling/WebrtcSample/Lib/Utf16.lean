import WebrtcSample.Lib.Json

/-!
Texts as UTF-16 code units.

A string of a UTF-16 language is any list of code units; `utf16` gives those of a
text. `scalars` reads a list of code units as characters, with U+FFFD for a
surrogate that has no partner, and gives a text back from its code units
(`scalars_utf16`) and from no others, unless U+FFFD is in it
(`eq_utf16_of_scalars`). `widen_utf8` compares the two encodings: taking each byte of
the UTF-8 form for a code unit of its own gives the UTF-16 form exactly for ASCII
texts.
-/

/-- A UTF-16 code unit. -/
abbrev CodeUnit := UInt16

namespace Utf16

/-- The code units of a character. -/
def encodeChar (c : Char) : List CodeUnit :=
  if c.toNat < 0x10000 then [UInt16.ofNat c.toNat]
  else
    [UInt16.ofNat (0xd800 + (c.toNat - 0x10000) / 0x400),
      UInt16.ofNat (0xdc00 + (c.toNat - 0x10000) % 0x400)]

/-- The first half of a surrogate pair. -/
def isHigh (u : CodeUnit) : Bool := 0xd800 ≤ u.toNat && u.toNat < 0xdc00

/-- The second half of a surrogate pair. -/
def isLow (u : CodeUnit) : Bool := 0xdc00 ≤ u.toNat && u.toNat < 0xe000

/-- The character of a code unit that is not half of a pair. -/
def scalar (u : CodeUnit) : Char :=
  if isHigh u || isLow u then Char.ofNat 0xfffd else Char.ofNat u.toNat

/-- The character of a surrogate pair. -/
def combine (hi lo : CodeUnit) : Char :=
  Char.ofNat (0x10000 + (hi.toNat - 0xd800) * 0x400 + (lo.toNat - 0xdc00))

/-- The characters of a list of code units. -/
def scalars : List CodeUnit → List Char
  | [] => []
  | [u] => [scalar u]
  | hi :: lo :: rest =>
      if isHigh hi && isLow lo then combine hi lo :: scalars rest
      else scalar hi :: scalars (lo :: rest)

end Utf16

/-- The UTF-16 encoding of a text. -/
def utf16 (s : String) : List CodeUnit := s.toList.flatMap Utf16.encodeChar

namespace Utf16

theorem toNat_valid (c : Char) : c.toNat < 0xd800 ∨ 0xdfff < c.toNat ∧ c.toNat < 0x110000 := c.valid

/-- A code unit that is no surrogate stands for itself. -/
theorem scalars_cons {u : CodeUnit} (high : isHigh u = false) (low : isLow u = false)
    (us : List CodeUnit) : scalars (u :: us) = Char.ofNat u.toNat :: scalars us := by
  cases us with
  | nil => simp [scalars, scalar, high, low]
  | cons v vs => simp [scalars, scalar, high, low]

theorem scalars_encodeChar (c : Char) (us : List CodeUnit) :
    scalars (encodeChar c ++ us) = c :: scalars us := by
  have valid := toNat_valid c
  unfold encodeChar
  split
  · rename_i small
    have value : (UInt16.ofNat c.toNat).toNat = c.toNat := by simp; omega
    have high : isHigh (UInt16.ofNat c.toNat) = false := by
      simp only [isHigh, value, Bool.and_eq_false_iff, decide_eq_false_iff_not]
      omega
    have low : isLow (UInt16.ofNat c.toNat) = false := by
      simp only [isLow, value, Bool.and_eq_false_iff, decide_eq_false_iff_not]
      omega
    rw [List.cons_append, List.nil_append, scalars_cons high low, value, Char.ofNat_toNat]
  · rename_i large
    generalize offset : c.toNat - 0x10000 = n
    have hi : (UInt16.ofNat (0xd800 + n / 0x400)).toNat = 0xd800 + n / 0x400 := by simp; omega
    have lo : (UInt16.ofNat (0xdc00 + n % 0x400)).toNat = 0xdc00 + n % 0x400 := by simp; omega
    have pair : (isHigh (UInt16.ofNat (0xd800 + n / 0x400)) &&
        isLow (UInt16.ofNat (0xdc00 + n % 0x400))) = true := by
      simp only [isHigh, isLow, hi, lo, Bool.and_eq_true, decide_eq_true_eq]
      omega
    have whole : 0x10000 + (0xd800 + n / 0x400 - 0xd800) * 0x400 +
        (0xdc00 + n % 0x400 - 0xdc00) = c.toNat := by
      omega
    simp only [List.cons_append, List.nil_append, scalars, pair, if_true, combine, hi, lo, whole,
      Char.ofNat_toNat]

/-- Reading the code units of a text gives the text. -/
theorem scalars_utf16 (s : String) : scalars (utf16 s) = s.toList := by
  unfold utf16
  induction s.toList with
  | nil => rfl
  | cons c cs ih => rw [List.flatMap_cons, scalars_encodeChar, ih]

theorem toNat_ofNat {n : Nat} (valid : n < 0xd800 ∨ 0xdfff < n ∧ n < 0x110000) :
    (Char.ofNat n).toNat = n := by
  rw [Char.ofNat, dif_pos valid]
  rfl

theorem encodeChar_scalar {u : CodeUnit} (whole : scalar u ≠ Char.ofNat 0xfffd) :
    encodeChar (scalar u) = [u] := by
  have bound := u.toNat_lt
  unfold scalar at whole ⊢
  split at whole
  · exact absurd rfl whole
  · rename_i single
    simp only [isHigh, isLow, Bool.or_eq_true, Bool.and_eq_true, decide_eq_true_eq] at single
    rw [if_neg (by simpa [isHigh, isLow] using single), encodeChar, toNat_ofNat (by omega),
      if_pos bound, UInt16.ofNat_toNat]

theorem encodeChar_combine {hi lo : CodeUnit} (pair : (isHigh hi && isLow lo) = true) :
    encodeChar (combine hi lo) = [hi, lo] := by
  simp only [isHigh, isLow, Bool.and_eq_true, decide_eq_true_eq] at pair
  have value : (combine hi lo).toNat =
      0x10000 + (hi.toNat - 0xd800) * 0x400 + (lo.toNat - 0xdc00) := toNat_ofNat (by omega)
  have high : 0xd800 + ((hi.toNat - 0xd800) * 0x400 + (lo.toNat - 0xdc00)) / 0x400 = hi.toNat := by
    omega
  have low : 0xdc00 + ((hi.toNat - 0xd800) * 0x400 + (lo.toNat - 0xdc00)) % 0x400 = lo.toNat := by
    omega
  rw [encodeChar, value, if_neg (by omega), Nat.add_assoc, Nat.add_sub_cancel_left, high, low,
    UInt16.ofNat_toNat, UInt16.ofNat_toNat]

/-- A list of code units that reads without U+FFFD is the encoding of what it reads
as. -/
theorem flatMap_scalars {us : List CodeUnit} (whole : Char.ofNat 0xfffd ∉ scalars us) :
    (scalars us).flatMap encodeChar = us := by
  fun_induction scalars us with
  | case1 => rfl
  | case2 u =>
      have single : scalar u ≠ Char.ofNat 0xfffd := fun eq => whole (by simp [eq])
      simp [encodeChar_scalar single]
  | case3 hi lo rest pair ih =>
      rw [List.mem_cons, not_or] at whole
      rw [List.flatMap_cons, encodeChar_combine pair, ih whole.2]
      rfl
  | case4 hi lo rest pair ih =>
      rw [List.mem_cons, not_or] at whole
      rw [List.flatMap_cons, encodeChar_scalar (Ne.symm whole.1), ih whole.2]
      rfl

/-- Only the encoding of a text reads as the text, unless U+FFFD is in it. -/
theorem eq_utf16_of_scalars {us : List CodeUnit} {s : String} (whole : Char.ofNat 0xfffd ∉ s.toList)
    (reads : scalars us = s.toList) : us = utf16 s := by
  rw [utf16, ← reads]
  exact (flatMap_scalars (reads ▸ whole)).symm

/-! ### Bytes taken for code units -/

/-- No character has more code units than bytes, and it has as many only if it is
ASCII. -/
theorem length_encodeChar (c : Char) :
    (encodeChar c).length ≤ (String.utf8EncodeChar c).length ∧
      ((encodeChar c).length = (String.utf8EncodeChar c).length ↔ c.toNat < 128) := by
  have bytes : (String.utf8EncodeChar c).length =
      if c.toNat ≤ 0x7f then 1 else if c.toNat ≤ 0x7ff then 2
      else if c.toNat ≤ 0xffff then 3 else 4 := by
    simp only [String.utf8EncodeChar, Char.toNat]
    split_ifs <;> rfl
  have units : (encodeChar c).length = if c.toNat < 0x10000 then 1 else 2 := by
    unfold encodeChar
    split_ifs <;> rfl
  rw [bytes, units]
  split_ifs <;> omega

/-- The same for texts. -/
theorem length_utf16 (cs : List Char) :
    (cs.flatMap encodeChar).length ≤ (cs.flatMap String.utf8EncodeChar).length ∧
      ((cs.flatMap encodeChar).length = (cs.flatMap String.utf8EncodeChar).length →
        ∀ c ∈ cs, c.toNat < 128) := by
  induction cs with
  | nil => simp
  | cons c cs ih =>
      obtain ⟨le, ascii⟩ := length_encodeChar c
      simp only [List.flatMap_cons, List.length_append, List.forall_mem_cons]
      refine ⟨Nat.add_le_add le ih.1, fun eq => ⟨ascii.mp ?_, ih.2 ?_⟩⟩ <;> omega

theorem widen_encodeChar {c : Char} (ascii : c.toNat < 128) :
    (String.utf8EncodeChar c).map UInt8.toUInt16 = encodeChar c := by
  have small : c.val.toNat ≤ 0x7f := Nat.le_of_lt_succ ascii
  have unit : c.toNat < 0x10000 := by omega
  have value : (UInt8.ofNat c.val.toNat).toUInt16 = UInt16.ofNat c.toNat := by
    rw [← UInt16.toNat_inj]
    show (UInt8.ofNat c.toNat).toUInt16.toNat = _
    simp
    omega
  simp only [String.utf8EncodeChar, encodeChar, if_pos small, if_pos unit, List.map_cons,
    List.map_nil, value]

/-- Bytes of UTF-8 taken for code units spell the text exactly if it is ASCII. -/
theorem widen_utf8 (s : String) :
    (utf8 s).map UInt8.toUInt16 = utf16 s ↔ ∀ c ∈ s.toList, c.toNat < 128 := by
  constructor
  · intro same
    have lengths := congrArg List.length same
    rw [List.length_map] at lengths
    exact (length_utf16 s.toList).2 lengths.symm
  · intro ascii
    rw [utf8, utf16, List.map_flatMap]
    exact List.flatMap_congr fun c mem => widen_encodeChar (ascii c mem)

end Utf16
