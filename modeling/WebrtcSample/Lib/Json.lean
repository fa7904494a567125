import Mathlib.Data.List.Basic
import Mathlib.Data.Rat.Defs

/-!
JSON documents over byte strings.

`Json` is the value a reader hands to a program; an object keeps its members
sorted by key, as a map does, so two texts of one document give one value. A
*flat* object has only string and integer members. `write` lays such an object
out with any whitespace and `read` parses it back: `read_write` is the round
trip, for every byte string and every integer.
-/

/-- The content of a byte string. -/
abbrev Bytes := List UInt8

/-- The UTF-8 encoding of a text. -/
def utf8 (s : String) : Bytes := s.toList.flatMap String.utf8EncodeChar

theorem utf8_ne_nil {s : String} (h : s ≠ "") : utf8 s ≠ [] := by
  intro empty
  rw [utf8, List.flatMap_eq_nil_iff] at empty
  have none : s.toList = [] :=
    List.eq_nil_iff_forall_not_mem.mpr fun c hc => String.utf8EncodeChar_ne_nil (empty c hc)
  exact h (String.toList_eq_nil_iff.mp none)

theorem utf8_append (s t : String) : utf8 (s ++ t) = utf8 s ++ utf8 t := by
  rw [utf8, String.toList_append, List.flatMap_append]
  rfl

/-- Different texts have different encodings. -/
theorem utf8_inj {s t : String} : utf8 s = utf8 t ↔ s = t := by
  constructor
  · intro same
    rw [← String.toByteArray_inj, ← String.utf8Encode_toList, ← String.utf8Encode_toList]
    exact congrArg List.toByteArray same
  · rintro rfl
    rfl

/-- A parsed JSON document. Every finite floating-point number is a rational. -/
inductive Json where
  | null
  | bool (b : Bool)
  | int (i : Int)
  | real (r : Rat)
  | str (s : Bytes)
  | arr (items : List Json)
  | obj (members : List (Bytes × Json))

namespace Json

/-- The members of an object, sorted by key. -/
abbrev Members := List (Bytes × Json)

/-- Store a member in a sorted list, over the previous value of its key. -/
def insertMember (key : Bytes) (value : Json) : Members → Members
  | [] => [(key, value)]
  | (k, v) :: rest =>
      if key = k then (key, value) :: rest
      else if key < k then (key, value) :: (k, v) :: rest
      else (k, v) :: insertMember key value rest

/-- The object with the given members, a later one over an earlier. -/
def ofMembers (ms : Members) : Json :=
  .obj (ms.foldl (fun acc m => insertMember m.1 m.2 acc) [])

/-- The keys are in strictly increasing order. -/
def Sorted (ms : Members) : Prop := (ms.map Prod.fst).Pairwise (· < ·)

/-- A key above all the others goes last. -/
theorem insertMember_last {key : Bytes} {value : Json} {ms : Members}
    (above : ∀ m ∈ ms, m.1 < key) : insertMember key value ms = ms ++ [(key, value)] := by
  induction ms with
  | nil => rfl
  | cons m ms ih =>
      obtain ⟨k, v⟩ := m
      have below : k < key := above (k, v) List.mem_cons_self
      have ne : key ≠ k := fun eq => List.lt_irrefl k (eq ▸ below)
      have notLt : ¬ key < k := fun lt => List.lt_asymm lt below
      simp [insertMember, ne, notLt, ih fun m hm => above m (List.mem_cons_of_mem _ hm)]

/-- Sorted members are an object's own representation. -/
theorem ofMembers_eq {ms : Members} (sorted : Sorted ms) : ofMembers ms = .obj ms := by
  suffices ∀ acc : Members, Sorted (acc ++ ms) →
      ms.foldl (fun acc m => insertMember m.1 m.2 acc) acc = acc ++ ms by
    have := this [] sorted
    simp only [List.nil_append] at this
    simp [ofMembers, this]
  clear sorted
  induction ms with
  | nil => simp
  | cons m ms ih =>
      intro acc sorted
      have above : ∀ m' ∈ acc, m'.1 < m.1 := by
        simp only [Sorted, List.map_append, List.map_cons, List.pairwise_append] at sorted
        intro m' hm'
        exact sorted.2.2 _ (List.mem_map_of_mem hm') _ (by simp)
      rw [List.foldl_cons, insertMember_last above, ih]
      · simp
      · simpa using sorted

/-! ### Flat objects as text -/

/-- A string or an integer: a member the text codec below carries. -/
def Scalar : Json → Prop
  | .str _ => True
  | .int _ => True
  | _ => False

/-- Whitespace between tokens. -/
def isSpace (b : UInt8) : Bool := b = 0x20 || b = 0x09 || b = 0x0a || b = 0x0d

def skipSpace (bs : Bytes) : Bytes := bs.dropWhile isSpace

/-- The whitespace of a written object: after the brace and each comma, around
each colon, and before the closing brace. -/
structure Layout where
  item : Bytes
  colon : Bytes
  last : Bytes
  item_space : item.all isSpace = true
  colon_space : colon.all isSpace = true
  last_space : last.all isSpace = true

def hexDigit (n : Nat) : UInt8 := UInt8.ofNat (if n < 10 then 48 + n else 87 + n)

def hexValue (b : UInt8) : Option Nat :=
  if 48 ≤ b ∧ b ≤ 57 then some (b.toNat - 48)
  else if 97 ≤ b ∧ b ≤ 102 then some (b.toNat - 87)
  else if 65 ≤ b ∧ b ≤ 70 then some (b.toNat - 55)
  else none

/-- One byte of a string literal. Bytes from 0x80 on are left as they are. -/
def escape (b : UInt8) : Bytes :=
  if b = 0x22 then [0x5c, 0x22]
  else if b = 0x5c then [0x5c, 0x5c]
  else if b = 0x0a then [0x5c, 0x6e]
  else if b = 0x0d then [0x5c, 0x72]
  else if b = 0x09 then [0x5c, 0x74]
  else if b < 0x20 then
    [0x5c, 0x75, 0x30, 0x30, hexDigit (b.toNat / 16), hexDigit (b.toNat % 16)]
  else [b]

def quote (s : Bytes) : Bytes := 0x22 :: s.flatMap escape ++ [0x22]

/-- The byte a one-letter escape stands for. -/
def unescape (b : UInt8) : Option UInt8 :=
  if b = 0x22 ∨ b = 0x5c ∨ b = 0x2f then some b
  else if b = 0x62 then some 0x08
  else if b = 0x66 then some 0x0c
  else if b = 0x6e then some 0x0a
  else if b = 0x72 then some 0x0d
  else if b = 0x74 then some 0x09
  else none

/-- The UTF-8 bytes of the code point four hex digits name. -/
def unescapeHex (a b c d : UInt8) : Option Bytes := do
  let n := 4096 * (← hexValue a) + 256 * (← hexValue b) + 16 * (← hexValue c) + (← hexValue d)
  if n.isValidChar then some (String.utf8EncodeChar (Char.ofNat n)) else none

/-- The rest of a string literal, up to its closing quote. -/
def readQuoted : Bytes → Option (Bytes × Bytes)
  | [] => none
  | b :: rest =>
      if b = 0x22 then some ([], rest)
      else if b = 0x5c then
        match rest with
        | [] => none
        | c :: rest =>
            if c = 0x75 then
              match rest with
              | d₁ :: d₂ :: d₃ :: d₄ :: rest => do
                  let head ← unescapeHex d₁ d₂ d₃ d₄
                  let (tail, rest) ← readQuoted rest
                  return (head ++ tail, rest)
              | _ => none
            else do
              let head ← unescape c
              let (tail, rest) ← readQuoted rest
              return (head :: tail, rest)
      else do
        let (tail, rest) ← readQuoted rest
        return (b :: tail, rest)

def isDigit (b : UInt8) : Bool := 48 ≤ b && b ≤ 57

def decimal (n : Nat) : Bytes := (Nat.toDigits 10 n).map fun c => UInt8.ofNat c.toNat

def writeInt : Int → Bytes
  | .ofNat n => decimal n
  | .negSucc n => 0x2d :: decimal (n + 1)

def readNat (bs : Bytes) : Option (Nat × Bytes) :=
  match bs.takeWhile isDigit with
  | [] => none
  | ds => some (ds.foldl (fun n d => 10 * n + (d.toNat - 48)) 0, bs.dropWhile isDigit)

def readInt : Bytes → Option (Int × Bytes)
  | [] => none
  | b :: rest =>
      if b = 0x2d then (readNat rest).map fun p => (-(p.1 : Int), p.2)
      else (readNat (b :: rest)).map fun p => ((p.1 : Int), p.2)

/-- The text of a scalar; other values have none here. -/
def writeScalar : Json → Bytes
  | .str s => quote s
  | .int i => writeInt i
  | _ => []

def readScalar : Bytes → Option (Json × Bytes)
  | [] => none
  | b :: rest =>
      if b = 0x22 then (readQuoted rest).map fun p => (.str p.1, p.2)
      else (readInt (b :: rest)).map fun p => (.int p.1, p.2)

def writeMember (l : Layout) (m : Bytes × Json) : Bytes :=
  quote m.1 ++ l.colon ++ 0x3a :: l.colon ++ writeScalar m.2

def readMember (bs : Bytes) : Option ((Bytes × Json) × Bytes) :=
  match skipSpace bs with
  | [] => none
  | b :: rest =>
      if b = 0x22 then do
        let (key, rest) ← readQuoted rest
        match skipSpace rest with
        | [] => none
        | c :: rest =>
            if c = 0x3a then do
              let (value, rest) ← readScalar (skipSpace rest)
              return ((key, value), rest)
            else none
      else none

/-- The members after the first, with the closing brace. -/
def writeMore (l : Layout) (ms : Members) : Bytes :=
  ms.flatMap (fun m => 0x2c :: l.item ++ writeMember l m) ++ l.last ++ [0x7d]

def write (l : Layout) : Members → Bytes
  | [] => [0x7b, 0x7d]
  | m :: ms => 0x7b :: l.item ++ writeMember l m ++ writeMore l ms

/-- Members up to the closing brace, at most `fuel` of them. -/
def readMembers : Nat → Bytes → Option (Members × Bytes)
  | 0, _ => none
  | fuel + 1, bs => do
      let (m, rest) ← readMember bs
      match skipSpace rest with
      | [] => none
      | b :: rest =>
          if b = 0x2c then (readMembers fuel rest).map fun p => (m :: p.1, p.2)
          else if b = 0x7d then some ([m], rest)
          else none

/-- A flat object; text after it is ignored. -/
def read (bs : Bytes) : Option Members :=
  match skipSpace bs with
  | [] => none
  | b :: rest =>
      if b = 0x7b then
        match skipSpace rest with
        | [] => none
        | c :: more =>
            if c = 0x7d then some []
            else (readMembers bs.length (c :: more)).map Prod.fst
      else none

/-! ### What was written reads back -/

theorem readQuoted_close (rest : Bytes) : readQuoted (0x22 :: rest) = some ([], rest) := by
  rw [readQuoted.eq_def]
  rfl

theorem readQuoted_plain {b : UInt8} (rest : Bytes) (notQuote : b ≠ 0x22) (notEscape : b ≠ 0x5c) :
    readQuoted (b :: rest) = (readQuoted rest).map fun p => (b :: p.1, p.2) := by
  rw [readQuoted.eq_def]
  simp only [notQuote, notEscape, if_false]
  cases readQuoted rest <;> rfl

theorem readQuoted_letter {c e : UInt8} (rest : Bytes) (notHex : c ≠ 0x75)
    (h : unescape c = some e) :
    readQuoted (0x5c :: c :: rest) = (readQuoted rest).map fun p => (e :: p.1, p.2) := by
  rw [readQuoted.eq_def]
  simp only [show ¬ (0x5c : UInt8) = 0x22 by decide, if_false, if_true, notHex, h]
  cases readQuoted rest <;> rfl

theorem readQuoted_hex {d₁ d₂ d₃ d₄ : UInt8} {head : Bytes} (rest : Bytes)
    (h : unescapeHex d₁ d₂ d₃ d₄ = some head) :
    readQuoted (0x5c :: 0x75 :: d₁ :: d₂ :: d₃ :: d₄ :: rest) =
      (readQuoted rest).map fun p => (head ++ p.1, p.2) := by
  rw [readQuoted.eq_def]
  simp only [show ¬ (0x5c : UInt8) = 0x22 by decide, if_false, if_true, h]
  cases readQuoted rest <;> rfl

theorem unescapeHex_control : ∀ n, n < 32 →
    unescapeHex 0x30 0x30 (hexDigit (n / 16)) (hexDigit (n % 16)) = some [UInt8.ofNat n] := by
  decide

/-- An escaped byte reads back as itself, whatever follows. -/
theorem readQuoted_escape (b : UInt8) (rest : Bytes) :
    readQuoted (escape b ++ rest) = (readQuoted rest).map fun p => (b :: p.1, p.2) := by
  unfold escape
  split
  · subst b; exact readQuoted_letter rest (by decide) rfl
  split
  · subst b; exact readQuoted_letter rest (by decide) rfl
  split
  · subst b; exact readQuoted_letter rest (by decide) rfl
  split
  · subst b; exact readQuoted_letter rest (by decide) rfl
  split
  · subst b; exact readQuoted_letter rest (by decide) rfl
  split
  · rename_i control
    have small : b.toNat < 32 := by simpa [UInt8.lt_iff_toNat_lt] using control
    have hex := readQuoted_hex rest (unescapeHex_control b.toNat small)
    simpa using hex
  · rename_i notQuote notEscape _ _ _ _
    exact readQuoted_plain rest notQuote notEscape

theorem readQuoted_flatMap_escape (s rest : Bytes) :
    readQuoted (s.flatMap escape ++ 0x22 :: rest) = some (s, rest) := by
  induction s with
  | nil => exact readQuoted_close rest
  | cons b s ih => simp [readQuoted_escape, ih]

/-- The text does not go on with a digit. -/
def NoDigit : Bytes → Prop
  | [] => True
  | b :: _ => isDigit b = false

theorem decimal_isDigit (n : Nat) : ∀ b ∈ decimal n, isDigit b = true := by
  intro b hb
  obtain ⟨c, hc, rfl⟩ := List.mem_map.mp hb
  have digit := Char.isDigit_iff_toNat.mp (Nat.isDigit_of_mem_toDigits (by decide) (by decide) hc)
  simp only [Char.reduceToNat] at digit
  have wrap : c.toNat % 256 = c.toNat := by omega
  simp [isDigit, UInt8.le_iff_toNat_le, wrap, digit]

theorem foldl_decimal (n : Nat) :
    (decimal n).foldl (fun n d => 10 * n + (d.toNat - 48)) 0 = n := by
  have value := @Nat.ofDigitChars_ten_toDigits n
  rw [Nat.ofDigitChars_eq_foldl] at value
  rw [decimal, List.foldl_map]
  refine (List.foldl_ext _ _ _ fun acc c hc => ?_).trans value
  have digit := Char.isDigit_iff_toNat.mp (Nat.isDigit_of_mem_toDigits (by decide) (by decide) hc)
  simp only [Char.reduceToNat] at digit
  have wrap : c.toNat % 256 = c.toNat := by omega
  simp [wrap]

theorem readNat_decimal (n : Nat) {rest : Bytes} (stop : NoDigit rest) :
    readNat (decimal n ++ rest) = some (n, rest) := by
  have nothing : rest.takeWhile isDigit = [] ∧ rest.dropWhile isDigit = rest := by
    cases rest with
    | nil => exact ⟨rfl, rfl⟩
    | cons b rest =>
        have head : isDigit b = false := stop
        simp [head]
  have digits : (decimal n ++ rest).takeWhile isDigit = decimal n := by
    rw [List.takeWhile_append_of_pos (decimal_isDigit n), nothing.1, List.append_nil]
  have after : (decimal n ++ rest).dropWhile isDigit = rest := by
    rw [List.dropWhile_append_of_pos (decimal_isDigit n), nothing.2]
  unfold readNat
  rw [digits, after]
  cases h : decimal n with
  | nil => simp [decimal] at h
  | cons d ds =>
      have value := foldl_decimal n
      rw [h] at value
      simp only [value]

theorem decimal_head (n : Nat) : ∃ d ds, decimal n = d :: ds ∧ isDigit d = true := by
  cases h : decimal n with
  | nil => simp [decimal] at h
  | cons d ds => exact ⟨d, ds, rfl, decimal_isDigit n d (by simp [h])⟩

theorem readInt_writeInt (i : Int) {rest : Bytes} (stop : NoDigit rest) :
    readInt (writeInt i ++ rest) = some (i, rest) := by
  cases i with
  | ofNat n =>
      obtain ⟨d, ds, eq, digit⟩ := decimal_head n
      have notMinus : d ≠ 0x2d := by rintro rfl; simp [isDigit] at digit
      have read := readNat_decimal n stop
      rw [eq] at read
      simp only [writeInt, eq, List.cons_append, readInt, notMinus, if_false]
      rw [← List.cons_append, read]
      rfl
  | negSucc n =>
      simp only [writeInt, List.cons_append, readInt, if_true, readNat_decimal (n + 1) stop]
      rfl

theorem readScalar_writeScalar {v : Json} (scalar : v.Scalar) {rest : Bytes} (stop : NoDigit rest) :
    readScalar (writeScalar v ++ rest) = some (v, rest) := by
  cases v with
  | str s =>
      have read := readQuoted_flatMap_escape s rest
      simp [writeScalar, quote, readScalar, read]
  | int i =>
      have notQuote : ∀ b tail, writeInt i ++ rest = b :: tail → b ≠ 0x22 := by
        rintro b tail eq rfl
        cases i with
        | ofNat n =>
            obtain ⟨d, ds, deq, digit⟩ := decimal_head n
            simp only [writeInt, deq, List.cons_append, List.cons.injEq] at eq
            simp [eq.1, isDigit] at digit
        | negSucc n => simp [writeInt] at eq
      have read := readInt_writeInt i stop
      cases text : writeInt i ++ rest with
      | nil =>
          rw [text] at read
          simp [readInt] at read
      | cons b tail =>
          rw [text] at read
          simp only [writeScalar, text, readScalar, notQuote b tail text, if_false, read,
            Option.map_some]
  | _ => exact absurd scalar (by simp [Scalar])

/-- Whitespace before a token is skipped. -/
theorem skipSpace_append {ws rest : Bytes} {b : UInt8} (space : ws.all isSpace = true)
    (token : isSpace b = false) : skipSpace (ws ++ b :: rest) = b :: rest := by
  rw [List.all_eq_true] at space
  rw [skipSpace, List.dropWhile_append_of_pos space, List.dropWhile_cons_of_neg (by simp [token])]

theorem skipSpace_token {b : UInt8} (rest : Bytes) (token : isSpace b = false) :
    skipSpace (b :: rest) = b :: rest :=
  @skipSpace_append [] rest b rfl token

/-- A scalar's text starts with a quote, a sign or a digit. -/
theorem writeScalar_head {v : Json} (scalar : v.Scalar) :
    ∃ b tail, writeScalar v = b :: tail ∧ isSpace b = false := by
  cases v with
  | str s => exact ⟨0x22, _, rfl, by decide⟩
  | int i =>
      cases i with
      | ofNat n =>
          obtain ⟨d, ds, eq, digit⟩ := decimal_head n
          refine ⟨d, ds, eq, ?_⟩
          simp only [isDigit, Bool.and_eq_true, decide_eq_true_eq, UInt8.le_iff_toNat_le] at digit
          simp only [isSpace, Bool.or_eq_false_iff, decide_eq_false_iff_not, ← UInt8.toNat_inj]
          simp at digit ⊢
          omega
      | negSucc n => exact ⟨0x2d, _, rfl, by decide⟩
  | _ => exact absurd scalar (by simp [Scalar])

theorem readMember_writeMember (l : Layout) {m : Bytes × Json} (scalar : m.2.Scalar)
    {ws rest : Bytes} (space : ws.all isSpace = true) (stop : NoDigit rest) :
    readMember (ws ++ writeMember l m ++ rest) = some (m, rest) := by
  obtain ⟨b, tail, head, token⟩ := writeScalar_head scalar
  have key : skipSpace (ws ++ writeMember l m ++ rest) =
      0x22 :: (m.1.flatMap escape ++
        0x22 :: (l.colon ++ 0x3a :: (l.colon ++ (writeScalar m.2 ++ rest)))) := by
    simp only [writeMember, quote, List.append_assoc, List.cons_append, List.nil_append]
    exact skipSpace_append space (by decide)
  have colon : skipSpace (l.colon ++ 0x3a :: (l.colon ++ (writeScalar m.2 ++ rest))) = _ :=
    skipSpace_append l.colon_space (by decide)
  have value : skipSpace (l.colon ++ (writeScalar m.2 ++ rest)) = writeScalar m.2 ++ rest := by
    rw [head]
    exact skipSpace_append l.colon_space token
  unfold readMember
  rw [key]
  simp [readQuoted_flatMap_escape, colon, value, readScalar_writeScalar scalar stop]

theorem noDigit_writeMore (l : Layout) (ms : Members) (rest : Bytes) :
    NoDigit (writeMore l ms ++ rest) := by
  cases ms with
  | cons m ms => exact (by decide : isDigit 0x2c = false)
  | nil =>
      simp only [writeMore, List.flatMap_nil, List.nil_append, List.append_assoc]
      cases eq : l.last with
      | nil => exact (by decide : isDigit 0x7d = false)
      | cons b ws =>
          have space := l.last_space
          simp only [eq, List.all_cons, Bool.and_eq_true, isSpace, Bool.or_eq_true,
            decide_eq_true_eq] at space
          show isDigit b = false
          rcases space.1 with ((rfl | rfl) | rfl) | rfl <;> decide

/-- Reading the members of a written object, in order, with enough fuel. -/
theorem readMembers_write (l : Layout) {m : Bytes × Json} {ms : Members} (rest : Bytes)
    {fuel : Nat} (enough : ms.length < fuel) (head : m.2.Scalar) (tail : ∀ m' ∈ ms, m'.2.Scalar)
    {ws : Bytes} (space : ws.all isSpace = true) :
    readMembers fuel (ws ++ writeMember l m ++ (writeMore l ms ++ rest)) =
      some (m :: ms, rest) := by
  induction ms generalizing m fuel ws with
  | nil =>
      obtain ⟨n, rfl⟩ : ∃ n, fuel = n + 1 := ⟨fuel - 1, by simp at enough; omega⟩
      have close : skipSpace (l.last ++ 0x7d :: rest) = _ :=
        skipSpace_append l.last_space (by decide)
      simp only [readMembers, readMember_writeMember l head space (noDigit_writeMore l [] rest)]
      simp [writeMore, close]
  | cons next ms ih =>
      obtain ⟨n, rfl⟩ : ∃ n, fuel = n + 1 := ⟨fuel - 1, by simp at enough; omega⟩
      have comma : skipSpace (writeMore l (next :: ms) ++ rest) =
          0x2c :: (l.item ++ writeMember l next ++ (writeMore l ms ++ rest)) := by
        simp only [writeMore, List.flatMap_cons, List.cons_append, List.append_assoc]
        exact skipSpace_token _ (by decide)
      have fewer : ms.length < n := by simp at enough; omega
      have more := ih fewer (tail next (by simp)) (fun m' hm' => tail m' (by simp [hm']))
        l.item_space
      simp only [readMembers, readMember_writeMember l head space (noDigit_writeMore l _ rest)]
      simp only [comma, more, if_true, Option.bind_eq_bind, Option.bind_some, Option.map_some]

theorem length_le_writeMore (l : Layout) (ms : Members) : ms.length < (writeMore l ms).length := by
  induction ms with
  | nil => simp [writeMore]
  | cons m ms ih =>
      simp only [writeMore, List.flatMap_cons, List.length_append, List.length_cons] at ih ⊢
      omega

/-- **Round trip.** A flat object reads back from any layout of it, whatever its
strings and integers are. -/
theorem read_write (l : Layout) {ms : Members} (scalars : ∀ m ∈ ms, m.2.Scalar) :
    read (write l ms) = some ms := by
  cases ms with
  | nil => simp [write, read, skipSpace, isSpace]
  | cons m ms =>
      obtain ⟨text, quoted⟩ : ∃ text, writeMember l m ++ writeMore l ms = 0x22 :: text :=
        ⟨_, by simp [writeMember, quote]; rfl⟩
      have enough : ms.length < (write l (m :: ms)).length := by
        have := length_le_writeMore l ms
        simp only [write, List.length_append, List.length_cons]
        omega
      have none : ([] : Bytes).all isSpace = true := rfl
      have members := readMembers_write l [] enough (scalars m (by simp))
        (fun m' hm' => scalars m' (by simp [hm'])) none
      simp only [List.nil_append, List.append_nil, quoted] at members
      have brace : skipSpace (write l (m :: ms)) = 0x7b :: (l.item ++ 0x22 :: text) := by
        simp only [write, List.cons_append, List.append_assoc, quoted]
        exact skipSpace_token _ (by decide)
      have first : skipSpace (l.item ++ 0x22 :: text) = _ :=
        skipSpace_append l.item_space (by decide)
      unfold read
      rw [brace]
      simp only [if_true, first]
      rw [members]
      rfl

end Json
