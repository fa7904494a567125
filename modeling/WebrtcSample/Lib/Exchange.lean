import WebrtcSample.Lib.Simulation
import Mathlib.Data.List.Infix

/-!
The offer/answer exchange.

Two parties tell each other how they can be reached. Each says one description
and then any number of candidates, and each takes in, one by one and in order,
what the other has said. The callee says nothing before it has taken something in:
its description is an answer.

The exchange knows no messages, connections or failures. It is what a session is
for, and what it may look like from outside.
-/

namespace Exchange

/-- What a party says. -/
inductive Item (D C : Type*) where
  | description (d : D)
  | candidate (c : C)
deriving DecidableEq

inductive Role where
  | caller
  | callee
deriving DecidableEq

variable {D C : Type*}

/-- What a party has said, and what it has taken in of the other's. -/
structure Party (D C : Type*) where
  said : List (Item D C)
  seen : List (Item D C)

structure State (D C : Type*) where
  caller : Party D C
  callee : Party D C

def State.initial : State D C := ⟨⟨[], []⟩, ⟨[], []⟩⟩

def State.party (x : State D C) : Role → Party D C
  | .caller => x.caller
  | .callee => x.callee

def State.other (x : State D C) : Role → Party D C
  | .caller => x.callee
  | .callee => x.caller

def State.set (x : State D C) (p : Party D C) : Role → State D C
  | .caller => { x with caller := p }
  | .callee => { x with callee := p }

inductive Move (D C : Type*) where
  | describe (who : Role) (d : D)
  | report (who : Role) (c : C)
  /-- The next thing the other said is taken in. -/
  | take (who : Role)

/-- The caller may speak first, the callee only when it has been spoken to. -/
def State.maySpeak (x : State D C) : Role → Bool
  | .caller => true
  | .callee => !x.callee.seen.isEmpty

def step (x : State D C) : Move D C → Option (State D C)
  | .describe who d =>
      if (x.party who).said.isEmpty && x.maySpeak who then
        some (x.set { x.party who with said := [.description d] } who)
      else none
  | .report who c =>
      if (x.party who).said.isEmpty then none
      else some (x.set
        { x.party who with said := (x.party who).said ++ [.candidate c] } who)
  | .take who =>
      ((x.other who).said[(x.party who).seen.length]?).map fun item =>
        x.set { x.party who with seen := (x.party who).seen ++ [item] } who

/-- The exchange as an automaton. -/
def machine (D C : Type*) : Automaton (State D C) (Move D C) := ⟨.initial, step⟩

/-! ### What the exchange guarantees -/

/-- One description, then candidates. -/
def Ordered (said : List (Item D C)) : Prop :=
  said = [] ∨ ∃ (d : D) (cs : List C), said = .description d :: cs.map .candidate

/-- What each party has taken in is what the other said, in order; and an answer
follows an offer. -/
structure State.Agrees (x : State D C) : Prop where
  ordered : ∀ who, Ordered (x.party who).said
  prefixes : ∀ who, (x.party who).seen <+: (x.other who).said
  answers : x.callee.said ≠ [] → x.callee.seen ≠ []

theorem Ordered.candidate {said : List (Item D C)} (ordered : Ordered said) (some : said ≠ [])
    (c : C) : Ordered (said ++ [.candidate c]) := by
  rcases ordered with none | ⟨d, cs, rfl⟩
  · exact absurd none some
  · exact .inr ⟨d, cs ++ [c], by simp⟩

/-- The next thing the other said extends what was seen. -/
theorem prefix_concat_of_getElem? {α : Type*} {seen said : List α} {item : α}
    (order : seen <+: said) (next : said[seen.length]? = some item) : seen ++ [item] <+: said := by
  obtain ⟨rest, rfl⟩ := order
  cases rest with
  | nil => simp at next
  | cons first rest =>
      have eq : first = item := by simpa using next
      exact ⟨rest, by simp [eq]⟩

theorem agrees_initial : (State.initial : State D C).Agrees where
  ordered := fun who => .inl (by cases who <;> rfl)
  prefixes := fun who => by cases who <;> exact List.nil_prefix
  answers := fun some => absurd rfl some

variable {x y : State D C}

/-- A party that says more keeps the agreement. -/
theorem State.Agrees.speaks (agrees : x.Agrees) (who : Role) {said : List (Item D C)}
    (more : (x.party who).said <+: said) (ordered : Ordered said) (may : x.maySpeak who = true) :
    (x.set { x.party who with said := said } who).Agrees := by
  obtain ⟨shape, prefixes, answers⟩ := agrees
  cases who with
  | caller =>
      refine ⟨fun who => ?_, fun who => ?_, answers⟩
      · cases who with
        | caller => exact ordered
        | callee => exact shape .callee
      · cases who with
        | caller => exact prefixes .caller
        | callee => exact (prefixes .callee).trans more
  | callee =>
      refine ⟨fun who => ?_, fun who => ?_, fun _ => ?_⟩
      · cases who with
        | caller => exact shape .caller
        | callee => exact ordered
      · cases who with
        | caller => exact (prefixes .caller).trans more
        | callee => exact prefixes .callee
      · intro none
        have seen : x.callee.seen = [] := none
        simp [State.maySpeak, seen] at may

/-- So does one that takes in the next thing the other said. -/
theorem State.Agrees.takes (agrees : x.Agrees) (who : Role) {item : Item D C}
    (next : (x.other who).said[(x.party who).seen.length]? = some item) :
    (x.set { x.party who with seen := (x.party who).seen ++ [item] } who).Agrees := by
  obtain ⟨shape, prefixes, answers⟩ := agrees
  have grown := prefix_concat_of_getElem? (prefixes who) next
  cases who with
  | caller =>
      refine ⟨fun who => ?_, fun who => ?_, answers⟩
      · cases who with
        | caller => exact shape .caller
        | callee => exact shape .callee
      · cases who with
        | caller => exact grown
        | callee => exact prefixes .callee
  | callee =>
      refine ⟨fun who => ?_, fun who => ?_, fun _ => ?_⟩
      · cases who with
        | caller => exact shape .caller
        | callee => exact shape .callee
      · cases who with
        | caller => exact prefixes .caller
        | callee => exact grown
      · simp [State.set]

theorem State.Agrees.step (agrees : x.Agrees) {m : Move D C}
    (h : Exchange.step x m = some y) : y.Agrees := by
  cases m with
  | describe who d =>
      simp only [Exchange.step, Option.ite_none_right_eq_some, Bool.and_eq_true,
        List.isEmpty_iff] at h
      obtain ⟨⟨silent, may⟩, eq⟩ := h
      cases eq
      exact agrees.speaks who (by rw [silent]; exact List.nil_prefix) (.inr ⟨d, [], rfl⟩) may
  | report who c =>
      simp only [Exchange.step, List.isEmpty_iff, Option.ite_none_left_eq_some] at h
      obtain ⟨spoke, eq⟩ := h
      cases eq
      have may : x.maySpeak who = true := by
        cases who with
        | caller => rfl
        | callee => simpa [State.maySpeak] using agrees.answers spoke
      exact agrees.speaks who (List.prefix_append _ _) ((agrees.ordered who).candidate spoke c) may
  | take who =>
      simp only [Exchange.step, Option.map_eq_some_iff] at h
      obtain ⟨item, next, rfl⟩ := h
      exact agrees.takes who next

/-- **Agreement**, in every reachable state of the exchange. -/
theorem agrees_of_reachable (reach : (machine D C).Reachable x) : x.Agrees :=
  reach.invariant agrees_initial fun _ _ _ agrees h => agrees.step h

/-! ### Candidates under another name -/

section Map

variable {C' : Type*} (f : C → C')

def Item.map : Item D C → Item D C'
  | .description d => .description d
  | .candidate c => .candidate (f c)

def Party.map (p : Party D C) : Party D C' := ⟨p.said.map (Item.map f), p.seen.map (Item.map f)⟩

def State.map (x : State D C) : State D C' := ⟨x.caller.map f, x.callee.map f⟩

def Move.map : Move D C → Move D C'
  | .describe who d => .describe who d
  | .report who c => .report who (f c)
  | .take who => .take who

theorem State.map_set (x : State D C) (p : Party D C) (who : Role) :
    (x.set p who).map f = (x.map f).set (p.map f) who := by
  cases who <;> rfl

theorem State.map_party (x : State D C) (who : Role) :
    (x.map f).party who = (x.party who).map f := by
  cases who <;> rfl

theorem State.map_other (x : State D C) (who : Role) :
    (x.map f).other who = (x.other who).map f := by
  cases who <;> rfl

theorem State.map_maySpeak (x : State D C) (who : Role) :
    (x.map f).maySpeak who = x.maySpeak who := by
  cases who
  · rfl
  · simp [State.maySpeak, State.map, Party.map]

/-- The exchange only passes its candidates on. -/
theorem step_map {m : Move D C} (h : step x m = some y) :
    step (x.map f) (m.map f) = some (y.map f) := by
  cases m with
  | describe who d =>
      simp only [step, Option.ite_none_right_eq_some] at h
      obtain ⟨allowed, eq⟩ := h
      cases eq
      rw [State.map_set]
      simp_all [Move.map, step, State.map_party, State.map_maySpeak, Party.map, Item.map]
  | report who c =>
      simp only [step, Option.ite_none_left_eq_some] at h
      obtain ⟨spoke, eq⟩ := h
      cases eq
      rw [State.map_set]
      simp_all [Move.map, step, State.map_party, Party.map, Item.map]
  | take who =>
      simp only [step, Option.map_eq_some_iff] at h
      obtain ⟨item, next, rfl⟩ := h
      rw [State.map_set]
      simp [Move.map, step, State.map_party, State.map_other, Party.map, next]

theorem advance_map {m : Option (Move D C)} (h : (machine D C).advance x m = some y) :
    (machine D C').advance (x.map f) (m.map (Move.map f)) = some (y.map f) := by
  cases m with
  | none => rw [Option.some.inj h]; rfl
  | some m => exact step_map f h

end Map

end Exchange
