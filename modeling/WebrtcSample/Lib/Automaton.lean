import Mathlib.Data.List.Induction

/-!
Deterministic event automata and the rules for reasoning over their runs.

An automaton reads a list of events; `step s e = none` means that `e` cannot
happen in `s`. Every choice of the environment (which thread moves, what a
library answers) is part of the event, so quantifying over event lists is
quantifying over schedules.

* `Reachable.invariant`: what holds initially and is kept by every step holds
  in every reachable state.
* `run_history`: the same for a relation between a state and the events that led
  to it.
* `exists_runFrom_of_rank`: what can always be lowered can be brought to zero.
* `EachStep P`: a property of every transition of a run. `EachStep.of_invariant`
  and `EachStep.congr` prove it, or exchange it, one transition at a time under
  an invariant; `EachStep.invariant` carries an invariant that only survives the
  steps meeting a side condition, and `EachStep.kept_iff` says when it does;
  `EachStep.kept_iff_of_invariant` is the same beside another invariant.
-/

/-- A partial deterministic automaton over events `ε`. -/
structure Automaton (σ : Type*) (ε : Type*) where
  init : σ
  step : σ → ε → Option σ

namespace Automaton

variable {σ : Type*} {ε : Type*} (A : Automaton σ ε)

/-- The state after reading `es` from `s`, if every event is enabled in turn. -/
def runFrom (s : σ) : List ε → Option σ
  | [] => some s
  | e :: es => (A.step s e).bind fun next => runFrom next es

/-- The state after reading `es` from the initial state. -/
def run (es : List ε) : Option σ := A.runFrom A.init es

/-- `s` is the end of some run. -/
def Reachable (s : σ) : Prop := ∃ es, A.run es = some s

variable {A}

@[simp] theorem runFrom_nil (s : σ) : A.runFrom s [] = some s := rfl

theorem runFrom_cons (s : σ) (e : ε) (es : List ε) :
    A.runFrom s (e :: es) = (A.step s e).bind fun next => A.runFrom next es := rfl

theorem runFrom_cons_eq_some {s t : σ} {e : ε} {es : List ε} :
    A.runFrom s (e :: es) = some t ↔
      ∃ next, A.step s e = some next ∧ A.runFrom next es = some t := by
  rw [runFrom_cons, Option.bind_eq_some_iff]

/-- A state kept by every step is kept by every run from it. -/
theorem runFrom_invariant {I : σ → Prop}
    (kept : ∀ s e t, I s → A.step s e = some t → I t) {s t : σ} {es : List ε}
    (start : I s) (run : A.runFrom s es = some t) : I t := by
  induction es generalizing s with
  | nil =>
      cases run
      exact start
  | cons e es ih =>
      obtain ⟨next, step, rest⟩ := runFrom_cons_eq_some.mp run
      exact ih (kept s e next start step) rest

theorem Reachable.invariant {I : σ → Prop} (start : I A.init)
    (kept : ∀ s e t, I s → A.step s e = some t → I t) {s : σ} (reach : A.Reachable s) : I s := by
  obtain ⟨es, run⟩ := reach
  exact runFrom_invariant kept start run

theorem runFrom_append (s : σ) (es fs : List ε) :
    A.runFrom s (es ++ fs) = (A.runFrom s es).bind fun t => A.runFrom t fs := by
  induction es generalizing s with
  | nil => rfl
  | cons e es ih =>
      rw [List.cons_append, runFrom_cons, runFrom_cons]
      cases A.step s e with
      | none => rfl
      | some next => exact ih next

theorem run_concat {es : List ε} {s t : σ} {e : ε} (run : A.run es = some s)
    (step : A.step s e = some t) : A.run (es ++ [e]) = some t := by
  unfold Automaton.run at run ⊢
  rw [runFrom_append, run, Option.bind_some, runFrom_cons, step]
  rfl

/-- A test of the last step of a run, as evaluation can settle it. -/
theorem exists_of_lastStep {es : List ε} {e : ε} {test : σ → σ → Bool}
    (passed : (A.run es).any (fun s => (A.step s e).any (test s)) = true) :
    ∃ s t, A.run es = some s ∧ A.step s e = some t ∧ test s t = true := by
  obtain ⟨s, run, rest⟩ := (Option.any_eq_true _ _).mp passed
  obtain ⟨t, step, holds⟩ := (Option.any_eq_true _ _).mp rest
  exact ⟨s, t, run, step, holds⟩

/-- What holds of the empty history and is kept when a step adds its event to
the history holds of every run. -/
theorem run_history {I : List ε → σ → Prop} (start : I [] A.init)
    (kept : ∀ es s e t, I es s → A.step s e = some t → I (es ++ [e]) t) {es : List ε} {s : σ}
    (run : A.run es = some s) : I es s := by
  induction es using List.reverseRecOn generalizing s with
  | nil =>
      cases run
      exact start
  | append_singleton es e ih =>
      rw [Automaton.run, runFrom_append, Option.bind_eq_some_iff] at run
      obtain ⟨mid, before, last⟩ := run
      obtain ⟨next, step, rest⟩ := runFrom_cons_eq_some.mp last
      cases rest
      exact kept es mid e s (ih before) step

/-- **Progress.** Where a rank that is not zero can always be lowered by an event of
some kind that keeps an invariant, such events lead to rank zero. -/
theorem exists_runFrom_of_rank {I : σ → Prop} {C : ε → Prop} (rank : σ → Nat)
    (lowers : ∀ s, I s → rank s ≠ 0 →
      ∃ e t, C e ∧ A.step s e = some t ∧ I t ∧ rank t < rank s) {s : σ} (start : I s) :
    ∃ es t, (∀ e ∈ es, C e) ∧ A.runFrom s es = some t ∧ I t ∧ rank t = 0 := by
  induction n : rank s using Nat.strongRecOn generalizing s with
  | _ n ih =>
      by_cases zero : rank s = 0
      · exact ⟨[], s, by simp, rfl, start, zero⟩
      · obtain ⟨e, t, kind, step, kept, lower⟩ := lowers s start zero
        obtain ⟨es, u, kinds, run, done, end_⟩ := ih (rank t) (n ▸ lower) kept rfl
        refine ⟨e :: es, u, ?_, runFrom_cons_eq_some.mpr ⟨t, step, run⟩, done, end_⟩
        simpa using ⟨kind, kinds⟩

/-! ### Properties of every transition of a run -/

variable (A)

/-- `P s e t` holds of every transition `s ⟶ t` by `e` along the events from
`s`. An event that is not enabled ends the run and asks nothing. -/
def EachStep (P : σ → ε → σ → Prop) : σ → List ε → Prop
  | _, [] => True
  | s, e :: es => ∀ t, A.step s e = some t → P s e t ∧ EachStep P t es

variable {A}

@[simp] theorem eachStep_nil {P : σ → ε → σ → Prop} (s : σ) : A.EachStep P s [] := trivial

/-- A property of every transition holds of the last one. -/
theorem EachStep.last {P : σ → ε → σ → Prop} {s t : σ} {es : List ε} {e : ε}
    (each : A.EachStep P A.init (es ++ [e])) (run : A.run es = some s)
    (step : A.step s e = some t) : P s e t := by
  unfold Automaton.run at run
  generalize A.init = start at each run
  induction es generalizing start with
  | nil =>
      cases run
      exact (each t step).1
  | cons first es ih =>
      obtain ⟨next, moved, rest⟩ := runFrom_cons_eq_some.mp run
      exact ih next (each next moved).2 rest

/-- A property of every transition is one of the transitions up to a point and of
those after it. -/
theorem eachStep_append {P : σ → ε → σ → Prop} {s : σ} {es fs : List ε} :
    A.EachStep P s (es ++ fs) ↔
      A.EachStep P s es ∧ ∀ t, A.runFrom s es = some t → A.EachStep P t fs := by
  induction es generalizing s with
  | nil => simp
  | cons e es ih =>
      constructor
      · intro each
        refine ⟨fun t step => ⟨(each t step).1, (ih.mp (each t step).2).1⟩, ?_⟩
        intro t run
        obtain ⟨next, step, rest⟩ := runFrom_cons_eq_some.mp run
        exact (ih.mp (each next step).2).2 t rest
      · rintro ⟨first, later⟩ t step
        refine ⟨(first t step).1, ih.mpr ⟨(first t step).2, ?_⟩⟩
        intro u run
        exact later u (runFrom_cons_eq_some.mpr ⟨t, step, run⟩)

/-- A property of every transition is one of the last transition of every first part. -/
theorem EachStep.of_last {P : σ → ε → σ → Prop} {es : List ε}
    (each : ∀ pre e, pre ++ [e] <+: es → ∀ s t, A.run pre = some s → A.step s e = some t →
      P s e t) : A.EachStep P A.init es := by
  induction es using List.reverseRecOn with
  | nil => trivial
  | append_singleton es e ih =>
      have before := ih fun pre e part => each pre e (part.trans (List.prefix_append es [_]))
      refine eachStep_append.mpr ⟨before, fun s run t step => ⟨?_, trivial⟩⟩
      exact each es e List.prefix_rfl s t run step

theorem EachStep.mono {P Q : σ → ε → σ → Prop} (weaker : ∀ s e t, P s e t → Q s e t) {s : σ}
    {es : List ε} (each : A.EachStep P s es) : A.EachStep Q s es := by
  induction es generalizing s with
  | nil => trivial
  | cons e es ih =>
      intro t step
      exact ⟨weaker s e t (each t step).1, ih (each t step).2⟩

/-- A condition on the events alone. -/
theorem EachStep.of_forall {C : ε → Prop} {s : σ} {es : List ε} (all : ∀ e ∈ es, C e) :
    A.EachStep (fun _ e _ => C e) s es := by
  induction es generalizing s with
  | nil => trivial
  | cons e es ih =>
      intro t _
      exact ⟨all e List.mem_cons_self, ih fun e' h => all e' (List.mem_cons_of_mem _ h)⟩

/-- An invariant that survives every step meeting `C` survives every run whose
steps all meet `C`. -/
theorem EachStep.invariant {I : σ → Prop} {C : σ → ε → σ → Prop}
    (kept : ∀ s e t, I s → A.step s e = some t → C s e t → I t) {s t : σ} {es : List ε}
    (start : I s) (cond : A.EachStep C s es) (run : A.runFrom s es = some t) : I t := by
  induction es generalizing s with
  | nil =>
      cases run
      exact start
  | cons e es ih =>
      obtain ⟨next, step, rest⟩ := runFrom_cons_eq_some.mp run
      obtain ⟨here, later⟩ := cond next step
      exact ih (kept s e next start step here) later rest

/-- Under an invariant, a property that one condition yields at each transition
holds of every transition of a run meeting the condition throughout. -/
theorem EachStep.of_invariant {I : σ → Prop} {C P : σ → ε → σ → Prop}
    (kept : ∀ s e t, I s → A.step s e = some t → C s e t → I t)
    (yields : ∀ s e t, I s → A.step s e = some t → C s e t → P s e t) {s : σ} {es : List ε}
    (start : I s) (cond : A.EachStep C s es) : A.EachStep P s es := by
  induction es generalizing s with
  | nil => trivial
  | cons e es ih =>
      intro t step
      obtain ⟨here, later⟩ := cond t step
      exact ⟨yields s e t start step here, ih (kept s e t start step here) later⟩

/-- Two transition properties that agree wherever an invariant holds agree along
every run. -/
theorem EachStep.congr {I : σ → Prop} {P Q : σ → ε → σ → Prop}
    (kept : ∀ s e t, I s → A.step s e = some t → I t)
    (agree : ∀ s e t, I s → A.step s e = some t → (P s e t ↔ Q s e t)) {s : σ} {es : List ε}
    (start : I s) : A.EachStep P s es ↔ A.EachStep Q s es :=
  ⟨EachStep.of_invariant (fun s e t i h _ => kept s e t i h)
      (fun s e t i h p => (agree s e t i h).mp p) start,
    EachStep.of_invariant (fun s e t i h _ => kept s e t i h)
      (fun s e t i h q => (agree s e t i h).mpr q) start⟩

/-- A property of states that each step keeps exactly under a condition holds all
along a run exactly if every step meets the condition. -/
theorem EachStep.kept_iff {I : σ → Prop} {C : σ → ε → σ → Prop}
    (kept : ∀ s e t, I s → A.step s e = some t → (I t ↔ C s e t)) {s : σ} {es : List ε}
    (start : I s) : A.EachStep (fun _ _ t => I t) s es ↔ A.EachStep C s es := by
  induction es generalizing s with
  | nil => exact Iff.rfl
  | cons e es ih =>
      refine forall_congr' fun t => imp_congr_right fun step => ?_
      have here := kept s e t start step
      constructor
      · rintro ⟨holds, later⟩
        exact ⟨here.mp holds, (ih holds).mp later⟩
      · rintro ⟨cond, later⟩
        exact ⟨here.mpr cond, (ih (here.mpr cond)).mpr later⟩

/-- The same under an invariant. -/
theorem EachStep.kept_iff_of_invariant {I J : σ → Prop} {C : σ → ε → σ → Prop}
    (always : ∀ s e t, J s → A.step s e = some t → J t)
    (kept : ∀ s e t, J s → I s → A.step s e = some t → (I t ↔ C s e t)) {s : σ} {es : List ε}
    (invariant : J s) (start : I s) :
    A.EachStep (fun _ _ t => I t) s es ↔ A.EachStep C s es := by
  have both : A.EachStep (fun _ _ t => J t ∧ I t) s es ↔ A.EachStep C s es := by
    refine EachStep.kept_iff (I := fun s => J s ∧ I s) ?_ ⟨invariant, start⟩
    intro s e t holds step
    exact (and_iff_right (always s e t holds.1 step)).trans (kept s e t holds.1 holds.2 step)
  refine Iff.trans (EachStep.congr always ?_ invariant) both
  intro s e t holds step
  exact (and_iff_right (always s e t holds step)).symm

end Automaton
