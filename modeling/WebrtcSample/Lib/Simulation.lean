import WebrtcSample.Lib.Automaton

/-!
Refinement between event automata.

A `Refinement` maps the states of one automaton to those of a more abstract one
and each of its transitions to an abstract event or to none, so that a transition
with an event is a transition of the abstract automaton and one without leaves the
abstract state alone. It carries the invariant under which this holds. Runs then
map to runs (`Refinement.run_trace`), and what holds in every reachable abstract
state holds of every reachable state's image (`Refinement.invariant`).
-/

namespace Automaton

variable {σ τ : Type*} {ε δ : Type*}

/-- A step by an event, or none. -/
def advance (B : Automaton τ δ) (u : τ) : Option δ → Option τ
  | none => some u
  | some d => B.step u d

/-- A map from `A` to the more abstract `B`. -/
structure Refinement (A : Automaton σ ε) (B : Automaton τ δ) where
  abs : σ → τ
  /-- The abstract event of a transition. -/
  label : σ → ε → σ → Option δ
  Inv : σ → Prop
  inv_init : Inv A.init
  inv_step : ∀ s e t, Inv s → A.step s e = some t → Inv t
  abs_init : abs A.init = B.init
  simulates : ∀ s e t, Inv s → A.step s e = some t →
    B.advance (abs s) (label s e t) = some (abs t)

namespace Refinement

variable {A : Automaton σ ε} {B : Automaton τ δ} (r : Refinement A B)

/-- The abstract events along the events `es` from `s`. -/
def traceFrom (s : σ) : List ε → List δ
  | [] => []
  | e :: es =>
      match A.step s e with
      | none => []
      | some t => (r.label s e t).toList ++ traceFrom t es

/-- The abstract events of a run. -/
def trace (es : List ε) : List δ := r.traceFrom A.init es

variable {r}

theorem runFrom_traceFrom {s t : σ} {es : List ε} (inv : r.Inv s)
    (run : A.runFrom s es = some t) :
    B.runFrom (r.abs s) (r.traceFrom s es) = some (r.abs t) := by
  induction es generalizing s with
  | nil =>
      cases run
      rfl
  | cons e es ih =>
      obtain ⟨next, step, rest⟩ := runFrom_cons_eq_some.mp run
      have later := ih (r.inv_step s e next inv step) rest
      have here := r.simulates s e next inv step
      simp only [traceFrom, step]
      cases label : r.label s e next with
      | none =>
          rw [label] at here
          rw [Option.some.inj here]
          exact later
      | some d =>
          rw [label] at here
          rw [Option.toList_some, List.singleton_append, runFrom_cons,
            show B.step (r.abs s) d = some (r.abs next) from here]
          exact later

/-- A run maps to the run of its abstract events. -/
theorem run_trace {s : σ} {es : List ε} (run : A.run es = some s) :
    B.run (r.trace es) = some (r.abs s) := by
  have mapped := runFrom_traceFrom r.inv_init run
  rwa [r.abs_init] at mapped

/-- What holds of every reachable abstract state holds of the image of every
reachable state. -/
theorem invariant {P : τ → Prop} (holds : ∀ u, B.Reachable u → P u) {s : σ}
    (reach : A.Reachable s) : P (r.abs s) := by
  obtain ⟨es, run⟩ := reach
  exact holds _ ⟨_, run_trace run⟩

end Refinement

end Automaton
