import Mathlib.Logic.Basic

/-!
Frame rules for `EStateM`.

`Keeps f p` says that `p` leaves the view `f` of the state as it found it,
whether it returns or throws. The rules below follow the structure of a `do`
block, so that a frame fact about a function is proved by walking through its
text once.
-/

namespace Effect

variable {ε σ α β : Type} {γ : Type*}

/-- The state a computation leaves, however it ends. -/
def final : EStateM.Result ε σ α → σ
  | .ok _ s => s
  | .error _ s => s

@[simp] theorem final_ok (a : α) (s : σ) : final (.ok a s : EStateM.Result ε σ α) = s := rfl

@[simp] theorem final_error (err : ε) (s : σ) :
    final (.error err s : EStateM.Result ε σ α) = s := rfl

/-- `p` leaves `f` unchanged. -/
def Keeps (f : σ → γ) (p : EStateM ε σ α) : Prop := ∀ s, f (final (p.run s)) = f s

variable {f : σ → γ}

theorem keeps_pure (a : α) : Keeps f (pure a : EStateM ε σ α) := fun _ => rfl

theorem keeps_throw (err : ε) : Keeps f (throw err : EStateM ε σ α) := fun _ => rfl

theorem keeps_get : Keeps f (get : EStateM ε σ σ) := fun _ => rfl

theorem keeps_modify {g : σ → σ} (kept : ∀ s, f (g s) = f s) :
    Keeps f (modify g : EStateM ε σ PUnit) := kept

theorem Keeps.bind {p : EStateM ε σ α} {k : α → EStateM ε σ β} (first : Keeps f p)
    (rest : ∀ a, Keeps f (k a)) : Keeps f (p >>= k) := by
  intro s
  have here := first s
  rw [EStateM.run_bind]
  cases run : p.run s with
  | ok a s' =>
      rw [run] at here
      exact (rest a s').trans here
  | error err s' =>
      rw [run] at here
      exact here

theorem Keeps.ite {c : Prop} [Decidable c] {p q : EStateM ε σ α} (yes : Keeps f p)
    (no : Keeps f q) : Keeps f (if c then p else q) := by
  split
  · exact yes
  · exact no

end Effect
