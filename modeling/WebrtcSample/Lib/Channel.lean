import Mathlib.Data.List.Basic

/-!
An ordered channel with a bounded send buffer.

A message handed to an open channel goes on its way at once, or waits in the
buffer: because the channel is congested, or because other messages are waiting
already. When the buffer has no room for it the channel breaks. A channel that is
closed or breaks drops its buffer and refuses all that follows; what is on its way
still arrives. `accepted` is everything the channel has taken and not dropped, and
the lemmas say which operations add to it, keep it or lose from it.
-/

/-- Messages waiting, on their way and delivered, oldest first. -/
structure Channel (α : Type*) where
  buffered : List α
  inTransit : List α
  delivered : List α
  /-- Closed, by its owner or because a message found the buffer full. -/
  broken : Bool
deriving DecidableEq

namespace Channel

variable {α : Type*}

def empty : Channel α := ⟨[], [], [], false⟩

/-- What the channel has taken and not dropped. -/
def accepted (c : Channel α) : List α := c.delivered ++ c.inTransit ++ c.buffered

/-- Close the channel and drop what is waiting. -/
def close (c : Channel α) : Channel α := { c with buffered := [], broken := true }

/-- Put the oldest waiting message on its way. -/
def flush (c : Channel α) : Option (Channel α) :=
  match c.buffered with
  | [] => none
  | m :: rest => some { c with buffered := rest, inTransit := c.inTransit ++ [m] }

/-- Deliver the oldest message on its way. -/
def deliver (c : Channel α) : Option (Channel α) :=
  match c.inTransit with
  | [] => none
  | m :: rest => some { c with inTransit := rest, delivered := c.delivered ++ [m] }

section Send

variable (size : α → Nat) (capacity : Nat)

/-- The size of what is waiting. -/
def bufferedAmount (c : Channel α) : Nat := c.buffered.foldr (fun m total => size m + total) 0

/-- The buffer can take the message. -/
def room (c : Channel α) (m : α) : Bool := c.bufferedAmount size + size m ≤ capacity

/-- Hand a message to the channel. -/
def send (c : Channel α) (isOpen congested : Bool) (m : α) : Channel α :=
  if isOpen && !c.broken then
    if !congested && c.buffered.isEmpty then { c with inTransit := c.inTransit ++ [m] }
    else if c.room size capacity m then { c with buffered := c.buffered ++ [m] }
    else c.close
  else c

/-- The channel takes the message: it is open, and the message can go at once or
there is room for it. -/
def Takes (c : Channel α) (isOpen congested : Bool) (m : α) : Prop :=
  isOpen = true ∧ c.broken = false ∧
    (congested = false ∧ c.buffered = [] ∨ c.room size capacity m = true)

end Send

@[simp] theorem accepted_empty : (empty : Channel α).accepted = [] := rfl

theorem accepted_flush {c d : Channel α} (h : c.flush = some d) : d.accepted = c.accepted := by
  unfold flush at h
  split at h
  · cases h
  · rename_i m rest eq
    cases h
    simp [accepted, eq]

theorem accepted_deliver {c d : Channel α} (h : c.deliver = some d) : d.accepted = c.accepted := by
  unfold deliver at h
  split at h
  · cases h
  · rename_i m rest eq
    cases h
    simp [accepted, eq]

/-- Closing loses nothing exactly if nothing was waiting. -/
theorem accepted_close_eq_iff (c : Channel α) :
    c.close.accepted = c.accepted ↔ c.buffered = [] := by
  simp [accepted, close]

theorem length_accepted_close (c : Channel α) : c.close.accepted.length ≤ c.accepted.length := by
  simp [accepted, close]

/-- Sending adds the message exactly if the channel takes it. -/
theorem accepted_send_eq_iff (size : α → Nat) (capacity : Nat) (c : Channel α)
    (isOpen congested : Bool) (m : α) :
    (c.send size capacity isOpen congested m).accepted = c.accepted ++ [m] ↔
      c.Takes size capacity isOpen congested m := by
  -- whatever does not take the message leaves a list that is too short
  have short : ∀ d : Channel α, d.accepted.length ≤ c.accepted.length →
      d.accepted ≠ c.accepted ++ [m] := by
    intro d le eq
    have := congrArg List.length eq
    rw [List.length_append, List.length_singleton] at this
    omega
  unfold send
  split
  · rename_i ready
    simp only [Bool.and_eq_true, Bool.not_eq_true'] at ready
    obtain ⟨isOpen, whole⟩ := ready
    split
    · rename_i direct
      simp only [Bool.and_eq_true, Bool.not_eq_true', List.isEmpty_iff] at direct
      exact iff_of_true (by simp [accepted, direct.2]) ⟨isOpen, whole, .inl direct⟩
    · rename_i waits
      split
      · rename_i room
        exact iff_of_true (by simp [accepted]) ⟨isOpen, whole, .inr room⟩
      · rename_i full
        refine iff_of_false (short _ c.length_accepted_close) ?_
        rintro ⟨-, -, direct | room⟩
        · exact waits (by simp [direct.1, direct.2])
        · exact full room
  · rename_i shut
    refine iff_of_false (short c (Nat.le_refl _)) ?_
    rintro ⟨isOpen, whole, -⟩
    exact shut (by simp [isOpen, whole])

end Channel
