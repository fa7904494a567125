import Mathlib.Data.List.Basic

/-!
A FIFO link that can be cut or shut.

`Fifo α` keeps, beside the items in flight, the two histories that say what the
link is for: everything handed to it and everything it delivered. The fields
`ordered` and `intact_eq` are the link's contract, so no value of the type loses,
duplicates or reorders an item while it is intact, and none ever delivers
anything but a prefix of what was sent.
-/

/-- A FIFO link with its histories. -/
structure Fifo (α : Type*) where
  sent : List α
  received : List α
  inFlight : List α
  /-- The link takes items, and none has been dropped so far. -/
  intact : Bool
  ordered : received ++ inFlight <+: sent
  intact_eq : intact = true → received ++ inFlight = sent

namespace Fifo

variable {α : Type*}

def empty : Fifo α := ⟨[], [], [], true, List.prefix_refl _, fun _ => rfl⟩

/-- Hand an item to the link. A link that was cut or shut loses it. -/
def push (q : Fifo α) (a : α) : Fifo α where
  sent := q.sent ++ [a]
  received := q.received
  inFlight := if q.intact then q.inFlight ++ [a] else q.inFlight
  intact := q.intact
  ordered := by
    cases h : q.intact with
    | true => simp [← q.intact_eq h]
    | false => simpa using q.ordered.trans (List.prefix_append _ _)
  intact_eq := by
    intro h
    simp [h, ← q.intact_eq h]

/-- Hand over several items, in order. -/
def pushAll (q : Fifo α) (as : List α) : Fifo α := as.foldl push q

/-- Deliver the oldest item in flight. -/
def pop (q : Fifo α) : Option (α × Fifo α) :=
  match h : q.inFlight with
  | [] => none
  | a :: rest => some (a,
      { q with
        received := q.received ++ [a]
        inFlight := rest
        ordered := by simpa [h] using q.ordered
        intact_eq := fun i => by simpa [h] using q.intact_eq i })

/-- The receiver is gone: what is in flight is lost, and so is all that follows. -/
def cut (q : Fifo α) : Fifo α where
  sent := q.sent
  received := q.received
  inFlight := []
  intact := false
  ordered := by simpa using (List.prefix_append _ _).trans q.ordered
  intact_eq := by simp

/-- The link takes nothing more; what is in flight still arrives. -/
def shut (q : Fifo α) : Fifo α where
  sent := q.sent
  received := q.received
  inFlight := q.inFlight
  intact := false
  ordered := q.ordered
  intact_eq := by simp

@[simp] theorem empty_sent : (empty : Fifo α).sent = [] := rfl
@[simp] theorem empty_received : (empty : Fifo α).received = [] := rfl
@[simp] theorem push_sent (q : Fifo α) (a : α) : (q.push a).sent = q.sent ++ [a] := rfl
@[simp] theorem push_received (q : Fifo α) (a : α) : (q.push a).received = q.received := rfl
@[simp] theorem push_intact (q : Fifo α) (a : α) : (q.push a).intact = q.intact := rfl
@[simp] theorem pushAll_nil (q : Fifo α) : q.pushAll [] = q := rfl

@[simp] theorem pushAll_sent (q : Fifo α) (as : List α) : (q.pushAll as).sent = q.sent ++ as := by
  induction as generalizing q with
  | nil => simp
  | cons a as ih => simpa [pushAll] using ih (q.push a)

@[simp] theorem pushAll_received (q : Fifo α) (as : List α) :
    (q.pushAll as).received = q.received := by
  induction as generalizing q with
  | nil => rfl
  | cons a as ih => simpa [pushAll] using ih (q.push a)

@[simp] theorem pushAll_intact (q : Fifo α) (as : List α) : (q.pushAll as).intact = q.intact := by
  induction as generalizing q with
  | nil => rfl
  | cons a as ih => simpa [pushAll] using ih (q.push a)

@[simp] theorem cut_sent (q : Fifo α) : q.cut.sent = q.sent := rfl
@[simp] theorem cut_received (q : Fifo α) : q.cut.received = q.received := rfl
@[simp] theorem cut_intact (q : Fifo α) : q.cut.intact = false := rfl

/-- What has arrived was sent, in this order. -/
theorem received_of_sent (q : Fifo α) : q.received <+: q.sent :=
  (List.prefix_append _ _).trans q.ordered

/-- What one delivery does: the item comes from the head of the queue and moves
to the end of the received history. -/
theorem pop_eq_some {q r : Fifo α} {a : α} (h : q.pop = some (a, r)) :
    q.inFlight = a :: r.inFlight ∧ r.received = q.received ++ [a] ∧ r.sent = q.sent ∧
      r.intact = q.intact := by
  unfold pop at h
  split at h
  · cases h
  · rename_i b rest eq
    cases h
    exact ⟨eq, rfl, rfl, rfl⟩

/-- A link with something in flight delivers it. -/
theorem exists_pop {q : Fifo α} {a : α} {rest : List α} (next : q.inFlight = a :: rest) :
    ∃ r, q.pop = some (a, r) ∧ r.inFlight = rest := by
  have popped : ∃ r, q.pop = some (a, r) := by
    unfold pop
    split
    · rename_i empty
      simp [empty] at next
    · rename_i b rest' eq
      rw [next] at eq
      cases eq
      exact ⟨_, rfl⟩
  obtain ⟨r, pop⟩ := popped
  have same := (pop_eq_some pop).1
  rw [next] at same
  exact ⟨r, pop, (List.cons.inj same).2.symm⟩

end Fifo
