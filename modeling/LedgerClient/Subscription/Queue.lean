/-! # Bounded queues

What is put in first comes out first. A queue that is full takes nothing more.
-/

namespace LedgerClient

/-- A queue of at most so many values. -/
structure BoundedQueue (α : Type) where
  capacity : Nat
  /-- The values that wait, the oldest first. -/
  items : List α
  length_le : items.length ≤ capacity := by simp

namespace BoundedQueue

variable {α : Type}

/-- A queue in which nothing waits. -/
def empty (capacity : Nat) : BoundedQueue α where
  capacity := capacity
  items := []

theorem length_concat_le {value : α} {items : List α} {capacity : Nat}
    (room : items.length < capacity) : (items ++ [value]).length ≤ capacity := by
  rw [List.length_append, List.length_singleton]
  exact room

/-- Put a value in, unless the queue is full. -/
def push? (value : α) (queue : BoundedQueue α) : Option (BoundedQueue α) :=
  if room : queue.items.length < queue.capacity then
    some ⟨queue.capacity, queue.items ++ [value], length_concat_le room⟩
  else none

/-- The oldest value and the queue without it. -/
def pop? (queue : BoundedQueue α) : Option (α × BoundedQueue α) :=
  match h : queue.items with
  | [] => none
  | value :: rest =>
    some (value, ⟨queue.capacity, rest, by have := queue.length_le; simp [h] at this; omega⟩)

/-- What is put in waits behind all else. -/
theorem items_of_push? {value : α} {queue after : BoundedQueue α}
    (pushed : queue.push? value = some after) : after.items = queue.items ++ [value] := by
  unfold push? at pushed
  split at pushed
  · cases pushed; rfl
  · cases pushed

/-- A queue refuses a value exactly when it is full. -/
theorem push?_eq_none_iff {value : α} {queue : BoundedQueue α} :
    queue.push? value = none ↔ queue.items.length = queue.capacity := by
  have := queue.length_le
  unfold push?
  split <;> simp <;> omega

/-- What comes out was in front. -/
theorem items_of_pop? {value : α} {queue after : BoundedQueue α}
    (popped : queue.pop? = some (value, after)) : queue.items = value :: after.items := by
  unfold pop? at popped
  split at popped
  · cases popped
  · next h => cases popped; exact h

end BoundedQueue

end LedgerClient
