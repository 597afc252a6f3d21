import Mathlib.Data.List.Basic

/-! Queues with room for a fixed number of elements. Elements leave a queue in the order in which they came, and a
call moves all the elements that it is asked for or none. -/

namespace Penrose

variable {α : Type}

/-- A queue, with the elements that were written and not read. -/
structure BoundedQueue (α : Type) where
  capacity : Nat
  contents : List α
  length_le : contents.length ≤ capacity

namespace BoundedQueue

def empty (capacity : Nat) : BoundedQueue α := ⟨capacity, [], Nat.zero_le capacity⟩

def availableToRead (queue : BoundedQueue α) : Nat := queue.contents.length

def availableToWrite (queue : BoundedQueue α) : Nat := queue.capacity - queue.contents.length

theorem length_append_le (queue : BoundedQueue α) {elements : List α}
    (hroom : elements.length ≤ queue.availableToWrite) :
    (queue.contents ++ elements).length ≤ queue.capacity := by
  have hlength := queue.length_le
  rw [availableToWrite] at hroom
  rw [List.length_append]
  omega

theorem length_drop_le (queue : BoundedQueue α) (count : Nat) :
    (queue.contents.drop count).length ≤ queue.capacity := by
  have hlength := queue.length_le
  rw [List.length_drop]
  omega

/-- The queue with the elements behind the others, if there is room. -/
def write (queue : BoundedQueue α) (elements : List α) : Option (BoundedQueue α) :=
  if hroom : elements.length ≤ queue.availableToWrite then
    some ⟨queue.capacity, queue.contents ++ elements, queue.length_append_le hroom⟩
  else none

/-- The first elements, if there are so many, and the queue without them. -/
def read (queue : BoundedQueue α) (count : Nat) : Option (List α × BoundedQueue α) :=
  if count ≤ queue.availableToRead then
    some (queue.contents.take count, ⟨queue.capacity, queue.contents.drop count, queue.length_drop_le count⟩)
  else none

theorem write_of_le {queue : BoundedQueue α} {elements : List α}
    (hroom : elements.length ≤ queue.availableToWrite) :
    queue.write elements = some ⟨queue.capacity, queue.contents ++ elements, queue.length_append_le hroom⟩ :=
  dif_pos hroom

theorem read_of_le {queue : BoundedQueue α} {count : Nat} (hcount : count ≤ queue.availableToRead) :
    queue.read count =
      some (queue.contents.take count, ⟨queue.capacity, queue.contents.drop count, queue.length_drop_le count⟩) :=
  if_pos hcount

/-- What a write that succeeds leaves. -/
theorem write_eq_some {queue written : BoundedQueue α} {elements : List α}
    (hwrite : queue.write elements = some written) :
    written.contents = queue.contents ++ elements ∧ written.capacity = queue.capacity := by
  rw [write] at hwrite
  split at hwrite
  · cases hwrite
    exact ⟨rfl, rfl⟩
  · cases hwrite

/-- What a read that succeeds gives, and what it leaves. -/
theorem read_eq_some {queue rest : BoundedQueue α} {count : Nat} {elements : List α}
    (hread : queue.read count = some (elements, rest)) :
    elements ++ rest.contents = queue.contents ∧ rest.capacity = queue.capacity ∧ elements.length = count := by
  rw [read] at hread
  split at hread
  next hcount =>
    cases hread
    exact ⟨List.take_append_drop .., rfl, List.length_take_of_le hcount⟩
  next => cases hread

/-- Reading makes room. -/
theorem availableToWrite_le_of_read {queue rest : BoundedQueue α} {count : Nat} {elements : List α}
    (hread : queue.read count = some (elements, rest)) : queue.availableToWrite ≤ rest.availableToWrite := by
  obtain ⟨hcontents, hcapacity, -⟩ := read_eq_some hread
  rw [availableToWrite, availableToWrite, hcapacity, ← hcontents, List.length_append]
  omega

end BoundedQueue

end Penrose
