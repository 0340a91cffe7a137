import Mathlib.Data.List.Basic
import Mathlib.Tactic.Common

/-!
# Bounded first-in first-out queues

The abstract queue a buffer of fixed size is meant to implement. The bound is a
field, so an over-full queue cannot be written down; a push is all or nothing.
-/
namespace Lib

/-- A queue of at most `capacity` elements. -/
structure Fifo (α : Type*) where
  capacity : Nat
  contents : List α
  length_le : contents.length ≤ capacity

namespace Fifo

variable {α : Type*}

/-- The empty queue of a given size. -/
def empty (capacity : Nat) : Fifo α where
  capacity := capacity
  contents := []
  length_le := Nat.zero_le _

def room (q : Fifo α) : Nat := q.capacity - q.contents.length

/-- Append a non-empty batch that fits; any other batch is refused whole. -/
def push (q : Fifo α) (batch : List α) : Option (Fifo α) :=
  if h : 0 < batch.length ∧ batch.length ≤ q.room then
    some { q with
      contents := q.contents ++ batch
      length_le := by
        have hle := q.length_le
        have hroom : batch.length ≤ q.capacity - q.contents.length := h.2
        rw [List.length_append]
        omega }
  else none

/-- Remove up to `n` elements from the front. -/
def pop (q : Fifo α) (n : Nat) : Fifo α where
  capacity := q.capacity
  contents := q.contents.drop n
  length_le := by
    have hle := q.length_le
    rw [List.length_drop]
    omega

theorem push_of_fits {q : Fifo α} {batch : List α} (hpos : 0 < batch.length)
    (hfit : batch.length ≤ q.room) : ∃ q', q.push batch = some q' ∧
      q'.capacity = q.capacity ∧ q'.contents = q.contents ++ batch := by
  rw [push, dif_pos ⟨hpos, hfit⟩]
  exact ⟨_, rfl, rfl, rfl⟩

theorem push_of_not_fits {q : Fifo α} {batch : List α}
    (h : ¬ (0 < batch.length ∧ batch.length ≤ q.room)) : q.push batch = none := by
  rw [push, dif_neg h]

end Fifo

end Lib
