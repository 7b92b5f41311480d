import Mathlib.Data.List.Perm.Basic

/-!
# Iteration over maps

The order in which a loop over a map visits the keys is not specified. A model takes it as
an argument: any permutation of the keys is used as it is, and anything else stands for
the order in which the keys are stored.
-/

namespace MapOrder

variable {α : Type} [DecidableEq α]

/-- The keys, in the given order if it is a permutation of them. -/
def visited (order keys : List α) : List α := if order.Perm keys then order else keys

theorem visited_perm (order keys : List α) : (visited order keys).Perm keys := by
  unfold visited
  split
  · assumption
  · exact List.Perm.refl keys

theorem mem_visited {order keys : List α} {a : α} : a ∈ visited order keys ↔ a ∈ keys :=
  (visited_perm order keys).mem_iff

theorem visited_of_perm {order keys : List α} (perm : order.Perm keys) :
    visited order keys = order :=
  if_pos perm

end MapOrder
