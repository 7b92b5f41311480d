import Mathlib.Data.List.Rotate

/-!
# Rotated lists

Something that goes around a list again and again, from an index on that it moves. `distance` says
how many elements come before an element. Moving the index by at most this number brings the element
as much closer (`distance_add`), and an index only counts up to the length of the list
(`distance_congr`). If an element is deleted, the list is the same from an index on if the index
goes down with the elements behind the deleted one (`erase_rotate`).
-/

namespace Rotation

open List

variable {α : Type} {l : List α} {a : α} {index step other : Nat}

theorem rotate_of_split {front back : List α} (split : l = front ++ back)
    (length : front.length = index) : l.rotate index = back ++ front := by
  rw [split, ← length, rotate_append_length_eq]

/-- Two indices stand for the same element of a list without doubles. -/
theorem head?_rotate_eq_iff (nodup : l.Nodup) (nonempty : l ≠ []) :
    (l.rotate index).head? = (l.rotate other).head? ↔ index % l.length = other % l.length := by
  have positive := length_pos_iff.mpr nonempty
  have inside := Nat.mod_lt index positive
  rw [← rotate_mod l index, ← rotate_mod l other, head?_rotate inside,
    head?_rotate (Nat.mod_lt other positive)]
  exact getElem?_inj inside nodup

variable [DecidableEq α]

/-- The number of elements before `a`, from an index on and around. -/
def distance (l : List α) (index : Nat) (a : α) : Nat := (l.rotate index).idxOf a

theorem distance_lt (mem : a ∈ l) (index : Nat) : distance l index a < l.length := by
  rw [← length_rotate l index]
  exact idxOf_lt_length_iff.mpr (mem_rotate.mpr mem)

theorem distance_congr (same : index % l.length = other % l.length) :
    distance l index a = distance l other a := by
  rw [distance, ← rotate_mod l index, same, rotate_mod, distance]

theorem distance_add (mem : a ∈ l) (before : step ≤ distance l index a) :
    distance l (index + step) a + step = distance l index a := by
  have inside := distance_lt mem index
  have fits : step ≤ (l.rotate index).length := by
    rw [length_rotate]
    omega
  have split := take_append_drop step (l.rotate index)
  have notTaken : a ∉ (l.rotate index).take step := by
    intro taken
    have early := idxOf_lt_length_iff.mpr taken
    rw [distance, ← split, idxOf_append_of_mem taken] at before
    rw [length_take] at early
    omega
  have dropped : a ∈ (l.rotate index).drop step := by
    have either : a ∈ l.rotate index := mem_rotate.mpr mem
    rw [← split] at either
    exact (mem_append.mp either).resolve_left notTaken
  rw [distance, ← rotate_rotate, rotate_eq_drop_append_take fits,
    idxOf_append_of_mem dropped, distance]
  conv_rhs => rw [← split, idxOf_append_of_notMem notTaken, length_take_of_le fits]
  exact Nat.add_comm _ _

/-- Elements that are left out bring an element closer to the front. -/
theorem idxOf_filter_le (p : α → Bool) (l : List α) (kept : p a = true) :
    (l.filter p).idxOf a ≤ l.idxOf a := by
  induction l with
  | nil => exact le_refl _
  | cons b l ih =>
    by_cases same : b = a
    · rw [same, filter_cons_of_pos kept, idxOf_cons_self]
      exact Nat.zero_le _
    · rw [idxOf_cons_ne l same]
      by_cases keeps : p b = true
      · rw [filter_cons_of_pos keeps, idxOf_cons_ne _ same]
        exact Nat.succ_le_succ ih
      · rw [filter_cons_of_neg keeps]
        exact ih.trans (Nat.le_succ _)

/-- So does what was taken from the front, of the elements that are not left out. -/
theorem length_le_distance {p : α → Bool} {front back : List α} (kept : p a = true)
    (split : (l.rotate index).filter p = front ++ back) (notMem : a ∉ front) :
    front.length ≤ distance l index a := by
  calc front.length ≤ (front ++ back).idxOf a := by
        rw [idxOf_append_of_notMem notMem]
        exact Nat.le_add_right _ _
    _ = ((l.rotate index).filter p).idxOf a := by rw [split]
    _ ≤ distance l index a := idxOf_filter_le p _ kept

/-- An element is deleted from a list without doubles. -/
theorem erase_rotate (nodup : l.Nodup) (mem : a ∈ l) (inside : index < l.length) :
    (l.rotate index).erase a =
      (l.erase a).rotate (if l.idxOf a < index then index - 1 else index) := by
  obtain ⟨front, back, rfl, notFront⟩ := eq_append_cons_of_mem mem
  have notBack : a ∉ back := (nodup_cons.mp nodup.of_append_right).1
  rw [idxOf_append_of_notMem notFront, idxOf_cons_self, Nat.add_zero,
    erase_append_right _ notFront, erase_cons_head]
  split
  · rename_i behind
    obtain ⟨taken, rfl⟩ := Nat.exists_eq_add_of_lt behind
    have few : taken ≤ back.length := by
      rw [length_append, length_cons] at inside
      omega
    have before : (front ++ a :: back).rotate (front.length + taken + 1) =
        back.drop taken ++ (front ++ a :: back.take taken) := by
      apply rotate_of_split
      · rw [append_assoc, cons_append, take_append_drop]
      · rw [length_append, length_cons, length_take_of_le few, Nat.add_assoc]
    have after : (front ++ back).rotate (front.length + taken) =
        back.drop taken ++ (front ++ back.take taken) := by
      apply rotate_of_split
      · rw [append_assoc, take_append_drop]
      · rw [length_append, length_take_of_le few]
    rw [before, Nat.add_sub_cancel, after,
      erase_append_right _ fun dropped => notBack (mem_of_mem_drop dropped),
      erase_append_right _ notFront, erase_cons_head]
  · rename_i before
    have few : index ≤ front.length := Nat.le_of_not_lt before
    have rotated (rest : List α) : (front ++ rest).rotate index =
        front.drop index ++ rest ++ front.take index := by
      apply rotate_of_split
      · rw [← append_assoc, take_append_drop]
      · exact length_take_of_le few
    rw [rotated, rotated, append_assoc, append_assoc, cons_append,
      erase_append_right _ fun dropped => notFront (mem_of_mem_drop dropped),
      erase_cons_head]

end Rotation
