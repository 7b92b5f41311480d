import Mathlib.Data.List.Pairwise
import Mathlib.Data.List.Perm.Basic

/-!
# Lists with increasing keys

A linked list whose elements carry strictly increasing keys, with removal of an element
by its key. Removal takes out exactly that element, and a loop that removes the elements
of a selection one by one leaves the others (`Increasing.foldl_remove`); an invariant that
every single removal keeps holds after the whole loop (`Increasing.foldl_invariant`).
-/

namespace KeyedList

open List

variable {α σ : Type} {key : α → Nat} {x y : α} {l : List α}

/-- The keys strictly increase along the list. -/
def Increasing (key : α → Nat) (l : List α) : Prop := l.Pairwise fun x y => key x < key y

/-- Remove the first element with the key of `x`. -/
def remove (key : α → Nat) (l : List α) (x : α) : List α := l.eraseP fun y => key y == key x

theorem remove_cons_of_eq (same : key y = key x) (l : List α) : remove key (y :: l) x = l := by
  simp [remove, same]

theorem remove_cons_of_ne (differ : key y ≠ key x) (l : List α) :
    remove key (y :: l) x = y :: remove key l x := by
  simp [remove, differ]

theorem Increasing.tail (inc : Increasing key (x :: l)) : Increasing key l :=
  (pairwise_cons.mp inc).2

theorem Increasing.head_lt (inc : Increasing key (x :: l)) : ∀ y ∈ l, key x < key y :=
  (pairwise_cons.mp inc).1

section

variable (inc : Increasing key l)

include inc

theorem Increasing.sublist {front : List α} (sub : front.Sublist l) : Increasing key front :=
  List.Pairwise.sublist sub inc

theorem Increasing.remove (x : α) : Increasing key (remove key l x) :=
  inc.sublist eraseP_sublist

/-- An element above all others can be appended. -/
theorem Increasing.append_last (above : ∀ y ∈ l, key y < key x) : Increasing key (l ++ [x]) := by
  refine pairwise_append.mpr ⟨inc, pairwise_singleton _ _, ?_⟩
  intro y mem z last
  obtain rfl := mem_singleton.mp last
  exact above y mem

/-- Two elements with the same key are the same element. -/
theorem Increasing.eq_of_key_eq (memX : x ∈ l) (memY : y ∈ l) (same : key x = key y) : x = y := by
  induction l with
  | nil => exact absurd memX not_mem_nil
  | cons z l ih =>
    rcases mem_cons.mp memX with rfl | tailX
    · rcases mem_cons.mp memY with rfl | tailY
      · rfl
      · exact absurd same (Nat.ne_of_lt (inc.head_lt y tailY))
    · rcases mem_cons.mp memY with rfl | tailY
      · exact absurd same (Nat.ne_of_gt (inc.head_lt x tailX))
      · exact ih inc.tail tailX tailY

/-- Removal is exact: the list is the removed element and the rest. -/
theorem Increasing.perm_remove (mem : x ∈ l) : l.Perm (x :: KeyedList.remove key l x) := by
  induction l with
  | nil => exact absurd mem not_mem_nil
  | cons y l ih =>
    rcases mem_cons.mp mem with rfl | mem
    · rw [remove_cons_of_eq rfl]
    · rw [remove_cons_of_ne (Nat.ne_of_lt (inc.head_lt x mem))]
      exact ((ih inc.tail mem).cons y).trans (List.Perm.swap x y _)

theorem Increasing.remove_eq_filter (x : α) :
    KeyedList.remove key l x = l.filter fun y => key y ≠ key x := by
  induction l with
  | nil => rfl
  | cons y l ih =>
    by_cases same : key y = key x
    · have others : ∀ z ∈ l, decide (key z ≠ key x) = true := by
        intro z mem
        have above := inc.head_lt z mem
        exact decide_eq_true (by omega)
      rw [remove_cons_of_eq same, filter_cons_of_neg (by simp [same]),
        filter_eq_self.mpr others]
    · rw [remove_cons_of_ne same, filter_cons_of_pos (by simp [same]), ih inc.tail]

end

theorem mem_remove_of_ne (mem : y ∈ l) (differ : key y ≠ key x) : y ∈ remove key l x :=
  (mem_eraseP_of_neg (by simpa using differ)).mpr mem

theorem mem_of_mem_remove (mem : y ∈ remove key l x) : y ∈ l :=
  mem_of_mem_eraseP mem

/-- Scanning from the front up to a key selects the elements up to that key. -/
theorem Increasing.takeWhile_eq_filter (inc : Increasing key l) (bound : Nat) :
    (l.takeWhile fun y => key y ≤ bound) = l.filter fun y => key y ≤ bound := by
  induction l with
  | nil => rfl
  | cons x l ih =>
    by_cases low : key x ≤ bound
    · rw [takeWhile_cons_of_pos (by simpa using low),
        filter_cons_of_pos (by simpa using low), ih inc.tail]
    · have empty : l.filter (fun y => decide (key y ≤ bound)) = [] := by
        refine filter_eq_nil_iff.mpr fun y mem => ?_
        have above := inc.head_lt y mem
        simp only [decide_eq_true_eq]
        omega
      rw [takeWhile_cons_of_neg (by simpa using low),
        filter_cons_of_neg (by simpa using low), empty]

/-! ## Loops that remove a selection -/

section Loop

variable (items : σ → List α) {f : σ → α → σ} {s : σ}

section

variable (removes : ∀ s x, items (f s x) = KeyedList.remove key (items s) x)

include removes

/-- What every removal keeps, the loop keeps. -/
theorem Increasing.foldl_invariant {P : σ → Prop} {selected : List α}
    (step : ∀ s, ∀ x ∈ selected, P s → x ∈ items s → P (f s x)) (inc : Increasing key selected)
    (holds : P s) (sub : ∀ x ∈ selected, x ∈ items s) : P (selected.foldl f s) := by
  induction selected generalizing s with
  | nil => exact holds
  | cons x selected ih =>
    have first := step s x mem_cons_self holds (sub x mem_cons_self)
    refine ih (fun s y mem => step s y (mem_cons_of_mem _ mem)) inc.tail first
      fun y mem => ?_
    rw [removes]
    exact mem_remove_of_ne (sub y (mem_cons_of_mem _ mem))
      (Nat.ne_of_gt (inc.head_lt y mem))

/-- The loop leaves the elements that were not selected. -/
theorem Increasing.foldl_remove (selected : List α) (inc : Increasing key (items s)) :
    items (selected.foldl f s) =
      (items s).filter fun y => ∀ x ∈ selected, key y ≠ key x := by
  induction selected generalizing s with
  | nil => simp
  | cons x selected ih =>
    have rest : Increasing key (items (f s x)) := by
      rw [removes]
      exact inc.remove x
    rw [foldl_cons, ih rest, removes, inc.remove_eq_filter, filter_filter]
    refine filter_congr fun y _ => ?_
    simp [Bool.and_comm]

/-- The loop over the elements with some property leaves those without it. -/
theorem Increasing.foldl_remove_filter (select : α → Bool) (inc : Increasing key (items s)) :
    items (((items s).filter select).foldl f s) = (items s).filter fun y => !select y := by
  rw [inc.foldl_remove items removes]
  refine filter_congr fun y mem => ?_
  rw [Bool.eq_iff_iff, decide_eq_true_eq, Bool.not_eq_true', ← Bool.not_eq_true]
  constructor
  · intro others selected
    exact others y (mem_filter.mpr ⟨mem, selected⟩) rfl
  · rintro notSelected x memX same
    obtain ⟨memX, selected⟩ := mem_filter.mp memX
    obtain rfl := inc.eq_of_key_eq mem memX same
    exact notSelected selected

end

end Loop

end KeyedList
