import Mathlib.Logic.Relation
import Mathlib.Data.Nat.Notation

/-!
# Credit windows

A receiver gives its peer credit up to a limit, and renews it when less than half an
increment is left. The increment may be raised or doubled, but not past a cap; when it
starts above the cap, such a step lowers it.

The limit never goes down as long as half of the increment is within the cap
(`limit_le_of_moves`), and otherwise there is a run in which it goes down
(`exists_shrink`).
-/

namespace CreditWindow

/-- A receive window. -/
structure Window where
  consumed : ℕ
  limit : ℕ
  increment : ℕ
  cap : ℕ

/-- The window before anything was consumed. -/
def start (increment cap : ℕ) : Window where
  consumed := 0
  limit := increment
  increment
  cap

/-- Less than half an increment is left. -/
def Due (w : Window) : Prop := w.consumed ≤ w.limit ∧ w.limit - w.consumed < w.increment / 2

/-- The limit is moved one increment ahead. -/
def renewed (w : Window) : Window := { w with limit := w.consumed + w.increment }

/-- What changes a window. -/
inductive Move : Window → Window → Prop
  | consume (w : Window) (n : ℕ) : Move w { w with consumed := w.consumed + n }
  | raise (w : Window) (increment : ℕ) (more : w.increment < increment) :
    Move w { w with increment := min increment w.cap }
  | renew (w : Window) (due : Due w) : Move w (renewed w)
  | double (w : Window) (due : Due w) :
    Move w (renewed { w with increment := min (w.increment + w.increment) w.cap })

/-- A renewal with a capped increment covers what is left. -/
def Steady (w : Window) : Prop := w.increment / 2 ≤ w.cap + 1

variable {w w' : Window}

theorem Steady.move (steady : Steady w) (move : Move w w') : Steady w' := by
  unfold Steady at steady ⊢
  cases move with
  | consume n => exact steady
  | raise increment more =>
    simp only
    omega
  | renew due => exact steady
  | double due =>
    simp only [renewed]
    omega

theorem limit_le_of_move (steady : Steady w) (move : Move w w') : w.limit ≤ w'.limit := by
  unfold Steady at steady
  cases move with
  | renew due =>
    obtain ⟨-, left⟩ := due
    simp only [renewed]
    omega
  | double due =>
    obtain ⟨-, left⟩ := due
    simp only [renewed]
    omega
  | _ => exact Nat.le_refl _

theorem Steady.moves (steady : Steady w) (moves : Relation.ReflTransGen Move w w') : Steady w' := by
  induction moves with
  | refl => exact steady
  | tail _ move ih => exact ih.move move

/-- The limit never goes down. -/
theorem limit_le_of_moves (steady : Steady w) (moves : Relation.ReflTransGen Move w w') :
    w.limit ≤ w'.limit := by
  induction moves with
  | refl => exact Nat.le_refl _
  | tail before move ih => exact Nat.le_trans ih (limit_le_of_move (steady.moves before) move)

/-- What has to be consumed of a fresh window so that the least possible is left. -/
def lastRenewal (increment : ℕ) : ℕ := increment + 1 - increment / 2

/-- When half of the increment exceeds the cap, doubling takes credit back. -/
theorem exists_shrink {increment cap : ℕ} (above : ¬ Steady (start increment cap)) :
    let w := { start increment cap with consumed := lastRenewal increment }
    Due w ∧
      (renewed { w with increment := min (w.increment + w.increment) w.cap }).limit < w.limit := by
  unfold Steady at above
  simp only [Due, renewed, start, lastRenewal] at above ⊢
  omega

end CreditWindow
