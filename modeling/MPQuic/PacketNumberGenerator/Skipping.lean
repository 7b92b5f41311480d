import MPQuic.PacketNumberGenerator
import Mathlib.Data.List.Nodup
import Mathlib.Data.List.Perm.Subperm
import Mathlib.Tactic.IntervalCases

/-!
# Skipped packet numbers

A peer that acknowledges packets it did not get is found out by the numbers that were never sent.
A fresh generator has no number to leave out: `nextToSkip` is zero, and a new one is only drawn when
the counter hits the old one. The counter does not hit zero before it wraps around, so the numbers
are `1, 2, 3, …` without a gap (`pops_fresh`) and the promise is kept only as long as no gap is due
(`skipsAsPromised_iff`).
-/

namespace MPQuic

open List

variable (averagePeriod : Nat)

/-- What the generator promises about the numbers it has given out: they increase, no two in a row
are left out, and among so many in a row one is left out. -/
structure SkipsAsPromised (averagePeriod : Nat) (issued : List Nat) : Prop where
  increasing : issued.Pairwise (· < ·)
  notTwice : ∀ n, 1 ≤ n → (∃ last ∈ issued, n + 1 ≤ last) → n ∈ issued ∨ n + 1 ∈ issued
  skips : ∀ first, 1 ≤ first → (∃ last ∈ issued, first + (3 * averagePeriod + 3) ≤ last + 1) →
    ∃ n, first ≤ n ∧ n < first + (3 * averagePeriod + 3) ∧ n ∉ issued

namespace PacketNumberGenerator

variable {randoms : List (Option UInt16)}

/-- The numbers of successive calls of `Pop`, one for each random number. -/
def pops (p : PacketNumberGenerator) : List (Option UInt16) → List Nat
  | [] => []
  | random :: randoms => (p.pop random).2 :: (p.pop random).1.pops randoms

variable {p : PacketNumberGenerator}

theorem pop_of_noSkip (noSkip : p.nextToSkip = 0) (bound : p.next + 1 < 2 ^ 64)
    (random : Option UInt16) : (p.pop random).1 = { p with next := p.next + 1 } := by
  have next : addUint64 p.next 1 = p.next + 1 := addUint64_of_lt bound
  simp only [pop, next, noSkip]
  exact congrArg Prod.fst (if_neg (Nat.succ_ne_zero _))

/-- Without a number to leave out, the generator counts up until it wraps around. -/
theorem pops_of_noSkip (noSkip : p.nextToSkip = 0) (randoms : List (Option UInt16))
    (bound : p.next + randoms.length ≤ 2 ^ 64) :
    p.pops randoms = List.range' p.next randoms.length := by
  induction randoms generalizing p with
  | nil => rfl
  | cons random randoms ih =>
    have later : (p.pop random).1.pops randoms = List.range' (p.next + 1) randoms.length := by
      -- the state after the last call does not matter, and there the counter may have wrapped
      cases randoms with
      | nil => rfl
      | cons second randoms =>
        simp only [length_cons] at bound
        rw [pop_of_noSkip noSkip (by omega)]
        exact ih noSkip (by simp only [length_cons]; omega)
    rw [pops, later, pop_snd]
    rfl

theorem pops_fresh (bound : randoms.length < 2 ^ 64) :
    (newPacketNumberGenerator averagePeriod).pops randoms = List.range' 1 randoms.length :=
  pops_of_noSkip rfl randoms (Nat.one_add_le_iff.mpr bound)

@[simp] theorem length_pops (p : PacketNumberGenerator) (randoms : List (Option UInt16)) :
    (p.pops randoms).length = randoms.length := by
  induction randoms generalizing p with
  | nil => rfl
  | cons random randoms ih => exact congrArg (· + 1) (ih _)

theorem pop_next_lt (p : PacketNumberGenerator) (random : Option UInt16) :
    (p.pop random).1.next < 2 ^ 64 := by
  simp only [pop]
  split <;> exact Nat.mod_lt _ (Nat.two_pow_pos 64)

theorem pops_lt (bound : p.next < 2 ^ 64) (randoms : List (Option UInt16)) :
    ∀ n ∈ p.pops randoms, n < 2 ^ 64 := by
  induction randoms generalizing p with
  | nil => exact forall_mem_nil _
  | cons random randoms ih =>
    rw [pops, forall_mem_cons, pop_snd]
    exact ⟨bound, ih (p.pop_next_lt random)⟩

/-- There are not enough numbers for `2 ^ 64` calls. -/
theorem length_lt_of_increasing
    (increasing : ((newPacketNumberGenerator averagePeriod).pops randoms).Pairwise (· < ·)) :
    randoms.length < 2 ^ 64 := by
  have inRange : (newPacketNumberGenerator averagePeriod).pops randoms ⊆
      List.range' 1 (2 ^ 64 - 1) := by
    intro n mem
    have first : (newPacketNumberGenerator averagePeriod).next < 2 ^ 64 :=
      Nat.one_lt_two_pow (by decide)
    have small := pops_lt first randoms n mem
    have positive : 1 ≤ n := by
      cases randoms with
      | nil => exact absurd mem not_mem_nil
      | cons random randoms =>
        rw [pops, pop_snd] at increasing mem
        rcases mem_cons.mp mem with rfl | rest
        · exact le_refl 1
        · exact (rel_of_pairwise_cons increasing rest).le
    exact mem_range'_1.mpr ⟨positive, by omega⟩
  have count := (subperm_of_subset increasing.nodup inRange).length_le
  rw [length_pops, length_range'] at count
  omega

end PacketNumberGenerator

theorem skipsAsPromised_range' (count : Nat) :
    SkipsAsPromised averagePeriod (List.range' 1 count) ↔ count < 3 * averagePeriod + 3 := by
  constructor
  · intro promised
    by_contra full
    obtain ⟨n, low, high, missing⟩ := promised.skips 1 le_rfl
      ⟨count, mem_range'_1.mpr (by omega), by omega⟩
    exact missing (mem_range'_1.mpr (by omega))
  · intro short
    refine ⟨pairwise_lt_range', fun n positive ⟨last, mem, le⟩ => Or.inl ?_,
      fun first positive ⟨last, mem, le⟩ => ?_⟩
    · have := mem_range'_1.mp mem
      exact mem_range'_1.mpr (by omega)
    · have := mem_range'_1.mp mem
      omega

/-- The promise is kept until a gap is due. The numbers of a fresh generator are as promised exactly
if there are fewer calls than the numbers of which one should be left out, and the counter has not
wrapped around. -/
theorem skipsAsPromised_iff (averagePeriod : Nat) (randoms : List (Option UInt16)) :
    SkipsAsPromised averagePeriod ((newPacketNumberGenerator averagePeriod).pops randoms) ↔
      randoms.length < 3 * averagePeriod + 3 ∧ randoms.length < 2 ^ 64 := by
  by_cases bound : randoms.length < 2 ^ 64
  · rw [PacketNumberGenerator.pops_fresh averagePeriod bound, skipsAsPromised_range',
      and_iff_left bound]
  · exact iff_of_false
      (fun promised =>
        bound (PacketNumberGenerator.length_lt_of_increasing averagePeriod promised.increasing))
      fun both => bound both.2

/-- With the average period two, nine numbers are given out without a gap. -/
theorem skipsAsPromised_never :
    ¬ SkipsAsPromised 2 ((newPacketNumberGenerator 2).pops (List.replicate 9 (some 0))) := by
  intro promised
  obtain ⟨n, low, high, missing⟩ := promised.skips 1 le_rfl ⟨9, by decide, by decide⟩
  interval_cases n <;> exact missing (by decide)

end MPQuic
