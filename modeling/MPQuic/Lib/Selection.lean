import Mathlib.Data.List.Induction

/-!
# Selection by a scan

A loop that goes over a list and keeps the best element so far. Whatever the comparison is, the
loop finds nothing only if no element is eligible. If the comparison is transitive, what it finds is
at least as good as everything that is eligible; which one of several best elements it finds depends
on the order of the list.
-/

namespace Selection

open List

variable {α : Type*} {xs : List α} {best : α}

/-- One round of such a loop: an eligible element is taken if there is none yet, and an element
that was found is only ever replaced. -/
structure Considers (eligible : α → Prop) (consider : Option α → α → Option α) : Prop where
  first : ∀ a, consider none a = none ↔ ¬ eligible a
  later : ∀ best a, consider (some best) a ≠ none

variable {eligible : α → Prop} {consider : Option α → α → Option α}

theorem Considers.foldl_some_ne_none (rounds : Considers eligible consider) (xs : List α) :
    ∀ best, xs.foldl consider (some best) ≠ none := by
  induction xs with
  | nil =>
    intro best
    exact Option.some_ne_none best
  | cons x xs ih =>
    intro best
    obtain ⟨next, found⟩ := Option.ne_none_iff_exists'.mp (rounds.later best x)
    rw [foldl_cons, found]
    exact ih next

theorem Considers.foldl_eq_none_iff (rounds : Considers eligible consider) (xs : List α) :
    xs.foldl consider none = none ↔ ∀ x ∈ xs, ¬ eligible x := by
  induction xs with
  | nil => simp
  | cons x xs ih =>
    rw [foldl_cons, forall_mem_cons]
    cases first : consider none x with
    | none =>
      rw [ih]
      exact ⟨fun rest => ⟨(rounds.first x).mp first, rest⟩, fun both => both.2⟩
    | some best =>
      constructor
      · intro nothing
        exact absurd nothing (rounds.foldl_some_ne_none xs best)
      · rintro ⟨notX, -⟩
        rw [(rounds.first x).mpr notX] at first
        cases first

/-! ## The best element -/

/-- One round of a loop that keeps the better one of two elements; `le a b` says that `a` is at
least as good as `b`. -/
structure Picks (eligible : α → Prop) (le : α → α → Prop) (consider : Option α → α → Option α) :
    Prop extends Considers eligible consider where
  refl : ∀ a, le a a
  trans : ∀ a b c, le a b → le b c → le a c
  begins : ∀ a, eligible a → consider none a = some a
  skips : ∀ best a, eligible best → ¬ eligible a → consider (some best) a = some best
  compares : ∀ best a, eligible best → eligible a →
    consider (some best) a = some best ∧ le best a ∨ consider (some best) a = some a ∧ le a best

variable {le : α → α → Prop}

section

variable (rounds : Picks eligible le consider)

include rounds

/-- What the loop finds is eligible, and at least as good as anything else that is. -/
theorem Picks.foldl_eq_some :
    ∀ {best : α}, xs.foldl consider none = some best →
      best ∈ xs ∧ eligible best ∧ ∀ x ∈ xs, eligible x → le best x := by
  -- the invariant is about the elements seen so far, so the list grows at its end
  induction xs using List.reverseRecOn with
  | nil =>
    intro best found
    cases found
  | append_singleton xs x ih =>
    intro best found
    rw [foldl_append, foldl_cons, foldl_nil] at found
    simp only [mem_append, mem_singleton]
    cases sofar : xs.foldl consider none with
    | none =>
      have nothing := (rounds.foldl_eq_none_iff xs).mp sofar
      rw [sofar] at found
      by_cases able : eligible x
      · rw [rounds.begins x able] at found
        cases found
        refine ⟨Or.inr rfl, able, ?_⟩
        rintro y (seen | rfl) ableY
        · exact absurd ableY (nothing y seen)
        · exact rounds.refl y
      · rw [(rounds.first x).mpr able] at found
        cases found
    | some old =>
      obtain ⟨seen, ableOld, least⟩ := ih sofar
      rw [sofar] at found
      by_cases able : eligible x
      · rcases rounds.compares old x ableOld able with ⟨kept, better⟩ | ⟨taken, better⟩
        · rw [kept] at found
          cases found
          refine ⟨Or.inl seen, ableOld, ?_⟩
          rintro y (seenY | rfl) ableY
          · exact least y seenY ableY
          · exact better
        · rw [taken] at found
          cases found
          refine ⟨Or.inr rfl, able, ?_⟩
          rintro y (seenY | rfl) ableY
          · exact rounds.trans _ _ _ better (least y seenY ableY)
          · exact rounds.refl y
      · rw [rounds.skips old x ableOld able] at found
        cases found
        refine ⟨Or.inl seen, ableOld, ?_⟩
        rintro y (seenY | rfl) ableY
        · exact least y seenY ableY
        · exact absurd ableY able

/-- An element that is visited first is found, if nothing replaces it. -/
theorem Picks.foldl_of_first (able : eligible best)
    (keeps : ∀ x ∈ xs, eligible x → consider (some best) x = some best) :
    (best :: xs).foldl consider none = some best := by
  have stays : ∀ ys : List α, (∀ y ∈ ys, eligible y → consider (some best) y = some best) →
      ys.foldl consider (some best) = some best := by
    intro ys
    induction ys with
    | nil => exact fun _ => rfl
    | cons y ys ih =>
      intro keeps
      have kept : consider (some best) y = some best := by
        by_cases ableY : eligible y
        · exact keeps y mem_cons_self ableY
        · exact rounds.skips best y able ableY
      rw [foldl_cons, kept]
      exact ih fun z mem => keeps z (mem_cons_of_mem _ mem)
  rw [foldl_cons, rounds.begins best able]
  exact stays xs keeps

/-- An element that is visited last is found, if it replaces everything before it. -/
theorem Picks.foldl_of_last (able : eligible best)
    (replaces : ∀ x ∈ xs, eligible x → consider (some x) best = some best) :
    (xs ++ [best]).foldl consider none = some best := by
  rw [foldl_append, foldl_cons, foldl_nil]
  cases sofar : xs.foldl consider none with
  | none => exact rounds.begins best able
  | some old =>
    obtain ⟨seen, ableOld, -⟩ := rounds.foldl_eq_some sofar
    exact replaces old seen ableOld

end

end Selection
