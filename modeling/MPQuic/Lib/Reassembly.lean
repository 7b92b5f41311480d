import Mathlib.Order.Interval.Set.Basic

/-!
# Reassembly buffers

Segments of a sequence arrive in any order and with any overlaps, and are read from the
front. A buffer knows which positions are missing and keeps segments by the position of
their first element.

A new segment may bury old ones: it starts and ends at missing positions, so what lies
between them is contained in it, and the segments there may be dropped or kept. Reading
still meets a segment whenever the next position has arrived, because the boundaries that
lead from one segment to the next avoid the buried segments (`Coherent.next`).
-/

namespace Reassembly

open List

variable {α : Type*}

/-- Segments that wait to be read. -/
structure Buffer (α : Type*) where
  missing : Set ℕ
  segment : ℕ → Option (List α)
  /-- the position of the next segment to read -/
  position : ℕ

/-- The elements of the content from a position on. -/
def slice (content : List α) (start length : ℕ) : List α := (content.drop start).take length

variable (content : List α)

theorem slice_drop (start length n : ℕ) :
    (slice content start length).drop n = slice content (start + n) (length - n) := by
  rw [slice, slice, drop_take, drop_drop]

theorem slice_take (start length n : ℕ) :
    (slice content start length).take n = slice content start (min n length) := by
  rw [slice, slice, take_take]

theorem length_slice (start length : ℕ) :
    (slice content start length).length = min length (content.length - start) := by
  rw [slice, length_take, length_drop]

/-- What comes next extends the part before it. -/
theorem take_append_slice (start length : ℕ) :
    content.take start ++ slice content start length = content.take (start + length) := by
  rw [slice, take_add]

/-- Positions at which one segment ends and the next one begins, or the missing part does. -/
structure Boundaries (b : Buffer α) (at_ : Set ℕ) : Prop where
  position : b.position ∈ at_
  resumes : ∀ p, p + 1 ∉ b.missing → p ∈ b.missing → p + 1 ∈ at_
  leads : ∀ p ∈ at_, p ∈ b.missing ∨
    ∃ data, b.segment p = some data ∧ data ≠ [] ∧ p + data.length ∈ at_

/-- The buffer holds parts of the content. -/
structure Coherent (content : List α) (b : Buffer α) : Prop where
  slice : ∀ k data, b.segment k = some data → data = slice content k data.length
  arrived : ∀ k data, b.segment k = some data →
    ∀ p ∈ Set.Ico k (k + data.length), p ∉ b.missing
  read : ∀ p < b.position, p ∉ b.missing
  beyond : ∀ p, content.length ≤ p → p ∈ b.missing
  boundaries : ∃ at_, Boundaries b at_

/-- The buffer in which everything is missing. -/
def empty : Buffer α where
  missing := Set.univ
  segment := fun _ => none
  position := 0

theorem coherent_empty : Coherent content empty where
  slice := fun _ _ found => by cases found
  arrived := fun _ _ found => by cases found
  read := fun p before => absurd before (Nat.not_lt_zero p)
  beyond := fun _ _ => Set.mem_univ _
  boundaries := ⟨{0}, Set.mem_singleton 0, fun _ arrived _ => absurd (Set.mem_univ _) arrived,
    fun _ _ => Or.inl (Set.mem_univ _)⟩

/-- A segment that starts and ends at missing positions is put into the buffer. -/
structure Insert (b : Buffer α) (start : ℕ) (data : List α) (b' : Buffer α) : Prop where
  nonempty : data ≠ []
  first : start ∈ b.missing
  last : start + data.length - 1 ∈ b.missing
  missing : b'.missing = b.missing \ Set.Ico start (start + data.length)
  inserted : b'.segment start = some data
  outside : ∀ k, k ∉ Set.Ico start (start + data.length) → b'.segment k = b.segment k
  buried : ∀ k ∈ Set.Ioo start (start + data.length),
    b'.segment k = b.segment k ∨ b'.segment k = none
  position : b'.position = b.position

/-- The next segment is taken out. -/
structure Advance (b : Buffer α) (data : List α) (b' : Buffer α) : Prop where
  head : b.segment b.position = some data
  missing : b'.missing = b.missing
  segment : ∀ k, b'.segment k = if k = b.position then none else b.segment k
  position : b'.position = b.position + data.length

/-- An empty segment is put at a missing position. -/
structure Mark (b : Buffer α) (m : ℕ) (b' : Buffer α) : Prop where
  isMissing : m ∈ b.missing
  missing : b'.missing = b.missing
  segment : ∀ k, b'.segment k = if k = m then some [] else b.segment k
  position : b'.position = b.position

section Coherent

variable {content data : List α} {b b' : Buffer α} {start : ℕ} {at_ : Set ℕ}

/-- When the next position has arrived, its segment can be read. -/
theorem Coherent.next (coherent : Coherent content b) (arrived : b.position ∉ b.missing) :
    ∃ data, b.segment b.position = some data ∧ data ≠ [] := by
  obtain ⟨at_, boundaries⟩ := coherent.boundaries
  rcases boundaries.leads _ boundaries.position with missing | ⟨data, found, nonempty, -⟩
  · exact absurd missing arrived
  · exact ⟨data, found, nonempty⟩

/-- A segment lies within the content. -/
theorem Coherent.segment_le (coherent : Coherent content b) {k : ℕ}
    (found : b.segment k = some data) (nonempty : data ≠ []) :
    k + data.length ≤ content.length := by
  by_contra outside
  have positive := length_pos_iff.mpr nonempty
  have last : k + data.length - 1 ∈ Set.Ico k (k + data.length) := ⟨by omega, by omega⟩
  exact coherent.arrived k data found _ last (coherent.beyond _ (by omega))

section

variable (insert : Insert b start data b')

include insert

theorem Insert.segment_cases (k : ℕ) :
    k = start ∧ b'.segment k = some data ∨ k ≠ start ∧ b'.segment k = b.segment k ∨
      k ∈ Set.Ioo start (start + data.length) ∧ b'.segment k = none := by
  by_cases same : k = start
  · exact Or.inl ⟨same, same ▸ insert.inserted⟩
  · by_cases inside : k ∈ Set.Ico start (start + data.length)
    · have between : k ∈ Set.Ioo start (start + data.length) :=
        ⟨lt_of_le_of_ne inside.1 (Ne.symm same), inside.2⟩
      rcases insert.buried k between with kept | dropped
      · exact Or.inr (Or.inl ⟨same, kept⟩)
      · exact Or.inr (Or.inr ⟨between, dropped⟩)
    · exact Or.inr (Or.inl ⟨same, insert.outside k inside⟩)

/-- What was not missing before is not missing now. -/
theorem Insert.mem_missing {p : ℕ} :
    p ∈ b'.missing ↔ p ∈ b.missing ∧ p ∉ Set.Ico start (start + data.length) := by
  rw [insert.missing, Set.mem_sdiff]

/-- An old segment contains neither end of the new one. -/
theorem Insert.disjoint (coherent : Coherent content b) {k : ℕ} {old : List α}
    (found : b.segment k = some old) :
    start ∉ Set.Ico k (k + old.length) ∧
      start + data.length - 1 ∉ Set.Ico k (k + old.length) :=
  ⟨fun inside => coherent.arrived k old found _ inside insert.first,
    fun inside => coherent.arrived k old found _ inside insert.last⟩

/-- The boundaries inside the new segment are given up. -/
theorem Insert.boundaries (coherent : Coherent content b) (boundaries : Boundaries b at_) :
    Boundaries b' ((at_ \ Set.Ioo start (start + data.length)) ∪ {start, start + data.length}) := by
  have positive := length_pos_iff.mpr insert.nonempty
  have kept {p : ℕ} (old : p ∈ at_) (outside : p ∉ Set.Ioo start (start + data.length)) :
      p ∈ (at_ \ Set.Ioo start (start + data.length)) ∪ {start, start + data.length} :=
    Or.inl ⟨old, outside⟩
  have ends : start + data.length ∈
      (at_ \ Set.Ioo start (start + data.length)) ∪ {start, start + data.length} :=
    Or.inr (Or.inr rfl)
  constructor
  · rw [insert.position]
    refine kept boundaries.position fun inside => ?_
    exact coherent.read start inside.1 insert.first
  · intro p resumed missing
    rw [insert.mem_missing] at resumed missing
    by_cases old : p + 1 ∈ b.missing
    · -- the end of the new segment
      have inside : p + 1 ∈ Set.Ico start (start + data.length) := by
        by_contra outside
        exact resumed ⟨old, outside⟩
      have first : p + 1 = start := by
        have before := missing.2
        rw [Set.mem_Ico] at inside before
        omega
      exact Or.inr (Or.inl first)
    · refine kept (boundaries.resumes p old missing.1) fun inside => ?_
      have before := missing.2
      rw [Set.mem_Ioo] at inside
      rw [Set.mem_Ico] at before
      omega
  · -- an old boundary leads to the next one as before
    have old {p : ℕ} (member : p ∈ at_) (outside : p ∉ Set.Ico start (start + data.length)) :
        p ∈ b'.missing ∨ ∃ next, b'.segment p = some next ∧ next ≠ [] ∧ p + next.length ∈
          (at_ \ Set.Ioo start (start + data.length)) ∪ {start, start + data.length} := by
      rcases boundaries.leads p member with missing | ⟨next, found, nonempty, reached⟩
      · exact Or.inl (insert.mem_missing.mpr ⟨missing, outside⟩)
      · refine Or.inr ⟨next, (insert.outside p outside).trans found, nonempty,
          kept reached fun inside => ?_⟩
        obtain ⟨noFirst, -⟩ := insert.disjoint coherent found
        rw [Set.mem_Ico] at noFirst outside
        rw [Set.mem_Ioo] at inside
        omega
    rintro p (⟨member, outside⟩ | rfl | rfl)
    · by_cases first : p = start
      · exact Or.inr ⟨data, first ▸ insert.inserted, insert.nonempty, first ▸ ends⟩
      · refine old member fun inside => outside ⟨?_, inside.2⟩
        exact lt_of_le_of_ne inside.1 (Ne.symm first)
    · exact Or.inr ⟨data, insert.inserted, insert.nonempty, ends⟩
    · have outside : start + data.length ∉ Set.Ico start (start + data.length) :=
        fun inside => absurd inside.2 (lt_irrefl _)
      by_cases missing : start + data.length ∈ b.missing
      · exact Or.inl (insert.mem_missing.mpr ⟨missing, outside⟩)
      · refine old ?_ outside
        have resumed := boundaries.resumes (start + data.length - 1)
        rw [Nat.sub_add_cancel (by omega)] at resumed
        exact resumed missing insert.last

end

/-- A part of the content is inserted. -/
theorem Coherent.insert (coherent : Coherent content b) (insert : Insert b start data b')
    (part : data = Reassembly.slice content start data.length) : Coherent content b' := by
  refine ⟨fun k old found => ?_, fun k old found p inside => ?_, fun p before missing => ?_,
    fun p outside => ?_, ?_⟩
  · rcases insert.segment_cases k with ⟨rfl, eq⟩ | ⟨-, eq⟩ | ⟨-, eq⟩
    · obtain rfl := Option.some.inj (eq.symm.trans found)
      exact part
    · exact coherent.slice k old (eq.symm.trans found)
    · cases eq.symm.trans found
  · rw [insert.mem_missing]
    rintro ⟨missing, outside⟩
    rcases insert.segment_cases k with ⟨rfl, eq⟩ | ⟨-, eq⟩ | ⟨-, eq⟩
    · obtain rfl := Option.some.inj (eq.symm.trans found)
      exact outside inside
    · exact coherent.arrived k old (eq.symm.trans found) p inside missing
    · cases eq.symm.trans found
  · rw [insert.position] at before
    exact coherent.read p before (insert.mem_missing.mp missing).1
  · refine insert.mem_missing.mpr ⟨coherent.beyond p outside, fun inside => ?_⟩
    have length := congrArg List.length part
    rw [length_slice] at length
    have nonempty := length_pos_iff.mpr insert.nonempty
    rw [Set.mem_Ico] at inside
    omega
  · obtain ⟨at_, boundaries⟩ := coherent.boundaries
    exact ⟨_, insert.boundaries coherent boundaries⟩

/-- The boundaries that were passed are given up. -/
theorem Advance.boundaries (advance : Advance b data b') (coherent : Coherent content b)
    (read : ∀ p < b'.position, p ∉ b.missing) (boundaries : Boundaries b at_) :
    Boundaries b' (at_ ∩ Set.Ici b'.position) := by
  constructor
  · refine ⟨?_, Set.mem_Ici.mpr (le_refl _)⟩
    rcases boundaries.leads _ boundaries.position with missing | ⟨next, found, -, reached⟩
    · have consumed : data = [] := by
        by_contra nonempty
        refine coherent.arrived _ data advance.head b.position ⟨le_refl _, ?_⟩ missing
        exact Nat.lt_add_of_pos_right (length_pos_iff.mpr nonempty)
      rw [advance.position, consumed]
      exact boundaries.position
    · obtain rfl := Option.some.inj (found.symm.trans advance.head)
      rw [advance.position]
      exact reached
  · intro p resumed missing
    rw [advance.missing] at resumed missing
    refine ⟨boundaries.resumes p resumed missing, ?_⟩
    by_contra before
    rw [Set.mem_Ici] at before
    exact read p (by omega) missing
  · rintro p ⟨member, ahead⟩
    rw [Set.mem_Ici] at ahead
    rw [advance.missing, advance.segment]
    rcases boundaries.leads p member with missing | ⟨next, found, nonempty, reached⟩
    · exact Or.inl missing
    · refine Or.inr ⟨next, ?_, nonempty, reached, ?_⟩
      · refine (if_neg fun first => ?_).trans found
        rw [first] at found ahead
        obtain rfl := Option.some.inj (found.symm.trans advance.head)
        have positive := length_pos_iff.mpr nonempty
        rw [advance.position] at ahead
        omega
      · exact Set.mem_Ici.mpr (Nat.le_add_right_of_le ahead)

theorem Coherent.advance (coherent : Coherent content b) (advance : Advance b data b') :
    Coherent content b' := by
  have kept {k : ℕ} {next : List α} (found : b'.segment k = some next) :
      b.segment k = some next := by
    rw [advance.segment] at found
    split at found
    · cases found
    · exact found
  have read : ∀ p < b'.position, p ∉ b.missing := by
    intro p before
    rw [advance.position] at before
    rcases lt_or_ge p b.position with already | now
    · exact coherent.read p already
    · exact coherent.arrived _ data advance.head p ⟨now, before⟩
  refine ⟨fun k next found => coherent.slice k next (kept found), fun k next found => ?_, ?_, ?_,
    ?_⟩
  · rw [advance.missing]
    exact coherent.arrived k next (kept found)
  · rw [advance.missing]
    exact read
  · rw [advance.missing]
    exact coherent.beyond
  · obtain ⟨at_, boundaries⟩ := coherent.boundaries
    exact ⟨_, advance.boundaries coherent read boundaries⟩

theorem Coherent.mark (coherent : Coherent content b) {m : ℕ} (mark : Mark b m b') :
    Coherent content b' := by
  have lookup {k : ℕ} {data : List α} (found : b'.segment k = some data) :
      data = [] ∨ b.segment k = some data := by
    rw [mark.segment] at found
    split at found
    · exact Or.inl (Option.some.inj found).symm
    · exact Or.inr found
  refine ⟨fun k data found => ?_, fun k data found p inside => ?_, ?_, ?_, ?_⟩
  · rcases lookup found with rfl | old
    · rfl
    · exact coherent.slice k data old
  · rw [mark.missing]
    rcases lookup found with rfl | old
    · exact absurd inside.2 (not_lt.mpr inside.1)
    · exact coherent.arrived k data old p inside
  · rw [mark.missing, mark.position]
    exact coherent.read
  · rw [mark.missing]
    exact coherent.beyond
  · obtain ⟨at_, boundaries⟩ := coherent.boundaries
    refine ⟨at_, mark.position ▸ boundaries.position, ?_, fun p member => ?_⟩
    · rw [mark.missing]
      exact boundaries.resumes
    · rw [mark.missing, mark.segment]
      by_cases marked : p = m
      · exact Or.inl (marked ▸ mark.isMissing)
      · rw [if_neg marked]
        exact boundaries.leads p member

end Coherent

end Reassembly
