import Mathlib.Data.List.Induction

/-!
# Segments of a sequence

A sequence is handed on in segments. Each segment says where it starts, counted modulo the
range of a machine word, and whether the sequence ends with it. Segments are contiguous if each
starts where the one before stopped, and they end once if nothing follows a segment that is
marked as the last. Both properties are kept when a segment is appended in the right place.
-/

namespace Segments

open List

variable {α : Type} {modulus : Nat}

/-- A part of a stream. -/
structure Segment (α : Type) where
  start : Nat
  data : List α
  last : Bool

/-- The elements of all segments. -/
def content (segments : List (Segment α)) : List α := segments.flatMap Segment.data

theorem content_append (front back : List (Segment α)) :
    content (front ++ back) = content front ++ content back :=
  flatMap_append

theorem content_cons (segment : Segment α) (back : List (Segment α)) :
    content (segment :: back) = segment.data ++ content back :=
  flatMap_cons

theorem content_singleton (segment : Segment α) : content [segment] = segment.data :=
  append_nil segment.data

/-- Every segment starts at the number of elements before it. -/
def Contiguous (modulus : Nat) (segments : List (Segment α)) : Prop :=
  ∀ front segment back, segments = front ++ segment :: back →
    segment.start = (content front).length % modulus

/-- Nothing follows the last segment. -/
def EndsOnce (segments : List (Segment α)) : Prop :=
  ∀ front segment back, segments = front ++ segment :: back → segment.last = true → back = []

theorem contiguous_nil (modulus : Nat) : Contiguous modulus ([] : List (Segment α)) := by
  intro front segment back split
  exact absurd split (by simp)

theorem endsOnce_nil : EndsOnce ([] : List (Segment α)) := by
  intro front segment back split
  exact absurd split (by simp)

/-- An element of an extended list is one of the old ones or the new one. -/
theorem snoc_eq_append_cons {old front back : List α} {new a : α}
    (split : old ++ [new] = front ++ a :: back) :
    (back = [] ∧ a = new ∧ front = old) ∨
      ∃ rest, back = rest ++ [new] ∧ old = front ++ a :: rest := by
  rcases eq_nil_or_concat back with rfl | ⟨rest, last, rfl⟩
  · obtain ⟨rfl, same⟩ := append_inj' split rfl
    exact Or.inl ⟨rfl, (List.cons.inj same).1.symm, rfl⟩
  · have split' : old ++ [new] = (front ++ a :: rest) ++ [last] := by
      simpa using split
    obtain ⟨rfl, same⟩ := append_inj' split' rfl
    rw [concat_eq_append, (List.cons.inj same).1]
    exact Or.inr ⟨rest, rfl, rfl⟩

theorem Contiguous.snoc {segments : List (Segment α)} {new : Segment α}
    (contiguous : Contiguous modulus segments)
    (start : new.start = (content segments).length % modulus) :
    Contiguous modulus (segments ++ [new]) := by
  intro front segment back split
  rcases snoc_eq_append_cons split with ⟨-, rfl, rfl⟩ | ⟨rest, -, old⟩
  · exact start
  · exact contiguous front segment rest old

theorem EndsOnce.snoc {segments : List (Segment α)} {new : Segment α}
    (unfinished : ∀ segment ∈ segments, segment.last = false) : EndsOnce (segments ++ [new]) := by
  intro front segment back split last
  rcases snoc_eq_append_cons split with ⟨rfl, -, -⟩ | ⟨rest, -, old⟩
  · rfl
  · have mem : segment ∈ segments := by
      rw [old]
      exact mem_append_right _ mem_cons_self
    rw [unfinished segment mem] at last
    cases last

/-- Contiguous segments of a sequence within the range do not overlap. -/
theorem Contiguous.pairwise {segments : List (Segment α)} (contiguous : Contiguous modulus segments)
    (short : (content segments).length < modulus) :
    segments.Pairwise fun a b => a.start + a.data.length ≤ b.start := by
  induction segments using List.reverseRecOn with
  | nil => exact List.Pairwise.nil
  | append_singleton segments new ih =>
    rw [content_append, length_append] at short
    have old : Contiguous modulus segments := by
      intro front segment back split
      exact contiguous front segment (back ++ [new]) (by rw [split]; simp)
    refine pairwise_append.mpr ⟨ih old (by omega), pairwise_singleton _ _, ?_⟩
    intro segment mem last isNew
    obtain ⟨front, back, split⟩ := append_of_mem mem
    rw [mem_singleton.mp isNew, contiguous segments new [] rfl,
      old front segment back split, Nat.mod_eq_of_lt (show (content segments).length < modulus
      by omega)]
    have parts : (content segments).length =
        (content front).length + (segment.data.length + (content back).length) := by
      rw [split, content_append, length_append, content_cons, length_append]
    rw [Nat.mod_eq_of_lt (show (content front).length < modulus by omega)]
    omega

end Segments
