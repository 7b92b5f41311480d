import Mathlib.Algebra.Order.BigOperators.Group.List
import Mathlib.Data.List.AList
import Mathlib.Data.Set.Card

/-!
# Totals over a finite map

The sum of a weight over the values of a finite map, and what inserting, changing and erasing
an entry does to it and to the entries that are found.
-/

namespace MapSum

open List

variable {α β : Type*} [DecidableEq α] (weight : β → Nat) {m : AList fun _ : α => β} {a other : α}
  {b : β}

/-- The sum over all entries. -/
def total (m : AList fun _ : α => β) : Nat := (m.entries.map fun e => weight e.2).sum

theorem mem_of_lookup (found : m.lookup a = some b) : a ∈ m :=
  AList.lookup_isSome.mp (Option.isSome_of_eq_some found)

theorem exists_lookup (mem : a ∈ m) : ∃ b, m.lookup a = some b :=
  Option.isSome_iff_exists.mp (AList.lookup_isSome.mpr mem)

/-- What is left when an entry is erased was there before, under another key. -/
theorem lookup_of_erase (found : (m.erase a).lookup other = some b) :
    other ≠ a ∧ m.lookup other = some b := by
  by_cases same : other = a
  · rw [same, AList.lookup_erase] at found
    cases found
  · rw [AList.lookup_erase_ne same] at found
    exact ⟨same, found⟩

/-- What was there before is still found when an entry is added. -/
theorem lookup_insert_of_absent {b' : β} (absent : a ∉ m) (found : m.lookup other = some b') :
    other ≠ a ∧ (m.insert a b).lookup other = some b' := by
  have different : other ≠ a := fun same => absent (same ▸ mem_of_lookup found)
  exact ⟨different, (AList.lookup_insert_ne different).trans found⟩

/-- What is found after an insertion is the new entry or one that was there before. -/
theorem lookup_of_insert {b' : β} (found : (m.insert a b).lookup other = some b') :
    other = a ∧ b' = b ∨ other ≠ a ∧ m.lookup other = some b' := by
  by_cases same : other = a
  · rw [same, AList.lookup_insert] at found
    exact Or.inl ⟨same, (Option.some.inj found).symm⟩
  · rw [AList.lookup_insert_ne same] at found
    exact Or.inr ⟨same, found⟩

theorem total_erase (found : m.lookup a = some b) :
    total weight (m.erase a) + weight b = total weight m := by
  have mem : a ∈ m.entries.keys := AList.mem_keys.mp (mem_of_lookup found)
  obtain ⟨b', front, back, notFront, split, erased⟩ := exists_of_kerase mem
  have same : b' = b := by
    have entry : (⟨a, b'⟩ : Sigma fun _ : α => β) ∈ m.entries := by
      rw [split]
      exact mem_append_right front mem_cons_self
    have lookup : b' ∈ m.lookup a := mem_dlookup m.nodupKeys entry
    rw [found] at lookup
    exact (Option.mem_some_iff.mp lookup).symm
  have entries : (m.erase a).entries = front ++ back := erased
  unfold total
  rw [entries, split, same]
  simp only [map_append, sum_append, map_cons, sum_cons]
  omega

theorem total_erase_of_none (missing : m.lookup a = none) :
    total weight (m.erase a) = total weight m := by
  have notMem : a ∉ m.entries.keys := AList.lookup_eq_none.mp missing
  have entries : (m.erase a).entries = m.entries := kerase_of_notMem_keys notMem
  rw [total, entries]
  rfl

theorem total_insert (m : AList fun _ : α => β) (a : α) (b : β) :
    total weight (m.insert a b) = weight b + total weight (m.erase a) := by
  unfold total
  rw [AList.entries_insert]
  rfl

theorem total_insert_of_none (missing : m.lookup a = none) (b : β) :
    total weight (m.insert a b) = weight b + total weight m := by
  rw [total_insert, total_erase_of_none weight missing]

/-- A changed entry. -/
theorem total_insert_of_some (found : m.lookup a = some b) (b' : β) :
    total weight (m.insert a b') + weight b = total weight m + weight b' := by
  rw [total_insert, ← total_erase weight found]
  omega

/-- Weights that agree on the entries. -/
theorem total_congr {weight weight' : β → Nat}
    (same : ∀ a b, m.lookup a = some b → weight b = weight' b) :
    total weight m = total weight' m := by
  unfold total
  refine congrArg List.sum (map_congr_left fun e member => ?_)
  exact same e.1 e.2 (Option.mem_def.mp (mem_dlookup m.nodupKeys member))

theorem total_le_total {weight weight' : β → Nat}
    (each : ∀ a b, m.lookup a = some b → weight b ≤ weight' b) :
    total weight m ≤ total weight' m := by
  refine sum_le_sum fun e member => ?_
  exact each e.1 e.2 (Option.mem_def.mp (mem_dlookup m.nodupKeys member))

/-! ## Entries that are gone -/

/-- The entries whose keys are not in `m'`. -/
def without (m m' : AList fun _ : α => β) : AList fun _ : α => β := m'.keys.foldr AList.erase m

theorem lookup_without (m m' : AList fun _ : α => β) (a : α) :
    (without m m').lookup a = if a ∈ m'.keys then none else m.lookup a := by
  unfold without
  induction m'.keys with
  | nil => simp
  | cons key keys ih =>
    by_cases same : a = key
    · rw [foldr_cons, same, AList.lookup_erase, if_pos mem_cons_self]
    · rw [foldr_cons, AList.lookup_erase_ne same, ih]
      simp [same]

/-- If every entry of `m'` weighs what the one under its key in `m` does, or nothing, then `m'` and
what it lacks of `m` weigh no more than `m`. -/
theorem total_without {m' : AList fun _ : α => β}
    (each : ∀ a b', m'.lookup a = some b' →
      (∃ b, m.lookup a = some b ∧ weight b' = weight b) ∨ weight b' = 0) :
    total weight m' + total weight (without m m') ≤ total weight m := by
  induction m' using AList.insertRec with
  | H0 => exact (zero_add _).le
  | IH a b' rest absent ih =>
    have inner := ih fun other c found => each other c (lookup_insert_of_absent absent found).2
    have step : without m (rest.insert a b') = (without m rest).erase a := by
      rw [without, AList.keys_insert, erase_of_not_mem absent]
      rfl
    rw [step, total_insert_of_none weight (AList.lookup_eq_none.mpr absent)]
    rcases each a b' (AList.lookup_insert _) with ⟨b, found, same⟩ | zero
    · have kept := ((lookup_without m rest a).trans (if_neg absent)).trans found
      have erased := total_erase weight kept
      omega
    · have erased : total weight ((without m rest).erase a) ≤ total weight (without m rest) :=
        ((kerase_sublist a _).map _).sum_le_sum fun _ _ => Nat.zero_le _
      omega

/-- If the entries stand for disjoint finite sets, the sizes of these add up to that of their
union. -/
theorem total_ncard {γ : Type*} (cells : β → Set γ) (m : AList fun _ : α => β)
    (finite : ∀ b, (cells b).Finite)
    (apart : ∀ a b a' b', m.lookup a = some b → m.lookup a' = some b' → a ≠ a' →
      ∀ x ∈ cells b, x ∉ cells b') :
    {x | ∃ a b, m.lookup a = some b ∧ x ∈ cells b}.Finite ∧
      total (fun b => (cells b).ncard) m =
        {x | ∃ a b, m.lookup a = some b ∧ x ∈ cells b}.ncard := by
  induction m using AList.insertRec with
  | H0 =>
    have empty : {x | ∃ a b, (∅ : AList fun _ : α => β).lookup a = some b ∧ x ∈ cells b} = ∅ := by
      refine Set.eq_empty_iff_forall_notMem.mpr ?_
      rintro x ⟨a, b, found, -⟩
      cases found
    rw [empty]
    exact ⟨Set.finite_empty, (Set.ncard_empty γ).symm⟩
  | IH a b m absent ih =>
    have missing : m.lookup a = none := AList.lookup_eq_none.mpr absent
    have old {a' : α} {b' : β} (found : m.lookup a' = some b') :
        a' ≠ a ∧ (m.insert a b).lookup a' = some b' := lookup_insert_of_absent absent found
    obtain ⟨finiteRest, sum⟩ := ih fun a₁ b₁ a₂ b₂ found₁ found₂ =>
      apart a₁ b₁ a₂ b₂ (old found₁).2 (old found₂).2
    have union : {x | ∃ a' b', (m.insert a b).lookup a' = some b' ∧ x ∈ cells b'} =
        cells b ∪ {x | ∃ a' b', m.lookup a' = some b' ∧ x ∈ cells b'} := by
      ext x
      constructor
      · rintro ⟨a', b', found, inside⟩
        rcases lookup_of_insert found with ⟨-, rfl⟩ | ⟨-, found⟩
        · exact Or.inl inside
        · exact Or.inr ⟨a', b', found, inside⟩
      · rintro (inside | ⟨a', b', found, inside⟩)
        · exact ⟨a, b, AList.lookup_insert _, inside⟩
        · exact ⟨a', b', (old found).2, inside⟩
    have disjoint : Disjoint (cells b) {x | ∃ a' b', m.lookup a' = some b' ∧ x ∈ cells b'} := by
      refine Set.disjoint_left.mpr ?_
      rintro x inside ⟨a', b', found, inside'⟩
      exact apart a b a' b' (AList.lookup_insert _) (old found).2 (old found).1.symm x inside
        inside'
    rw [union, total_insert_of_none _ missing, sum,
      Set.ncard_union_eq disjoint (finite b) finiteRest]
    exact ⟨(finite b).union finiteRest, rfl⟩

end MapSum
