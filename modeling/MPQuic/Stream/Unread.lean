import MPQuic.Stream.Pushing

/-!
# The bytes that wait to be read

A sorter whose queued frames are the received bytes that were not read yet, each of them in one
frame (`Unread`). Taking out the frame at the read position keeps this, and so does a push whose
missing bytes are one piece (`OnePiece`): then no queued frame is dropped or covered.
-/

namespace MPQuic

namespace StreamFrameSorter

/-- What is missing of the frame is one piece. -/
def OnePiece (s : StreamFrameSorter) (frame : StreamFrame) : Prop :=
  ∀ p ∈ frame.bytes, p ∈ s.missing → ∀ r ∈ frame.bytes, r ∈ s.missing →
    ∀ q, p ≤ q → q ≤ r → q ∈ s.missing

/-- The queued frames are the received bytes that were not read yet. -/
structure Unread (s : StreamFrameSorter) : Prop extends Sound s where
  read : ∀ p < s.readPosition, p ∉ s.missing
  ahead : ∀ k f, s.queuedFrames.lookup k = some f → f.data ≠ [] → s.readPosition ≤ k
  held : ∀ p, s.readPosition ≤ p → p ∉ s.missing →
    ∃ k f, s.queuedFrames.lookup k = some f ∧ p ∈ f.bytes
  apart : ∀ k f k' f', s.queuedFrames.lookup k = some f → s.queuedFrames.lookup k' = some f' →
    k ≠ k' → ∀ p ∈ f.bytes, p ∉ f'.bytes

section Unread

variable {s filled : StreamFrameSorter} {frame f : StreamFrame} {start stop : ℕ}

theorem unread_new (unreliable : Bool) :
    Unread { newStreamFrameSorter with unreliableMarker := unreliable } where
  toSound := sound_new unreliable
  read := fun p before => absurd before (Nat.not_lt_zero p)
  ahead := fun _ _ found => (by cases found)
  held := fun p _ received => by
    refine absurd ?_ received
    rcases lt_or_ge p maxByteCount with below | above
    · exact Or.inl ⟨_, List.mem_cons_self, Nat.zero_le p, below⟩
    · exact Or.inr above
  apart := fun _ _ _ _ found => (by cases found)

theorem mem_bytes_offset (nonempty : f.data ≠ []) : f.offset ∈ f.bytes :=
  ⟨le_refl _, Nat.lt_add_of_pos_right (List.length_pos_iff.mpr nonempty)⟩

theorem data_ne_nil_of_mem {p : ℕ} (member : p ∈ f.bytes) : f.data ≠ [] := by
  rintro empty
  rw [StreamFrame.bytes, empty, List.length_nil, add_zero, Set.Ico_self] at member
  exact Set.notMem_empty p member

/-- The reader is not past the largest offset, since the byte before it is always missing. -/
theorem Unread.position (unread : s.Unread) : s.readPosition < maxByteCount := by
  by_contra past
  refine unread.read (maxByteCount - 1) ?_ (Or.inl unread.last)
  have : 0 < maxByteCount := by decide
  omega

/-- Queued data ends before the largest offset. -/
theorem Tidy.stop_lt (tidy : s.Tidy) {k : ℕ} (found : s.queuedFrames.lookup k = some f)
    (nonempty : f.data ≠ []) : k + f.data.length < maxByteCount := by
  have positive := List.length_pos_iff.mpr nonempty
  have key := tidy.keyed k f found
  have received := tidy.received k f found
  by_contra past
  have last : maxByteCount - 1 ∈ s.missing := Or.inl tidy.last
  rcases lt_or_ge k maxByteCount with low | high
  · refine received (maxByteCount - 1) ?_ last
    rw [StreamFrame.bytes, key, Set.mem_Ico]
    omega
  · exact received k (key ▸ mem_bytes_offset nonempty) (Or.inr high)

/-- Data is queued wherever a gap ends. -/
theorem Unread.not_noData (unread : s.Unread) {g : ByteInterval} (member : g ∈ s.gaps)
    (small : g.stop < maxByteCount) : ¬s.NoData g.stop := by
  have received := stop_not_mem unread.gapped member small
  have before := mem_missing_pred unread.gapped member
  have nonempty := unread.gapped.nonempty g member
  have notRead : s.readPosition ≤ g.stop := by
    by_contra past
    exact unread.read (g.stop - 1) (by omega) before
  obtain ⟨k, f, found, inside⟩ := unread.held g.stop notRead received
  have key := unread.keyed k f found
  have atStop : k = g.stop := by
    by_contra other
    have inside' := inside
    rw [StreamFrame.bytes, key, Set.mem_Ico] at inside'
    refine unread.received k f found (g.stop - 1) ?_ before
    rw [StreamFrame.bytes, key, Set.mem_Ico]
    omega
  exact fun noData => data_ne_nil_of_mem inside (noData f (atStop ▸ found))

/-- If no frame stands at the read position, the byte there is missing. -/
theorem Unread.missing_of_absent (unread : s.Unread)
    (absent : s.queuedFrames.lookup s.readPosition = none) : s.readPosition ∈ s.missing := by
  by_contra received
  obtain ⟨k, f, found, inside⟩ := unread.held s.readPosition (le_refl _) received
  have ahead := unread.ahead k f found (data_ne_nil_of_mem inside)
  have low := inside.1
  rw [unread.keyed k f found] at low
  rw [le_antisymm low ahead, absent] at found
  cases found

/-- Then it is the first byte of the first gap. -/
theorem Unread.start_of_absent (unread : s.Unread)
    (absent : s.queuedFrames.lookup s.readPosition = none) {gap : ByteInterval}
    {rest : List ByteInterval} (gaps : s.gaps = gap :: rest) : gap.start = s.readPosition := by
  have gapped := unread.gapped
  rw [gaps] at gapped
  have nonempty := gapped.nonempty gap List.mem_cons_self
  refine le_antisymm ?_ (not_lt.mp fun past => ?_)
  · rcases unread.missing_of_absent absent with ⟨g, member, low, -⟩ | never
    · rw [gaps] at member
      rcases List.mem_cons.mp member with rfl | later
      · exact low
      · have := (List.pairwise_cons.mp gapped.separated).1 g later
        omega
    · exact absurd never (not_le.mpr unread.position)
  · exact unread.read gap.start past (Or.inl ⟨gap, by simp [gaps], le_refl _, nonempty⟩)

/-- What a push stores starts with a missing byte. -/
theorem Unread.first_missing (unread : s.Unread) (small : start < maxByteCount)
    (first : start ∈ s.missing ∨ (∃ g ∈ s.gaps, g.stop = start) ∧ s.NoData start) :
    start ∈ s.missing :=
  first.resolve_right fun ⟨⟨_, member, atStop⟩, noData⟩ =>
    unread.not_noData member (atStop ▸ small) (atStop ▸ noData)

/-- All bytes that are filled were missing, if those of the frame are one piece. -/
theorem OnePiece.filled_missing (onePiece : s.OnePiece frame)
    (fills : s.Fills frame start stop filled) (new : start ∈ s.missing) :
    ∀ p ∈ Set.Ico start stop, p ∈ s.missing := by
  have low := fills.low
  have high := fills.high
  have inside : start < stop := (fills.needed start ⟨low, fills.within⟩ new).2
  intro p filled
  exact onePiece start ⟨low, fills.within⟩ new (stop - 1) ⟨by omega, by omega⟩ (fills.last inside) p
    filled.1 (by have := filled.2; omega)

section Store

variable (unread : s.Unread) (fills : s.Fills frame start stop filled) (inside : start < stop)
  (new : ∀ p ∈ Set.Ico start stop, p ∈ s.missing)

include unread fills inside new

/-- Nothing is dropped when all bytes that are filled were missing. -/
theorem Unread.kept (flag : Bool) (timeStamp : Int) {k : ℕ}
    (found : s.queuedFrames.lookup k = some f) (nonempty : f.data ≠ []) :
    k ≠ start ∧
      (filled.enqueue (frame.between start stop) flag timeStamp).queuedFrames.lookup k =
        some f := by
  have outside : k ∉ Set.Ico start stop := fun inside => by
    have key := unread.keyed k f found
    exact unread.received k f found k (key ▸ mem_bytes_offset nonempty) (new k inside)
  have other : k ≠ start := fun same => outside ⟨le_of_eq same.symm, by omega⟩
  refine ⟨other, ?_⟩
  rcases fills.stored_lookup_of_ne flag timeStamp other with same | ⟨-, buried⟩
  · exact same.trans found
  · exact absurd (Set.Ioo_subset_Ico_self buried) outside

theorem Unread.store (small : frame.offset + frame.data.length < maxByteCount) (flag : Bool)
    (timeStamp : Int) : (filled.enqueue (frame.between start stop) flag timeStamp).Unread := by
  have missing := fills.stored_missing flag timeStamp
  obtain ⟨-, position, -⟩ := enqueue_rest filled (frame.between start stop) flag timeStamp
  have bytes := StreamFrame.between_bytes fills.low inside fills.high
  have stored := stored_lookup filled frame start stop flag timeStamp
  have readPosition := position.trans fills.position
  refine ⟨fills.sound_stored unread.toSound small flag timeStamp, fun p before isMissing => ?_,
    fun k f found data => ?_, fun p notRead received => ?_,
    fun k f k' f' found found' other p inF inF' => ?_⟩
  · rw [readPosition] at before
    rw [missing] at isMissing
    exact unread.read p before isMissing.1
  · rw [readPosition]
    rcases fills.lookup_stored flag timeStamp found with ⟨rfl, rfl⟩ | old
    · by_contra past
      exact unread.read k (not_le.mp past) (new k ⟨le_refl _, inside⟩)
    · exact unread.ahead k f old data
  · rw [readPosition] at notRead
    rw [missing] at received
    by_cases old : p ∈ s.missing
    · refine ⟨start, _, stored, ?_⟩
      rw [bytes]
      by_contra outside
      exact received ⟨old, outside⟩
    · obtain ⟨k, f, found, inFrame⟩ := unread.held p notRead old
      exact ⟨k, f, (unread.kept fills inside new flag timeStamp found
        (data_ne_nil_of_mem inFrame)).2, inFrame⟩
  · rcases fills.lookup_stored flag timeStamp found with ⟨rfl, rfl⟩ | old
    · rcases fills.lookup_stored flag timeStamp found' with ⟨rfl, -⟩ | old'
      · exact other rfl
      · exact unread.received k' f' old' p inF' (new p (bytes ▸ inF))
    · rcases fills.lookup_stored flag timeStamp found' with ⟨rfl, rfl⟩ | old'
      · exact unread.received k f old p inF (new p (bytes ▸ inF'))
      · exact unread.apart k f k' f' old old' other p inF inF'

end Store

/-! ## Taking frames out -/

section Dequeue

variable (unread : s.Unread) (found : s.queuedFrames.lookup s.readPosition = some f)

include unread found

theorem Unread.position_dequeue : (s.dequeue f).readPosition = s.readPosition + f.data.length := by
  rw [(dequeue_rest s f).1, addUint64_of_lt]
  by_cases empty : f.data = []
  · have := unread.position
    unfold maxByteCount at this
    rw [empty, List.length_nil]
    omega
  · have := unread.toTidy.stop_lt found empty
    unfold maxByteCount at this
    omega

theorem Unread.lookup_dequeue_of_ne {k : ℕ} (other : k ≠ s.readPosition) :
    (s.dequeue f).queuedFrames.lookup k = s.queuedFrames.lookup k := by
  rw [dequeue_lookup (unread.keyed _ f found), if_neg other]

theorem Unread.dequeue : (s.dequeue f).Unread := by
  have position := unread.position_dequeue found
  have bytes : f.bytes = Set.Ico s.readPosition (s.readPosition + f.data.length) := by
    rw [StreamFrame.bytes, unread.keyed _ f found]
  refine ⟨unread.toSound.dequeue found, fun p before => ?_, fun k f' found' data => ?_,
    fun p notRead received => ?_, fun k f₁ k' f₂ found₁ found₂ => ?_⟩
  · rw [dequeue_missing]
    rcases lt_or_ge p s.readPosition with already | now
    · exact unread.read p already
    · exact unread.received _ f found p (bytes ▸ ⟨now, position ▸ before⟩)
  · obtain ⟨other, old⟩ := unread.toTidy.lookup_of_dequeue found found'
    have ahead := unread.ahead k f' old data
    by_contra inside
    refine unread.apart _ f k f' found old (Ne.symm other) k ?_
      (unread.keyed k f' old ▸ mem_bytes_offset data)
    rw [bytes, Set.mem_Ico]
    omega
  · rw [dequeue_missing] at received
    obtain ⟨k, f', found', inside⟩ := unread.held p (by omega) received
    have other : k ≠ s.readPosition := by
      rintro rfl
      obtain rfl := Option.some.inj (found'.symm.trans found)
      rw [bytes, Set.mem_Ico] at inside
      omega
    exact ⟨k, f', (unread.lookup_dequeue_of_ne found other).trans found', inside⟩
  · exact unread.apart k f₁ k' f₂ (unread.toTidy.lookup_of_dequeue found found₁).2
      (unread.toTidy.lookup_of_dequeue found found₂).2

end Dequeue

/-! ## Marking the end -/

/-- An empty frame at an offset without data does not change what is found with data. -/
theorem lookup_mark (empty : frame.data = []) (noData : s.NoData frame.offset) {k : ℕ}
    (hasData : f.data ≠ []) :
    (s.queuedFrames.insert frame.offset frame).lookup k = Option.some f ↔
      s.queuedFrames.lookup k = Option.some f := by
  by_cases same : k = frame.offset
  · rw [same, AList.lookup_insert]
    constructor
    · intro found
      obtain rfl := Option.some.inj found
      exact absurd empty hasData
    · intro found
      exact absurd (noData f found) hasData
  · rw [AList.lookup_insert_ne same]

theorem Unread.mark (unread : s.Unread) (empty : frame.data = []) (noData : s.NoData frame.offset) :
    ({ s with queuedFrames := s.queuedFrames.insert frame.offset frame } :
      StreamFrameSorter).Unread := by
  refine ⟨unread.toSound.insert (allReceived_of_empty empty) rfl rfl, unread.read,
    fun k f found data => ?_, fun p notRead received => ?_,
    fun k f k' f' found found' other p inside inside' => ?_⟩
  · exact unread.ahead k f ((lookup_mark empty noData data).mp found) data
  · obtain ⟨k, f, found, inside⟩ := unread.held p notRead received
    exact ⟨k, f, (lookup_mark empty noData (data_ne_nil_of_mem inside)).mpr found, inside⟩
  · exact unread.apart k f k' f'
      ((lookup_mark empty noData (data_ne_nil_of_mem inside)).mp found)
      ((lookup_mark empty noData (data_ne_nil_of_mem inside')).mp found') other p inside inside'

end Unread

end StreamFrameSorter

end MPQuic
