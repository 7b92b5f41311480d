import MPQuic.Stream.Pushing

/-!
# What the sorter holds

When all frames carry parts of one content, the sorter of a reliable stream holds parts of
it (`Holds`), and a push keeps this. The fin bit needs a condition: a frame with the fin bit
whose last byte was received before is either dropped as a duplicate, and its fin bit with
it, or cut, and then the fin bit ends up at the wrong place.
-/

namespace MPQuic

open List Reassembly StreamFrame

/-- The frame carries a part of the content, with the fin bit only at its end. -/
structure FrameOf (content : List UInt8) (frame : StreamFrame) : Prop where
  data : frame.data = slice content frame.offset frame.data.length
  within : frame.offset + frame.data.length ≤ content.length
  fin : frame.finBit = true → frame.offset + frame.data.length = content.length

namespace StreamFrameSorter

/-- The sorter holds parts of the content. -/
structure Holds (content : List UInt8) (s : StreamFrameSorter) : Prop where
  coherent : Coherent content s.buffer
  gapped : Gapped s.gaps
  keyed : ∀ k f, s.queuedFrames.lookup k = some f → f.offset = k
  fin : ∀ k f, s.queuedFrames.lookup k = some f → f.finBit = true →
    k + f.data.length = content.length
  mark : ∀ k f, s.queuedFrames.lookup k = some f → f.data = [] → f.finBit = true
  /-- either all frames that end with the content have the fin bit, or none has -/
  agree : ∀ k f, s.queuedFrames.lookup k = some f → f.finBit = true → f.data ≠ [] →
    ∀ k' f', s.queuedFrames.lookup k' = some f' → f'.data ≠ [] →
      k' + f'.data.length = content.length → f'.finBit = true
  ahead : ∀ k f, s.queuedFrames.lookup k = some f → f.finBit = true → f.data ≠ [] →
    s.readPosition < content.length
  reliable : s.unreliableMarker = false

/-- Whoever reads the content to its end will meet a fin bit there. -/
def EndKnown (content : List UInt8) (s : StreamFrameSorter) : Prop :=
  (∃ f, s.queuedFrames.lookup content.length = some f ∧ f.finBit = true) ∨
    (s.readPosition < content.length ∧ content.length - 1 ∉ s.missing ∧
      ∀ k f, s.queuedFrames.lookup k = some f → f.data ≠ [] →
        k + f.data.length = content.length → f.finBit = true)

/-- The last byte of the frame is new. -/
def LastByteNew (s : StreamFrameSorter) (frame : StreamFrame) : Prop :=
  frame.data = [] ∨ frame.offset + frame.data.length - 1 ∈ s.missing

section Holds

variable {content : List UInt8} {s s' : StreamFrameSorter} {frame : StreamFrame}
  {k : ℕ} {f : StreamFrame}

theorem segment_of_lookup (found : s.queuedFrames.lookup k = some f) :
    s.buffer.segment k = some f.data :=
  congrArg (Option.map StreamFrame.data) found

section

variable (holds : Holds content s)

include holds

section

variable (found : s.queuedFrames.lookup k = some f)

include found

/-- The bytes of a queued frame were received. -/
theorem Holds.allReceived : s.AllReceived f := by
  intro p member
  have key := holds.keyed k f found
  unfold StreamFrame.bytes at member
  rw [key] at member
  exact holds.coherent.arrived k f.data (segment_of_lookup found) p member

theorem Holds.end_le (nonempty : f.data ≠ []) : k + f.data.length ≤ content.length :=
  holds.coherent.segment_le (segment_of_lookup found) nonempty

theorem Holds.endKnown (fin : f.finBit = true) : EndKnown content s := by
  have ends := holds.fin k f found fin
  by_cases empty : f.data = []
  · rw [empty, length_nil, add_zero] at ends
    exact Or.inl ⟨f, ends ▸ found, fin⟩
  · have positive := length_pos_iff.mpr empty
    refine Or.inr ⟨holds.ahead k f found fin empty, holds.allReceived found _ ?_,
      fun k' f' found' => holds.agree k f found fin empty k' f' found'⟩
    rw [StreamFrame.bytes, holds.keyed k f found, Set.mem_Ico]
    omega

end

theorem Holds.tidy (small : content.length < maxByteCount) : s.Tidy where
  gapped := holds.gapped
  last := by
    rcases holds.coherent.beyond (maxByteCount - 1) (by omega) with inGap | never
    · exact inGap
    · have := Set.mem_Ici.mp never
      omega
  keyed := holds.keyed
  received := fun _ _ found => holds.allReceived found

/-- What a push makes of the sorter if the frame is not refused for too many gaps. -/
structure Pushed (content : List UInt8) (s : StreamFrameSorter) (frame : StreamFrame)
    (s' : StreamFrameSorter) : Prop where
  holds : Holds content s'
  position : s'.readPosition = s.readPosition
  missing : s'.missing = s.missing \ frame.bytes
  head : ∀ f, s.queuedFrames.lookup s.readPosition = some f → f.data ≠ [] →
    s'.queuedFrames.lookup s.readPosition = some f
  endKept : EndKnown content s → EndKnown content s'
  endSeen : frame.finBit = true → s.LastByteNew frame → EndKnown content s'

/-- A duplicate is dropped. -/
theorem Holds.pushed_duplicate (finData : frame.finBit = true → frame.data ≠ [])
    (received : s.AllReceived frame) : Pushed content s frame s := by
  refine ⟨holds, rfl, ?_, fun f found _ => found, id, fun fin last => ?_⟩
  · exact Set.ext fun p => ⟨fun isMissing => ⟨isMissing, fun inFrame =>
      received p inFrame isMissing⟩, And.left⟩
  · have nonempty := finData fin
    rcases last with empty | new
    · exact absurd empty nonempty
    · have positive := length_pos_iff.mpr nonempty
      refine absurd new (received _ ?_)
      rw [StreamFrame.bytes, Set.mem_Ico]
      omega

/-- An empty frame with the fin bit marks the end of the content. -/
theorem Holds.pushed_mark (frameOf : FrameOf content frame) (empty : frame.data = [])
    (fin : frame.finBit = true) :
    Pushed content s frame { s with queuedFrames := s.queuedFrames.insert frame.offset frame } := by
  have offset : frame.offset = content.length := by
    have := frameOf.fin fin
    rwa [empty, length_nil, add_zero] at this
  have lookup {k : ℕ} {f : StreamFrame}
      (found : (s.queuedFrames.insert frame.offset frame).lookup k = some f) :
      k = content.length ∧ f = frame ∨ s.queuedFrames.lookup k = some f := by
    rcases MapSum.lookup_of_insert found with ⟨same, isFrame⟩ | ⟨-, old⟩
    · exact Or.inl ⟨same.trans offset, isFrame⟩
    · exact Or.inr old
  refine ⟨⟨?_, holds.gapped, fun k f found => ?_, fun k f found isFin => ?_,
    fun k f found noData => ?_, fun k f found isFin hasData k' f' found' hasData' => ?_,
    fun k f found isFin hasData => ?_, holds.reliable⟩, rfl, ?_, fun f found nonempty => ?_,
    fun _ => ?_, fun _ _ => ?_⟩
  · refine holds.coherent.mark ⟨holds.coherent.beyond content.length (le_refl _), rfl,
      fun k => ?_, rfl⟩
    split
    · rename_i same
      have inserted : (s.queuedFrames.insert frame.offset frame).lookup frame.offset = some frame :=
        AList.lookup_insert _
      simp only [buffer, same, ← offset, inserted, Option.map_some, empty]
    · rename_i other
      exact congrArg (Option.map StreamFrame.data)
        (AList.lookup_insert_ne fun eq => other (eq.trans offset))
  · rcases lookup found with ⟨rfl, rfl⟩ | old
    · exact offset
    · exact holds.keyed k f old
  · rcases lookup found with ⟨rfl, rfl⟩ | old
    · rw [empty, length_nil, add_zero]
    · exact holds.fin k f old isFin
  · rcases lookup found with ⟨rfl, rfl⟩ | old
    · exact fin
    · exact holds.mark k f old noData
  · rcases lookup found with ⟨rfl, rfl⟩ | old
    · exact absurd empty hasData
    · rcases lookup found' with ⟨rfl, rfl⟩ | old'
      · exact absurd empty hasData'
      · exact holds.agree k f old isFin hasData k' f' old' hasData'
  · rcases lookup found with ⟨rfl, rfl⟩ | old
    · exact absurd empty hasData
    · exact holds.ahead k f old isFin hasData
  · have noBytes : frame.bytes = ∅ := by
      rw [StreamFrame.bytes, empty, length_nil, add_zero, Set.Ico_self]
    rw [noBytes]
    exact Set.sdiff_empty.symm
  · have before := holds.end_le found nonempty
    have positive := length_pos_iff.mpr nonempty
    rw [AList.lookup_insert_ne (by omega)]
    exact found
  · exact Or.inl ⟨frame, offset ▸ AList.lookup_insert _, fin⟩
  · exact Or.inl ⟨frame, offset ▸ AList.lookup_insert _, fin⟩

end

theorem between_slice {start stop : ℕ} (frameOf : FrameOf content frame)
    (low : frame.offset ≤ start) (high : stop ≤ frame.offset + frame.data.length) :
    (frame.between start stop).data = slice content start (stop - start) := by
  have part := slice_take content start (frame.data.length - (start - frame.offset)) (stop - start)
  rw [min_eq_left (by omega)] at part
  rw [between, ← part]
  simp only
  rw [slice, frameOf.data, slice_drop, Nat.add_sub_cancel' low, ← frameOf.data]

section Accepted

variable {start stop : ℕ}

section

variable (accepts : s.Accepts frame start stop s')

include accepts

theorem Accepts.last_mem : stop - 1 ∈ s.missing := by
  have last := accepts.insert.last
  rw [between_length accepts.low accepts.high,
    Nat.add_sub_cancel' (le_of_lt accepts.inside)] at last
  exact last

/-- A frame with the fin bit whose last byte is new keeps its end. -/
theorem Accepts.stop_eq (last : s.LastByteNew frame) : stop = frame.offset + frame.data.length := by
  have low := accepts.low
  have inside := accepts.inside
  have high := accepts.high
  rcases last with empty | new
  · rw [empty, length_nil] at high
    omega
  · have inFrame : frame.offset + frame.data.length - 1 ∈ frame.bytes := by
      rw [StreamFrame.bytes, Set.mem_Ico]
      omega
    have inside := (accepts.needed _ inFrame new).2
    omega

theorem Accepts.missing_eq : s'.missing = s.missing \ frame.bytes := by
  have filled := accepts.insert.missing
  rw [between_length accepts.low accepts.high,
    Nat.add_sub_cancel' (le_of_lt accepts.inside)] at filled
  refine Eq.trans filled (Set.ext fun p =>
    ⟨fun ⟨isMissing, outside⟩ => ⟨isMissing, fun inFrame => ?_⟩,
    fun ⟨isMissing, outside⟩ => ⟨isMissing, fun inside => outside ?_⟩⟩)
  · exact outside (accepts.needed p inFrame isMissing)
  · exact ⟨accepts.low.trans inside.1, lt_of_lt_of_le inside.2 accepts.high⟩

/-- A frame of the sorter after the push is the new one or an old one. -/
theorem Accepts.lookup_cases {k : ℕ} {f : StreamFrame} (found : s'.queuedFrames.lookup k = some f) :
    k = start ∧ f = frame.between start stop ∨ s.queuedFrames.lookup k = some f := by
  by_cases same : k = start
  · rw [same, accepts.queued] at found
    exact Or.inl ⟨same, (Option.some.inj found).symm⟩
  · rcases accepts.others k same with kept | ⟨gone, -⟩
    · exact Or.inr (kept.symm.trans found)
    · rw [gone] at found
      cases found

end

/-- The last byte of the content is not missing when a queued frame ends with it. -/
theorem Holds.end_received (holds : Holds content s) {k : ℕ} {f : StreamFrame}
    (found : s.queuedFrames.lookup k = some f) (nonempty : f.data ≠ [])
    (ends : k + f.data.length = content.length) : content.length - 1 ∉ s.missing := by
  have positive := length_pos_iff.mpr nonempty
  refine holds.allReceived found _ ?_
  rw [StreamFrame.bytes, holds.keyed k f found, Set.mem_Ico]
  omega

theorem Holds.accepts (holds : Holds content s) (accepts : s.Accepts frame start stop s')
    (frameOf : FrameOf content frame) (last : frame.finBit = true → s.LastByteNew frame) :
    Holds content s' := by
  have length := between_length accepts.low accepts.high
  have inside := accepts.inside
  have part := between_slice frameOf accepts.low accepts.high
  have nonempty : (frame.between start stop).data ≠ [] := accepts.insert.nonempty
  -- the new frame ends with the content if it has the fin bit
  have finEnd (fin : frame.finBit = true) : stop = content.length :=
    (accepts.stop_eq (last fin)).trans (frameOf.fin fin)
  have endMissing (ends : stop = content.length) : content.length - 1 ∈ s.missing :=
    ends ▸ accepts.last_mem
  refine ⟨?_, accepts.gapped, fun k f found => ?_, fun k f found fin => ?_,
    fun k f found noData => ?_, fun k f found fin hasData k' f' found' hasData' ends => ?_,
    fun k f found fin hasData => ?_, accepts.unreliableMarker.trans holds.reliable⟩
  · refine holds.coherent.insert accepts.insert ?_
    rw [length]
    exact part
  · rcases accepts.lookup_cases found with ⟨rfl, rfl⟩ | old
    · rfl
    · exact holds.keyed k f old
  · rcases accepts.lookup_cases found with ⟨rfl, rfl⟩ | old
    · rw [length, Nat.add_sub_cancel' (le_of_lt inside)]
      exact finEnd fin
    · exact holds.fin k f old fin
  · rcases accepts.lookup_cases found with ⟨rfl, rfl⟩ | old
    · exact absurd noData nonempty
    · exact holds.mark k f old noData
  · rcases accepts.lookup_cases found with ⟨rfl, rfl⟩ | old
    · rcases accepts.lookup_cases found' with ⟨rfl, rfl⟩ | old'
      · exact fin
      · exact absurd (endMissing (finEnd fin)) (holds.end_received old' hasData' ends)
    · rcases accepts.lookup_cases found' with ⟨rfl, rfl⟩ | old'
      · rw [length, Nat.add_sub_cancel' (le_of_lt inside)] at ends
        exact absurd (endMissing ends) (holds.end_received old hasData (holds.fin k f old fin))
      · exact holds.agree k f old fin hasData k' f' old' hasData' ends
  · have position : s'.readPosition = s.readPosition := accepts.insert.position
    rw [position]
    rcases accepts.lookup_cases found with ⟨rfl, rfl⟩ | old
    · have unread : s.readPosition ≤ k := not_lt.mp fun before =>
        holds.coherent.read k before accepts.insert.first
      have ends := finEnd fin
      omega
    · exact holds.ahead k f old fin hasData

theorem Holds.pushed_accepts (holds : Holds content s) (accepts : s.Accepts frame start stop s')
    (frameOf : FrameOf content frame) (last : frame.finBit = true → s.LastByteNew frame) :
    Pushed content s frame s' := by
  have holds' := holds.accepts accepts frameOf last
  have inside := accepts.inside
  have high := accepts.high
  have within := frameOf.within
  refine ⟨holds', accepts.insert.position, accepts.missing_eq, fun f found nonempty => ?_,
    ?_, fun fin _ => ?_⟩
  · have received : s.readPosition ∉ s.missing := by
      refine holds.allReceived found _ ?_
      rw [StreamFrame.bytes, holds.keyed _ f found, Set.mem_Ico]
      exact ⟨le_refl _, Nat.lt_add_of_pos_right (length_pos_iff.mpr nonempty)⟩
    have other : s.readPosition ≠ start := by
      intro same
      exact received (same ▸ accepts.insert.first)
    rcases accepts.others _ other with kept | ⟨-, buried⟩
    · exact kept.trans found
    · exact absurd accepts.insert.first (holds.coherent.read start buried.1)
  · rintro (⟨f, found, fin⟩ | ⟨unread, received, all⟩)
    · refine Or.inl ⟨f, ?_, fin⟩
      rcases accepts.others content.length (by omega) with kept | ⟨-, buried⟩
      · exact kept.trans found
      · have := buried.2
        omega
    · have position : s'.readPosition = s.readPosition := accepts.insert.position
      refine Or.inr ⟨position ▸ unread, fun isMissing => ?_, fun k f found hasData ends => ?_⟩
      · rw [accepts.missing_eq] at isMissing
        exact received isMissing.1
      · rcases accepts.lookup_cases found with ⟨rfl, rfl⟩ | old
        · rw [between_length accepts.low accepts.high,
            Nat.add_sub_cancel' (le_of_lt inside)] at ends
          exact absurd (ends ▸ accepts.last_mem) received
        · exact all k f old hasData ends
  · exact holds'.endKnown accepts.queued fin

end Accepted

/-- A frame is queued wherever a gap ends. -/
theorem Holds.exists_at_stop (holds : Holds content s) {g : ByteInterval} (member : g ∈ s.gaps)
    (small : g.stop < maxByteCount) : ¬s.NoData g.stop := by
  have received := stop_not_mem holds.gapped member small
  have nonempty := holds.gapped.nonempty g member
  obtain ⟨at_, boundaries⟩ := holds.coherent.boundaries
  have resumes := boundaries.resumes (g.stop - 1)
  rw [Nat.sub_add_cancel (by omega)] at resumes
  rcases boundaries.leads _ (resumes received (mem_missing_pred holds.gapped member)) with
    isMissing | ⟨data, found, hasData, -⟩
  · exact absurd isMissing received
  · obtain ⟨f, lookup, rfl⟩ := Option.map_eq_some_iff.mp found
    exact fun noData => hasData (noData f lookup)

/-- The outcome of a push. -/
theorem Holds.push (holds : Holds content s) (small : content.length < maxByteCount)
    (frameOf : FrameOf content frame) (flag : Bool) (timeStamp : Int)
    (timely : frame.finBit = true → s.LastByteNew frame ∨ s.AllReceived frame) :
    (s.push frame flag timeStamp).2 = some .errTooManyGapsInReceivedStreamData ∨
      Pushed content s frame (s.push frame flag timeStamp).1 := by
  have inRange : frame.offset + frame.data.length < maxByteCount :=
    lt_of_le_of_lt frameOf.within small
  have result := (holds.tidy small).push inRange flag timeStamp
  generalize s.push frame flag timeStamp = pushed at result
  cases result with
  | refused err _ received noMark => exact Or.inr (holds.pushed_duplicate noMark received)
  | marked empty fin => exact Or.inr (holds.pushed_mark frameOf empty fin)
  | tooManyGaps => exact Or.inl rfl
  | stored start stop filled nonempty fills first few =>
    -- behind a gap there is a frame with data, so nothing is stored there
    have new : start ∈ s.missing := first.resolve_right fun ⟨⟨g, member, atStop⟩, noData⟩ =>
      holds.exists_at_stop member (atStop ▸ fills.within.trans inRange) (atStop ▸ noData)
    refine Or.inr (holds.pushed_accepts (fills.accepts new) frameOf fun fin => ?_)
    exact (timely fin).resolve_right fun received =>
      received start ⟨fills.low, fills.within⟩ new

/-! ## The first and the last frame -/

theorem holds_new (content : List UInt8) : Holds content newStreamFrameSorter := by
  have everything : newStreamFrameSorter.missing = Set.univ := by
    refine Set.eq_univ_of_forall fun p => ?_
    rcases lt_or_ge p maxByteCount with below | above
    · exact Or.inl ⟨_, mem_cons_self, Nat.zero_le p, below⟩
    · exact Or.inr above
  have buffer : newStreamFrameSorter.buffer = Reassembly.empty := by
    unfold StreamFrameSorter.buffer
    rw [everything]
    rfl
  refine ⟨?_, ⟨fun g member => ?_, pairwise_singleton _ _⟩, fun _ _ found => (by cases found),
    fun _ _ found => (by cases found), fun _ _ found => (by cases found),
    fun _ _ found => (by cases found), fun _ _ found => (by cases found), rfl⟩
  · rw [buffer]
    exact coherent_empty content
  · obtain rfl := mem_singleton.mp member
    decide

section Dequeue

variable {f : StreamFrame}

section

variable (holds : Holds content s)

include holds

/-- Only the mark of the end is empty. -/
theorem Holds.nonempty {k : ℕ} (found : s.queuedFrames.lookup k = some f)
    (noFin : f.finBit = false) : f.data ≠ [] :=
  fun empty => Bool.false_ne_true (noFin.symm.trans (holds.mark k f found empty))

variable (found : s.queuedFrames.lookup s.readPosition = some f)

include found

/-- Reading never gets past the end of the content. -/
theorem Holds.position_add_le : s.readPosition + f.data.length ≤ content.length := by
  by_cases empty : f.data = []
  · rw [empty, length_nil, add_zero]
    by_contra past
    exact holds.coherent.read content.length (not_le.mp past)
      (holds.coherent.beyond _ (le_refl _))
  · exact holds.end_le found empty

section

variable (small : content.length < maxByteCount)

include small

theorem Holds.dequeue_position : (s.dequeue f).readPosition = s.readPosition + f.data.length := by
  have within := holds.position_add_le found
  refine (dequeue_rest s f).1.trans (addUint64_of_lt ?_)
  unfold maxByteCount at small
  omega

/-- A frame without the fin bit is taken out. -/
theorem Holds.dequeue (noFin : f.finBit = false) : Holds content (s.dequeue f) := by
  have kept {k : ℕ} {f' : StreamFrame} (found' : (s.dequeue f).queuedFrames.lookup k = some f') :=
    ((holds.tidy small).lookup_of_dequeue found found').2
  have rest := dequeue_rest s f
  have position := holds.dequeue_position found small
  refine ⟨?_, rest.2.2.1 ▸ holds.gapped, fun k f' found' => holds.keyed k f' (kept found'),
    fun k f' found' => holds.fin k f' (kept found'),
    fun k f' found' => holds.mark k f' (kept found'),
    fun k f' found' fin hasData k' f'' found'' =>
      holds.agree k f' (kept found') fin hasData k' f'' (kept found''),
    fun k f' found' fin hasData => ?_, rest.2.2.2.trans holds.reliable⟩
  · refine holds.coherent.advance ⟨segment_of_lookup found, dequeue_missing s f,
      fun k => ?_, position⟩
    simp only [buffer]
    rw [dequeue_lookup (holds.keyed _ f found)]
    exact apply_ite (Option.map StreamFrame.data) _ _ _
  · -- a frame that ends with the content would have the fin bit as well
    rw [position]
    have within := holds.position_add_le found
    have notEnd : s.readPosition + f.data.length ≠ content.length := by
      intro ends
      have isFin := holds.agree k f' (kept found') fin hasData _ f found
        (holds.nonempty found noFin)
        ends
      exact Bool.false_ne_true (noFin.symm.trans isFin)
    omega

theorem Holds.dequeue_endKnown (noFin : f.finBit = false) (known : EndKnown content s) :
    EndKnown content (s.dequeue f) := by
  have position := holds.dequeue_position found small
  have within := holds.position_add_le found
  rcases known with ⟨f', found', fin⟩ | ⟨unread, received, all⟩
  · refine Or.inl ⟨f', ?_, fin⟩
    rw [dequeue_lookup (holds.keyed _ f found), if_neg ?_]
    · exact found'
    · intro same
      rw [same, found] at found'
      obtain rfl := Option.some.inj found'
      exact Bool.false_ne_true (noFin.symm.trans fin)
  · refine Or.inr ⟨?_, dequeue_missing s f ▸ received, fun k f' found' => ?_⟩
    · have notEnd : s.readPosition + f.data.length ≠ content.length := fun ends =>
        Bool.false_ne_true
          (noFin.symm.trans (all _ f found (holds.nonempty found noFin) ends))
      omega
    · exact all k f' ((holds.tidy small).lookup_of_dequeue found found').2

end

end

end Dequeue

end Holds

end StreamFrameSorter

end MPQuic
