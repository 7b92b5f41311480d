import MPQuic.Stream.GapList

/-!
# Pushes that are refused

`Push` changes the gaps and the queue before it looks for its last two errors. A frame that leaves
too many gaps is not queued, but its bytes are taken out of the gaps, so that they are not accepted
later either. A frame that ends with the largest offset is refused after the gaps and frames on its
way were removed. All other errors leave the sorter as it was (`refusedPush_unchanged_iff`), and
whatever a push leaves, the gaps and the queue still fit together (`Sound.push_fits`).
-/

namespace MPQuic

open List StreamFrameSorter

namespace StreamFrameSorter

/-- Nothing that `Push` may change is different. What a map holds is compared by key. -/
structure Unchanged (s s' : StreamFrameSorter) : Prop where
  gaps : s'.gaps = s.gaps
  queuedFrames : ∀ k, s'.queuedFrames.lookup k = s.queuedFrames.lookup k
  readPosition : s'.readPosition = s.readPosition
  cnt : s'.cnt = s.cnt
  maxOffset : s'.maxOffset = s.maxOffset
  sortedOffset : s'.sortedOffset = s.sortedOffset
  queuedTime : ∀ k, s'.queuedTime.lookup k = s.queuedTime.lookup k

/-- Some byte of the frame is in a gap. -/
def Overlaps (s : StreamFrameSorter) (frame : StreamFrame) : Prop :=
  ∃ g ∈ s.gaps, frame.offset < g.stop ∧ g.start < frame.offset + frame.data.length

/-- Where the frame starts once it is cut at the end of a frame that is queued at its offset. -/
def cutStart (s : StreamFrameSorter) (frame : StreamFrame) : ℕ :=
  frame.offset + ((s.queuedFrames.lookup frame.offset).map StreamFrame.dataLen).getD 0

/-- From where the frame starts on, there are more than two gaps, or two with a frame queued right
behind the first one. -/
def Sweeps (s : StreamFrameSorter) (frame : StreamFrame) : Prop :=
  match s.gaps.filter fun g => s.cutStart frame ≤ g.stop with
  | gap :: _ :: rest => rest ≠ [] ∨ gap.stop ∈ s.queuedFrames
  | _ => False

/-- The frame is refused halfway: it has new bytes and leaves too many gaps, or it ends with the
largest offset and finds gaps or frames to remove on the way. -/
def Torn (s : StreamFrameSorter) (frame : StreamFrame) : Prop :=
  frame.data ≠ [] ∧
    (frame.offset + frame.data.length < maxByteCount ∧ s.Overlaps frame ∧
        (gapsWithout frame s.gaps).length > maxStreamFrameSorterGaps ∨
      frame.offset + frame.data.length = maxByteCount ∧ s.Sweeps frame)

instance (s : StreamFrameSorter) (frame : StreamFrame) : Decidable (s.Overlaps frame) :=
  inferInstanceAs (Decidable (∃ g ∈ s.gaps, _))

instance (s : StreamFrameSorter) (frame : StreamFrame) : Decidable (s.Sweeps frame) := by
  unfold Sweeps
  split <;> infer_instance

instance (s : StreamFrameSorter) (frame : StreamFrame) : Decidable (s.Torn frame) :=
  inferInstanceAs (Decidable (_ ∧ _))

section Refused

variable {s filled : StreamFrameSorter} {frame : StreamFrame} {flag : Bool} {timeStamp : Int}
  {start stop : ℕ} {gap : ByteInterval} {after before : List ByteInterval}

theorem Unchanged.refl (s : StreamFrameSorter) : s.Unchanged s :=
  ⟨rfl, fun _ => rfl, rfl, rfl, rfl, rfl, fun _ => rfl⟩

theorem unchanged_iff {gaps : List ByteInterval} {queuedFrames : AList fun _ : ℕ => StreamFrame} :
    s.Unchanged { s with gaps, queuedFrames } ↔
      gaps = s.gaps ∧ ∀ k, queuedFrames.lookup k = s.queuedFrames.lookup k :=
  ⟨fun same => ⟨same.gaps, same.queuedFrames⟩,
    fun ⟨gaps, queued⟩ => ⟨gaps, queued, rfl, rfl, rfl, rfl, fun _ => rfl⟩⟩

theorem push_empty (empty : frame.data = []) (flag : Bool) (timeStamp : Int) :
    s.push frame flag timeStamp =
      if frame.finBit then
        ({ s with queuedFrames := s.queuedFrames.insert frame.offset frame }, none)
      else (s, some .errEmptyStreamData) :=
  if_pos (length_eq_zero_iff.mpr empty)

/-! ## Too many gaps -/

theorem Sound.mem_gapBytes (sound : s.Sound) {p : ℕ} :
    p ∈ gapBytes s.gaps ↔ p ∈ s.missing ∧ p < maxByteCount := by
  constructor
  · rintro ⟨g, member, inside⟩
    exact ⟨Or.inl ⟨g, member, inside⟩, lt_of_lt_of_le inside.2 (sound.bounded g member)⟩
  · rintro ⟨inGap | beyond, below⟩
    · exact inGap
    · exact absurd beyond (not_le.mpr below)

theorem Sound.overlaps_iff (sound : s.Sound) (nonempty : frame.data ≠ [])
    (small : frame.offset + frame.data.length < maxByteCount) :
    s.Overlaps frame ↔ ¬ s.AllReceived frame := by
  have positive := length_pos_iff.mpr nonempty
  constructor
  · rintro ⟨g, member, low, high⟩ received
    have gapNonempty := sound.gapped.nonempty g member
    refine received (max g.start frame.offset) ⟨by omega, by omega⟩ ?_
    exact Or.inl ⟨g, member, by omega, by omega⟩
  · intro new
    unfold AllReceived at new
    push Not at new
    obtain ⟨p, ⟨low, high⟩, isMissing⟩ := new
    obtain ⟨g, member, first, last⟩ := sound.mem_gapBytes.mpr ⟨isMissing, by omega⟩
    exact ⟨g, member, by omega, by omega⟩

/-- The gaps are filled, and the frame is not queued: that changes nothing only if nothing of the
frame is new. -/
theorem Fills.unchanged_iff {queuedFrames : AList fun _ : ℕ => StreamFrame}
    (fills : s.Fills frame start stop { s with gaps := gapsWithout frame s.gaps, queuedFrames })
    (sound : s.Sound) (nonempty : frame.data ≠ [])
    (small : frame.offset + frame.data.length < maxByteCount) :
    s.Unchanged { s with gaps := gapsWithout frame s.gaps, queuedFrames } ↔
      s.AllReceived frame := by
  rw [StreamFrameSorter.unchanged_iff]
  constructor
  · rintro ⟨gaps, -⟩ p inFrame isMissing
    have without := missing_gapsWithout gaps.symm (le_of_lt small)
    exact (without.subset isMissing).2 inFrame
  · intro received
    refine ⟨?_, fun k => (fills.queued k).resolve_right fun ⟨_, inside⟩ => ?_⟩
    · refine gapsWithout_of_apart nonempty sound.gapped.nonempty fun g member => ?_
      by_contra overlap
      exact (sound.overlaps_iff nonempty small).mp ⟨g, member, by omega, by omega⟩ received
    · obtain ⟨low, high⟩ := inside
      have within := fills.high
      have first := fills.low
      exact received (stop - 1) ⟨by omega, by omega⟩ (fills.last (by omega))

/-- Below the largest offset, a refused frame changes something exactly if it has new bytes and
leaves too many gaps. -/
theorem Sound.refused_small (sound : s.Sound) (nonempty : frame.data ≠ [])
    (small : frame.offset + frame.data.length < maxByteCount) (flag : Bool) (timeStamp : Int) :
    ((s.push frame flag timeStamp).2 ≠ none → s.Unchanged (s.push frame flag timeStamp).1) ↔
      ¬ (s.Overlaps frame ∧ (gapsWithout frame s.gaps).length > maxStreamFrameSorterGaps) := by
  rw [sound.overlaps_iff nonempty small]
  rcases sound.toTidy.push_cases small nonempty flag timeStamp with
    ⟨received, pushed⟩ | ⟨start, stop, _, fills, ⟨_, rfl⟩, -, pushed⟩
  · rw [pushed]
    exact iff_of_true (fun _ => .refl s) fun torn => torn.1 received
  · rw [pushed]
    split
    · rename_i many
      rw [imp_iff_right (Option.some_ne_none _), fills.unchanged_iff sound nonempty small,
        and_iff_left many, not_not]
    · rename_i few
      exact iff_of_true (fun refused => absurd rfl refused) fun torn => few torn.2

/-! ## Frames that end with the largest offset -/

/-- What the search leaves when no gap reaches past the end of the frame. -/
structure Exhausted (gap : ByteInterval) (after : List ByteInterval)
    (queuedFrames : AList fun _ : ℕ => StreamFrame) (moved : Bool) (e : EndGap) : Prop where
  found : e.found = false
  endGap : e.endGap = (gap :: after).getLast (cons_ne_nil _ _)
  movedOn : e.moved = (moved || !after.isEmpty)
  removed : e.removed = false
  queued : ∀ k, e.queuedFrames.lookup k = queuedFrames.lookup k ∨ e.queuedFrames.lookup k = none

theorem findEndGap_exhausted (queuedFrames : AList fun _ : ℕ => StreamFrame) (moved : Bool)
    (covered : ∀ g ∈ gap :: after, g.start < stop ∧ g.stop ≤ stop) :
    Exhausted gap after queuedFrames moved (findEndGap stop moved gap after queuedFrames) := by
  induction after generalizing gap moved queuedFrames with
  | nil =>
    have := (covered gap mem_cons_self).2
    exact ⟨decide_eq_false (by omega), rfl, (Bool.or_false _).symm, rfl, fun _ => Or.inl rfl⟩
  | cons next after ih =>
    have here := (covered gap mem_cons_self).2
    have there := (covered next (by simp)).1
    rw [findEndGap, if_neg (by omega), if_neg (by omega)]
    have later := ih (queuedFrames.erase gap.stop) true fun g member =>
      covered g (mem_cons_of_mem _ member)
    refine ⟨later.found, later.endGap, ?_, later.removed, fun k => ?_⟩
    · rw [later.movedOn]
      simp
    · rcases later.queued k with same | gone
      · by_cases first : k = gap.stop
        · refine Or.inr ?_
          rw [same, first, AList.lookup_erase]
        · left
          rw [same, AList.lookup_erase_ne first]
      · exact Or.inr gone

/-- The gap itself is no further element; the last one is, if the search moved on. -/
theorem Exhausted.element {queuedFrames : AList fun _ : ℕ => StreamFrame} {e : EndGap}
    (exhausted : Exhausted gap after queuedFrames false e) : e.element = after.getLast?.toList := by
  unfold EndGap.element
  rw [exhausted.movedOn, exhausted.removed, exhausted.endGap]
  cases after with
  | nil => rfl
  | cons next after =>
    rw [getLast_cons (cons_ne_nil _ _), getLast?_eq_getLast_of_ne_nil
      (cons_ne_nil _ _)]
    rfl

/-- The sorter after a frame that ends with the largest offset. -/
structure SweptBy (s : StreamFrameSorter) (frame : StreamFrame) (before : List ByteInterval)
    (gap : ByteInterval) (after : List ByteInterval) : Prop where
  gaps : s.gaps = before ++ gap :: after
  behind : ∀ g ∈ before, g.stop < s.cutStart frame
  reaches : s.cutStart frame ≤ gap.stop
  pushed : ∀ flag timeStamp, s.push frame flag timeStamp =
    ({ s with
        gaps := before ++ gap :: (findEndGap maxByteCount false gap after s.queuedFrames).element
        queuedFrames := (findEndGap maxByteCount false gap after s.queuedFrames).queuedFrames },
      some .noEndGapFound)

theorem Sound.covered (sound : s.Sound) {g : ByteInterval} (member : g ∈ s.gaps) :
    g.start < maxByteCount ∧ g.stop ≤ maxByteCount := by
  have bound := sound.bounded g member
  exact ⟨lt_of_lt_of_le (sound.gapped.nonempty g member) bound, bound⟩

/-- A queued frame at the same offset is shorter, as nothing reaches the largest offset. -/
theorem Sound.cutQueued_limit (sound : s.Sound) (nonempty : frame.data ≠ [])
    (limit : frame.offset + frame.data.length = maxByteCount) :
    ∃ n < frame.data.length, s.cutStart frame = frame.offset + n ∧
      s.cutQueued frame = some (frame.dropFront n) := by
  have positive := length_pos_iff.mpr nonempty
  unfold cutStart cutQueued
  cases queued : s.queuedFrames.lookup frame.offset with
  | none => exact ⟨0, positive, rfl, rfl⟩
  | some oldFrame =>
    have shorter : oldFrame.data.length < frame.data.length := by
      by_contra longer
      refine sound.received _ _ queued (maxByteCount - 1) ?_ (Or.inl sound.last)
      rw [StreamFrame.bytes, sound.keyed _ _ queued, Set.mem_Ico]
      omega
    refine ⟨oldFrame.data.length, shorter, rfl, ?_⟩
    have sum : addUint64 frame.offset oldFrame.data.length =
        frame.offset + oldFrame.data.length :=
      addUint64_of_lt (by unfold maxByteCount at limit; omega)
    simp only [StreamFrame.dataLen, if_neg (not_le.mpr shorter), sum]
    rfl

theorem Sound.sweptBy (sound : s.Sound) (nonempty : frame.data ≠ [])
    (limit : frame.offset + frame.data.length = maxByteCount) :
    ∃ before gap after, s.SweptBy frame before gap after := by
  obtain ⟨n, few, startEq, cut⟩ := sound.cutQueued_limit nonempty limit
  have stopEq := StreamFrame.dropFront_stop (le_of_lt few)
  have offset : (frame.dropFront n).offset = s.cutStart frame := startEq.symm
  have sum : addUint64 (frame.dropFront n).offset (frame.dropFront n).dataLen = maxByteCount := by
    have small : (frame.dropFront n).offset + (frame.dropFront n).data.length < 2 ^ 64 := by
      rw [stopEq, limit]
      decide
    exact (addUint64_of_lt small).trans (stopEq.trans limit)
  have length : ¬ frame.dataLen = 0 := fun zero => nonempty (length_eq_zero_iff.mp zero)
  obtain ⟨g, member, -, high⟩ := sound.last
  obtain ⟨before, gap, after, split, behind, reaches, result⟩ :=
    findGap_eq [] (show s.cutStart frame < maxByteCount by omega) sound.gapped.nonempty
      ⟨g, member, by omega⟩
  have covered : ∀ g ∈ gap :: after, g.start < maxByteCount ∧ g.stop ≤ maxByteCount :=
    fun g member => sound.covered (split ▸ mem_append_right _ member)
  obtain ⟨found, -⟩ := result.resolve_right fun ⟨_, beyond⟩ =>
    not_le.mpr (covered gap mem_cons_self).1 beyond
  have exhausted := findEndGap_exhausted s.queuedFrames false covered
  refine ⟨before, gap, after, split, behind, reaches, fun flag timeStamp => ?_⟩
  rw [← offset] at found
  unfold StreamFrameSorter.push
  rw [if_neg length, cut]
  simp only [sum, found, nil_append, pushIntoGap, exhausted.found, Bool.not_false,
    if_true]

/-- What is left are some of the gaps, among them the last one. -/
theorem SweptBy.sound {after : List ByteInterval} (swept : s.SweptBy frame before gap after)
    (sound : s.Sound) (flag : Bool) (timeStamp : Int) : (s.push frame flag timeStamp).1.Sound := by
  have exhausted := findEndGap_exhausted s.queuedFrames false fun g member =>
    sound.covered (swept.gaps ▸ mem_append_right before member)
  have sub : (before ++ gap :: after.getLast?.toList).Sublist s.gaps := by
    rw [swept.gaps]
    refine List.Sublist.append_left (List.Sublist.cons_cons _ ?_) _
    cases last : after.getLast? with
    | none => exact nil_sublist _
    | some g => exact singleton_sublist.mpr (mem_of_getLast? last)
  have lastKept : (before ++ gap :: after.getLast?.toList).getLast? = s.gaps.getLast? := by
    rw [swept.gaps, getLast?_append_of_ne_nil _ (cons_ne_nil _ _),
      getLast?_append_of_ne_nil _ (cons_ne_nil _ _)]
    cases last : after.getLast? with
    | none => rw [getLast?_eq_none_iff.mp last]; rfl
    | some g => simp [getLast?_cons, last]
  rw [swept.pushed]
  simp only [exhausted.element]
  have missing : ∀ p, p ∈ gapBytes (before ++ gap :: after.getLast?.toList) ∪
      Set.Ici maxByteCount → p ∈ s.missing := by
    rintro p (⟨g, member, inside⟩ | beyond)
    · exact Or.inl ⟨g, sub.mem member, inside⟩
    · exact Or.inr beyond
  have kept {k : ℕ} {f : StreamFrame} (found : (findEndGap maxByteCount false gap after
      s.queuedFrames).queuedFrames.lookup k = some f) : s.queuedFrames.lookup k = some f := by
    rcases exhausted.queued k with same | gone
    · exact same ▸ found
    · rw [gone] at found
      cases found
  refine ⟨⟨⟨fun g member => sound.gapped.nonempty g (sub.mem member),
    sound.gapped.separated.sublist sub⟩, ?_, fun k f found => sound.keyed k f (kept found),
    fun k f found p inFrame isMissing =>
      sound.received k f (kept found) p inFrame (missing p isMissing)⟩,
    fun g member => sound.bounded g (sub.mem member)⟩
  have atLimit := sound.getLast_gaps
  rw [← lastKept, Option.map_eq_some_iff] at atLimit
  obtain ⟨g, last, stopEq⟩ := atLimit
  have member := mem_of_getLast? last
  have gapNonempty := sound.gapped.nonempty g (sub.mem member)
  exact ⟨g, member, by omega, by omega⟩

theorem SweptBy.filter_eq {after : List ByteInterval} (swept : s.SweptBy frame before gap after)
    (gapped : Gapped s.gaps) :
    (s.gaps.filter fun g => s.cutStart frame ≤ g.stop) = gap :: after := by
  rw [swept.gaps] at gapped ⊢
  rw [filter_append, filter_eq_nil_iff.mpr, nil_append, filter_eq_self.mpr]
  · intro g member
    refine decide_eq_true ?_
    have reaches := swept.reaches
    rcases mem_cons.mp member with rfl | later
    · exact reaches
    · have apart := (pairwise_cons.mp gapped.append_right.separated).1 g later
      have := gapped.nonempty g (by simp [later])
      omega
  · intro g member
    have := swept.behind g member
    simpa using this

/-- A frame that ends with the largest offset is always refused, and changes something exactly if
it finds a gap or a frame to remove. -/
theorem Sound.refused_limit (sound : s.Sound) (nonempty : frame.data ≠ [])
    (limit : frame.offset + frame.data.length = maxByteCount) (flag : Bool) (timeStamp : Int) :
    ((s.push frame flag timeStamp).2 ≠ none → s.Unchanged (s.push frame flag timeStamp).1) ↔
      ¬ s.Sweeps frame := by
  obtain ⟨before, gap, after, swept⟩ := sound.sweptBy nonempty limit
  have covered : ∀ g ∈ gap :: after, g.start < maxByteCount ∧ g.stop ≤ maxByteCount :=
    fun g member => sound.covered (swept.gaps ▸ mem_append_right _ member)
  have exhausted := findEndGap_exhausted s.queuedFrames false covered
  rw [swept.pushed, imp_iff_right (Option.some_ne_none _), unchanged_iff, exhausted.element]
  unfold Sweeps
  rw [swept.filter_eq sound.gapped]
  match after with
  | [] => exact iff_of_true ⟨swept.gaps.symm, fun k => rfl⟩ not_false
  | [next] =>
    have first := (covered gap (by simp)).2
    have second := covered next (by simp)
    have erased : (findEndGap maxByteCount false gap [next] s.queuedFrames).queuedFrames =
        s.queuedFrames.erase gap.stop := by
      rw [findEndGap, if_neg (by omega), if_neg (by omega)]
      rfl
    simp only [ne_eq, not_true_eq_false, false_or]
    rw [← AList.lookup_eq_none, erased]
    constructor
    · rintro ⟨-, unchanged⟩
      rw [← unchanged, AList.lookup_erase]
    · intro absent
      refine ⟨swept.gaps.symm, fun k => ?_⟩
      by_cases same : k = gap.stop
      · rw [same, AList.lookup_erase, absent]
      · exact AList.lookup_erase_ne same
  | next :: third :: more =>
    refine iff_of_false (fun unchanged => ?_) (not_not_intro (Or.inl (cons_ne_nil _ _)))
    have lengths := congrArg List.length (unchanged.1.trans swept.gaps)
    simp only [length_append, length_cons, Option.length_toList] at lengths
    split at lengths <;> omega

/-- What is left by every push of a frame whose end is an offset is in order. -/
theorem Sound.push_fits (sound : s.Sound)
    (fits : frame.offset + frame.data.length ≤ maxByteCount) (flag : Bool) (timeStamp : Int) :
    (s.push frame flag timeStamp).1.Sound := by
  rcases Nat.lt_or_eq_of_le fits with small | limit
  · exact sound.push small rfl
  · by_cases empty : frame.data = []
    · rw [push_empty empty]
      split
      · exact sound.insert (allReceived_of_empty empty) rfl rfl
      · exact sound
    · obtain ⟨before, gap, after, swept⟩ := sound.sweptBy empty limit
      exact swept.sound sound flag timeStamp

theorem Sound.refused_iff (sound : s.Sound)
    (fits : frame.offset + frame.data.length ≤ maxByteCount) (flag : Bool) (timeStamp : Int) :
    ((s.push frame flag timeStamp).2 ≠ none → s.Unchanged (s.push frame flag timeStamp).1) ↔
      ¬ s.Torn frame := by
  by_cases empty : frame.data = []
  · refine iff_of_true (fun refused => ?_) fun torn => torn.1 empty
    rw [push_empty empty] at refused ⊢
    by_cases fin : frame.finBit = true
    · rw [if_pos fin] at refused
      exact absurd rfl refused
    · rw [if_neg fin]
      exact .refl s
  · unfold Torn
    rw [and_iff_right empty]
    rcases Nat.lt_or_eq_of_le fits with small | limit
    · rw [sound.refused_small empty small, and_iff_right small,
        or_iff_left fun other => ne_of_lt small other.1]
    · rw [sound.refused_limit empty limit, and_iff_right limit,
        or_iff_right fun other => ne_of_lt other.1 limit]

end Refused

/-! ## Runs -/

section Runs

variable {s s' : StreamFrameSorter}

theorem Sound.head_fst (sound : s.Sound) {timeStamp : Int}
    (headed : (s.head timeStamp).map Prod.fst = .ok s') : s'.Sound := by
  cases result : s.head timeStamp with
  | error panic =>
    rw [result] at headed
    cases headed
  | ok pair =>
    rw [result] at headed
    cases headed
    exact (sound.head result).1.sound sound

theorem Sound.pop_fst (sound : s.Sound) {timeStamp : Int}
    (popped : (s.pop timeStamp).map Prod.fst = .ok s') : s'.Sound := by
  unfold StreamFrameSorter.pop at popped
  cases result : s.head timeStamp with
  | error panic =>
    rw [result] at popped
    cases popped
  | ok pair =>
    obtain ⟨asked, frame⟩ := pair
    obtain ⟨headed, isHead⟩ := sound.head result
    have soundAsked := headed.sound sound
    rw [result] at popped
    cases frame with
    | none =>
      cases popped
      exact soundAsked
    | some f =>
      cases popped
      exact soundAsked.dequeue isHead.symm

end Runs

end StreamFrameSorter

/-- The end of the frame is an offset, as `ParseStreamFrame` checks. -/
def SorterOp.Fits : SorterOp → Prop
  | .push frame _ => frame.offset + frame.data.length ≤ maxByteCount
  | .head _ => True
  | .pop _ => True

instance : ∀ op, Decidable (SorterOp.Fits op)
  | .push _ _ => inferInstanceAs (Decidable (_ ≤ _))
  | .head _ => .isTrue trivial
  | .pop _ => .isTrue trivial

namespace StreamFrameSorter

theorem Sound.step {s s' : StreamFrameSorter} (sound : s.Sound) {op : SorterOp} (fits : op.Fits)
    (stepped : s.step op = .ok s') : s'.Sound := by
  cases op with
  | push frame timeStamp =>
    cases stepped
    exact sound.push_fits fits true timeStamp
  | head timeStamp => exact sound.head_fst stepped
  | pop timeStamp => exact sound.pop_fst stepped

theorem Sound.run {s s' : StreamFrameSorter} (sound : s.Sound) {ops : List SorterOp}
    (fits : ∀ op ∈ ops, op.Fits) (ran : ops.foldlM StreamFrameSorter.step s = .ok s') :
    s'.Sound := by
  have each : Runs.EachOk StreamFrameSorter.step (fun _ op => op.Fits) s ops :=
    .of_mem fun op member _ => fits op member
  exact each.reached (fun _ s => s.Sound) sound
    (fun _ _ _ _ sound fits stepped => sound.step fits stepped) s' ran

end StreamFrameSorter

/-- After any run of the sorter, with frames whose ends are offsets, a push that is refused leaves
everything as it was exactly if the frame is not torn: if it has no new bytes or leaves at most the
permitted number of gaps, and if it does not sweep over gaps and queued frames up to the largest
offset. -/
theorem refusedPush_unchanged_iff (unreliable : Bool) (ops : List SorterOp)
    (fits : ∀ op ∈ ops, op.Fits) (s : StreamFrameSorter)
    (reached : ops.foldlM StreamFrameSorter.step
      { newStreamFrameSorter with unreliableMarker := unreliable } = .ok s)
    (frame : StreamFrame) (frameFits : frame.offset + frame.data.length ≤ maxByteCount)
    (flag : Bool) (timeStamp : Int) :
    ((s.push frame flag timeStamp).2 ≠ none → s.Unchanged (s.push frame flag timeStamp).1) ↔
      ¬ s.Torn frame :=
  ((sound_new unreliable).run fits reached).refused_iff frameFits flag timeStamp

/-! ## The frame that leaves one gap too many -/

def byteAt (offset : ℕ) : StreamFrame := { streamID := 5, offset, data := [1] }

/-- A byte at each of the first `n` odd offsets. -/
def oddBytes (n : ℕ) : List SorterOp := (List.range n).map fun i => .push (byteAt (2 * i + 1)) 0

/-- The gaps that these bytes leave. -/
def oddGaps (n : ℕ) : List ByteInterval :=
  (List.range n).map (fun i => { start := 2 * i, stop := 2 * i + 1 }) ++
    [{ start := 2 * n, stop := maxByteCount }]

section OddBytes

variable {s : StreamFrameSorter} {n : ℕ}

theorem length_oddGaps (n : ℕ) : (oddGaps n).length = n + 1 := by
  simp [oddGaps]

theorem gapsWithout_oddGaps (small : 2 * n + 2 < maxByteCount) :
    gapsWithout (byteAt (2 * n + 1)) (oddGaps n) = oddGaps (n + 1) := by
  have apart : ∀ i ∈ List.range n, ByteInterval.without (2 * n + 1) (2 * n + 1 + 1)
      { start := 2 * i, stop := 2 * i + 1 } = [{ start := 2 * i, stop := 2 * i + 1 }] := by
    intro i member
    have := mem_range.mp member
    unfold ByteInterval.without
    rw [if_pos (by simp only; omega), if_neg (by simp only; omega), append_nil]
    simp only [List.cons.injEq, ByteInterval.mk.injEq, true_and, and_true]
    omega
  have last : ByteInterval.without (2 * n + 1) (2 * n + 1 + 1)
      { start := 2 * n, stop := maxByteCount } =
        [{ start := 2 * n, stop := 2 * n + 1 },
          { start := 2 * (n + 1), stop := maxByteCount }] := by
    unfold ByteInterval.without
    rw [if_pos (by simp only; omega), if_pos (by simp only; omega)]
    simp only [singleton_append, List.cons.injEq, ByteInterval.mk.injEq, true_and, and_true]
    omega
  unfold gapsWithout oddGaps byteAt
  simp only [length_singleton, flatMap_append, flatMap_map, flatMap_singleton,
    range_succ, map_append, map_singleton, append_assoc,
    singleton_append, last]
  rw [flatMap_congr apart, ← map_eq_flatMap]

/-- The next odd byte splits the last gap, also when the push is refused. -/
theorem push_oddByte (sound : s.Sound) (gaps : s.gaps = oddGaps n)
    (small : 2 * n + 2 < maxByteCount) :
    (s.push (byteAt (2 * n + 1)) true 0).1.gaps = oddGaps (n + 1) ∧
      (s.push (byteAt (2 * n + 1)) true 0).2 =
        if n + 2 > maxStreamFrameSorterGaps then some .errTooManyGapsInReceivedStreamData
        else none := by
  have nonempty : (byteAt (2 * n + 1)).data ≠ [] := cons_ne_nil _ _
  have new : ¬ s.AllReceived (byteAt (2 * n + 1)) := by
    refine (sound.overlaps_iff nonempty small).mp ?_
    refine ⟨{ start := 2 * n, stop := maxByteCount }, ?_, ?_, ?_⟩
    · rw [gaps]
      simp [oddGaps]
    · simp only [byteAt]
      omega
    · simp only [byteAt, length_singleton]
      omega
  rcases sound.toTidy.push_cases small nonempty true 0 with
    ⟨received, -⟩ | ⟨start, stop, _, -, ⟨_, rfl⟩, -, pushed⟩
  · exact absurd received new
  · have left : gapsWithout (byteAt (2 * n + 1)) s.gaps = oddGaps (n + 1) := by
      rw [gaps, gapsWithout_oddGaps small]
    rw [pushed, left, length_oddGaps]
    split
    · exact ⟨rfl, rfl⟩
    · exact ⟨(enqueue_rest _ _ _ _).1, rfl⟩

theorem oddBytes_fits (small : 2 * n < maxByteCount) : ∀ op ∈ oddBytes n, op.Fits := by
  intro op member
  obtain ⟨i, below, rfl⟩ := mem_map.mp member
  have := mem_range.mp below
  simp only [SorterOp.Fits, byteAt, length_singleton]
  omega

theorem run_oddBytes (small : 2 * n < maxByteCount) :
    ∃ s, (oddBytes n).foldlM StreamFrameSorter.step .newUnreliable = .ok s ∧ s.Sound ∧
      s.gaps = oddGaps n := by
  induction n with
  | zero => exact ⟨_, rfl, sound_new true, rfl⟩
  | succ n ih =>
    obtain ⟨s, ran, sound, gaps⟩ := ih (by omega)
    have split : oddBytes (n + 1) = oddBytes n ++ [.push (byteAt (2 * n + 1)) 0] := by
      simp [oddBytes, range_succ]
    have fits : (byteAt (2 * n + 1)).offset + (byteAt (2 * n + 1)).data.length ≤
        maxByteCount := by
      simp only [byteAt, length_singleton]
      omega
    refine ⟨(s.push (byteAt (2 * n + 1)) true 0).1, ?_, sound.push_fits fits true 0,
      (push_oddByte sound gaps (by omega)).1⟩
    rw [split, foldlM_append, ran]
    rfl

end OddBytes

/-- The byte that makes one gap too many is refused as such, but it is no longer missing either. -/
theorem refusedPush_tears :
    (∀ op ∈ oddBytes 2499, op.Fits) ∧
      ∃ s, (oddBytes 2499).foldlM StreamFrameSorter.step .newUnreliable = .ok s ∧
      (s.push (byteAt 4999) true 0).2 = some .errTooManyGapsInReceivedStreamData ∧
      ¬ s.Unchanged (s.push (byteAt 4999) true 0).1 ∧
      4999 ∈ s.missing ∧ 4999 ∉ (s.push (byteAt 4999) true 0).1.missing := by
  obtain ⟨s, ran, sound, gaps⟩ := run_oddBytes (n := 2499) (by decide)
  obtain ⟨gapsAfter, result⟩ := push_oddByte sound gaps (by decide)
  have before : 4999 ∈ s.missing :=
    Or.inl ⟨{ start := 4998, stop := maxByteCount }, by rw [gaps]; simp [oddGaps], by decide⟩
  have after : 4999 ∉ (s.push (byteAt 4999) true 0).1.missing := by
    rintro (⟨g, member, low, high⟩ | beyond)
    · rw [gapsAfter] at member
      rcases mem_append.mp member with inFront | isLast
      · obtain ⟨i, -, rfl⟩ := mem_map.mp inFront
        simp only at low high
        omega
      · obtain rfl := mem_singleton.mp isLast
        simp only at low
        omega
    · exact absurd beyond (by decide)
  refine ⟨oddBytes_fits (by decide), s, ran, result, fun unchanged => after ?_, before, after⟩
  exact missing_of_gaps unchanged.gaps ▸ before

/-- A duplicate in the midst of received data. -/
theorem refusedPush_unchanged_duplicate :
    let ops : List SorterOp :=
      [.push { streamID := 5, offset := 0, data := [1, 2, 3] } 0,
        .push { streamID := 5, offset := 6, data := [7] } 0, .pop 0]
    let frame : StreamFrame := { streamID := 5, offset := 1, data := [2] }
    ∃ s, ops.foldlM StreamFrameSorter.step .newUnreliable = .ok s ∧
      (s.push frame true 0).2 = some .errDuplicateStreamData ∧
      s.Unchanged (s.push frame true 0).1 := by
  intro ops frame
  obtain ⟨s, ran⟩ : ∃ s, ops.foldlM StreamFrameSorter.step .newUnreliable = .ok s := ⟨_, rfl⟩
  cases ran
  refine ⟨_, rfl, by decide, ?_⟩
  exact (refusedPush_unchanged_iff true ops (by decide) _ rfl frame (by decide) true 0).mpr
    (by decide) (by decide)

end MPQuic
