import MPQuic.Stream.PaddingBounds

/-!
# The gaps of a reliable stream

The sorter of a reliable stream never pads, so only frames fill its gaps. As long as no push is
refused for the number of gaps, the list of gaps is the complement of the frames that were pushed,
whatever data they carry and however they overlap (`gapList_exact`).
-/

namespace MPQuic

open StreamFrameSorter

/-- The frame that is pushed. -/
def SorterOp.frame? : SorterOp → Option StreamFrame
  | .push frame _ => some frame
  | .head _ => none
  | .pop _ => none

/-- A push of data with offsets below the largest one that is not refused, or finds a duplicate. -/
def SorterOp.Accepted (s : StreamFrameSorter) : SorterOp → Prop
  | .push frame timeStamp =>
    frame.data ≠ [] ∧ frame.offset + frame.data.length < maxByteCount ∧
      ((s.push frame true timeStamp).2 = none ∨
        (s.push frame true timeStamp).2 = some .errDuplicateStreamData)
  | .head _ => True
  | .pop _ => True

instance (s : StreamFrameSorter) : ∀ op, Decidable (SorterOp.Accepted s op)
  | .push _ _ => inferInstanceAs (Decidable (_ ∧ _))
  | .head _ => .isTrue trivial
  | .pop _ => .isTrue trivial

namespace StreamFrameSorter

section GapList

variable {s s' : StreamFrameSorter} {frame : StreamFrame} {timeStamp : Int}
  {frames : List StreamFrame}

theorem missing_of_gaps (gaps : s'.gaps = s.gaps) : s'.missing = s.missing := by
  rw [missing, missing, gaps]

/-- A push that is not refused takes the bytes of the frame away from what is missing. -/
theorem Tidy.push_missing (tidy : s.Tidy) (accepted : SorterOp.Accepted s (.push frame timeStamp)) :
    (s.push frame true timeStamp).1.missing = s.missing \ frame.bytes ∧
      (s.push frame true timeStamp).1.unreliableMarker = s.unreliableMarker := by
  obtain ⟨nonempty, small, result⟩ := accepted
  rcases tidy.push_cases small nonempty true timeStamp with
    ⟨received, pushed⟩ | ⟨start, stop, _, -, ⟨_, rfl⟩, -, pushed⟩
  · rw [pushed]
    refine ⟨Set.ext fun p => ?_, rfl⟩
    exact ⟨fun isMissing => ⟨isMissing, fun inFrame => received p inFrame isMissing⟩, And.left⟩
  · rw [pushed] at result ⊢
    split at result
    · rcases result with result | result <;> cases result
    · rename_i few
      rw [if_neg few]
      obtain ⟨gaps, -, marker⟩ := enqueue_rest _ (frame.between start stop) true timeStamp
      exact ⟨missing_gapsWithout gaps (le_of_lt small), marker⟩

/-- The last gap ends with the largest offset. -/
theorem Sound.getLast_gaps (sound : s.Sound) :
    s.gaps.getLast?.map ByteInterval.stop = some maxByteCount := by
  obtain ⟨g, member, low, high⟩ := sound.last
  have bound := sound.bounded g member
  obtain ⟨front, back, split⟩ := List.append_of_mem member
  cases back with
  | nil =>
    have stop : g.stop = maxByteCount := by omega
    rw [split, List.getLast?_append_of_ne_nil _ (by simp)]
    exact congrArg some stop
  | cons next back =>
    -- there is no room for another gap
    have gapped := sound.gapped
    have nextBound := sound.bounded next (by simp [split])
    rw [split] at gapped
    have nonempty := gapped.nonempty next (by simp)
    have above := (List.pairwise_cons.mp gapped.append_right.separated).1 next (by simp)
    omega

/-- The state of a sorter of a reliable stream: what is missing is what no frame covers. -/
structure Complements (s : StreamFrameSorter) (frames : List StreamFrame) : Prop where
  sound : s.Sound
  reliable : s.unreliableMarker = false
  missing : ∀ p, p ∈ s.missing ↔ ∀ frame ∈ frames, p ∉ frame.bytes

theorem complements_new : newStreamFrameSorter.Complements [] where
  sound := sound_new false
  reliable := rfl
  missing := fun p => by
    refine iff_of_true ?_ fun _ member => absurd member List.not_mem_nil
    rcases lt_or_ge p maxByteCount with below | beyond
    · exact Or.inl ⟨_, List.mem_singleton_self _, Nat.zero_le p, below⟩
    · exact Or.inr beyond

theorem Complements.push (complements : s.Complements frames)
    (accepted : SorterOp.Accepted s (.push frame timeStamp)) :
    (s.push frame true timeStamp).1.Complements (frames ++ [frame]) := by
  obtain ⟨missing, marker⟩ := complements.sound.toTidy.push_missing accepted
  refine ⟨complements.sound.push accepted.2.1 rfl, marker.trans complements.reliable, fun p => ?_⟩
  rw [missing, Set.mem_sdiff, complements.missing]
  simp only [List.mem_append, List.mem_singleton, or_imp, forall_and, forall_eq]

theorem Complements.pop (complements : s.Complements frames) (timeStamp : Int) :
    ∃ s' frame, s.pop timeStamp = .ok (s', frame) ∧ s'.Complements frames := by
  cases queued : s.queuedFrames.lookup s.readPosition with
  | none =>
    refine ⟨s, none, ?_, complements⟩
    rw [StreamFrameSorter.pop, head_reliable complements.reliable, queued]
    rfl
  | some f =>
    refine ⟨s.dequeue f, some f, pop_of_lookup queued timeStamp,
      complements.sound.dequeue queued, ?_, fun p => ?_⟩
    · exact (dequeue_rest s f).2.2.2.trans complements.reliable
    · rw [dequeue_missing, complements.missing]

theorem Complements.step (complements : s.Complements frames)
    {op : SorterOp} (accepted : op.Accepted s) :
    ∃ s', s.step op = .ok s' ∧ s'.Complements (frames ++ op.frame?.toList) := by
  cases op with
  | push frame timeStamp => exact ⟨_, rfl, complements.push accepted⟩
  | head timeStamp =>
    refine ⟨s, ?_, by simpa [SorterOp.frame?] using complements⟩
    rw [StreamFrameSorter.step, head_reliable complements.reliable]
    rfl
  | pop timeStamp =>
    obtain ⟨s', frame, popped, complements'⟩ := complements.pop timeStamp
    refine ⟨s', ?_, by simpa [SorterOp.frame?] using complements'⟩
    rw [StreamFrameSorter.step, popped]
    rfl

end GapList

end StreamFrameSorter

/-- The gaps of a reliable stream are what the pushed frames do not cover. After pushes of any data,
none of them refused except as a duplicate, and of frames taken out in between, the gaps ascend, are
not empty and not adjacent, the last one ends at the largest offset, and their bytes are those of no
pushed frame. No further frame with data runs into one of the two errors that the source calls a
bug. -/
theorem gapList_exact (ops : List SorterOp)
    (accepted : Runs.EachOk step (fun s op => op.Accepted s)
      newStreamFrameSorter ops) :
    ∃ s, ops.foldlM step newStreamFrameSorter = .ok s ∧
      (∀ g ∈ s.gaps, g.start < g.stop) ∧
      s.gaps.Pairwise (fun lower upper => lower.stop < upper.start) ∧
      s.gaps.getLast?.map ByteInterval.stop = some maxByteCount ∧
      (∀ p, p ∈ gapBytes s.gaps ↔
        p < maxByteCount ∧ ∀ frame ∈ ops.filterMap SorterOp.frame?, p ∉ frame.bytes) ∧
      ∀ (frame : StreamFrame) (flag : Bool) (timeStamp : Int), frame.data ≠ [] →
        frame.offset + frame.data.length < maxByteCount →
        (s.push frame flag timeStamp).2 ≠ some .noGapFound ∧
        (s.push frame flag timeStamp).2 ≠ some .noEndGapFound := by
  obtain ⟨s, ran, complements⟩ := accepted.invariant
    (fun front s => s.Complements (front.filterMap SorterOp.frame?))
    complements_new fun front s op complements accepted => by
      obtain ⟨next, stepped, complements'⟩ := complements.step accepted
      refine ⟨next, stepped, ?_⟩
      rw [List.filterMap_append]
      cases op <;> exact complements'
  have sound := complements.sound
  refine ⟨s, ran, sound.gapped.nonempty, sound.gapped.separated, sound.getLast_gaps,
    fun p => ?_, fun frame flag timeStamp nonempty small => ?_⟩
  · rw [← complements.missing]
    constructor
    · rintro ⟨g, member, inside⟩
      exact ⟨lt_of_lt_of_le inside.2 (sound.bounded g member), Or.inl ⟨g, member, inside⟩⟩
    · rintro ⟨below, inGap | beyond⟩
      · exact inGap
      · exact absurd beyond (not_le.mpr below)
  · rcases sound.toTidy.push_cases small nonempty flag timeStamp with
      ⟨-, pushed⟩ | ⟨_, _, _, -, -, -, pushed⟩
    · rw [pushed]
      exact ⟨by simp, by simp⟩
    · rw [pushed]
      split <;> exact ⟨by simp, by simp⟩

/-- Two frames with a gap between them, one that overlaps both with other data, the first frame
taken out, and a duplicate. -/
theorem gapList_exact_overlapping :
    let ops : List SorterOp :=
      [.push { streamID := 5, offset := 0, data := [1, 2] } 0,
        .push { streamID := 5, offset := 4, data := [5, 6] } 0,
        .push { streamID := 5, offset := 1, data := [9, 9, 9, 9] } 0, .pop 0,
        .push { streamID := 5, offset := 2, data := [7] } 0]
    Runs.EachOk step (fun s op => op.Accepted s) newStreamFrameSorter ops ∧
      ∃ s, ops.foldlM step newStreamFrameSorter = .ok s ∧
        ∀ p, p ∈ gapBytes s.gaps ↔
          p < maxByteCount ∧ ∀ frame ∈ ops.filterMap SorterOp.frame?, p ∉ frame.bytes := by
  intro ops
  have accepted : Runs.EachOk step (fun s op => op.Accepted s)
      newStreamFrameSorter ops := by
    decide
  obtain ⟨s, ran, -, -, -, exactly, -⟩ := gapList_exact ops accepted
  exact ⟨accepted, s, ran, exactly⟩

end MPQuic
