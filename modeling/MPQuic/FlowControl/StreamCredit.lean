import MPQuic.Stream.Pushing
import MPQuic.StreamFramer.SendingCalls

/-!
# The credit of one stream

What was read from a stream and what its flow controller counted (`Credit`), through everything
that can happen to its receiving half: frames that agree with the final offset (`FrameFits`),
reading, and a reset at the offset that was read. Once the stream is at its end, all that was
received is counted as read.
-/

namespace MPQuic

open StreamFrameSorter

/-! ## Frames that agree with the final offset -/

variable {timeStamp : Int} (id : Nat)

/-- Every byte of the frame was received, and the frame at its offset is still there if a gap
ends at it. -/
structure StreamFrameSorter.Repeats (s : StreamFrameSorter) (frame : StreamFrame) : Prop where
  nonempty : frame.data ≠ []
  received : s.AllReceived frame
  behind : (∃ g ∈ s.gaps, g.stop = frame.offset) → ¬s.NoData frame.offset

/-- A frame that agrees with the final offset of its stream. -/
structure FrameFits (s : Stream) (fc : FlowController) (frame : StreamFrame) : Prop where
  small : frame.offset + frame.data.length < maxByteCount
  /-- once the final offset is known, the frame does not pass what was received -/
  final : (s.finishedReading = true ∨ s.resetRemotely = true ∨
      ∃ k f, s.frameQueue.queuedFrames.lookup k = some f ∧ f.finBit = true) →
    frame.offset + frame.data.length ≤ fc.highestReceived
  /-- the end of the stream is the end of what was received, and its last byte is new -/
  fin : frame.finBit = true → s.finishedReading = false → s.resetRemotely = false →
    s.frameQueue.Repeats frame ∨ fc.highestReceived ≤ frame.offset + frame.data.length ∧
      (frame.data ≠ [] → frame.offset + frame.data.length - 1 ∈ s.frameQueue.missing)

/-! ## The credit -/

/-- What was read agrees with what was counted, all of it once the stream is at its end. -/
structure Credit (s : Stream) (fc : FlowController) : Prop where
  sound : s.frameQueue.Sound
  small : fc.highestReceived < maxByteCount
  beyond : ∀ p, fc.highestReceived ≤ p → p ∈ s.frameQueue.missing
  offset : s.resetRemotely = false → s.readOffset = fc.bytesRead
  within : fc.bytesRead ≤ fc.highestReceived
  returned : s.finishedReading = true ∨ s.resetRemotely = true → fc.bytesRead = fc.highestReceived
  ends : s.finishedReading = false → s.resetRemotely = false →
    ∀ k f, s.frameQueue.queuedFrames.lookup k = some f → f.finBit = true →
      k + f.data.length = fc.highestReceived

theorem newFlowController_receiving (contributes : Bool) (params : ConnectionParametersManager) :
    (newFlowController id contributes params).contributesToConnection = contributes ∧
      (newFlowController id contributes params).bytesRead = 0 ∧
      (newFlowController id contributes params).highestReceived = 0 := by
  unfold newFlowController
  split <;> exact ⟨rfl, rfl, rfl⟩

/-- A frame without an error was counted and pushed. -/
theorem Stream.addStreamFrame_ok {s : Stream} {flow : FlowControlManager} {frame : StreamFrame}
    (ok : (s.addStreamFrame flow frame timeStamp).2.2 = none) :
    (flow.updateHighestReceived s.streamID (addUint64 frame.offset frame.dataLen)).2 = none ∧
      (s.addStreamFrame flow frame timeStamp).1 =
        { s with frameQueue := (s.frameQueue.push frame true timeStamp).1 } ∧
      (s.addStreamFrame flow frame timeStamp).2.1 =
        (flow.updateHighestReceived s.streamID (addUint64 frame.offset frame.dataLen)).1 := by
  simp only [Stream.addStreamFrame] at ok ⊢
  split at ok
  · cases ok
  · rename_i updated
    simp only [updated]
    refine ⟨trivial, ?_⟩
    split
    · exact ⟨rfl, rfl⟩
    · split <;> exact ⟨rfl, rfl⟩

theorem Stream.registerRemoteError_receiving (s : Stream) (err : StreamError) :
    (s.registerRemoteError err).1.streamID = s.streamID ∧
      (s.registerRemoteError err).1.cancelled = s.cancelled ∧
      SameReceiving { s with resetRemotely := true } (s.registerRemoteError err).1 := by
  unfold registerRemoteError
  split
  · rename_i already
    refine ⟨rfl, rfl, ?_⟩
    unfold SameReceiving
    rw [← already]
  · have marked : SameReceiving { s with resetRemotely := true }
        ({ s with resetRemotely := true }.setErr err) := rfl
    have sent := sameReceiving_sendReset ({ s with resetRemotely := true }.setErr err)
    exact ⟨sent.seen fun _ => rfl, sent.seen fun _ => rfl, marked.trans sent⟩

namespace Credit

variable {s s' : Stream} {fc fc' : FlowController} {frame f : StreamFrame} {k n : Nat}
  {queue : StreamFrameSorter}

theorem sameReceiving (credit : Credit s fc) (same : s.SameReceiving s')
    (sameFc : fc'.receivingHalf = fc.receivingHalf) : Credit s' fc' := by
  have queue : s'.frameQueue = s.frameQueue := same.seen fun _ => rfl
  have offset : s'.readOffset = s.readOffset := same.seen fun _ => rfl
  have finished : s'.finishedReading = s.finishedReading := same.seen fun _ => rfl
  have reset : s'.resetRemotely = s.resetRemotely := same.seen fun _ => rfl
  have read : fc'.bytesRead = fc.bytesRead :=
    FlowController.seen_of_receivingHalf sameFc fun _ => rfl
  have highest : fc'.highestReceived = fc.highestReceived :=
    FlowController.seen_of_receivingHalf sameFc fun _ => rfl
  refine ⟨?_, ?_, ?_, ?_, ?_, ?_, ?_⟩
  · exact queue ▸ credit.sound
  · exact highest ▸ credit.small
  · rw [highest, queue]
    exact credit.beyond
  · rw [reset, offset, read]
    exact credit.offset
  · rw [read, highest]
    exact credit.within
  · rw [finished, reset, read, highest]
    exact credit.returned
  · rw [finished, reset, queue, highest]
    exact credit.ends

/-- A stream that was just opened. -/
theorem new (mark contributes : Bool) (params : ConnectionParametersManager) :
    Credit (newStreamType id mark) (newFlowController id contributes params) := by
  have unread := (newFlowController_receiving id contributes params).2
  refine ⟨sound_new mark, ?_, fun p _ => ?_, fun _ => unread.1.symm, ?_, ?_,
    fun _ _ k f found => (by cases found)⟩
  · rw [unread.2]
    decide
  · rcases lt_or_ge p maxByteCount with below | above
    · exact Or.inl ⟨_, List.mem_cons_self, Nat.zero_le p, below⟩
    · exact Or.inr above
  · rw [unread.1]
    exact Nat.zero_le _
  · rintro (finished | reset)
    · cases finished
    · cases reset

/-- Queued data ends within what was received. -/
theorem stop_le (credit : Credit s fc) (found : s.frameQueue.queuedFrames.lookup k = some f)
    (nonempty : f.data ≠ []) : k + f.data.length ≤ fc.highestReceived := by
  have positive := List.length_pos_iff.mpr nonempty
  have key := credit.sound.keyed k f found
  by_contra past
  refine credit.sound.received k f found (k + f.data.length - 1) ?_
    (credit.beyond _ (by omega))
  rw [StreamFrame.bytes, key, Set.mem_Ico]
  omega

/-- The queue was changed; nothing was received or read. -/
theorem setQueue (credit : Credit s fc) (sound : queue.Sound)
    (beyond : ∀ p, fc.highestReceived ≤ p → p ∈ queue.missing)
    (queued : ∀ k f, queue.queuedFrames.lookup k = some f → f.finBit = true →
      s.frameQueue.queuedFrames.lookup k = some f) : Credit { s with frameQueue := queue } fc :=
  { credit with
    sound
    beyond
    ends := fun unfinished unreset k f found fin =>
      credit.ends unfinished unreset k f (queued k f found fin) fin }

/-- Asking the queue for its head may pad a gap in front of data that was received. -/
theorem head (credit : Credit s fc) (headed : HeadResult s.frameQueue timeStamp queue) :
    Credit { s with frameQueue := queue } fc := by
  have sound := headed.sound credit.sound
  -- the gap that is filled ends before a received byte
  have beyond (cntZero : Nat) {gap : ByteInterval} {rest : List ByteInterval}
      (gaps : s.frameQueue.gaps = gap :: rest) (finite : gap.stop < maxByteCount) :
      ∀ p, fc.highestReceived ≤ p →
        p ∈ ({ s.frameQueue with cntZero, gaps := rest } : StreamFrameSorter).missing := by
    intro p high
    have received := stop_not_mem credit.sound.gapped (g := gap) (by simp [gaps]) finite
    rw [(credit.sound.fills_padding gaps cntZero).missing]
    refine ⟨credit.beyond p high, fun inside => received (credit.beyond _ ?_)⟩
    have := inside.2
    omega
  cases headed with
  | kept cntZero => exact credit.setQueue sound credit.beyond fun k f found _ => found
  | padded gap rest cntZero gaps finite few =>
    refine credit.setQueue sound (fun p high => ?_) fun k f found fin => ?_
    · unfold missing
      rw [(enqueue_rest _ _ _ _).1]
      exact beyond cntZero gaps finite p high
    · rw [enqueue_queuedFrames] at found
      rcases MapSum.lookup_of_insert found with ⟨-, rfl⟩ | ⟨-, old⟩
      · cases fin
      · exact old
  | dropped gap rest cntZero gaps finite many =>
    exact credit.setQueue sound (beyond cntZero gaps finite) fun k f found _ => found

/-- The frame at the head was taken out. -/
theorem dequeue (credit : Credit s fc)
    (found : s.frameQueue.queuedFrames.lookup s.frameQueue.readPosition = some f) :
    Credit { s with frameQueue := s.frameQueue.dequeue f } fc := by
  refine credit.setQueue (credit.sound.dequeue found) (fun p high => ?_) fun k f' found' _ =>
    (credit.sound.lookup_of_dequeue found found').2
  rw [dequeue_missing]
  exact credit.beyond p high

/-- The offset on the stream, from the position in the frame at the head. -/
theorem readOffset_eq (position : s.readPosInFrame =
      Stream.intOfUint64 (subUint64 s.readOffset f.offset))
    (nonneg : 0 ≤ s.readPosInFrame) (inside : s.readPosInFrame ≤ (f.dataLen : Int))
    (word : s.readOffset < 2 ^ 64) (small : f.offset + f.data.length < 2 ^ 64) :
    s.readOffset = f.offset + s.readPosInFrame.toNat := by
  unfold StreamFrame.dataLen at inside
  unfold Stream.intOfUint64 subUint64 at position
  split at position <;> omega

/-- What is read from the frame at the head was received, up to the final offset if the frame
ends the stream. -/
theorem read_le (credit : Credit s fc) (unreset : s.resetRemotely = false)
    (unfinished : s.finishedReading = false)
    (found : s.frameQueue.queuedFrames.lookup s.frameQueue.readPosition = some f)
    (position : s.readPosInFrame = Stream.intOfUint64 (subUint64 s.readOffset f.offset))
    (nonneg : 0 ≤ s.readPosInFrame) (inside : s.readPosInFrame ≤ (f.dataLen : Int))
    (fits : n ≤ f.data.length - s.readPosInFrame.toNat) :
    fc.bytesRead + n ≤ fc.highestReceived ∧
      ((f.dataLen : Int) ≤ s.readPosInFrame + n → f.finBit = true →
        fc.bytesRead + n = fc.highestReceived) := by
  have key := credit.sound.keyed _ f found
  have small := credit.small
  have within := credit.within
  have offset := credit.offset unreset
  unfold maxByteCount at small
  have offsetAt (bounded : f.offset + f.data.length ≤ fc.highestReceived) :=
    readOffset_eq position nonneg inside (by omega) (by omega)
  unfold StreamFrame.dataLen at inside ⊢
  refine ⟨?_, fun ends fin => ?_⟩
  · by_cases empty : f.data = []
    · rw [empty, List.length_nil] at fits
      omega
    · have bounded := credit.stop_le found empty
      have := offsetAt (key ▸ bounded)
      omega
  · have last := credit.ends unfinished unreset _ f found fin
    have := offsetAt (by rw [key]; exact le_of_eq last)
    omega

/-- Bytes were read and counted. -/
theorem moved (credit : Credit s fc) (unreset : s.resetRemotely = false)
    (unfinished : s.finishedReading = false) (env : FlowEnv)
    (received : fc.bytesRead + n ≤ fc.highestReceived) (pos : Int) :
    Credit { s with readPosInFrame := pos, readOffset := addUint64 s.readOffset n }
      (fc.addBytesRead env n) := by
  have small := credit.small
  unfold maxByteCount at small
  have exact : (fc.addBytesRead env n).bytesRead = fc.bytesRead + n :=
    addUint64_of_lt (by omega)
  refine ⟨credit.sound, credit.small, credit.beyond, fun _ => ?_, ?_, ?_, credit.ends⟩
  · exact congrArg (addUint64 · n) (credit.offset unreset)
  · rw [exact]
    exact received
  · rintro (finished | reset)
    · exact absurd (unfinished.symm.trans finished) (by decide)
    · exact absurd (unreset.symm.trans reset) (by decide)

/-- After a reset nothing is counted. -/
theorem movedUncounted (credit : Credit s fc) (reset : s.resetRemotely = true) (pos : Int)
    (readOffset : Nat) : Credit { s with readPosInFrame := pos, readOffset } fc :=
  { credit with offset := fun unreset => absurd (reset.symm.trans unreset) (by decide) }

/-- The frame at the head was read to its end. -/
theorem popped (credit : Credit s fc)
    (found : s.frameQueue.queuedFrames.lookup s.frameQueue.readPosition = some f) {fin : Bool}
    (full : fin = true → fc.bytesRead = fc.highestReceived)
    (unfinished : s.finishedReading = false) :
    Credit { s with frameQueue := s.frameQueue.dequeue f, finishedReading := fin } fc := by
  have rest := credit.dequeue found
  refine ⟨rest.sound, rest.small, rest.beyond, rest.offset, rest.within, ?_, ?_⟩
  · rintro (finished | reset)
    · exact full finished
    · exact credit.returned (Or.inr reset)
  · exact fun _ => rest.ends unfinished

/-- A frame with the fin bit is stored up to its end. -/
theorem stored_ends (fits : FrameFits s fc frame) (unfinished : s.finishedReading = false)
    (unreset : s.resetRemotely = false) {start stop : Nat} {filled : StreamFrameSorter}
    (nonempty : frame.data ≠ []) (fills : s.frameQueue.Fills frame start stop filled)
    (first : start ∈ s.frameQueue.missing ∨
      (∃ g ∈ s.frameQueue.gaps, g.stop = start) ∧ s.frameQueue.NoData start)
    (fin : frame.finBit = true) :
    stop = max fc.highestReceived (frame.offset + frame.data.length) := by
  have positive := List.length_pos_iff.mpr nonempty
  have high := fills.high
  rcases fits.fin fin unfinished unreset with repeats | ⟨reaches, last⟩
  · -- nothing is stored of a frame that was received
    have received := repeats.received start ⟨fills.low, fills.within⟩
    obtain ⟨behind, noData⟩ := first.resolve_left received
    obtain ⟨atOffset, -⟩ := fills.first.resolve_left received
    rw [atOffset] at behind noData
    exact absurd noData (repeats.behind behind)
  · have inside := fills.needed _ ⟨by omega, by omega⟩ (last nonempty)
    have := inside.2
    omega

/-- A frame arrived. -/
theorem push (credit : Credit s fc) (fits : FrameFits s fc frame) (timeStamp : Int)
    (highest : fc'.highestReceived = max fc.highestReceived (frame.offset + frame.data.length))
    (read : fc'.bytesRead = fc.bytesRead) :
    Credit { s with frameQueue := (s.frameQueue.push frame true timeStamp).1 } fc' := by
  have small := fits.small
  have sound : (s.frameQueue.push frame true timeStamp).1.Sound := credit.sound.push small rfl
  have result := credit.sound.toTidy.push small true timeStamp
  have before := credit.small
  have final (known : s.finishedReading = true ∨ s.resetRemotely = true ∨
      ∃ k f, s.frameQueue.queuedFrames.lookup k = some f ∧ f.finBit = true) :
      fc'.highestReceived = fc.highestReceived := by
    rw [highest, max_eq_left (fits.final known)]
  have within := credit.within
  generalize s.frameQueue.push frame true timeStamp = pushed at result sound ⊢
  refine ⟨sound, by omega, fun p high => ?_, fun unreset => ?_, by omega, fun known => ?_,
    fun unfinished unreset k f found fin => ?_⟩
  · have stays := credit.beyond p (by omega)
    have outside {start stop : Nat} {filled : StreamFrameSorter}
        (fills : s.frameQueue.Fills frame start stop filled) : p ∉ Set.Ico start stop := by
      rintro ⟨-, below⟩
      have := fills.high
      omega
    cases result with
    | refused => exact stays
    | marked => exact stays
    | tooManyGaps start stop filled fills many =>
      rw [fills.missing]
      exact ⟨stays, outside fills⟩
    | stored start stop filled nonempty fills first few =>
      rw [fills.stored_missing]
      exact ⟨stays, outside fills⟩
  · exact (credit.offset unreset).trans read.symm
  · have same := final (known.imp_right Or.inl)
    rw [read, same]
    exact credit.returned known
  · have old (queued : s.frameQueue.queuedFrames.lookup k = some f) :
        k + f.data.length = fc'.highestReceived := by
      rw [final (Or.inr (Or.inr ⟨k, f, queued, fin⟩))]
      exact credit.ends unfinished unreset k f queued fin
    cases result with
    | refused => exact old found
    | marked empty isFin =>
      rcases MapSum.lookup_of_insert found with ⟨same, rfl⟩ | ⟨-, before⟩
      · rcases fits.fin isFin unfinished unreset with repeats | ⟨reaches, -⟩
        · exact absurd empty repeats.nonempty
        · rw [highest, same, max_eq_right reaches]
      · exact old before
    | tooManyGaps start stop filled fills many =>
      rcases fills.queued k with same | ⟨gone, -⟩
      · exact old (same ▸ found)
      · rw [gone] at found
        cases found
    | stored start stop filled nonempty fills first few =>
      rcases fills.lookup_stored true timeStamp found with ⟨rfl, rfl⟩ | before
      · have ordered := fills.ordered
        rw [StreamFrame.between_length fills.low fills.high, highest,
          ← stored_ends fits unfinished unreset nonempty fills first fin]
        omega
      · exact old before

/-- A reset at the offset that was read and received. -/
theorem reset (credit : Credit s fc) (full : fc.bytesRead = fc.highestReceived) (offset : Nat)
    (final : offset = fc.highestReceived) :
    Credit { s with resetRemotely := true }
      { fc with highestReceived := max fc.highestReceived offset } := by
  rw [final, Nat.max_self]
  refine ⟨credit.sound, credit.small, credit.beyond, fun unreset => ?_, credit.within,
    fun _ => full, fun _ unreset => ?_⟩
  · cases unreset
  · cases unreset

end Credit

end MPQuic
