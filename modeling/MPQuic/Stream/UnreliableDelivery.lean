import MPQuic.Stream.Delivery

/-!
# Delivery of an unreliable stream

Runs of the receiving half of an unreliable stream: frames that carry parts of one content
arrive in any order, and are read with buffers of any size. `Read` does not wait for the gaps
to be filled, so zeros may take the place of the content.

They do not move it: the byte that `Read` returns at a position is the byte of the content
there, or a zero that was put there when no frame with that byte had reached the sorter
(`unreliable_delivery`). The padding is one byte longer than the gap, and the sorter cuts it
back to the gap (`push_zeros`); what was received is never padded, because gaps only shrink.
-/

namespace MPQuic

open Reassembly StreamFrameSorter List

/-! ## Data at its place -/

/-- The data stands at its place in the content, apart from zeros at the given positions. -/
def InPlace (content : List UInt8) (zeroed : Set ℕ) (start : ℕ) (data : List UInt8) : Prop :=
  ∀ j b, data[j]? = some b →
    content[start + j]? = some b ∨ b = 0 ∧ start + j < content.length ∧ start + j ∈ zeroed

section InPlace

variable {content data more : List UInt8} {zeroed zeroed' : Set ℕ} {start n : ℕ}

theorem inPlace_nil : InPlace content zeroed start [] := by
  intro j b found
  rw [getElem?_nil] at found
  cases found

section

variable (inPlace : InPlace content zeroed start data)

include inPlace

theorem InPlace.mono (subset : zeroed ⊆ zeroed') :
    InPlace content zeroed' start data := fun j b found =>
  (inPlace j b found).imp id fun ⟨zero, within, member⟩ => ⟨zero, within, subset member⟩

theorem InPlace.drop (n : ℕ) : InPlace content zeroed (start + n) (data.drop n) := by
  intro j b found
  rw [getElem?_drop] at found
  rw [add_assoc]
  exact inPlace (n + j) b found

theorem InPlace.take (n : ℕ) : InPlace content zeroed start (data.take n) := by
  intro j b found
  rw [getElem?_take] at found
  split at found
  · exact inPlace j b found
  · cases found

theorem InPlace.append (rest : InPlace content zeroed (start + data.length) more) :
    InPlace content zeroed start (data ++ more) := by
  intro j b found
  rcases lt_or_ge j data.length with before | behind
  · rw [getElem?_append_left before] at found
    exact inPlace j b found
  · rw [getElem?_append_right behind] at found
    have place : start + data.length + (j - data.length) = start + j := by omega
    exact place ▸ rest _ b found

theorem InPlace.length_le (nonempty : data ≠ []) : start + data.length ≤ content.length := by
  have positive := length_pos_iff.mpr nonempty
  have last := getElem?_eq_getElem (Nat.sub_lt positive Nat.one_pos)
  rcases inPlace _ _ last with found | ⟨-, within, -⟩
  · obtain ⟨within, -⟩ := List.getElem?_eq_some_iff.mp found
    omega
  · omega

end

theorem inPlace_slice (content : List UInt8) (zeroed : Set ℕ) (start n : ℕ) :
    InPlace content zeroed start (slice content start n) := by
  intro j b found
  rw [slice, getElem?_take] at found
  split at found
  · rw [getElem?_drop] at found
    exact Or.inl found
  · cases found

theorem inPlace_zeros (within : start + n ≤ content.length)
    (positions : ∀ p ∈ Set.Ico start (start + n), p ∈ zeroed) :
    InPlace content zeroed start (List.replicate n 0) := by
  intro j b found
  obtain ⟨inside, value⟩ := List.getElem?_eq_some_iff.mp found
  rw [List.getElem_replicate] at value
  rw [List.length_replicate] at inside
  exact Or.inr ⟨value.symm, by omega, positions _ ⟨by omega, by omega⟩⟩

end InPlace

/-- The frame carries a part of the content. -/
structure PartOf (content : List UInt8) (frame : StreamFrame) : Prop where
  data : frame.data = slice content frame.offset frame.data.length
  within : frame.offset + frame.data.length ≤ content.length

/-! ## The sorter -/

namespace StreamFrameSorter

/-- The sorter holds data at its place, and some of it is still unread. -/
structure Carries (content : List UInt8) (zeroed : Set ℕ) (s : StreamFrameSorter) : Prop
    extends Sound s where
  few : s.gaps.length ≤ maxStreamFrameSorterGaps
  inPlace : ∀ k f, s.queuedFrames.lookup k = some f → InPlace content zeroed k f.data
  beyond : ∀ p, content.length ≤ p → p ∈ s.missing
  read : ∀ p < s.readPosition, p ∉ s.missing

section Carries

variable {content : List UInt8} {zeroed zeroed' : Set ℕ} {s s' filled : StreamFrameSorter}
  {frame f : StreamFrame} {start stop : ℕ} {timeStamp : Int}

theorem carries_new (content : List UInt8) (zeroed : Set ℕ) (unreliable : Bool) :
    Carries content zeroed { newStreamFrameSorter with unreliableMarker := unreliable } where
  toSound := sound_new unreliable
  few := Nat.le_of_ble_eq_true rfl
  inPlace := fun _ _ found => (by cases found)
  beyond := fun p _ => by
    rcases lt_or_ge p maxByteCount with below | above
    · exact Or.inl ⟨_, mem_cons_self, Nat.zero_le p, below⟩
    · exact Or.inr above
  read := fun p before => absurd before (Nat.not_lt_zero p)

section

variable (carries : Carries content zeroed s)

include carries

theorem Carries.mono (subset : zeroed ⊆ zeroed') : Carries content zeroed' s :=
  ⟨carries.toSound, carries.few, fun k f found => (carries.inPlace k f found).mono subset,
    carries.beyond, carries.read⟩

/-- A part of a frame is stored at its place. -/
theorem Carries.store (fills : s.Fills frame start stop filled)
    (small : frame.offset + frame.data.length < maxByteCount)
    (few : filled.gaps.length ≤ maxStreamFrameSorterGaps) (subset : zeroed ⊆ zeroed')
    (part : InPlace content zeroed' start (frame.between start stop).data)
    (within : stop ≤ content.length) (flag : Bool) (timeStamp : Int) :
    Carries content zeroed' (filled.enqueue (frame.between start stop) flag timeStamp) := by
  have missing := fills.stored_missing flag timeStamp
  obtain ⟨gaps, position, -⟩ := enqueue_rest filled (frame.between start stop) flag timeStamp
  refine ⟨fills.sound_stored carries.toSound small flag timeStamp, gaps ▸ few,
    fun k f found => ?_, fun p outside => ?_, fun p before isMissing => ?_⟩
  · rcases fills.lookup_stored flag timeStamp found with ⟨rfl, rfl⟩ | old
    · exact part
    · exact (carries.inPlace k f old).mono subset
  · rw [missing]
    refine ⟨carries.beyond p outside, fun inside => ?_⟩
    have := inside.2
    omega
  · rw [position, fills.position] at before
    rw [missing] at isMissing
    exact carries.read p before isMissing.1

/-- The head stays where it is while it is being read. -/
def HeadStays (s s' : StreamFrameSorter) : Prop :=
  s'.readPosition = s.readPosition ∧
    (s.readPosition ∉ s.missing → (∃ f, s.queuedFrames.lookup s.readPosition = some f) →
      ∃ f, s'.queuedFrames.lookup s.readPosition = some f)

theorem Carries.push (small : content.length < maxByteCount) (part : PartOf content frame)
    {err : Option SorterError} (pushed : s.push frame true timeStamp = (s', err))
    (few : err ≠ some .errTooManyGapsInReceivedStreamData) :
    Carries content zeroed s' ∧ s'.missing ⊆ s.missing ∧ s'.AllReceived frame ∧ HeadStays s s' := by
  have within := part.within
  have below : frame.offset + frame.data.length < maxByteCount := by omega
  have result := carries.toTidy.push below true timeStamp
  rw [pushed] at result
  cases result with
  | refused err other received => exact ⟨carries, subset_rfl, received, rfl, fun _ => id⟩
  | marked empty fin =>
    refine ⟨⟨carries.toSound.insert (allReceived_of_empty empty) rfl rfl, carries.few,
      fun k f found => ?_, carries.beyond, carries.read⟩, subset_rfl,
      allReceived_of_empty empty, rfl, fun _ ⟨f, found⟩ => ?_⟩
    · rcases MapSum.lookup_of_insert found with ⟨-, rfl⟩ | ⟨-, old⟩
      · rw [empty]
        exact inPlace_nil
      · exact carries.inPlace k f old
    · by_cases same : s.readPosition = frame.offset
      · exact ⟨frame, same ▸ AList.lookup_insert _⟩
      · exact ⟨f, (AList.lookup_insert_ne same).trans found⟩
  | tooManyGaps => exact absurd rfl few
  | stored start stop filled nonempty fills first fewGaps =>
    have low := fills.low
    have high := fills.high
    have missing := fills.stored_missing true timeStamp
    have place : InPlace content zeroed start (frame.between start stop).data := by
      have whole := inPlace_slice content zeroed frame.offset frame.data.length
      rw [← part.data] at whole
      have cut := (whole.drop (start - frame.offset)).take (stop - start)
      rwa [Nat.add_sub_cancel' low] at cut
    refine ⟨carries.store fills below fewGaps subset_rfl place (by omega) true timeStamp, ?_,
      fun p inFrame => ?_, ?_, fun received ⟨f, found⟩ => ?_⟩
    · rw [missing]
      exact Set.sdiff_subset
    · rw [missing]
      exact fun ⟨isMissing, outside⟩ => outside (fills.needed p inFrame isMissing)
    · exact (enqueue_rest filled (frame.between start stop) true timeStamp).2.1.trans
        fills.position
    · -- the frame starts behind the head
      have ahead : s.readPosition < start := by
        by_contra passed
        rcases first with new | ⟨⟨g, member, atStop⟩, -⟩
        · rcases lt_or_ge start s.readPosition with before | atHead
          · exact carries.read start before new
          · exact received (le_antisymm atHead (not_lt.mp passed) ▸ new)
        · have nonempty := carries.gapped.nonempty g member
          exact carries.read (g.stop - 1) (by omega) (mem_missing_pred carries.gapped member)
      rcases fills.stored_lookup_of_ne true timeStamp (ne_of_lt ahead) with old | ⟨-, inside⟩
      · exact ⟨f, old.trans found⟩
      · have := inside.1
        omega

/-- Asking for the head pads at most positions that were missing. -/
theorem Carries.head {frame : Option StreamFrame} (headed : s.head timeStamp = .ok (s', frame)) :
    Carries content (zeroed ∪ (s.missing \ s'.missing)) s' ∧ s'.missing ⊆ s.missing ∧
      s'.readPosition = s.readPosition ∧ frame = s'.queuedFrames.lookup s'.readPosition := by
  obtain ⟨result, isHead⟩ := carries.toSound.head headed
  cases result with
  | kept cntZero =>
    refine ⟨?_, subset_rfl, rfl, isHead⟩
    refine Carries.mono ?_ Set.subset_union_left
    exact ⟨⟨⟨carries.gapped, carries.last, carries.keyed, carries.received⟩, carries.bounded⟩,
      carries.few, carries.inPlace, carries.beyond, carries.read⟩
  | padded gap rest cntZero gaps finite few =>
    have nonempty := carries.gapped.nonempty gap (by simp [gaps])
    have fills := carries.toSound.fills_padding gaps cntZero
    have missing := fills.stored_missing false timeStamp
    have within : gap.stop ≤ content.length := by
      by_contra past
      exact stop_not_mem carries.gapped (by simp [gaps]) finite
        (carries.beyond gap.stop (Nat.le_of_not_le past))
    have zeros (zeroed' : Set ℕ) (positions : ∀ p ∈ Set.Ico gap.start gap.stop, p ∈ zeroed') :
        InPlace content zeroed' gap.start ((padding gap).between gap.start gap.stop).data := by
      have stop : gap.start + (gap.stop - gap.start) = gap.stop := by omega
      rw [padding_between]
      exact inPlace_zeros (stop.symm ▸ within) (stop.symm ▸ positions)
    have stored := carries.store fills (by rw [padding_stop nonempty]; exact finite) few
      Set.subset_union_left (zeros (zeroed ∪ Set.Ico gap.start gap.stop)
        fun p inside => Or.inr inside) within false timeStamp
    have filled : s.missing \ (s.missing \ Set.Ico gap.start gap.stop) =
        Set.Ico gap.start gap.stop := by
      rw [Set.sdiff_sdiff_right_self]
      exact Set.inter_eq_right.mpr fun p inside => Or.inl ⟨gap, by simp [gaps], inside⟩
    have position :=
      (enqueue_rest { s with cntZero, gaps := rest } (padding gap) false timeStamp).2.1
    rw [padding_between] at stored missing
    rw [missing, filled]
    exact ⟨stored, Set.sdiff_subset, position, isHead⟩
  | dropped gap rest cntZero gaps finite many =>
    have few := carries.few
    rw [gaps, length_cons] at few
    omega

theorem Carries.dequeue (found : s.queuedFrames.lookup s.readPosition = some f)
    (small : s.readPosition + f.data.length < 2 ^ 64) : Carries content zeroed (s.dequeue f) := by
  obtain ⟨position, -, gaps, -⟩ := dequeue_rest s f
  have key := carries.keyed _ f found
  refine ⟨carries.toSound.dequeue found, gaps ▸ carries.few, fun k f' found' => ?_, ?_,
    fun p before => ?_⟩
  · exact carries.inPlace k f' (carries.lookup_of_dequeue found found').2
  · rw [dequeue_missing]
    exact carries.beyond
  · rw [position, addUint64_of_lt small] at before
    rw [dequeue_missing]
    rcases lt_or_ge p s.readPosition with already | now
    · exact carries.read p already
    · refine carries.received _ f found p ?_
      rw [StreamFrame.bytes, key]
      exact ⟨now, before⟩

end

theorem entries_insert_le (queued : AList fun _ : ℕ => StreamFrame) (k : ℕ) (f : StreamFrame) :
    (queued.insert k f).entries.length ≤ queued.entries.length + 1 := by
  rw [AList.entries_insert, length_cons]
  exact Nat.succ_le_succ (kerase_sublist k queued.entries).length_le

/-- A frame at the head was there before, or is the padding. -/
theorem Carries.head_some (carries : Carries content zeroed s)
    (headed : s.head timeStamp = .ok (s', some f)) :
    s' = s ∨ s.queuedFrames.lookup s.readPosition = none ∧ f.data ≠ [] ∧
      s'.queuedFrames.entries.length ≤ s.queuedFrames.entries.length + 1 := by
  cases found : s.queuedFrames.lookup s.readPosition with
  | some head =>
    unfold StreamFrameSorter.head at headed
    rw [found] at headed
    cases headed
    exact Or.inl rfl
  | none =>
    obtain ⟨result, isHead⟩ := carries.toSound.head headed
    cases result with
    | padded gap rest cntZero gaps finite few =>
      have nonempty := carries.gapped.nonempty gap (by simp [gaps])
      obtain ⟨-, position, -⟩ :=
        enqueue_rest { s with cntZero, gaps := rest } (padding gap) false timeStamp
      rw [enqueue_queuedFrames] at isHead ⊢
      refine Or.inr ⟨rfl, ?_, entries_insert_le _ _ _⟩
      rw [position] at isHead
      by_cases first : s.readPosition = (padding gap).offset
      · rw [first, AList.lookup_insert] at isHead
        obtain rfl := Option.some.inj isHead
        refine length_pos_iff.mp ?_
        simp only [padding, zeros, List.length_replicate]
        omega
      · rw [AList.lookup_insert_ne first] at isHead
        cases isHead.trans found
    | _ => cases isHead.trans found

end Carries

end StreamFrameSorter

/-! ## Reading -/

namespace Stream

/-- The reader of a stream whose sorter holds data at its place. -/
structure Reads (content : List UInt8) (zeroed : Set ℕ) (s : Stream) : Prop where
  carries : s.frameQueue.Carries content zeroed
  low : s.frameQueue.readPosition ≤ s.readOffset
  within : s.readOffset ≤ content.length
  inFrame : s.readOffset = s.frameQueue.readPosition ∨
    s.frameQueue.readPosition ∉ s.frameQueue.missing ∧
      ∃ f, s.frameQueue.queuedFrames.lookup s.frameQueue.readPosition = some f

section Reads

variable {content : List UInt8} {zeroed zeroed' : Set ℕ} {s : Stream} {f : StreamFrame}
  {queue : StreamFrameSorter} {now : Int} {flow : FlowControlManager} {s' : Stream}
  {copied bytesRead : List UInt8} {r : ReadResult} {length : ℕ}

section

variable (reads : Reads content zeroed s)

include reads

theorem Reads.mono (subset : zeroed ⊆ zeroed') : Reads content zeroed' s :=
  ⟨reads.carries.mono subset, reads.low, reads.within, reads.inFrame⟩

/-- A push does not disturb the reader. -/
theorem Reads.pushed (carries : queue.Carries content zeroed)
    (missing : queue.missing ⊆ s.frameQueue.missing) (stays : HeadStays s.frameQueue queue) :
    Reads content zeroed { s with frameQueue := queue } := by
  obtain ⟨position, head⟩ := stays
  refine ⟨carries, position ▸ reads.low, reads.within, ?_⟩
  rcases reads.inFrame with same | ⟨received, found⟩
  · exact Or.inl (same.trans position.symm)
  · have received' : s.frameQueue.readPosition ∉ queue.missing := fun later =>
      received (missing later)
    rw [← position] at received'
    exact Or.inr ⟨received', position ▸ head received found⟩

/-- Asking for the head may pad the first gap. -/
theorem Reads.headed {frame : Option StreamFrame}
    (head : s.frameQueue.head now = .ok (queue, frame)) :
    Reads content (zeroed ∪ (s.frameQueue.missing \ queue.missing))
      { s with frameQueue := queue } := by
  obtain ⟨carries, -, position, -⟩ := reads.carries.head head
  refine ⟨carries, position ▸ reads.low, reads.within, ?_⟩
  rcases reads.inFrame with same | ⟨received, f, found⟩
  · exact Or.inl (same.trans position.symm)
  · unfold StreamFrameSorter.head at head
    rw [found] at head
    cases head
    exact Or.inr ⟨received, f, found⟩

/-- The frame at the head is copied. -/
theorem Reads.readFrame (small : content.length < 2 ^ 63)
    (found : s.frameQueue.queuedFrames.lookup s.frameQueue.readPosition = some f)
    (inside : intOfUint64 (subUint64 s.readOffset f.offset) ≤ (f.dataLen : Int))
    {flow flow' : FlowControlManager} {env : FlowEnv} {room : ℕ}
    (read : { s with
        readPosInFrame := intOfUint64 (subUint64 s.readOffset f.offset) }.readFrame flow env f
          room = .ok (s', flow', copied)) :
    Reads content zeroed s' ∧ InPlace content zeroed s.readOffset copied ∧
      s'.readOffset = s.readOffset + copied.length ∧
      s'.frameQueue.missing = s.frameQueue.missing ∧
      (copied.length = room ∧ s'.frameQueue = s.frameQueue ∨
        s.readOffset + copied.length = s.frameQueue.readPosition + f.data.length ∧
          s'.frameQueue = s.frameQueue.dequeue f) := by
  have low := reads.low
  have within := reads.within
  have key := reads.carries.keyed _ f found
  have place := reads.carries.inPlace _ f found
  have frameWithin : s.frameQueue.readPosition + f.data.length ≤ content.length := by
    by_cases empty : f.data = []
    · rw [empty]
      exact le_trans low within
    · exact place.length_le empty
  have pos : intOfUint64 (subUint64 s.readOffset f.offset) =
      ((s.readOffset - s.frameQueue.readPosition : ℕ) : Int) := by
    rw [key, subUint64_of_le low (by omega), intOfUint64, if_pos (by omega)]
  rw [pos] at inside
  unfold StreamFrame.dataLen at inside
  simp only [Stream.readFrame, pos, Int.toNat_natCast, length_drop, StreamFrame.dataLen]
    at read
  rw [if_neg (by omega)] at read
  have copy := (place.drop (s.readOffset - s.frameQueue.readPosition)).take
    (min room (f.data.length - (s.readOffset - s.frameQueue.readPosition)))
  rw [Nat.add_sub_cancel' low] at copy
  have length : ((f.data.drop (s.readOffset - s.frameQueue.readPosition)).take
      (min room (f.data.length - (s.readOffset - s.frameQueue.readPosition)))).length =
        min room (f.data.length - (s.readOffset - s.frameQueue.readPosition)) := by
    rw [length_take, length_drop]
    omega
  split at read
  · -- the frame is read to its end and taken out
    rename_i ended
    rw [pop_of_lookup found] at read
    cases read
    obtain ⟨position, -⟩ := dequeue_rest s.frameQueue f
    rw [addUint64_of_lt (by omega)] at position
    have readOffset : addUint64 s.readOffset
        (min room (f.data.length - (s.readOffset - s.frameQueue.readPosition))) =
          s.frameQueue.readPosition + f.data.length := by
      rw [addUint64_of_lt (by omega)]
      omega
    refine ⟨⟨reads.carries.dequeue found (by omega), ?_, ?_, Or.inl ?_⟩, copy, ?_,
      dequeue_missing _ f, Or.inr ⟨?_, rfl⟩⟩
    · simp only [position, readOffset]
      exact le_refl _
    · simp only [readOffset]
      exact frameWithin
    · simp only [position, readOffset]
    · simp only [readOffset, length]
      omega
    · rw [length]
      omega
  · -- the buffer is full before the end of the frame
    rename_i unread
    cases read
    have readOffset : addUint64 s.readOffset
        (min room (f.data.length - (s.readOffset - s.frameQueue.readPosition))) =
          s.readOffset + room := by
      rw [addUint64_of_lt (by omega)]
      omega
    have nonempty : f.data ≠ [] := length_pos_iff.mp (by omega)
    refine ⟨⟨reads.carries, ?_, ?_, Or.inr ⟨?_, f, found⟩⟩, copy, ?_, rfl, Or.inl ⟨?_, rfl⟩⟩
    · dsimp only
      omega
    · dsimp only
      omega
    · refine reads.carries.received _ f found s.frameQueue.readPosition ?_
      rw [StreamFrame.bytes, key, Set.mem_Ico]
      have := length_pos_iff.mpr nonempty
      omega
    · simp only [readOffset, length]
      omega
    · rw [length]
      omega

end

/-- What a call of `Read` does that has copied `bytesRead` already. -/
structure Returns (content : List UInt8) (zeroed : Set ℕ) (s : Stream) (bytesRead : List UInt8)
    (r : ReadResult) (copied : List UInt8) : Prop where
  reads : Reads content (zeroed ∪ (s.frameQueue.missing \ r.stream.frameQueue.missing)) r.stream
  missing : r.stream.frameQueue.missing ⊆ s.frameQueue.missing
  readOffset : r.stream.readOffset = s.readOffset + copied.length
  inPlace : InPlace content (zeroed ∪ (s.frameQueue.missing \ r.stream.frameQueue.missing))
    s.readOffset copied
  outcome : (∃ err, r.outcome = .returned (bytesRead ++ copied) err) ∨
    r.outcome = .waits ∧ bytesRead ++ copied = []

/-- What happens before the rest of the loop comes in front. -/
theorem Returns.prepend {bytesRead copied more : List UInt8}
    (rest : Returns content (zeroed ∪ (s.frameQueue.missing \ s'.frameQueue.missing)) s'
      (bytesRead ++ copied) r more)
    (inPlace : InPlace content (zeroed ∪ (s.frameQueue.missing \ s'.frameQueue.missing))
      s.readOffset copied)
    (readOffset : s'.readOffset = s.readOffset + copied.length)
    (missing : s'.frameQueue.missing ⊆ s.frameQueue.missing) :
    Returns content zeroed s bytesRead r (copied ++ more) := by
  have padded : zeroed ∪ (s.frameQueue.missing \ s'.frameQueue.missing) ∪
      (s'.frameQueue.missing \ r.stream.frameQueue.missing) ⊆
        zeroed ∪ (s.frameQueue.missing \ r.stream.frameQueue.missing) := by
    rintro p ((old | ⟨isMissing, received⟩) | ⟨isMissing, received⟩)
    · exact Or.inl old
    · exact Or.inr ⟨isMissing, fun later => received (rest.missing later)⟩
    · exact Or.inr ⟨missing isMissing, received⟩
  refine ⟨rest.reads.mono padded, rest.missing.trans missing, ?_, ?_, ?_⟩
  · rw [rest.readOffset, readOffset, length_append, add_assoc]
  · refine (inPlace.mono (Set.subset_union_left.trans padded)).append ?_
    exact readOffset ▸ rest.inPlace.mono padded
  · rw [← append_assoc]
    exact rest.outcome

/-- Every round fills the buffer, or takes a frame from the queue. A frame that was put there by
the same round has data. -/
theorem Reads.enough (reads : Reads content zeroed s) {queue queue' : StreamFrameSorter}
    {length fuel : ℕ} (room : ¬bytesRead.length ≥ length)
    (enough : length ≤ bytesRead.length ∧ 0 < fuel + 1 ∨
      length - bytesRead.length + s.frameQueue.queuedFrames.entries.length < fuel + 1)
    (head : s.frameQueue.head now = .ok (queue, some f))
    (progress : copied.length = length - bytesRead.length ∧ queue' = queue ∨
      s.readOffset + copied.length = queue.readPosition + f.data.length ∧
        queue' = queue.dequeue f) :
    length ≤ (bytesRead ++ copied).length ∧ 0 < fuel ∨
      length - (bytesRead ++ copied).length + queue'.queuedFrames.entries.length < fuel := by
  obtain ⟨carries, -, position, isHead⟩ := reads.carries.head head
  rw [length_append]
  rcases progress with ⟨full, -⟩ | ⟨ended, rfl⟩
  · exact Or.inl ⟨by omega, by omega⟩
  · have fewer := entries_dequeue_lt (carries.keyed _ f isHead.symm ▸ isHead.symm)
    rcases reads.carries.head_some head with rfl | ⟨absent, nonempty, more⟩
    · exact Or.inr (by omega)
    · have atHead : s.readOffset = s.frameQueue.readPosition := by
        refine reads.inFrame.resolve_right ?_
        rintro ⟨-, f, found⟩
        rw [absent] at found
        cases found
      have positive := length_pos_iff.mpr nonempty
      exact Or.inr (by omega)

theorem readLoop_returns (clock : ℕ → FlowEnv) (length : ℕ) (small : content.length < 2 ^ 63) :
    ∀ (fuel : ℕ) {zeroed : Set ℕ} {s : Stream} {flow : FlowControlManager}
      {bytesRead : List UInt8} {r : ReadResult}, Reads content zeroed s →
      length ≤ bytesRead.length ∧ 0 < fuel ∨
        length - bytesRead.length + s.frameQueue.queuedFrames.entries.length < fuel →
      readLoop clock length fuel s flow bytesRead = .ok r →
      ∃ copied, Returns content zeroed s bytesRead r copied := by
  intro fuel
  induction fuel with
  | zero =>
    intro zeroed s flow bytesRead r reads enough
    omega
  | succ fuel ih =>
    intro zeroed s flow bytesRead r reads enough loop
    simp only [Stream.readLoop] at loop
    split at loop
    · cases loop
      exact ⟨[], reads.mono Set.subset_union_left, subset_rfl, rfl, inPlace_nil,
        Or.inl ⟨none, by rw [append_nil]⟩⟩
    · rename_i room
      split at loop
      · cases loop
      · rename_i headed head
        obtain ⟨-, missing, -, isHead⟩ := reads.carries.head head
        have reads' := reads.headed head
        split at loop
        · cases loop
          exact ⟨[], reads', missing, rfl, inPlace_nil, Or.inl ⟨_, by rw [append_nil]⟩⟩
        · rename_i nothing
          split at loop
          · cases loop
            exact ⟨[], reads', missing, rfl, inPlace_nil, Or.inl ⟨_, by rw [append_nil]⟩⟩
          · split at loop
            · rename_i absent
              cases loop
              refine ⟨[], reads', missing, rfl, inPlace_nil, Or.inr ⟨rfl, ?_⟩⟩
              rw [append_nil]
              by_contra read
              exact nothing ⟨absent, read⟩
            · rename_i frame isFrame
              rw [isFrame] at isHead
              split at loop
              · cases loop
                exact ⟨[], ⟨reads'.carries, reads'.low, reads'.within, reads'.inFrame⟩, missing,
                  rfl, inPlace_nil, Or.inl ⟨_, by rw [append_nil]⟩⟩
              · rename_i inside
                split at loop
                · cases loop
                · rename_i s' flow' copied frameRead
                  obtain ⟨reads'', inPlace, readOffset, same, progress⟩ :=
                    reads'.readFrame small isHead.symm (Int.not_lt.mp inside) frameRead
                  have padded : s.frameQueue.missing \ s'.frameQueue.missing =
                      s.frameQueue.missing \ headed.1.missing :=
                    congrArg (s.frameQueue.missing \ ·) same
                  rw [← padded] at reads'' inPlace
                  have missing' : s'.frameQueue.missing ⊆ s.frameQueue.missing :=
                    same.symm ▸ missing
                  split at loop
                  · cases loop
                    refine ⟨copied, reads'', missing', readOffset, inPlace, Or.inl ⟨_, rfl⟩⟩
                  · have source : s.frameQueue.head (clock fuel).now =
                        .ok (headed.1, some frame) := by
                      rw [head, ← isFrame]
                    have enough' := reads.enough room enough source progress
                    obtain ⟨more, rest⟩ := ih reads'' enough' loop
                    exact ⟨copied ++ more, rest.prepend inPlace readOffset missing'⟩

theorem Reads.read (reads : Reads content zeroed s) (small : content.length < 2 ^ 63)
    {clock : ℕ → FlowEnv}
    (read : s.read flow clock length = .ok r) : ∃ copied, Returns content zeroed s [] r copied := by
  unfold Stream.read at read
  split at read
  · cases read
    exact ⟨[], reads.mono Set.subset_union_left, subset_rfl, rfl, inPlace_nil, Or.inl ⟨_, rfl⟩⟩
  · split at read
    · cases read
      exact ⟨[], reads.mono Set.subset_union_left, subset_rfl, rfl, inPlace_nil, Or.inl ⟨_, rfl⟩⟩
    · refine readLoop_returns clock length small _ reads (Or.inr ?_) read
      rw [length_nil]
      unfold readFuel
      omega

end Reads

end Stream

/-! ## Runs -/

namespace Receiver

/-- An unreliable stream to which nothing was sent yet. -/
def startUnreliable (streamID : Nat) (flow : FlowControlManager) : Receiver where
  stream := newStreamType streamID true
  flow

def runUnreliable (streamID : Nat) (flow : FlowControlManager) (ops : List ReceiveOp) : Receiver :=
  ops.foldl step (startUnreliable streamID flow)

/-- The call is a `Read` that pads the position, and no frame with that byte had reached the
sorter. -/
structure Pads (r : Receiver) (op : ReceiveOp) (p : ℕ) : Prop where
  isRead : ∃ length clock, op = .read length clock
  missing : p ∈ r.stream.frameQueue.missing
  padded : p ∉ (r.step op).stream.frameQueue.missing
  unseen : ∀ f ∈ r.pushed, p ∉ f.bytes

/-- What was returned stands at its place. -/
structure Placed (content : List UInt8) (zeroed : Set ℕ) (r : Receiver) : Prop where
  reads : Stream.Reads content zeroed r.stream
  length : r.delivered.length = r.stream.readOffset
  inPlace : InPlace content zeroed 0 r.delivered
  received : ∀ f ∈ r.pushed, r.stream.frameQueue.AllReceived f

section Step

variable {content : List UInt8} {zeroed : Set ℕ} {r : Receiver} {frame : StreamFrame}

section

variable (placed : Placed content zeroed r)

include placed

/-- A frame reaches the sorter. -/
theorem Placed.push (small : content.length < 2 ^ 63) (part : PartOf content frame)
    (flow : FlowControlManager) {timeStamp : Int}
    (few : (r.stream.frameQueue.push frame true timeStamp).2 ≠
      some .errTooManyGapsInReceivedStreamData) :
    Placed content zeroed ({ r with
      stream := { r.stream with
        frameQueue := (r.stream.frameQueue.push frame true timeStamp).1 }
      flow }.recordPush frame (r.stream.frameQueue.push frame true timeStamp).2) := by
  generalize pushed : r.stream.frameQueue.push frame true timeStamp = result at few
  obtain ⟨queue, err⟩ := result
  obtain ⟨carries, missing, received, stays⟩ :=
    placed.reads.carries.push (by unfold maxByteCount; omega) part pushed few
  refine ⟨placed.reads.pushed carries missing stays, placed.length, placed.inPlace,
    fun f member p inFrame isMissing => ?_⟩
  rcases mem_append.mp member with old | new
  · exact placed.received f old p inFrame (missing isMissing)
  · obtain rfl := mem_singleton.mp new
    exact received p inFrame isMissing

/-- A call of `Read`. -/
theorem Placed.read (small : content.length < 2 ^ 63) (length : Nat) (clock : Nat → FlowEnv) :
    Placed content (zeroed ∪ {p | r.Pads (.read length clock) p})
      (r.step (.read length clock)) := by
  cases read : r.stream.read r.flow clock length with
  | error panic =>
    simp only [step, read]
    exact ⟨placed.reads.mono Set.subset_union_left, placed.length,
      placed.inPlace.mono Set.subset_union_left, placed.received⟩
  | ok result =>
    obtain ⟨copied, returns⟩ := placed.reads.read small read
    have stepped : (r.step (.read length clock)).stream = result.stream := by
      simp only [step, read]
    have padded : zeroed ∪ (r.stream.frameQueue.missing \ result.stream.frameQueue.missing) ⊆
        zeroed ∪ {p | r.Pads (.read length clock) p} := by
      apply Set.union_subset_union_right zeroed
      rintro p ⟨isMissing, received⟩
      exact ⟨⟨length, clock, rfl⟩, isMissing, stepped ▸ received, fun f member inFrame =>
        placed.received f member p inFrame isMissing⟩
    have data : result.outcome.data = copied := by
      rcases returns.outcome with ⟨err, returned⟩ | ⟨waits, empty⟩
      · rw [returned]
        rfl
      · rw [nil_append] at empty
        rw [waits, empty]
        rfl
    simp only [step, read, data]
    refine ⟨returns.reads.mono padded, ?_, ?_, fun f member p inFrame isMissing => ?_⟩
    · rw [length_append, placed.length, returns.readOffset]
    · refine (placed.inPlace.mono Set.subset_union_left).append ?_
      rw [zero_add, placed.length]
      exact returns.inPlace.mono padded
    · exact placed.received f member p inFrame (returns.missing isMissing)

theorem Placed.step (small : content.length < 2 ^ 63) {op : ReceiveOp}
    (parts : ∀ frame, op.frame? = some frame → PartOf content frame)
    (few : (r.step op).tooManyGaps = false) :
    Placed content (zeroed ∪ {p | r.Pads op p}) (r.step op) := by
  have more {r' : Receiver} (placed : Placed content zeroed r') :
      Placed content (zeroed ∪ {p | r.Pads op p}) r' :=
    ⟨placed.reads.mono Set.subset_union_left, placed.length,
      placed.inPlace.mono Set.subset_union_left, placed.received⟩
  cases op with
  | addStreamFrame frame timeStamp =>
    apply more
    simp only [Receiver.step] at few ⊢
    cases checked : (r.flow.updateHighestReceived r.stream.streamID
      (addUint64 frame.offset frame.dataLen)).2 with
    | some err =>
      simp only [addStreamFrame_refuses checked]
      exact ⟨placed.reads, placed.length, placed.inPlace, placed.received⟩
    | none =>
      simp only [checked, addStreamFrame_pushes checked] at few ⊢
      exact placed.push small (parts frame rfl) _ (recordPush_tooManyGaps few).2
  | push frame timeStamp =>
    apply more
    exact placed.push small (parts frame rfl) r.flow (recordPush_tooManyGaps few).2
  | read length clock => exact placed.read small length clock

end

end Step

/-- The positions that were padded in a run. -/
def Padded (streamID : Nat) (flow : FlowControlManager) (ops : List ReceiveOp) : Set ℕ :=
  {p | ∃ front op back, ops = front ++ op :: back ∧ (runUnreliable streamID flow front).Pads op p}

theorem placed_run {content : List UInt8} {streamID : Nat} {flow : FlowControlManager}
    (small : content.length < 2 ^ 63) (ops : List ReceiveOp)
    (parts : ∀ op ∈ ops, ∀ frame, op.frame? = some frame → PartOf content frame)
    (few : (runUnreliable streamID flow ops).tooManyGaps = false) :
    Placed content (Padded streamID flow ops) (runUnreliable streamID flow ops) := by
  induction ops using List.reverseRecOn with
  | nil =>
    exact ⟨⟨carries_new content _ true, Nat.le_refl _, Nat.zero_le _, Or.inl rfl⟩, rfl,
      inPlace_nil, fun f member => (by cases member)⟩
  | append_singleton ops op ih =>
    have concat : runUnreliable streamID flow (ops ++ [op]) =
        (runUnreliable streamID flow ops).step op := foldl_concat _ _ _ _
    rw [concat] at few ⊢
    have before := ih (fun op' member => parts op' (mem_append_left _ member))
      (step_tooManyGaps few)
    have after := before.step small (parts op (by simp)) few
    have more : Padded streamID flow ops ∪ {p | (runUnreliable streamID flow ops).Pads op p} ⊆
        Padded streamID flow (ops ++ [op]) := by
      rintro p (⟨front, earlier, back, split, pads⟩ | pads)
      · refine ⟨front, earlier, back ++ [op], ?_, pads⟩
        rw [split, append_assoc, cons_append]
      · exact ⟨ops, op, [], rfl, pads⟩
    exact ⟨after.reads.mono more, after.length, after.inPlace.mono more, after.received⟩

end Receiver

/-! ## The result -/

/-- The bytes that `Read` returns keep their positions: the byte at a position is that of the
content, or a zero that a call of `Read` put there before any frame with that byte reached the
sorter. -/
theorem unreliable_delivery (streamID : Nat) (flow : FlowControlManager) (content : List UInt8)
    (small : content.length < 2 ^ 63) (ops : List ReceiveOp)
    (parts : ∀ op ∈ ops, ∀ frame, op.frame? = some frame → PartOf content frame)
    (few : (Receiver.runUnreliable streamID flow ops).tooManyGaps = false) (i : Nat) (b : UInt8)
    (returned : (Receiver.runUnreliable streamID flow ops).delivered[i]? = some b) :
    content[i]? = some b ∨ b = 0 ∧ i < content.length ∧ ∃ front op back,
      ops = front ++ op :: back ∧ (Receiver.runUnreliable streamID flow front).Pads op i := by
  have placed := Receiver.placed_run small ops parts few
  have place := placed.inPlace i b returned
  rw [zero_add] at place
  exact place

/-- Every other byte of a content arrives, in two frames 100 ms apart. -/
def everyOther : List ReceiveOp :=
  [.push { streamID := 5, offset := 1, data := [2] } 0,
    .push { streamID := 5, offset := 3, data := [4] } 100000000, .read 10 still]

theorem unreliable_delivery_everyOther :
    (Receiver.runUnreliable 5 (newFlowControlManager (serverParameters 0 0)) everyOther).delivered =
        [0, 2] ∧
      ∃ front op back, everyOther = front ++ op :: back ∧ (Receiver.runUnreliable 5
        (newFlowControlManager (serverParameters 0 0)) front).Pads op 0 := by
  have parts : ∀ op ∈ everyOther, ∀ frame, op.frame? = some frame → PartOf [1, 2, 3, 4] frame := by
    intro op member frame isFrame
    rcases mem_cons.mp member with rfl | member
    · obtain rfl := Option.some.inj isFrame
      exact ⟨rfl, by decide⟩
    · rcases mem_cons.mp member with rfl | member
      · obtain rfl := Option.some.inj isFrame
        exact ⟨rfl, by decide⟩
      · obtain rfl := mem_singleton.mp member
        cases isFrame
  refine ⟨by decide, ?_⟩
  rcases unreliable_delivery 5 (newFlowControlManager (serverParameters 0 0)) [1, 2, 3, 4]
    (by decide) everyOther parts (by decide) 0 0 (by decide) with kept | ⟨-, -, padded⟩
  · cases kept
  · exact padded

end MPQuic
