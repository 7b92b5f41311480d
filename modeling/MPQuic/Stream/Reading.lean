import MPQuic.Stream
import MPQuic.Stream.SorterContent

/-!
# Reading a stream

`Read` on a reliable stream whose sorter holds parts of one content: what it copies is the
next part of the content, it reports the end of the stream only at the end of the content,
and it does not wait once everything has arrived.
-/

namespace MPQuic

open List hiding head

open Reassembly StreamFrameSorter

namespace Stream

/-- The reader of a stream that nobody closed or reset, before it has met the fin bit. -/
structure Reader (content : List UInt8) (s : Stream) : Prop where
  holds : s.frameQueue.Holds content
  low : s.frameQueue.readPosition ≤ s.readOffset
  inFrame : s.readOffset = s.frameQueue.readPosition ∨
    ∃ f, s.frameQueue.queuedFrames.lookup s.frameQueue.readPosition = some f ∧
      s.readOffset < s.frameQueue.readPosition + f.data.length
  cancelled : s.cancelled = false
  resetLocally : s.resetLocally = false
  err : s.err = none
  readDeadline : s.readDeadline = none
  finishedReading : s.finishedReading = false

/-- The reader has met the fin bit at the end of the content. -/
structure AtEnd (content : List UInt8) (s : Stream) : Prop where
  readOffset : s.readOffset = content.length
  cancelled : s.cancelled = false
  resetLocally : s.resetLocally = false
  finishedReading : s.finishedReading = true

section Frame

variable {content : List UInt8} {s : Stream} {f : StreamFrame}

section

variable (reader : Reader content s)

include reader

theorem Reader.readOffset_le
    (found : s.frameQueue.queuedFrames.lookup s.frameQueue.readPosition = some f) :
    s.readOffset ≤ s.frameQueue.readPosition + f.data.length := by
  rcases reader.inFrame with same | ⟨f', found', inside⟩
  · rw [same]
    exact Nat.le_add_right _ _
  · obtain rfl := Option.some.inj (found.symm.trans found')
    exact le_of_lt inside

/-- A push does not disturb the reader. -/
theorem Reader.pushed {sorter : StreamFrameSorter} (pushed : Pushed content s.frameQueue f sorter) :
    Reader content { s with frameQueue := sorter } := by
  have position := pushed.position
  refine ⟨pushed.holds, position ▸ reader.low, ?_, reader.cancelled, reader.resetLocally,
    reader.err, reader.readDeadline, reader.finishedReading⟩
  rw [position]
  refine reader.inFrame.imp id fun ⟨head, found, inside⟩ => ⟨head, ?_, inside⟩
  refine position ▸ pushed.head head found fun empty => ?_
  have low := reader.low
  rw [empty, length_nil] at inside
  omega

/-- The position in the frame at the head. -/
theorem Reader.readPosInFrame_eq (small : content.length < 2 ^ 63)
    (found : s.frameQueue.queuedFrames.lookup s.frameQueue.readPosition = some f) :
    intOfUint64 (subUint64 s.readOffset f.offset) =
      ((s.readOffset - s.frameQueue.readPosition : ℕ) : Int) := by
  have within := reader.holds.position_add_le found
  have offset_le := reader.readOffset_le found
  rw [reader.holds.keyed _ f found, subUint64_of_le reader.low (by omega), intOfUint64,
    if_pos (by omega)]

/-- What is left of the frame at the head is the next part of the content. -/
theorem Reader.unread_eq
    (found : s.frameQueue.queuedFrames.lookup s.frameQueue.readPosition = some f) :
    f.data.drop (s.readOffset - s.frameQueue.readPosition) =
      slice content s.readOffset
        (s.frameQueue.readPosition + f.data.length - s.readOffset) := by
  have low := reader.low
  have part := reader.holds.coherent.slice _ _ (segment_of_lookup found)
  have start : s.frameQueue.readPosition + (s.readOffset - s.frameQueue.readPosition) =
      s.readOffset := Nat.add_sub_cancel' low
  rw [part, slice_drop, ← part, start]
  congr 1
  omega

/-- What copying from the frame `f` at the head into a buffer with `room` bytes left does. -/
structure Copies (content : List UInt8) (s : Stream) (f : StreamFrame) (room : ℕ) (s' : Stream)
    (copied : List UInt8) : Prop where
  slice : copied = slice content s.readOffset copied.length
  readOffset : s'.readOffset = s.readOffset + copied.length
  missing : s'.frameQueue.missing = s.frameQueue.missing
  next : copied.length = room ∧ Reader content s' ∧ s'.frameQueue = s.frameQueue ∨
    copied.length ≤ room ∧ f.finBit = false ∧ Reader content s' ∧
      s'.frameQueue = s.frameQueue.dequeue f ∨
    copied.length ≤ room ∧ AtEnd content s'

theorem Reader.readFrame (small : content.length < 2 ^ 63)
    (found : s.frameQueue.queuedFrames.lookup s.frameQueue.readPosition = some f)
    (flow : FlowControlManager) (env : FlowEnv) (room : ℕ) :
    ∃ s' flow' copied,
      { s with
        readPosInFrame := intOfUint64 (subUint64 s.readOffset f.offset)
      }.readFrame flow env f room = .ok (s', flow', copied) ∧
        Copies content s f room s' copied := by
  have low := reader.low
  have within := reader.holds.position_add_le found
  have offset_le := reader.readOffset_le found
  have unread := reader.unread_eq found
  have length : (f.data.drop (s.readOffset - s.frameQueue.readPosition)).length =
      s.frameQueue.readPosition + f.data.length - s.readOffset := by
    rw [length_drop]
    omega
  simp only [Stream.readFrame, reader.readPosInFrame_eq small found, Int.toNat_natCast, length]
  rw [if_neg (by omega), unread]
  have dataLen : f.dataLen = f.data.length := rfl
  by_cases full : room < s.frameQueue.readPosition + f.data.length - s.readOffset
  · -- the buffer is full before the end of the frame
    rw [min_eq_left (le_of_lt full), if_neg (by omega), slice_take,
      min_eq_left (le_of_lt full), addUint64_of_lt (by omega)]
    have copied : (slice content s.readOffset room).length = room := by
      rw [length_slice]
      omega
    refine ⟨_, _, _, rfl, by rw [copied], by rw [copied], rfl, Or.inl ⟨copied, ?_, rfl⟩⟩
    exact ⟨reader.holds, by simp only; omega, Or.inr ⟨f, found, by simp only; omega⟩,
      reader.cancelled, reader.resetLocally, reader.err, reader.readDeadline,
      reader.finishedReading⟩
  · -- the frame is read to its end and taken out
    rw [min_eq_right (not_lt.mp full), if_pos (by omega), slice_take, min_self,
      addUint64_of_lt (by omega), pop_of_lookup found]
    have copied : (slice content s.readOffset
        (s.frameQueue.readPosition + f.data.length - s.readOffset)).length =
          s.frameQueue.readPosition + f.data.length - s.readOffset := by
      rw [length_slice]
      omega
    have position := reader.holds.dequeue_position found (by unfold maxByteCount; omega)
    refine ⟨_, _, _, rfl, by rw [copied], by rw [copied], dequeue_missing _ f, Or.inr ?_⟩
    cases fin : f.finBit with
    | false =>
      refine Or.inl ⟨by omega, rfl,
        ⟨reader.holds.dequeue found (by unfold maxByteCount; omega) fin, ?_, Or.inl ?_,
          reader.cancelled, reader.resetLocally, reader.err, reader.readDeadline, ?_⟩,
        rfl⟩
      · simp only [position]
        omega
      · simp only [position]
        omega
      · simp only [reader.finishedReading, Bool.or_false]
    | true =>
      have ends := reader.holds.fin _ f found fin
      refine Or.inr ⟨by omega, ?_, reader.cancelled, reader.resetLocally, Bool.or_true _⟩
      simp only
      omega

end

end Frame

/-! ## The loop -/

section Loop

variable {content : List UInt8}
  {s : Stream} {bytesRead : List UInt8} {length : ℕ}

/-- All of the content has arrived, and the fin bit with it. -/
def Complete (content : List UInt8) (s : Stream) : Prop :=
  (∀ p < content.length, p ∉ s.frameQueue.missing) ∧ s.frameQueue.EndKnown content

/-- There is a frame to read. -/
theorem Reader.exists_head (reader : Reader content s) (complete : Complete content s) :
    ∃ f, s.frameQueue.queuedFrames.lookup s.frameQueue.readPosition = some f := by
  obtain ⟨received, known⟩ := complete
  rcases lt_or_ge s.frameQueue.readPosition content.length with unread | atEnd
  · obtain ⟨data, found, -⟩ := reader.holds.coherent.next (received _ unread)
    obtain ⟨f, lookup, -⟩ := Option.map_eq_some_iff.mp found
    exact ⟨f, lookup⟩
  · have position : s.frameQueue.readPosition = content.length := by
      refine le_antisymm (not_lt.mp fun past => ?_) atEnd
      exact reader.holds.coherent.read content.length past
        (reader.holds.coherent.beyond _ (le_refl _))
    rcases known with ⟨f, found, -⟩ | ⟨unread, -⟩
    · exact ⟨f, position ▸ found⟩
    · omega

/-- What a call of `Read` does that has copied `bytesRead` already. -/
structure ReadsOn (content : List UInt8) (s : Stream) (bytesRead : List UInt8) (length : ℕ)
    (r : ReadResult) (copied : List UInt8) : Prop where
  slice : copied = slice content s.readOffset copied.length
  readOffset : r.stream.readOffset = s.readOffset + copied.length
  missing : r.stream.frameQueue.missing = s.frameQueue.missing
  outcome :
    r.outcome = .waits ∧ bytesRead ++ copied = [] ∧ Reader content r.stream ∧
        (s.frameQueue.EndKnown content → r.stream.frameQueue.EndKnown content) ∧
        ¬ Complete content s ∨
      r.outcome = .returned (bytesRead ++ copied) none ∧ Reader content r.stream ∧
        (s.frameQueue.EndKnown content → r.stream.frameQueue.EndKnown content) ∧
        (Complete content s → length ≤ (bytesRead ++ copied).length) ∨
      r.outcome = .returned (bytesRead ++ copied) (some .eof) ∧ AtEnd content r.stream

theorem entries_dequeue_lt {s : StreamFrameSorter} {f : StreamFrame}
    (found : s.queuedFrames.lookup f.offset = some f) :
    (s.dequeue f).queuedFrames.entries.length < s.queuedFrames.entries.length := by
  have length (queued : AList fun _ : ℕ => StreamFrame) :
      queued.entries.length = queued.keys.length := (length_map _).symm
  have member : f.offset ∈ s.queuedFrames.keys :=
    AList.mem_keys.mp (MapSum.mem_of_lookup found)
  rw [(dequeue_rest s f).2.1, length, length, AList.keys_erase, length_erase_of_mem member]
  exact Nat.sub_lt (length_pos_of_mem member) Nat.one_pos

/-- What is copied before the rest of the loop comes in front. -/
theorem readsOn_prepend {s s' : Stream} {bytesRead copied more : List UInt8}
    {r : ReadResult} (rest : ReadsOn content s' (bytesRead ++ copied) length r more)
    (part : copied = slice content s.readOffset copied.length)
    (readOffset : s'.readOffset = s.readOffset + copied.length)
    (missing : s'.frameQueue.missing = s.frameQueue.missing)
    (known : s.frameQueue.EndKnown content → s'.frameQueue.EndKnown content) :
    ReadsOn content s bytesRead length r (copied ++ more) := by
  have complete : Complete content s → Complete content s' := by
    rintro ⟨received, endKnown⟩
    exact ⟨missing ▸ received, known endKnown⟩
  refine ⟨?_, ?_, rest.missing.trans missing, ?_⟩
  · rw [length_append, slice, take_add, drop_drop, ← readOffset]
    exact congrArg₂ (· ++ ·) part rest.slice
  · rw [rest.readOffset, readOffset, length_append, add_assoc]
  · rw [← append_assoc]
    rcases rest.outcome with ⟨waits, empty, reader, kept, incomplete⟩ |
      ⟨returned, reader, kept, filled⟩ | ⟨returned, atEnd⟩
    · exact Or.inl ⟨waits, empty, reader, kept ∘ known, incomplete ∘ complete⟩
    · exact Or.inr (Or.inl ⟨returned, reader, kept ∘ known, filled ∘ complete⟩)
    · exact Or.inr (Or.inr ⟨returned, atEnd⟩)

/-- The call returns without having copied more. -/
theorem Reader.readsOn_return
    (reader : Reader content s) (flow : FlowControlManager) {err : Option StreamError}
    (noErr : err = none) (filled : Complete content s → length ≤ bytesRead.length) :
    ReadsOn content s bytesRead length
      { stream := s, flow, outcome := .returned bytesRead err } [] := by
  refine ⟨rfl, rfl, rfl, Or.inr (Or.inl ⟨?_, reader, id, ?_⟩)⟩
  · rw [append_nil, noErr]
  · rw [append_nil]
    exact filled

theorem readLoop_full (clock : ℕ → FlowEnv) {length fuel : ℕ} (s : Stream)
    (flow : FlowControlManager) (full : length ≤ bytesRead.length) :
    readLoop clock length (fuel + 1) s flow bytesRead =
      .ok { stream := s, flow, outcome := .returned bytesRead none } := by
  rw [readLoop, if_pos full]

theorem readLoop_readsOn (clock : ℕ → FlowEnv) (length : ℕ) (small : content.length < 2 ^ 63) :
    ∀ (fuel : ℕ) (s : Stream) (flow : FlowControlManager) (bytesRead : List UInt8),
      Reader content s → s.frameQueue.queuedFrames.entries.length < fuel →
        ∃ r copied, readLoop clock length fuel s flow bytesRead = .ok r ∧
          ReadsOn content s bytesRead length r copied := by
  intro fuel
  induction fuel with
  | zero =>
    intro s flow bytesRead reader enough
    exact absurd enough (Nat.not_lt_zero _)
  | succ fuel ih =>
    intro s flow bytesRead reader enough
    by_cases full : length ≤ bytesRead.length
    · exact ⟨_, [], readLoop_full clock s flow full, reader.readsOn_return flow rfl fun _ => full⟩
    have noDeadline : s.readDeadline.any (· ≤ (clock fuel).now) = false := by
      rw [reader.readDeadline]
      rfl
    rw [readLoop, if_neg full]
    simp only [head_reliable reader.holds.reliable, noDeadline, Bool.false_eq_true, if_false]
    cases found : s.frameQueue.queuedFrames.lookup s.frameQueue.readPosition with
    | none =>
      have incomplete : ¬ Complete content s := fun complete => by
        obtain ⟨f, found'⟩ := reader.exists_head complete
        rw [found] at found'
        cases found'
      by_cases empty : bytesRead = []
      · rw [if_neg (fun both => both.2 empty)]
        refine ⟨_, [], rfl, rfl, rfl, rfl, Or.inl ⟨rfl, ?_, reader, id, incomplete⟩⟩
        rw [empty, append_nil]
      · rw [if_pos ⟨rfl, empty⟩]
        exact ⟨_, [], rfl, reader.readsOn_return flow reader.err fun complete =>
          absurd complete incomplete⟩
    | some f =>
      rw [if_neg (fun both => by cases both.1)]
      obtain ⟨s', flow', copied, result, copies⟩ :=
        reader.readFrame small found flow (clock fuel) (length - bytesRead.length)
      have inFrame : ¬ intOfUint64 (subUint64 s.readOffset f.offset) > (f.dataLen : Int) := by
        have := reader.readOffset_le found
        have low := reader.low
        rw [reader.readPosInFrame_eq small found, StreamFrame.dataLen]
        omega
      simp only [if_neg inFrame, result]
      rcases copies.next with ⟨filled, reader', same⟩ | ⟨-, noFin, reader', taken⟩ | ⟨-, atEnd⟩
      · -- the buffer is full, and the next round returns
        have full' : length ≤ (bytesRead ++ copied).length := by
          rw [length_append]
          omega
        obtain ⟨more, rfl⟩ := Nat.exists_eq_add_of_lt
          (lt_of_lt_of_le (length_pos_of_mem (AList.mem_lookup_iff.mp found))
            (Nat.le_of_lt_succ enough))
        rw [reader'.finishedReading, if_neg Bool.false_ne_true, zero_add,
          readLoop_full clock s' flow' full']
        refine ⟨_, copied ++ [], rfl, ?_⟩
        exact readsOn_prepend (reader'.readsOn_return flow' rfl fun _ => full') copies.slice
          copies.readOffset copies.missing (same ▸ id)
      · have fewer := entries_dequeue_lt (reader.holds.keyed _ f found ▸ found)
        obtain ⟨r, more, loop, rest⟩ := ih s' flow' (bytesRead ++ copied) reader'
          (by rw [taken]; omega)
        rw [reader'.finishedReading, if_neg Bool.false_ne_true]
        refine ⟨r, copied ++ more, loop, ?_⟩
        refine readsOn_prepend rest copies.slice copies.readOffset copies.missing
          fun known => ?_
        rw [taken]
        exact reader.holds.dequeue_endKnown found (by unfold maxByteCount; omega) noFin known
      · rw [atEnd.finishedReading, if_pos rfl]
        exact ⟨_, copied, rfl, copies.slice, copies.readOffset, copies.missing,
          Or.inr (Or.inr ⟨rfl, atEnd⟩)⟩

theorem Reader.read (reader : Reader content s) (small : content.length < 2 ^ 63)
    (flow : FlowControlManager) (clock : ℕ → FlowEnv) (length : ℕ) :
    ∃ r copied, s.read flow clock length = .ok r ∧ ReadsOn content s [] length r copied := by
  unfold Stream.read
  rw [reader.cancelled, reader.resetLocally, reader.finishedReading]
  refine readLoop_readsOn clock length small _ s flow [] reader ?_
  unfold readFuel
  omega

theorem AtEnd.read (atEnd : AtEnd content s) (flow : FlowControlManager)
    (clock : ℕ → FlowEnv) (length : ℕ) :
    s.read flow clock length =
      .ok { stream := s, flow, outcome := .returned [] (some .eof) } := by
  unfold Stream.read
  rw [atEnd.cancelled, atEnd.resetLocally, atEnd.finishedReading]
  rfl

end Loop

end Stream

end MPQuic
