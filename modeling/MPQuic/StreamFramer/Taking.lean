import MPQuic.StreamFramer

/-!
# Frames take data from streams

What a new STREAM frame has to do with the stream it names: it takes the next bytes of the
stream's buffer, its offset is where these bytes stand in the stream, and it has the fin bit
only if nothing can follow (`Stream.Takes`). A list of frames is faithful to a change of the
streams map if the frames of every stream, one after the other, take that stream from its old
to its new state (`Faithful`).

One call of the closure of `maybePopNormalFrames` has one of four outcomes (`Offered`), as long
as the closure's pointer stands at a frame of its own (`popFromStream_offered`). Which one it is
depends on sizes alone: the header, the buffered bytes and the windows (`Stream.sends`).
-/

namespace MPQuic

namespace Stream

variable {s s' : Stream} {frame : StreamFrame} {frames : List StreamFrame}

/-- The frame takes the next bytes of the stream, which is `s` before and `s'` after. -/
structure Takes (s : Stream) (frame : StreamFrame) (s' : Stream) : Prop where
  streamID : frame.streamID = s.streamID
  offset : frame.offset = s.writeOffset
  data : s.dataForWriting.getD [] = frame.data ++ s'.dataForWriting.getD []
  /-- the fin bit comes once, after the last byte -/
  fin : frame.finBit → s.finishedWriting ∧ s.finSent = false ∧ s'.dataForWriting = none
  carries : frame.data ≠ [] ∨ frame.finBit
  /-- nothing else changes -/
  rest : s' = { s with
    writeOffset := addUint64 s.writeOffset frame.data.length
    dataForWriting := s'.dataForWriting
    finSent := s.finSent || frame.finBit }

/-- Several frames, one after the other. -/
inductive TakesAll (s : Stream) : List StreamFrame → Stream → Prop
  | nil : TakesAll s [] s
  | snoc {frames : List StreamFrame} {frame : StreamFrame} {mid s' : Stream} :
      TakesAll s frames mid → Takes mid frame s' → TakesAll s (frames ++ [frame]) s'

/-- The number of buffered bytes. -/
def pending (s : Stream) : Nat := (s.dataForWriting.getD []).length

theorem Takes.pending_eq (takes : s.Takes frame s') :
    s.pending = frame.data.length + s'.pending := by
  unfold pending
  rw [takes.data, List.length_append]

/-- All the bytes of the frames come out of the buffer. -/
theorem TakesAll.pending_eq (takes : s.TakesAll frames s') :
    s.pending = (frames.flatMap StreamFrame.data).length + s'.pending := by
  induction takes with
  | nil => simp
  | snoc _ last ih =>
    rw [ih, last.pending_eq, List.flatMap_append, List.length_append, List.flatMap_singleton]
    omega

theorem TakesAll.streamID_eq (takes : s.TakesAll frames s') : s'.streamID = s.streamID := by
  induction takes with
  | nil => rfl
  | snoc _ last ih => rw [last.rest]; exact ih

/-! ## Sizes -/

/-- The length of the header of the stream's next frame. -/
def headerLength (s : Stream) : Nat :=
  StreamFrame.minLength
    { streamID := s.streamID, offset := s.writeOffset, dataLenPresent := true }

/-- The number of bytes in the stream's next frame if a packet has `room` bytes left, which is
enough for the header; `none` if there is no frame. -/
def sends (s : Stream) (flow : FlowControlManager) (room : Nat) : Option Nat :=
  let quota := room - s.headerLength
  if quota = 0 then none
  else if s.lenOfDataForWriting ≠ 0 then
    let n := min s.lenOfDataForWriting (min quota ((flow.sendWindowSize s.streamID).getD 0))
    if n = 0 then none else some n
  else if s.shouldSendFin then some 0
  else none

/-- A frame that uses all the room has data. -/
theorem sends_pos_of_full {flow : FlowControlManager} {room n : Nat}
    (sent : s.sends flow room = some n) (full : s.headerLength + n = room) : 0 < n := by
  unfold sends at sent
  by_cases quota : room - s.headerLength = 0
  · rw [if_pos quota] at sent
    cases sent
  · omega

/-! ## Data out of the buffer -/

theorem err_of_lenOfDataForWriting (len : s.lenOfDataForWriting ≠ 0) : s.err = none := by
  unfold lenOfDataForWriting at len
  by_contra failed
  rw [if_neg failed] at len
  exact len rfl

theorem exists_data_of_lenOfDataForWriting (len : s.lenOfDataForWriting ≠ 0) :
    ∃ data, s.dataForWriting = some data ∧ data.length = s.lenOfDataForWriting := by
  have noErr := err_of_lenOfDataForWriting len
  unfold lenOfDataForWriting at len ⊢
  rw [if_pos noErr] at len ⊢
  cases buffered : s.dataForWriting with
  | none => rw [buffered] at len; exact absurd rfl len
  | some data => exact ⟨data, rfl, rfl⟩

theorem shouldSendFin_iff :
    s.shouldSendFin = true ↔
      s.finishedWriting = true ∧ s.finSent = false ∧ s.err = none ∧ s.dataForWriting = none := by
  simp [shouldSendFin, and_assoc]

/-- What `getDataForWriting` returns from a buffer, and what it leaves. -/
theorem getDataForWriting_eq {data : List UInt8} (noErr : s.err = none)
    (buffered : s.dataForWriting = some data) (n : Nat) :
    ∃ rest : Option (List UInt8), data = data.take n ++ rest.getD [] ∧
      s.getDataForWriting n =
        ({ s with
          dataForWriting := rest
          writeOffset := addUint64 s.writeOffset (data.take n).length }, some (data.take n)) := by
  unfold getDataForWriting
  rw [noErr, buffered]
  by_cases more : data.length > n
  · refine ⟨some (data.drop n), (List.take_append_drop n data).symm, ?_⟩
    have length : (data.take n).length = n := List.length_take_of_le (le_of_lt more)
    simp only [if_pos more, length]
  · refine ⟨none, ?_, ?_⟩
    · simp [List.take_of_length_le (Nat.le_of_not_lt more)]
    · simp only [if_neg more, List.take_of_length_le (Nat.le_of_not_lt more)]

/-- The stream after a frame was made of it, with the fin bit if it is due. -/
def afterFrame (s : Stream) : Stream := if s.shouldSendFin then s.sentFin else s

/-- A frame with bytes from the buffer. -/
theorem takes_getDataForWriting {n : Nat} (len : s.lenOfDataForWriting ≠ 0) (pos : n ≠ 0)
    (streamID : frame.streamID = s.streamID) (offset : frame.offset = s.writeOffset)
    (finBit : frame.finBit = (s.getDataForWriting n).1.shouldSendFin)
    (data : frame.data = (s.getDataForWriting n).2.getD []) :
    s.Takes frame (s.getDataForWriting n).1.afterFrame ∧
      frame.data.length = min s.lenOfDataForWriting n := by
  have noErr := err_of_lenOfDataForWriting len
  obtain ⟨buffer, buffered, length⟩ := exists_data_of_lenOfDataForWriting len
  obtain ⟨rest, split, popped⟩ := getDataForWriting_eq noErr buffered n
  rw [popped] at finBit data ⊢
  have taken : frame.data = buffer.take n := data
  have size : frame.data.length = min s.lenOfDataForWriting n := by
    rw [taken, List.length_take, length, min_comm]
  have sizePos : frame.data.length ≠ 0 := by omega
  refine ⟨?_, size⟩
  unfold afterFrame
  cases fin : frame.finBit with
  | false =>
    rw [fin] at finBit
    rw [← finBit]
    refine ⟨streamID, offset, ?_, by simp [fin], ?_, ?_⟩
    · rw [buffered, taken]
      exact split
    · exact Or.inl fun empty => sizePos (by rw [empty]; rfl)
    · simp [fin, taken]
  | true =>
    rw [fin] at finBit
    obtain ⟨finished, unsent, -, empty⟩ := shouldSendFin_iff.mp finBit.symm
    rw [← finBit]
    refine ⟨streamID, offset, ?_, fun _ => ⟨finished, unsent, empty⟩, Or.inr fin, ?_⟩
    · rw [buffered, taken]
      exact split
    · simp [sentFin, fin, taken]

/-- A frame that only carries the fin bit. -/
theorem takes_fin (due : s.shouldSendFin = true)
    (streamID : frame.streamID = s.streamID) (offset : frame.offset = s.writeOffset)
    (finBit : frame.finBit = true) (data : frame.data = [])
    (small : s.writeOffset < 2 ^ 64) : s.Takes frame s.afterFrame := by
  obtain ⟨finished, unsent, -, empty⟩ := shouldSendFin_iff.mp due
  rw [afterFrame, if_pos due]
  have same : addUint64 s.writeOffset 0 = s.writeOffset := addUint64_of_lt small
  refine ⟨streamID, offset, ?_, fun _ => ⟨finished, unsent, empty⟩, Or.inr finBit, ?_⟩
  · rw [data]
    rfl
  · simp [sentFin, data, finBit, same]

end Stream

namespace StreamFramer

variable {st : PopState} {frame : StreamFrame} {maxBytes : Nat} {s : Stream}

/-! ## One call of the closure -/

/-- A frame that nothing was put into yet. -/
structure Unused (frame : StreamFrame) : Prop where
  finBit : frame.finBit = false
  dataLenPresent : frame.dataLenPresent = true

theorem unused_newFrame : Unused newFrame := ⟨rfl, rfl⟩

/-- What a call of the closure does to its variables and to the stream `s` it was offered. -/
inductive Offered (maxBytes : Nat) (st : PopState) (s : Stream) :
    StreamsMap.LambdaResult PopState → Prop
  /-- the header does not fit -/
  | tooSmall {frame : StreamFrame} :
      maxBytes - st.currentLen < s.headerLength → Unused frame →
      Offered maxBytes st s
        { state := { st with frame := .fresh frame }, stream := s, cont := false }
  /-- the stream has nothing to send, or may not send it -/
  | nothing {frame : StreamFrame} :
      s.headerLength ≤ maxBytes - st.currentLen →
      s.sends st.flow (maxBytes - st.currentLen) = none → Unused frame →
      Offered maxBytes st s
        { state := { st with frame := .fresh frame }, stream := s, cont := true }
  /-- a frame that leaves room -/
  | sent {frame : StreamFrame} {s' : Stream} {n : Nat} {blocked : List BlockedFrame} :
      s.headerLength + n < maxBytes - st.currentLen →
      s.sends st.flow (maxBytes - st.currentLen) = some n →
      s.Takes frame s' → frame.data.length = n →
      Offered maxBytes st s
        { state :=
            { flow := st.flow.addBytesSent s.streamID n
              blockedFrameQueue := blocked
              frame := .fresh newFrame
              res := st.res ++ [frame]
              currentLen := st.currentLen + (s.headerLength + n)
              appended := st.appended ++ [frame] }
          stream := s', cont := true }
  /-- a frame that uses the room up: the pointer stays -/
  | filled {frame : StreamFrame} {s' : Stream} {n : Nat} {blocked : List BlockedFrame} :
      s.headerLength + n = maxBytes - st.currentLen →
      s.sends st.flow (maxBytes - st.currentLen) = some n →
      s.Takes frame s' → frame.data.length = n →
      Offered maxBytes st s
        { state :=
            { flow := st.flow.addBytesSent s.streamID n
              blockedFrameQueue := blocked
              frame := .lastOfResult
              res := st.res ++ [frame]
              currentLen := maxBytes
              appended := st.appended ++ [frame] }
          stream := s', cont := false }

theorem PopState.updateFrame_fresh
    (fresh : st.frame = .fresh frame) (change : StreamFrame → StreamFrame) :
    st.updateFrame change = { st with frame := .fresh (change frame) } := by
  unfold updateFrame
  rw [fresh]

theorem PopState.queueBlocked_eq (st : PopState) (streamID sendWindowSize : Nat) :
    ∃ blocked, st.queueBlocked streamID sendWindowSize =
      { st with blockedFrameQueue := blocked } := by
  unfold queueBlocked
  split
  · exact ⟨_, rfl⟩
  · split
    · exact ⟨_, rfl⟩
    · exact ⟨_, rfl⟩

/-- The end of the closure, with its pointer at a frame of its own. -/
theorem PopState.sendFrame_eq (fresh : st.frame = .fresh frame)
    (mark : Option Bool) (maxBytes header window : Nat) (s : Stream) (data : Option (List UInt8)) :
    ∃ (blocked : List BlockedFrame) (sent : StreamFrame),
      sent = { frame with
        finBit := frame.finBit || s.shouldSendFin
        data := data.getD []
        unreliableMarker := mark.getD frame.unreliableMarker } ∧
      st.sendFrame mark maxBytes header window s data =
        { state :=
            { flow := st.flow.addBytesSent s.streamID (data.getD []).length
              blockedFrameQueue := blocked
              frame := if st.currentLen + (header + (data.getD []).length) = maxBytes
                then .lastOfResult else .fresh newFrame
              res := st.res ++ [sent]
              currentLen := st.currentLen + (header + (data.getD []).length)
              appended := st.appended ++ [sent] }
          stream := s.afterFrame
          cont := st.currentLen + (header + (data.getD []).length) ≠ maxBytes } := by
  have sameID : s.afterFrame.streamID = s.streamID := by
    unfold Stream.afterFrame
    split <;> rfl
  let filled : PopState := { st with
    frame := .fresh { frame with
      finBit := frame.finBit || s.shouldSendFin, data := data.getD [] }
    flow := st.flow.addBytesSent s.afterFrame.streamID (data.getD []).length }
  obtain ⟨blocked, queued⟩ := filled.queueBlocked_eq s.afterFrame.streamID window
  refine ⟨blocked, _, rfl, ?_⟩
  have updated : st.sendFrame mark maxBytes header window s data =
      (let st := (filled.queueBlocked s.afterFrame.streamID window).updateFrame fun frame =>
        { frame with unreliableMarker := mark.getD frame.unreliableMarker }
      let st := st.appendFrame maxBytes header
      { state := st, stream := s.afterFrame, cont := st.currentLen ≠ maxBytes }) := by
    unfold sendFrame
    dsimp only
    rw [updateFrame_fresh fresh]
    rfl
  rw [updated, queued]
  simp only [filled, updateFrame, appendFrame, current, StreamFrame.dataLen, sameID]

/-- A frame that was sent, by the room it leaves. -/
theorem Offered.of_sendFrame {s s' : Stream} {blocked : List BlockedFrame} {n : Nat}
    (fits : s.headerLength + n ≤ maxBytes - st.currentLen) (within : st.currentLen ≤ maxBytes)
    (sends : s.sends st.flow (maxBytes - st.currentLen) = some n)
    (takes : s.Takes frame s') (length : frame.data.length = n) :
    Offered maxBytes st s
      { state :=
          { flow := st.flow.addBytesSent s.streamID n
            blockedFrameQueue := blocked
            frame := if st.currentLen + (s.headerLength + n) = maxBytes
              then .lastOfResult else .fresh newFrame
            res := st.res ++ [frame]
            currentLen := st.currentLen + (s.headerLength + n)
            appended := st.appended ++ [frame] }
        stream := s'
        cont := st.currentLen + (s.headerLength + n) ≠ maxBytes } := by
  by_cases full : st.currentLen + (s.headerLength + n) = maxBytes
  · have used : s.headerLength + n = maxBytes - st.currentLen := by omega
    simp only [full, if_true, ne_eq, not_true_eq_false, decide_false]
    exact Offered.filled used sends takes length
  · have left : s.headerLength + n < maxBytes - st.currentLen := by omega
    simp only [full, if_false, ne_eq, not_false_eq_true, decide_true]
    exact Offered.sent left sends takes length

/-- The middle of the closure, with its pointer at an unused frame that names the stream. -/
theorem PopState.fillFrame_offered (mark : Option Bool) (fresh : st.frame = .fresh frame)
    (unused : Unused frame) (streamID : frame.streamID = s.streamID)
    (offset : frame.offset = s.writeOffset) (within : st.currentLen ≤ maxBytes)
    (fits : s.headerLength ≤ maxBytes - st.currentLen) (small : s.writeOffset < 2 ^ 64) :
    Offered maxBytes st s (st.fillFrame mark maxBytes s.headerLength s) := by
  have skipped : s.sends st.flow (maxBytes - st.currentLen) = none →
      Offered maxBytes st s { state := st, stream := s, cont := true } := by
    intro sends
    have step := Offered.nothing fits sends unused
    rwa [← fresh] at step
  by_cases noRoom : maxBytes - st.currentLen - s.headerLength = 0
  · -- only the header fits
    have sends : s.sends st.flow (maxBytes - st.currentLen) = none := by
      simp only [Stream.sends, if_pos noRoom]
    simp only [fillFrame, noRoom, Nat.zero_min, ite_self, if_true]
    exact skipped sends
  by_cases len : s.lenOfDataForWriting = 0
  · -- nothing is buffered, but the fin bit may be due
    simp only [fillFrame, len, ne_eq, not_true_eq_false, if_false, noRoom, true_and]
    by_cases due : s.shouldSendFin = true
    · have sends : s.sends st.flow (maxBytes - st.currentLen) = some 0 := by
        simp only [Stream.sends, if_neg noRoom, len, ne_eq, not_true_eq_false, if_false, due,
          if_true]
      obtain ⟨blocked, sent, shape, eq⟩ :=
        sendFrame_eq fresh mark maxBytes s.headerLength 0 s none
      have takes : s.Takes sent s.afterFrame :=
        Stream.takes_fin due (by rw [shape]; exact streamID) (by rw [shape]; exact offset)
          (by rw [shape]; simp [due]) (by rw [shape]; rfl) small
      simp only [due, Bool.true_eq_false, if_false]
      rw [eq]
      exact Offered.of_sendFrame fits within sends takes (by rw [shape])
    · have notDue : s.shouldSendFin = false := Bool.eq_false_iff.mpr due
      have sends : s.sends st.flow (maxBytes - st.currentLen) = none := by
        simp only [Stream.sends, if_neg noRoom, len, ne_eq, not_true_eq_false, if_false, notDue,
          Bool.false_eq_true]
      simp only [notDue, if_true]
      exact skipped sends
  -- there is data, and the windows decide
  simp only [fillFrame, len, ne_eq, not_false_eq_true, if_true]
  by_cases blockedByWindow :
      min (maxBytes - st.currentLen - s.headerLength)
        ((st.flow.sendWindowSize s.streamID).getD 0) = 0
  · have sends : s.sends st.flow (maxBytes - st.currentLen) = none := by
      simp only [Stream.sends, if_neg noRoom, len, ne_eq, not_false_eq_true, if_true,
        blockedByWindow, Nat.min_zero]
    rw [if_pos blockedByWindow]
    exact skipped sends
  rw [if_neg blockedByWindow]
  generalize quota : min (maxBytes - st.currentLen - s.headerLength)
    ((st.flow.sendWindowSize s.streamID).getD 0) = maxLen at blockedByWindow ⊢
  have sends : s.sends st.flow (maxBytes - st.currentLen) =
      some (min s.lenOfDataForWriting maxLen) := by
    have positive : min s.lenOfDataForWriting maxLen ≠ 0 := by omega
    simp only [Stream.sends, if_neg noRoom, ne_eq, len, not_false_eq_true, if_true, quota,
      if_neg positive]
  obtain ⟨buffer, buffered, -⟩ := Stream.exists_data_of_lenOfDataForWriting len
  obtain ⟨rest, -, popped⟩ :=
    Stream.getDataForWriting_eq (Stream.err_of_lenOfDataForWriting len) buffered maxLen
  have data : (s.getDataForWriting maxLen).2 ≠ none := by
    rw [popped]
    exact Option.some_ne_none _
  have sameID : (s.getDataForWriting maxLen).1.streamID = s.streamID := by rw [popped]
  obtain ⟨blocked, sent, shape, eq⟩ := sendFrame_eq fresh mark maxBytes s.headerLength
    ((st.flow.sendWindowSize s.streamID).getD 0) (s.getDataForWriting maxLen).1
    (s.getDataForWriting maxLen).2
  obtain ⟨takes, length⟩ : s.Takes sent (s.getDataForWriting maxLen).1.afterFrame ∧
      sent.data.length = min s.lenOfDataForWriting maxLen :=
    Stream.takes_getDataForWriting len blockedByWindow
      (by rw [shape]; exact streamID) (by rw [shape]; exact offset)
      (by rw [shape]; simp [unused.finBit]) (by rw [shape])
  have size : ((s.getDataForWriting maxLen).2.getD []).length =
      min s.lenOfDataForWriting maxLen := by
    rw [← length, shape]
  rw [if_neg (fun both => data both.1), eq, size, sameID]
  exact Offered.of_sendFrame (by omega) within sends takes length

/-- The pointer does not matter for what is offered. -/
theorem Offered.of_frame {frame : CurrentFrame} {result : StreamsMap.LambdaResult PopState}
    (offered : Offered maxBytes { st with frame } s result) : Offered maxBytes st s result := by
  cases offered with
  | tooSmall small unused => exact Offered.tooSmall small unused
  | nothing fits sends unused => exact Offered.nothing fits sends unused
  | sent fits sends takes length => exact Offered.sent fits sends takes length
  | filled full sends takes length => exact Offered.filled full sends takes length

/-- The closure, called with its pointer at an unused frame. -/
theorem popFromStream_offered (marks : AList fun _ : Nat => Bool) (fresh : st.frame = .fresh frame)
    (unused : Unused frame) (within : st.currentLen ≤ maxBytes) (notCrypto : s.streamID ≠ 1)
    (small : s.writeOffset < 2 ^ 64) :
    Offered maxBytes st s (popFromStream marks maxBytes st s) := by
  let named : StreamFrame := { frame with streamID := s.streamID, offset := s.writeOffset }
  have unusedNamed : Unused named := ⟨unused.finBit, unused.dataLenPresent⟩
  have header : named.minLength = s.headerLength := by
    simp only [named, Stream.headerLength, StreamFrame.minLength,
      StreamFrame.calculateStreamIDLength, StreamFrame.getOffsetLength, unused.dataLenPresent]
  unfold popFromStream
  rw [if_neg notCrypto, PopState.updateFrame_fresh fresh]
  change Offered maxBytes st s (if st.currentLen + named.minLength > maxBytes then _ else
    PopState.fillFrame { st with frame := .fresh named } _ maxBytes named.minLength s)
  rw [header]
  by_cases tooSmall : st.currentLen + s.headerLength > maxBytes
  · rw [if_pos tooSmall]
    exact Offered.tooSmall (by omega) unusedNamed
  rw [if_neg tooSmall]
  have fits : s.headerLength ≤ maxBytes - st.currentLen := by omega
  apply Offered.of_frame
  exact PopState.fillFrame_offered _ rfl unusedNamed rfl rfl within fits small

end StreamFramer

end MPQuic
