import MPQuic.PacketPacker.Conservation
import MPQuic.StreamFramer.PacketRoom
import MPQuic.StreamFramer.SendLimits
import MPQuic.Wire.FrameLength

/-!
# Packets fit

Before a packet is sealed its size is checked once more, and if it is too large the packer returns
an error that names a bug. The room is kept account of in several places: by the packer for the
header and for the control frames, by the framer for the frames that it retransmits and for new
ones. Two bytes are lent to the framer, and are repaid by the last STREAM frame, which leaves out
the length of its data.

* `packPacket_fits_iff`: the account is exact, and a packet is too large only if the last STREAM
  frame was overwritten by one with a longer header after it was counted.
-/

namespace MPQuic

open List StreamFrame StreamFramer

/-! ## Frames -/

namespace Frame

variable {version : VersionNumber} {now : Int}
  {bytes : List UInt8}

/-- `Write` writes as many bytes as `MinLength` says. -/
def Conformant (frame : Frame) (version : VersionNumber) (now : Int) : Prop :=
  ∀ bytes, frame.write version now = .ok bytes → frame.minLength = .ok bytes.length

theorem conformant_stopWaiting (f : StopWaitingFrame) : (stopWaiting f).Conformant version now :=
  fun _ written => StopWaitingFrame.length_write written

theorem conformant_ack (f : AckFrame) : (ack f).Conformant version now :=
  fun _ written => congrArg Except.ok (AckFrame.length_write (eq_ok_of_mapError written)).symm

theorem writeAll_cons (frame : Frame) (rest : List Frame) :
    writeAll version now (frame :: rest) = .ok bytes ↔
      ∃ first second, frame.write version now = .ok first ∧
        writeAll version now rest = .ok second ∧ bytes = first ++ second := by
  rw [writeAll]
  cases frame.write version now with
  | error err => simp
  | ok first =>
    cases writeAll version now rest with
    | error err => simp
    | ok second => simp [eq_comm]

theorem writeAll_append (front back : List Frame) :
    writeAll version now (front ++ back) = .ok bytes ↔
      ∃ first second, writeAll version now front = .ok first ∧
        writeAll version now back = .ok second ∧ bytes = first ++ second := by
  induction front generalizing bytes with
  | nil => simp [writeAll]
  | cons frame front ih =>
    rw [cons_append, writeAll_cons]
    constructor
    · rintro ⟨head, tail, written, rest, rfl⟩
      obtain ⟨first, second, frontEq, backEq, rfl⟩ := ih.mp rest
      have both := (writeAll_cons frame front).mpr ⟨head, first, written, frontEq, rfl⟩
      exact ⟨head ++ first, second, both, backEq, (append_assoc _ _ _).symm⟩
    · rintro ⟨first, second, both, backEq, rfl⟩
      obtain ⟨head, tail, written, frontEq, rfl⟩ := (writeAll_cons frame front).mp both
      exact ⟨head, tail ++ second, written, ih.mpr ⟨tail, second, frontEq, backEq, rfl⟩,
        append_assoc _ _ _⟩

/-- Frames that conform are as long together as the packer says. -/
theorem minLengths_of_writeAll {frames : List Frame}
    (conformant : ∀ frame ∈ frames, frame.Conformant version now)
    (written : writeAll version now frames = .ok bytes) :
    PackState.minLengths frames = .ok bytes.length := by
  induction frames generalizing bytes with
  | nil =>
    cases written
    rfl
  | cons frame frames ih =>
    obtain ⟨first, second, head, rest, rfl⟩ := (writeAll_cons frame frames).mp written
    have headLength := conformant frame mem_cons_self first head
    have restLength := ih (fun other mem => conformant other (mem_cons_of_mem _ mem)) rest
    rw [PackState.minLengths, headLength, restLength, length_append]

theorem sizes_of_writeAll {frames : List StreamFrame}
    (written : writeAll version now (frames.map stream) = .ok bytes) :
    bytes.length = sizes frames := by
  induction frames generalizing bytes with
  | nil =>
    cases written
    rfl
  | cons frame frames ih =>
    obtain ⟨first, second, head, rest, rfl⟩ :=
      (writeAll_cons (stream frame) (frames.map stream)).mp written
    have headLength := length_write (eq_ok_of_mapError head)
    rw [length_append, ih rest, headLength]
    simp [sizes, size]

end Frame

/-- A frame with data or the fin bit is written. -/
theorem StreamFrame.exists_write {f : StreamFrame} (version : VersionNumber)
    (carries : f.data ≠ [] ∨ f.finBit = true) : ∃ bytes, f.write version = .ok bytes := by
  have idBytes : ∀ order, ∃ bytes, f.writeStreamID order = .ok bytes := by
    intro order
    by_cases bound : f.streamID < 2 ^ 32
    · exact ⟨_, f.writeStreamID_eq order bound⟩
    · have long : f.calculateStreamIDLength = 4 := by
        unfold calculateStreamIDLength
        rw [if_neg (by omega), if_neg (by omega), if_neg (by omega)]
      unfold writeStreamID
      rw [long]
      exact ⟨_, rfl⟩
  have offsetBytes : ∀ order, ∃ bytes, f.writeOffset order = .ok bytes := by
    intro order
    by_cases bound : f.offset < 2 ^ 64
    · exact ⟨_, f.writeOffset_eq order bound⟩
    · have long : f.getOffsetLength = 8 := by
        unfold getOffsetLength
        rw [if_neg (by omega), if_neg (by omega), if_neg (by omega), if_neg (by omega),
          if_neg (by omega), if_neg (by omega), if_neg (by omega)]
      unfold writeOffset
      rw [long]
      exact ⟨_, rfl⟩
  have notEmpty : ¬(f.data.length = 0 ∧ ¬f.finBit = true) := by
    rintro ⟨empty, noFin⟩
    exact carries.elim (fun data => data (length_eq_zero_iff.mp empty)) noFin
  obtain ⟨streamID, idWritten⟩ := idBytes (getByteOrder version)
  obtain ⟨offset, offsetWritten⟩ := offsetBytes (getByteOrder version)
  simp only [write, if_neg notEmpty, idWritten, offsetWritten]
  exact ⟨_, rfl⟩

theorem Frame.exists_writeAll_stream {frames : List StreamFrame} (version : VersionNumber)
    (now : Int) (carries : ∀ frame ∈ frames, frame.data ≠ [] ∨ frame.finBit = true) :
    ∃ bytes, writeAll version now (frames.map stream) = .ok bytes := by
  induction frames with
  | nil => exact ⟨[], rfl⟩
  | cons frame frames ih =>
    obtain ⟨first, head⟩ := exists_write version (carries frame mem_cons_self)
    obtain ⟨second, rest⟩ := ih fun other mem => carries other (mem_cons_of_mem _ mem)
    have written : (stream frame).write version now = .ok first := by
      show (frame.write version).mapError _ = .ok first
      rw [head]
      rfl
    exact ⟨first ++ second, (writeAll_cons _ _).mpr ⟨first, second, written, rest, rfl⟩⟩

namespace PackState

/-! ## The last STREAM frame -/

variable {encLevel : EncryptionLevel} (front : List StreamFrame)

theorem omitLastDataLen_concat (last : StreamFrame) :
    omitLastDataLen (front ++ [last]) = front ++ [{ last with dataLenPresent := false }] := by
  simp [omitLastDataLen]

/-- The last frame repays the two bytes. -/
theorem sizes_omitLastDataLen {frames : List StreamFrame} (nonempty : frames ≠ [])
    (lengths : ∀ frame ∈ frames, frame.dataLenPresent = true) :
    sizes (omitLastDataLen frames) + 2 = sizes frames := by
  obtain ⟨front, last, rfl⟩ := (eq_nil_or_concat' frames).resolve_left nonempty
  have present := lengths last (by simp)
  have shorter : ({ last with dataLenPresent := false } : StreamFrame).size + 2 = last.size := by
    simp only [size, minLength, calculateStreamIDLength,
      getOffsetLength, dataLen, present]
    simp only [Bool.false_eq_true, if_false, if_true]
    omega
  rw [omitLastDataLen_concat, sizes_append, sizes_append, sizes_singleton, sizes_singleton,
    ← shorter, add_assoc]

theorem omitLastDataLen_append {back : List StreamFrame} (nonempty : back ≠ []) :
    omitLastDataLen (front ++ back) = front ++ omitLastDataLen back := by
  obtain ⟨middle, last, rfl⟩ := (eq_nil_or_concat' back).resolve_left nonempty
  rw [← append_assoc, omitLastDataLen_concat, omitLastDataLen_concat, append_assoc]

theorem omitLastDataLen_carries {frames : List StreamFrame}
    (carries : ∀ frame ∈ frames, frame.data ≠ [] ∨ frame.finBit = true) :
    ∀ frame ∈ omitLastDataLen frames, frame.data ≠ [] ∨ frame.finBit = true := by
  rcases eq_nil_or_concat' frames with rfl | ⟨front, last, rfl⟩
  · simp [omitLastDataLen]
  · intro frame mem
    rw [omitLastDataLen_concat, mem_append, mem_singleton] at mem
    rcases mem with inFront | rfl
    · exact carries frame (mem_append_left _ inFront)
    · exact carries last (mem_append_right _ (mem_singleton_self last))

/-! ## Composing -/

/-- The loop over the control frames counts those that it takes. -/
theorem popControlFrames_length (maxFrameSize : Nat) (frames : List Frame) (payloadLength : Nat)
    (noErr : (popControlFrames maxFrameSize frames payloadLength).err = none) :
    ∃ lengths, minLengths (popControlFrames maxFrameSize frames payloadLength).taken =
        .ok lengths ∧
      (popControlFrames maxFrameSize frames payloadLength).payloadLength =
        payloadLength + lengths := by
  induction frames generalizing payloadLength with
  | nil => exact ⟨0, rfl, rfl⟩
  | cons frame rest ih =>
    rw [popControlFrames] at noErr ⊢
    cases length : frame.minLength with
    | error err =>
      rw [length] at noErr
      cases noErr
    | ok minLength =>
      simp only [length] at noErr ⊢
      split at noErr
      · rename_i noRoom
        rw [if_pos noRoom]
        exact ⟨0, rfl, rfl⟩
      · rename_i room
        rw [if_neg room]
        obtain ⟨lengths, taken, counted⟩ := ih (payloadLength + minLength) noErr
        refine ⟨minLength + lengths, ?_, ?_⟩
        · show minLengths (frame :: _) = _
          rw [minLengths, length, taken]
        · simp only
          rw [counted, add_assoc]

theorem minLengths_append {front back : List Frame} {first second : Nat}
    (frontEq : minLengths front = .ok first) (backEq : minLengths back = .ok second) :
    minLengths (front ++ back) = .ok (first + second) := by
  induction front generalizing first with
  | nil =>
    cases frontEq
    rw [nil_append, backEq, zero_add]
  | cons frame front ih =>
    rw [minLengths] at frontEq
    rw [cons_append, minLengths]
    cases head : frame.minLength with
    | error err =>
      rw [head] at frontEq
      cases frontEq
    | ok length =>
      cases rest : minLengths front with
      | error err =>
        rw [head, rest] at frontEq
        cases frontEq
      | ok lengths =>
        rw [head, rest] at frontEq
        cases frontEq
        rw [ih rest, add_assoc]

/-- The frames that go before the STREAM frames, and the room for these; nothing if the packer
returns an error before. -/
def beforeStreamFrames (st : PackState) (maxFrameSize : Nat) : Option (List Frame × Nat) :=
  match minLengths st.slotFrames with
  | .error _ => none
  | .ok payloadLength =>
    let popped := popControlFrames maxFrameSize st.packer.controlFrames.reverse payloadLength
    if popped.err = none ∧ popped.payloadLength ≤ maxFrameSize then
      some (st.slotFrames ++ popped.taken, maxFrameSize - popped.payloadLength)
    else none

variable {st : PackState} {env : PackEnv} {maxFrameSize room : Nat} {frames : List Frame}
  {headerLength : Nat} {publicHeader : PublicHeader} {sealer : Sealer}

/-- They are those of the path and some of the queue, and are counted. -/
theorem beforeStreamFrames_eq (before : st.beforeStreamFrames maxFrameSize = some (frames, room)) :
    ∃ taken lengths, frames = st.slotFrames ++ taken ∧ taken ⊆ st.packer.controlFrames ∧
      minLengths frames = .ok lengths ∧ lengths + room = maxFrameSize := by
  unfold beforeStreamFrames at before
  split at before
  · cases before
  · rename_i payloadLength slots
    simp only at before
    split at before
    · rename_i fits
      cases before
      obtain ⟨lengths, taken, counted⟩ := popControlFrames_length _ _ _ fits.1
      refine ⟨_, _, rfl, fun frame mem => ?_, minLengths_append slots taken, ?_⟩
      · rw [← mem_reverse, ← popControlFrames_append maxFrameSize st.packer.controlFrames.reverse
          payloadLength]
        exact mem_append_left _ mem
      · have within := fits.2
        omega
    · cases before

theorem beforeStreamFrames_ne_nil
    (before : st.beforeStreamFrames maxFrameSize = some (frames, room))
    (waiting : st.packer.stopWaiting st.pth.pathID ≠ none) : frames ≠ [] := by
  obtain ⟨swf, slot⟩ := Option.ne_none_iff_exists'.mp waiting
  obtain ⟨taken, -, rfl, -⟩ := beforeStreamFrames_eq before
  simp [slotFrames, slot]

/-- They are written as they are counted: they come from the queue, or conform by their type. -/
theorem length_beforeStreamFrames {version : VersionNumber} {now : Int} {bytes : List UInt8}
    (conformant : ∀ frame ∈ st.packer.controlFrames, frame.Conformant version now)
    (before : st.beforeStreamFrames maxFrameSize = some (frames, room))
    (written : Frame.writeAll version now frames = .ok bytes) :
    bytes.length + room = maxFrameSize := by
  obtain ⟨taken, lengths, rfl, queued, counted, total⟩ := beforeStreamFrames_eq before
  have conforms : ∀ frame ∈ st.slotFrames ++ taken, frame.Conformant version now := by
    intro frame mem
    rcases mem_append.mp mem with slot | mem
    · rcases mem_append.mp slot with waiting | ack
      · obtain ⟨f, -, rfl⟩ := mem_map.mp waiting
        exact Frame.conformant_stopWaiting f
      · obtain ⟨f, -, rfl⟩ := mem_map.mp ack
        exact Frame.conformant_ack f
    · exact conformant frame (queued mem)
  rw [Except.ok.inj ((Frame.minLengths_of_writeAll conforms written).symm.trans counted)]
  exact total

/-- The STREAM frames that go into a packet with so much room. -/
def streamFrames (st : PackState) (room : Nat) : List StreamFrame :=
  (st.framer.popStreamFrames2 st.streams st.flow (room + 2) st.pth.handlerAllowsSending).2

/-- What `composeNextPacket` returns. -/
theorem composeNextPacket_outcome (st : PackState) (maxFrameSize : Nat)
    (canSendStreamFrames : Bool) :
    (∃ err, (st.composeNextPacket maxFrameSize canSendStreamFrames).outcome = .error err ∧
        err ≠ .packetTooLarge ∧ st.beforeStreamFrames maxFrameSize = none) ∨
      ∃ frames room, st.beforeStreamFrames maxFrameSize = some (frames, room) ∧
        (st.composeNextPacket maxFrameSize canSendStreamFrames).outcome =
          .ok (frames ++ if canSendStreamFrames then
            (omitLastDataLen (st.streamFrames room)).map .stream else []) := by
  unfold composeNextPacket beforeStreamFrames
  cases minLengths st.slotFrames with
  | error err => exact .inl ⟨_, rfl, by simp, rfl⟩
  | ok payloadLength =>
    simp only
    generalize popControlFrames maxFrameSize st.packer.controlFrames.reverse payloadLength =
      popped
    cases failed : popped.err with
    | some err => exact .inl ⟨_, rfl, by simp, by simp⟩
    | none =>
      simp only [true_and]
      by_cases large : popped.payloadLength > maxFrameSize
      · rw [if_pos large, if_neg (not_le.mpr large)]
        exact .inl ⟨_, rfl, by simp, rfl⟩
      · rw [if_neg large, if_pos (Nat.le_of_not_lt large)]
        refine .inr ⟨_, _, rfl, ?_⟩
        cases canSendStreamFrames with
        | false => simp
        | true => rfl

/-! ## Sealing -/

/-- The header and the frames are written, and are too long with the tag. -/
def TooLarge (st : PackState) (env : PackEnv) (publicHeader : PublicHeader)
    (payloadFrames : List Frame) (sealer : Sealer) : Prop :=
  ∃ header payload, publicHeader.write st.packer.version st.packer.perspective = .ok header ∧
    Frame.writeAll st.packer.version env.now payloadFrames = .ok payload ∧
    maxPacketSize < header.length + payload.length + sealer.overhead

theorem writeAndSealPacket_tooLarge_iff (st : PackState) (env : PackEnv)
    (publicHeader : PublicHeader) (payloadFrames : List Frame) (encLevel : EncryptionLevel)
    (sealer : Sealer) :
    (st.writeAndSealPacket env publicHeader payloadFrames encLevel sealer).outcome =
        .error .packetTooLarge ↔ st.TooLarge env publicHeader payloadFrames sealer := by
  unfold writeAndSealPacket TooLarge
  cases headerEq : publicHeader.write st.packer.version st.packer.perspective with
  | error err => simp [returns]
  | ok header =>
    cases payloadEq : Frame.writeAll st.packer.version env.now payloadFrames with
    | error err => simp [returns]
    | ok payload =>
      simp only
      by_cases large : header.length + payload.length + sealer.overhead > maxPacketSize
      · rw [if_pos large]
        exact iff_of_true rfl ⟨header, payload, rfl, rfl, large⟩
      · rw [if_neg large]
        refine iff_of_false ?_ ?_
        · simp only
          split
          · simp
          · simp
        · rintro ⟨_, _, ⟨⟩, ⟨⟩, larger⟩
          exact large larger

theorem sealPayload_tooLarge_iff {composed : Composed} {payloadFrames : List Frame}
    (outcome : composed.outcome = .ok payloadFrames) (env : PackEnv)
    (publicHeader : PublicHeader) (encLevel : EncryptionLevel) (sealer : Sealer) :
    (sealPayload composed env publicHeader encLevel sealer).outcome = .error .packetTooLarge ↔
      payloadFrames.length ≠ 0 ∧
        ¬(payloadFrames.length = 1 ∧
          composed.state.packer.stopWaiting composed.state.pth.pathID ≠ none) ∧
        composed.state.TooLarge env publicHeader payloadFrames sealer := by
  unfold sealPayload
  rw [outcome]
  simp only
  by_cases empty : payloadFrames.length = 0
  · simp [empty, returns]
  · rw [if_neg empty]
    by_cases alone : payloadFrames.length = 1 ∧
        composed.state.packer.stopWaiting composed.state.pth.pathID ≠ none
    · rw [if_pos alone]
      simp [alone, returns]
    · rw [if_neg alone]
      simp only
      rw [writeAndSealPacket_tooLarge_iff]
      exact ⟨fun large => ⟨empty, alone, large⟩, fun all => all.2.2⟩

theorem overhead_eq (sealer : Sealer) : sealer.overhead = 12 := by
  cases sealer <;> rfl

/-- The room for frames behind a header that is written. -/
theorem frameRoom_eq (short : headerLength ≤ 52) (sealer : Sealer) :
    subUint64 (subUint64 maxPacketSize sealer.overhead) headerLength = 1338 - headerLength := by
  have tag : subUint64 maxPacketSize 12 = 1338 := by decide
  rw [overhead_eq, tag]
  exact subUint64_of_le (by omega) (by decide)

theorem TooLarge.congr {st' : PackState} (version : st'.packer.version = st.packer.version)
    (perspective : st'.packer.perspective = st.packer.perspective) :
    st'.TooLarge env publicHeader frames sealer ↔ st.TooLarge env publicHeader frames sealer := by
  unfold TooLarge
  rw [version, perspective]

/-- A packet is not too large if its frames keep to the room behind the header. -/
theorem not_tooLarge (told : publicHeader.getLength st.packer.perspective = .ok headerLength)
    (fits : headerLength ≤ 52 → ∀ payload,
      Frame.writeAll st.packer.version env.now frames = .ok payload →
        payload.length ≤ 1338 - headerLength) :
    ¬ st.TooLarge env publicHeader frames sealer := by
  rintro ⟨header, payload, headerEq, payloadEq, large⟩
  have short := PublicHeader.length_write_le headerEq told
  have length := PublicHeader.length_write headerEq told
  have within := fits short payload payloadEq
  rw [overhead_eq, maxPacketSize] at large
  omega

section Conformant

variable
  (conformant : ∀ frame ∈ st.packer.controlFrames, frame.Conformant st.packer.version env.now)
  (told : publicHeader.getLength st.packer.perspective = .ok headerLength)
  (before : st.beforeStreamFrames
    (subUint64 (subUint64 maxPacketSize sealer.overhead) headerLength) = some (frames, room))

include conformant told before

/-- A packet that ends before the STREAM frames is not too large. -/
theorem not_tooLarge_beforeStreamFrames : ¬ st.TooLarge env publicHeader frames sealer := by
  refine not_tooLarge told fun short payload written => ?_
  have total := length_beforeStreamFrames conformant before written
  rw [frameRoom_eq short] at total
  omega

/-- With STREAM frames it is if they take more than the room. -/
theorem tooLarge_append_iff {header : List UInt8} (streams : List StreamFrame)
    (headerEq : publicHeader.write st.packer.version st.packer.perspective = .ok header) :
    st.TooLarge env publicHeader (frames ++ streams.map .stream) sealer ↔
      room < sizes streams ∧ ∃ bytes, Frame.writeAll st.packer.version env.now
        (frames ++ streams.map .stream) = .ok bytes := by
  have short := PublicHeader.length_write_le headerEq told
  have length := PublicHeader.length_write headerEq told
  have account {payload : List UInt8} (written : Frame.writeAll st.packer.version env.now
      (frames ++ streams.map .stream) = .ok payload) :
      header.length + payload.length + room + sealer.overhead = maxPacketSize + sizes streams := by
    obtain ⟨first, second, framesEq, streamsEq, rfl⟩ := (Frame.writeAll_append _ _).mp written
    have total := length_beforeStreamFrames conformant before framesEq
    have streamsLength := Frame.sizes_of_writeAll streamsEq
    rw [frameRoom_eq short] at total
    rw [overhead_eq, maxPacketSize, length_append]
    omega
  constructor
  · rintro ⟨header', payload, headerEq', payloadEq, large⟩
    cases headerEq.symm.trans headerEq'
    have total := account payloadEq
    exact ⟨by omega, payload, payloadEq⟩
  · rintro ⟨larger, payload, payloadEq⟩
    have total := account payloadEq
    exact ⟨header, payload, headerEq, payloadEq, by omega⟩

end Conformant

/-! ## Packets with STREAM frames -/

/-- The frames that are retransmitted in a packet with so much room. -/
def retransmittedFrames (st : PackState) (room : Nat) : List StreamFrame :=
  (st.framer.maybePopFramesForRetransmission st.flow (room + 2)).2.res

/-- The STREAM frames take more than the room and the two bytes that are lent. -/
def OverdrawsRoom (st : PackState) (room : Nat) : Prop :=
  st.framer.OverdrawsRoom st.flow (room + 2) st.pth.handlerAllowsSending st.streams

theorem streamFrames_eq (st : PackState) (room : Nat) :
    ∃ new : List StreamFrame, st.streamFrames room = st.retransmittedFrames room ++ new ∧
      (st.streams.Proper → ∀ frame ∈ new, frame.data ≠ [] ∨ frame.finBit = true) :=
  ⟨_, rfl, fun proper frame mem => (maybePopNormalFrames_res _ _ _ _ proper frame mem).2⟩

section

variable (proper : st.streams.Proper)

include proper

theorem sizes_streamFrames_iff (room : Nat) :
    room < sizes (omitLastDataLen (st.streamFrames room)) ↔ st.OverdrawsRoom room := by
  have overdraws := popStreamFrames2_sizes_iff st.framer st.flow (room + 2)
    st.pth.handlerAllowsSending proper
  rw [OverdrawsRoom, ← overdraws]
  by_cases empty : st.streamFrames room = []
  · have total : sizes (st.streamFrames room) = 0 := by
      rw [empty]
      rfl
    rw [empty]
    show room < 0 ↔ room + 2 < sizes (st.streamFrames room)
    omega
  · have repaid := sizes_omitLastDataLen empty
      (popStreamFrames2_lengths st.framer st.flow (room + 2) st.pth.handlerAllowsSending proper)
    show _ ↔ room + 2 < sizes (st.streamFrames room)
    omega

theorem OverdrawsRoom.length_pos (overdraws : st.OverdrawsRoom room) :
    0 < (omitLastDataLen (st.streamFrames room)).length := by
  rw [length_pos_iff]
  intro empty
  have larger := (sizes_streamFrames_iff proper room).mpr overdraws
  rw [empty] at larger
  exact Nat.not_lt_zero room larger

/-- If the room is overdrawn there are new frames after those that are retransmitted. -/
theorem OverdrawsRoom.streamFrames_eq (overdraws : st.OverdrawsRoom room) :
    ∃ new, new ≠ [] ∧ st.streamFrames room = st.retransmittedFrames room ++ new ∧
      ∀ frame ∈ new, frame.data ≠ [] ∨ frame.finBit = true := by
  obtain ⟨new, all, carries⟩ := st.streamFrames_eq room
  refine ⟨new, ?_, all, carries proper⟩
  rintro rfl
  have total := (popStreamFrames2_sizes_iff st.framer st.flow (room + 2)
    st.pth.handlerAllowsSending proper).mpr overdraws
  have retransmitted := st.framer.maybePopFramesForRetransmission_measured st.flow (room + 2)
  have sizesEq : sizes (st.streamFrames room) = sizes (st.retransmittedFrames room) := by
    rw [all, append_nil]
  have within := retransmitted.within
  rw [← retransmitted.sizes] at within
  have larger : room + 2 < sizes (st.streamFrames room) := total
  have smaller : sizes (st.retransmittedFrames room) ≤ room + 2 := within
  omega

/-- The new frames can be written, so it depends on those before them. -/
theorem OverdrawsRoom.writeAll_iff (overdraws : st.OverdrawsRoom room) (version : VersionNumber)
    (now : Int) :
    (∃ bytes, Frame.writeAll version now
        (frames ++ (omitLastDataLen (st.streamFrames room)).map .stream) = .ok bytes) ↔
      ∃ bytes, Frame.writeAll version now
        (frames ++ (st.retransmittedFrames room).map .stream) = .ok bytes := by
  obtain ⟨new, more, all, carries⟩ := overdraws.streamFrames_eq proper
  obtain ⟨last, rest⟩ := Frame.exists_writeAll_stream version now (omitLastDataLen_carries carries)
  rw [all, omitLastDataLen_append _ more, map_append, ← append_assoc]
  constructor
  · rintro ⟨bytes, written⟩
    obtain ⟨first, -, front, -⟩ := (Frame.writeAll_append _ _).mp written
    exact ⟨first, front⟩
  · rintro ⟨first, front⟩
    exact ⟨_, (Frame.writeAll_append _ _).mpr ⟨first, last, front, rest, rfl⟩⟩

end

/-! ## The whole call -/

/-- The header that a packet with data gets is written. -/
theorem exists_write_getPublicHeader (env : PackEnv)
    (canSend : st.packer.canSendData encLevel = true) :
    ∃ header, (st.getPublicHeader env encLevel).write st.packer.version st.packer.perspective =
      .ok header := by
  have noNonce : (st.getPublicHeader env encLevel).diversificationNonce = [] := by
    unfold getPublicHeader
    simp only
    apply if_neg
    rintro ⟨server, secure⟩
    rw [PacketPacker.canSendData, server, secure] at canSend
    cases canSend
  have numbered : (st.getPublicHeader env encLevel).hasPacketNumber st.packer.perspective =
      true := by
    unfold getPublicHeader PublicHeader.hasPacketNumber
    cases side : st.packer.perspective <;> simp [side]
  unfold PublicHeader.write
  rw [if_neg (by simp [getPublicHeader]), if_neg (by simp [noNonce]), if_neg (by simp [numbered])]
  have chosen : (st.getPublicHeader env encLevel).packetNumberLen = 2 ∨
      (st.getPublicHeader env encLevel).packetNumberLen = 4 ∨
      (st.getPublicHeader env encLevel).packetNumberLen = 6 := by
    simp only [getPublicHeader, getPacketNumberLengthForPublicHeader]
    split_ifs <;> simp
  rcases chosen with two | four | six
  · rw [two]
    exact ⟨_, rfl⟩
  · rw [four]
    exact ⟨_, rfl⟩
  · rw [six]
    exact ⟨_, rfl⟩

/-- What has to come together for a packet without crypto data to be too large: no PING goes
first, data may be sent, the STREAM frames overdraw the room that the header and the control
frames leave, and nothing before them fails to be written. -/
def Overdraws (st : PackState) (env : PackEnv) : Prop :=
  let encLevel := (st.packer.cryptoSetup.getSealer st.packer.perspective).1
  let sealer := (st.packer.cryptoSetup.getSealer st.packer.perspective).2
  let publicHeader := st.getPublicHeader env encLevel
  st.packer.controlFrames.head? ≠ some .ping ∧ st.packer.canSendData encLevel = true ∧
    ∃ headerLength frames room bytes,
      publicHeader.getLength st.packer.perspective = .ok headerLength ∧
      (st.numberStopWaiting publicHeader).beforeStreamFrames
        (subUint64 (subUint64 maxPacketSize sealer.overhead) headerLength) =
          some (frames, room) ∧
      st.OverdrawsRoom room ∧
      Frame.writeAll st.packer.version env.now
        (frames ++ (st.retransmittedFrames room).map .stream) = .ok bytes

/-- A packet without a PING, once the length of its header is known. -/
theorem composed_tooLarge_iff (proper : st.streams.Proper)
    (conformant : ∀ frame ∈ st.packer.controlFrames,
      frame.Conformant st.packer.version env.now)
    (told : publicHeader.getLength st.packer.perspective = .ok headerLength)
    (size : maxFrameSize = subUint64 (subUint64 maxPacketSize sealer.overhead) headerLength)
    {canSend : Bool} (writes : canSend = true →
      ∃ header, publicHeader.write st.packer.version st.packer.perspective = .ok header) :
    (sealPayload (st.composeNextPacket maxFrameSize canSend) env publicHeader encLevel
        sealer).outcome = .error .packetTooLarge ↔
      canSend = true ∧ ∃ frames room bytes,
        st.beforeStreamFrames maxFrameSize = some (frames, room) ∧ st.OverdrawsRoom room ∧
        Frame.writeAll st.packer.version env.now
          (frames ++ (st.retransmittedFrames room).map .stream) = .ok bytes := by
  subst size
  rcases composeNextPacket_outcome st _ canSend with
    ⟨err, outcome, other, none⟩ | ⟨frames, room, before, outcome⟩
  · refine iff_of_false ?_ ?_
    · unfold sealPayload
      rw [outcome]
      exact fun same => other (Except.error.inj same)
    · rintro ⟨-, frames, room, bytes, before, -⟩
      cases none.symm.trans before
  · obtain ⟨kept, taken, streams, -, -, packer⟩ := (composeNextPacket_ok outcome).packer
    have pathID := (composeNextPacket_ok outcome).pathID
    have version := congrArg PacketPacker.version packer
    have perspective := congrArg PacketPacker.perspective packer
    rw [sealPayload_tooLarge_iff outcome, TooLarge.congr version perspective, packer, pathID]
    cases canSend with
    | false =>
      refine iff_of_false ?_ (fun all => Bool.false_ne_true all.1)
      rintro ⟨-, -, large⟩
      rw [if_neg Bool.false_ne_true, append_nil] at large
      exact not_tooLarge_beforeStreamFrames conformant told before large
    | true =>
      obtain ⟨header, headerEq⟩ := writes rfl
      rw [if_pos rfl, tooLarge_append_iff conformant told before _ headerEq,
        sizes_streamFrames_iff proper]
      constructor
      · rintro ⟨-, -, overdraws, written⟩
        obtain ⟨bytes, written⟩ := (overdraws.writeAll_iff proper _ _).mp written
        exact ⟨rfl, frames, room, bytes, before, overdraws, written⟩
      · rintro ⟨-, frames', room', bytes, before', overdraws, written⟩
        cases before.symm.trans before'
        have streams := overdraws.length_pos proper
        rw [length_append, length_map]
        refine ⟨by omega, ?_, overdraws, (overdraws.writeAll_iff proper _ _).mpr ⟨bytes, written⟩⟩
        rintro ⟨single, waiting⟩
        have control := length_pos_iff.mpr (beforeStreamFrames_ne_nil before waiting)
        omega

theorem packQueued_tooLarge_iff (proper : st.streams.Proper)
    (conformant : ∀ frame ∈ st.packer.controlFrames,
      frame.Conformant st.packer.version env.now) :
    (st.packQueued env).outcome = .error .packetTooLarge ↔ st.Overdraws env := by
  unfold packQueued Overdraws
  generalize st.packer.cryptoSetup.getSealer st.packer.perspective = chosen
  obtain ⟨encLevel, sealer⟩ := chosen
  simp only
  generalize headerEq : st.getPublicHeader env encLevel = publicHeader
  cases told : publicHeader.getLength st.packer.perspective with
  | error err => simp [returns]
  | ok headerLength =>
    simp only
    by_cases ping : st.packer.controlFrames.head? = some .ping
    · refine iff_of_false ?_ fun all => all.1 ping
      obtain ⟨rest, queue⟩ := head?_eq_some_iff.mp ping
      have taken : (st.numberStopWaiting publicHeader).choosePayload
          (subUint64 (subUint64 maxPacketSize sealer.overhead) headerLength) encLevel =
            (st.numberStopWaiting publicHeader).pingTaken rest := by
        unfold choosePayload
        rw [numberStopWaiting_controlFrames, queue]
      rw [taken, sealPayload_tooLarge_iff rfl]
      rintro ⟨-, -, large⟩
      refine not_tooLarge told ?_ large
      intro short payload written
      cases written
      show 1 ≤ 1338 - headerLength
      omega
    · have composes : (st.numberStopWaiting publicHeader).choosePayload
          (subUint64 (subUint64 maxPacketSize sealer.overhead) headerLength) encLevel =
            (st.numberStopWaiting publicHeader).composeNextPacket
              (subUint64 (subUint64 maxPacketSize sealer.overhead) headerLength)
              (st.packer.canSendData encLevel) := by
        unfold choosePayload
        split
        · rename_i rest queue
          exact absurd (by rw [numberStopWaiting_controlFrames] at queue; rw [queue]; rfl) ping
        · rfl
      rw [composes]
      subst headerEq
      have same : (st.numberStopWaiting (st.getPublicHeader env encLevel)).streams.Proper := proper
      rw [composed_tooLarge_iff same conformant told rfl (exists_write_getPublicHeader env)]
      constructor
      · rintro ⟨canSend, frames, room, bytes, rest⟩
        exact ⟨ping, canSend, headerLength, frames, room, bytes, rfl, rest⟩
      · rintro ⟨-, canSend, _, frames, room, bytes, ⟨⟩, rest⟩
        exact ⟨canSend, frames, room, bytes, rest⟩

/-- A frame of the crypto stream keeps to its room. -/
theorem popCryptoStreamFrame_size {m : StreamsMap} {flow : FlowControlManager} {maxLen : Nat}
    {popped : CryptoPop} {frame : StreamFrame} (enough : 10 ≤ maxLen) (small : maxLen < 2 ^ 64)
    (call : popCryptoStreamFrame m flow maxLen = .ok popped) (framed : popped.frame = some frame) :
    frame.size ≤ maxLen := by
  obtain ⟨m', flow', cs, -, taken⟩ := popCryptoStreamFrame_cases call
  rcases taken with rfl | ⟨empty, data, emptyEq, rfl, -, rfl⟩
  · cases framed
  · cases framed
    have header : empty.minLength ≤ 10 := by
      have offset : empty.getOffsetLength ≤ 8 :=
        (by decide : ∀ length ∈ [0, 2, 3, 4, 5, 6, 7, 8], length ≤ 8) _ empty.getOffsetLength_mem
      subst emptyEq
      rw [minLength, if_neg Bool.false_ne_true]
      show 1 + 1 + _ + 0 ≤ 10
      omega
    have data := (getDataForWriting_le cs (subUint64 maxLen empty.minLength)).1
    rw [subUint64_of_le (by omega) small] at data
    show empty.minLength +
      ((cs.getDataForWriting (subUint64 maxLen empty.minLength)).2.getD []).length ≤ maxLen
    rw [subUint64_of_le (by omega) small]
    omega

theorem packCryptoPacket_fits {result : PackResult} (run : st.packCryptoPacket env = .ok result) :
    result.outcome ≠ .error .packetTooLarge := by
  unfold packCryptoPacket at run
  generalize st.packer.cryptoSetup.getSealerForCryptoStream st.packer.perspective = chosen at run
  obtain ⟨encLevel, sealer⟩ := chosen
  simp only at run
  split at run
  · cases run
    simp [returns]
  · rename_i headerLength told
    split at run
    · cases run
    · cases run
    · rename_i popped
      cases run
      rw [Ne, writeAndSealPacket_tooLarge_iff]
      refine not_tooLarge told ?_
      intro short payload written
      have length : payload.length = sizes [_] := Frame.sizes_of_writeAll written
      have tag : subUint64 maxPacketSize 12 = 1338 := by decide
      rw [overhead_eq, tag, nonForwardSecurePacketSizeReduction,
        show subUint64 1338 50 = 1288 by decide,
        subUint64_of_le (show headerLength ≤ 1288 by omega) (by decide)] at popped
      have size := popCryptoStreamFrame_size (by omega) (by omega) popped rfl
      rw [sizes_singleton] at length
      omega

end PackState

/-- Opening streams keeps the map proper. -/
theorem StreamsMap.Proper.of_opens {m m' : StreamsMap} (proper : m.Proper)
    (opens : Opens m.streams m'.streams) : m'.Proper := by
  intro id s opened
  rcases opens.opened id s opened with old | ⟨-, named, zero, -⟩
  · exact proper id s old
  · refine ⟨named, ?_⟩
    rw [zero]
    decide

theorem StreamsMap.Proper.cryptoStream {m m' : StreamsMap} {flow flow' : FlowControlManager}
    {cs : Stream} (proper : m.Proper)
    (opened : StreamFramer.cryptoStream m flow = .ok (m', flow', cs)) : m'.Proper := by
  exact proper.of_opens (opens_getOrOpenStream (getOrOpenStream_of_cryptoStream opened))

namespace PackState

variable {st : PackState} {env : PackEnv}

variable (st)

/-- There is no crypto data, and the STREAM frames overdraw their room. -/
def Outgrows (env : PackEnv) : Prop :=
  ∃ streams flow cs, StreamFramer.cryptoStream st.streams st.flow = .ok (streams, flow, cs) ∧
    cs.lenOfDataForWriting = 0 ∧ ({ st with streams, flow } : PackState).Overdraws env

/-- A call of `PackPacket` never finds its packet too large, except if the last STREAM frame was
overwritten by one with a longer header after it had filled the packet. -/
theorem packPacket_fits_iff (env : PackEnv) (proper : st.streams.Proper)
    (conformant : ∀ frame ∈ st.packer.controlFrames,
      frame.Conformant st.packer.version env.now) :
    (∀ result, st.packPacket env = .ok result → result.outcome ≠ .error .packetTooLarge) ↔
      ¬ st.Outgrows env := by
  unfold packPacket Outgrows
  cases opened : StreamFramer.cryptoStream st.streams st.flow with
  | error panic => simp
  | ok found =>
    obtain ⟨streams, flow, cs⟩ := found
    simp only
    by_cases pending : cs.lenOfDataForWriting > 0
    · rw [if_pos pending]
      refine iff_of_true (fun result run => packCryptoPacket_fits run) ?_
      rintro ⟨_, _, _, ⟨⟩, idle, -⟩
      omega
    · rw [if_neg pending]
      have idle : cs.lenOfDataForWriting = 0 := Nat.eq_zero_of_not_pos pending
      have large : (({ st with streams, flow } : PackState).packQueued env).outcome =
          .error .packetTooLarge ↔ ({ st with streams, flow } : PackState).Overdraws env :=
        packQueued_tooLarge_iff (proper.cryptoStream opened) conformant
      constructor
      · rintro fits ⟨_, _, _, ⟨⟩, -, overdraws⟩
        exact fits _ rfl (large.mpr overdraws)
      · rintro keeps result ⟨⟩ tooLarge
        exact keeps ⟨streams, flow, cs, rfl, idle, large.mp tooLarge⟩

/-- The error that a call returns, if it returns one. -/
def packError (env : PackEnv) : Option PackError :=
  match st.packPacket env with
  | .ok { outcome := .error err, .. } => some err
  | _ => none

variable {st}

theorem packError_eq_some_iff {err : PackError} : st.packError env = some err ↔
    ∃ result, st.packPacket env = .ok result ∧ result.outcome = .error err := by
  unfold packError
  split
  · rename_i run
    rw [run]
    simp
  · rename_i other
    refine iff_of_false (fun failed => by cases failed) ?_
    rintro ⟨⟨state, outcome, call, blocked⟩, run, rfl⟩
    exact other state err call blocked run

/-- A server that has sent a byte on stream 2, which it has opened, and has `count` bytes to send on
stream 5, which the client has opened. -/
def twoStreams (count : Nat) : List SenderOp :=
  [.getOrOpenStream 5 4, .openStream, .write 2 [0], .popStreamFrames2 100 true,
    .write 5 (List.replicate count 0)]

def busyServer (count : Nat) : PackState :=
  let sender := Sender.run .server (newFlowControlManager (serverParameters 0 0)) (twoStreams count)
  { idleServer [] none none with streams := sender.streamsMap, flow := sender.flow }

theorem busyServer_proper : (busyServer 100).streams.Proper := by
  have entries : ∀ entry ∈ (busyServer 100).streams.streams.entries,
      entry.2.streamID = entry.1 ∧ entry.2.writeOffset < 2 ^ 64 := by decide +kernel
  exact fun id s opened => entries ⟨id, s⟩ (AList.mem_lookup_iff.mp opened)

theorem busyServer_fits : (busyServer 100).streams.Proper ∧
    (busyServer 100).packError afterHandshake = none ∧
      ¬ (busyServer 100).Outgrows afterHandshake := by
  have noError : (busyServer 100).packError afterHandshake = none := by decide +kernel
  refine ⟨busyServer_proper, noError, ?_⟩
  apply (packPacket_fits_iff _ _ busyServer_proper (forall_mem_nil _)).mp
  intro result run tooLarge
  cases noError.symm.trans (packError_eq_some_iff.mpr ⟨result, run, tooLarge⟩)

/-- With 1400 bytes the frame of stream 5 fills the packet, and then gets the ID and the offset of
stream 2. The offset takes two bytes that stream 5 did not need. -/
theorem busyServer_tooLarge : ∃ result, (busyServer 1400).packPacket afterHandshake = .ok result ∧
    result.outcome = .error .packetTooLarge := by
  have returned : (busyServer 1400).packError afterHandshake = some .packetTooLarge := by
    decide +kernel
  exact packError_eq_some_iff.mp returned

end PackState

end MPQuic
