import MPQuic.Wire.FrameWriter

/-!
# Lengths of frames

The packer reserves room for a frame by its `MinLength` and then calls `Write`. The two are
separate code. They agree for every frame except for a PATHS frame with more than 84 paths: its
length is computed in a byte and wraps around.

* `frame_length_exact_iff`: which frames are as long as the packer thinks.
-/

namespace MPQuic

open PathsFrame StreamFrame

variable {order : ByteOrder} {bytes : List UInt8} {masked : Bool} {len numRanges : Nat}
  {version : VersionNumber} {f : StreamFrame} {reason : String}

open ByteCodec List ByteOrder

/-! ## Packet numbers and ranges -/

theorem ByteOrder.length_writeFitting {w i : Nat}
    (written : order.writeFitting w i reason = .ok bytes) : bytes.length = w := by
  unfold writeFitting at written
  split at written
  · cases written
  · cases written
    exact order.bytes_length w i

theorem ByteOrder.length_writePacketNumber {len v : Nat} (chosen : len ∈ packetNumberLens)
    (written : order.writePacketNumber masked len v = .ok bytes) : bytes.length = len := by
  simp only [packetNumberLens, mem_cons, not_mem_nil, or_false] at chosen
  rcases chosen with rfl | rfl | rfl | rfl
  · cases written
    rfl
  · cases written
    exact order.bytes_length 2 _
  · cases written
    exact order.bytes_length 4 _
  · exact length_writeFitting written

theorem ByteOrder.length_writeBlocks (chosen : len ∈ packetNumberLens) {blocks : List (Nat × Nat)}
    (written : order.writeBlocks masked len blocks = .ok bytes) :
    bytes.length = blocks.length * (1 + len) := by
  induction blocks generalizing bytes with
  | nil =>
    cases written
    simp
  | cons block blocks ih =>
    rw [writeBlocks] at written
    cases first : order.writePacketNumber masked len block.2 with
    | error err =>
      rw [first] at written
      cases written
    | ok front =>
      cases rest : order.writeBlocks masked len blocks with
      | error err =>
        rw [first, rest] at written
        cases written
      | ok more =>
        rw [first, rest] at written
        cases written
        rw [length_cons, length_append, ih rest,
          length_writePacketNumber chosen first, length_cons]
        ring

/-- The loop over the ranges writes as many bytes as the blocks that it counts. -/
theorem ByteOrder.length_writeRanges {len : Nat} (chosen : len ∈ packetNumberLens)
    {ranges : List AckRange} {start : Nat} {result : List UInt8 × Nat}
    (written : order.writeRanges masked len numRanges ranges start = .ok result) :
    ∃ blocks, result.2 = start + blocks ∧ result.1.length = blocks * (1 + len) := by
  induction ranges generalizing start result with
  | nil =>
    cases written
    exact ⟨0, rfl, by simp⟩
  | cons above rest ih =>
    cases rest with
    | nil =>
      cases written
      exact ⟨0, rfl, by simp⟩
    | cons below rest =>
      rw [writeRanges] at written
      cases first : order.writeBlocks masked len
          (rangeBlocks (rangeGap above below) below.length) with
      | error err =>
        rw [first] at written
        cases written
      | ok bytes =>
        have length := length_writeBlocks chosen first
        rw [first] at written
        simp only [bind, Except.bind] at written
        split at written
        · cases written
          exact ⟨_, rfl, length⟩
        · cases later : order.writeRanges masked len numRanges (below :: rest)
              (start + (rangeBlocks (rangeGap above below) below.length).length) with
          | error err =>
            rw [later] at written
            cases written
          | ok more =>
            obtain ⟨blocks, counted, longer⟩ := ih later
            rw [later] at written
            cases written
            refine ⟨_, counted.trans (add_assoc _ _ _), ?_⟩
            rw [length_append, length, longer]
            ring

/-- What ACK and CLOSE_PATH frames write for their ranges has the length that both reserve. -/
theorem AckContent.length_blocks {c : AckContent} {firstLength : Nat} {firstBytes : List UInt8}
    {ranges : List UInt8 × Nat} (announced : c.announcedRanges reason = .ok numRanges)
    (first : order.writePacketNumber masked c.getMissingSequenceNumberDeltaLen firstLength =
      .ok firstBytes)
    (written : order.writeRanges masked c.getMissingSequenceNumberDeltaLen numRanges c.ackRanges
      (if c.hasMissingRanges then 1 else 0) = .ok ranges) (consistent : numRanges = ranges.2) :
    (if c.hasMissingRanges then 1 else 0) + firstBytes.length + ranges.1.length =
      c.blocksMinLength := by
  have chosen := c.getMissingSequenceNumberDeltaLen_mem
  obtain ⟨blocks, counted, length⟩ := length_writeRanges chosen written
  have firstEq := length_writePacketNumber chosen first
  simp only [AckContent.announcedRanges] at announced
  unfold AckContent.blocksMinLength
  cases missing : c.hasMissingRanges with
  | true =>
    rw [missing, if_pos rfl] at announced counted
    have number : c.numWritableNackRanges = 1 + blocks := by
      split at announced
      · cases announced
      · cases announced
        exact consistent.trans counted
    rw [if_pos rfl, if_pos rfl, number, firstEq, length]
    ring
  | false =>
    rw [missing, if_neg Bool.false_ne_true] at announced counted
    have zero : blocks = 0 := by
      cases announced
      omega
    rw [if_neg Bool.false_ne_true, if_neg Bool.false_ne_true, firstEq, length, zero]
    omega

theorem AckFrame.length_write {f : AckFrame} {now : Int}
    (written : f.write version now = .ok bytes) : bytes.length = f.minLength := by
  obtain ⟨largestBytes, largest, written⟩ := exists_of_bind_eq_ok written
  obtain ⟨numRanges, announced, written⟩ := exists_of_bind_eq_ok written
  obtain ⟨firstLength, -, written⟩ := exists_of_bind_eq_ok written
  obtain ⟨firstBytes, first, written⟩ := exists_of_bind_eq_ok written
  obtain ⟨ranges, rangesWritten, written⟩ := exists_of_bind_eq_ok written
  split at written
  · cases written
  · rename_i consistent
    have blocks := AckContent.length_blocks announced first rangesWritten (not_not.mp consistent)
    have largestEq := length_writePacketNumber (getPacketNumberLength_mem _) largest
    cases written
    unfold AckFrame.minLength
    rw [← blocks]
    by_cases initial : f.pathID = initialPathID <;> cases f.hasMissingRanges <;>
      simp [initial, largestEq, writeUfloat16, writeUint16] <;> omega

theorem ClosePathFrame.length_write {f : ClosePathFrame} (written : f.write version = .ok bytes) :
    bytes.length = f.minLength := by
  obtain ⟨numRanges, announced, written⟩ := exists_of_bind_eq_ok written
  obtain ⟨largestBytes, largest, written⟩ := exists_of_bind_eq_ok written
  obtain ⟨firstLength, -, written⟩ := exists_of_bind_eq_ok written
  obtain ⟨firstBytes, first, written⟩ := exists_of_bind_eq_ok written
  obtain ⟨ranges, rangesWritten, written⟩ := exists_of_bind_eq_ok written
  split at written
  · cases written
  · rename_i consistent
    have blocks := AckContent.length_blocks announced first rangesWritten (not_not.mp consistent)
    have largestEq := length_writePacketNumber (getPacketNumberLength_mem _) largest
    cases written
    unfold ClosePathFrame.minLength
    rw [← blocks]
    cases f.hasMissingRanges <;> simp [largestEq] <;> omega

/-! ## The other frames -/

theorem StreamFrame.length_writeStreamID (written : f.writeStreamID order = .ok bytes) :
    bytes.length = f.calculateStreamIDLength := by
  have chosen := f.calculateStreamIDLength_mem
  unfold writeStreamID at written
  simp only [mem_cons, not_mem_nil, or_false] at chosen
  rcases chosen with len | len | len | len <;> rw [len] at written ⊢
  · cases written
    rfl
  · cases written
    exact order.bytes_length 2 _
  · exact length_writeFitting written
  · cases written
    exact order.bytes_length 4 _

theorem StreamFrame.length_writeOffset (written : f.writeOffset order = .ok bytes) :
    bytes.length = f.getOffsetLength := by
  have chosen := f.getOffsetLength_mem
  unfold writeOffset at written
  simp only [mem_cons, not_mem_nil, or_false] at chosen
  rcases chosen with len | len | len | len | len | len | len | len <;> rw [len] at written ⊢
  · cases written
    rfl
  · cases written
    exact order.bytes_length 2 _
  · exact length_writeFitting written
  · cases written
    exact order.bytes_length 4 _
  · exact length_writeFitting written
  · exact length_writeFitting written
  · exact length_writeFitting written
  · cases written
    exact order.bytes_length 8 _

theorem StreamFrame.length_write (written : f.write version = .ok bytes) :
    bytes.length = f.minLength + f.dataLen := by
  simp only [write] at written
  by_cases empty : f.data.length = 0 ∧ ¬f.finBit
  · rw [if_pos empty] at written
    cases written
  · rw [if_neg empty] at written
    obtain ⟨idBytes, streamID, written⟩ := exists_of_bind_eq_ok written
    obtain ⟨offsetBytes, offset, written⟩ := exists_of_bind_eq_ok written
    have idLength := length_writeStreamID streamID
    have offsetLength := length_writeOffset offset
    cases written
    unfold minLength dataLen
    cases f.dataLenPresent <;> simp [idLength, offsetLength, writeUint16] <;> omega

theorem StopWaitingFrame.length_write {f : StopWaitingFrame}
    (written : f.write version = .ok bytes) : f.minLength = .ok bytes.length := by
  unfold StopWaitingFrame.write at written
  split at written
  · cases written
  · split at written
    · cases written
    · split at written
      · rename_i chosen
        split at written
        · cases written
        · rename_i delta wrote
          have length := length_writePacketNumber chosen wrote
          have set : f.packetNumberLen ≠ 0 := by
            intro zero
            rw [zero] at chosen
            exact absurd chosen (by decide)
          cases written
          rw [StopWaitingFrame.minLength, if_neg set, length_cons, length, add_comm]
      · cases written

theorem ConnectionCloseFrame.length_write {f : ConnectionCloseFrame}
    (written : f.write version = .ok bytes) : bytes.length = f.minLength := by
  simp only [ConnectionCloseFrame.write] at written
  split at written
  · cases written
  · cases written
    simp [ConnectionCloseFrame.minLength, writeUint32, writeUint16]
    omega

theorem AddAddressFrame.length_write {f : AddAddressFrame} (written : f.write version = .ok bytes) :
    f.minLength = .ok bytes.length := by
  have four : ∀ ip, ipTo4 f.addr.ip = some ip → ip.length = 4 := by
    intro ip taken
    unfold ipTo4 at taken
    split at taken
    · cases taken
      assumption
    · split at taken
      · rename_i v6
        cases taken
        rw [length_drop, v6.1]
      · cases taken
  have sixteen : ∀ ip, ipTo16 f.addr.ip = some ip → ip.length = 16 := by
    intro ip taken
    unfold ipTo16 at taken
    split at taken
    · rename_i v4
      cases taken
      rw [length_append, v4]
      rfl
    · split at taken
      · cases taken
        assumption
      · cases taken
  unfold AddAddressFrame.write AddAddressFrame.ipBytes at written
  unfold AddAddressFrame.minLength
  split at written
  · cases written
  · rename_i ip chosen
    cases written
    split at chosen
    · rename_i v4
      cases taken : ipTo4 f.addr.ip with
      | none =>
        rw [taken] at chosen
        cases chosen
      | some bytes =>
        rw [taken] at chosen
        cases chosen
        simp [v4, four _ taken, writeUint16]
    · split at chosen
      · rename_i v6
        cases taken : ipTo16 f.addr.ip with
        | none =>
          rw [taken] at chosen
          cases chosen
        | some bytes =>
          rw [taken] at chosen
          cases chosen
          simp [v6, sixteen _ taken, writeUint16]
      · cases chosen

/-! ## PATHS frames -/

/-- The lists have as many entries as the frame announces; other frames are not written. -/
def PathsFrame.Consistent (f : PathsFrame) : Prop :=
  f.pathIDs.length = f.numPaths.toNat ∧ f.remoteRTTs.length = f.numPaths.toNat

theorem PathsFrame.consistent_of_write {f : PathsFrame} (written : f.write version = .ok bytes) :
    f.Consistent ∧ bytes.length = 3 + 3 * f.numPaths.toNat := by
  have entries : ∀ list : List (PathID × Int), (list.flatMap fun entry => entry.1 ::
      (getByteOrder version).writeUfloat16 (microseconds entry.2)).length = 3 * list.length := by
    intro list
    induction list with
    | nil => rfl
    | cons entry list ih =>
      rw [flatMap_cons, length_append, ih, length_cons, length_cons,
        writeUfloat16, writeUint16, bytes_length]
      ring
  unfold write at written
  split at written
  · cases written
  · rename_i ids
    split at written
    · cases written
    · rename_i rtts
      cases written
      rw [not_not] at ids rtts
      refine ⟨⟨ids.symm, by omega⟩, ?_⟩
      simp only [length_cons, entries, length_zip]
      omega

theorem PathsFrame.exists_write {f : PathsFrame} (version : VersionNumber)
    (consistent : f.Consistent) : ∃ bytes, f.write version = .ok bytes := by
  obtain ⟨ids, rtts⟩ := consistent
  unfold write
  rw [if_neg (by omega), if_neg (by omega)]
  exact ⟨_, rfl⟩

/-- The sum fits a byte exactly up to 84 paths. -/
theorem PathsFrame.minLength_eq_iff (f : PathsFrame) :
    f.minLength = 3 + 3 * f.numPaths.toNat ↔ f.numPaths.toNat ≤ 84 := by
  have bound := UInt8.toNat_lt f.numPaths
  have value : f.minLength = (3 + 3 * f.numPaths.toNat) % 256 := by
    simp [minLength, UInt8.toNat_add, UInt8.toNat_mul]
  rw [value]
  omega

/-! ## All frames -/

/-- The bytes that are not part of the minimal length. -/
def Frame.dataLen : Frame → Nat
  | .stream f => f.dataLen
  | _ => 0

/-- What `Write` appends has the length that `MinLength` says. -/
def Frame.LengthExact (frame : Frame) (version : VersionNumber) (now : Int) : Prop :=
  ∀ bytes, frame.write version now = .ok bytes →
    ∃ minLength, frame.minLength = .ok minLength ∧ bytes.length = minLength + frame.dataLen

theorem eq_ok_of_mapError {ε ε' α : Type} {result : Except ε α} {convert : ε → ε'} {a : α}
    (converted : result.mapError convert = .ok a) : result = .ok a := by
  cases result with
  | error err => cases converted
  | ok b =>
    cases converted
    rfl

/-- Every frame of every type has the written length that `MinLength` says, except for a PATHS
frame of more than 84 paths: its length is computed in a byte. -/
theorem frame_length_exact_iff (frame : Frame) (version : VersionNumber) (now : Int) :
    frame.LengthExact version now ↔
      ∀ f : PathsFrame, frame = .paths f → f.Consistent → f.numPaths.toNat ≤ 84 := by
  constructor
  · rintro exact f rfl consistent
    obtain ⟨bytes, written⟩ := exists_write version consistent
    obtain ⟨_, ⟨⟩, length⟩ := exact bytes written
    rw [(consistent_of_write written).2] at length
    exact f.minLength_eq_iff.mp length.symm
  · intro few bytes written
    cases frame with
    | stream f => exact ⟨_, rfl, length_write (eq_ok_of_mapError written)⟩
    | ack f => exact ⟨_, rfl, AckFrame.length_write (eq_ok_of_mapError written)⟩
    | closePath f => exact ⟨_, rfl, ClosePathFrame.length_write (eq_ok_of_mapError written)⟩
    | stopWaiting f => exact ⟨_, StopWaitingFrame.length_write written, rfl⟩
    | connectionClose f => exact ⟨_, rfl, ConnectionCloseFrame.length_write written⟩
    | addAddress f => exact ⟨_, AddAddressFrame.length_write written, rfl⟩
    | paths f =>
      obtain ⟨consistent, length⟩ := consistent_of_write written
      exact ⟨_, rfl, length.trans (f.minLength_eq_iff.mpr (few f rfl consistent)).symm⟩
    -- the writers of the remaining frames have one branch and no error
    | rstStream f =>
      cases written
      exact ⟨_, rfl, by simp [RstStreamFrame.write, RstStreamFrame.minLength,
        writeUint32, writeUint64, Frame.dataLen]⟩
    | goaway f =>
      cases written
      refine ⟨_, rfl, ?_⟩
      simp [GoawayFrame.write, GoawayFrame.minLength, writeUint32,
        writeUint16, Frame.dataLen]
      omega
    | windowUpdate f =>
      cases written
      exact ⟨_, rfl, by simp [WindowUpdateFrame.write, WindowUpdateFrame.minLength,
        writeUint32, writeUint64, Frame.dataLen]⟩
    | blocked f =>
      cases written
      exact ⟨_, rfl, by simp [BlockedFrame.write, BlockedFrame.minLength,
        writeUint32, Frame.dataLen]⟩
    | ping =>
      cases written
      exact ⟨_, rfl, rfl⟩

/-- A PATHS frame about 85 paths. -/
def manyPaths : PathsFrame where
  maxNumPaths := 255
  numPaths := 85
  pathIDs := List.replicate 85 0
  remoteRTTs := List.replicate 85 0

/-- 258 bytes are written where `MinLength` says 2. -/
theorem manyPaths_length :
    (∃ bytes, (Frame.paths manyPaths).write 39 0 = .ok bytes ∧ bytes.length = 258) ∧
      (Frame.paths manyPaths).minLength = .ok 2 ∧ ¬(Frame.paths manyPaths).LengthExact 39 0 := by
  have consistent : manyPaths.Consistent := ⟨rfl, rfl⟩
  obtain ⟨bytes, written⟩ := exists_write 39 consistent
  have length := (consistent_of_write written).2
  refine ⟨⟨bytes, written, length⟩, rfl, ?_⟩
  intro exact
  obtain ⟨_, ⟨⟩, wrong⟩ := exact bytes written
  rw [length] at wrong
  exact absurd wrong (by decide)

end MPQuic
