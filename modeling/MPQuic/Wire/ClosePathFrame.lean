import MPQuic.Wire.AckFrameSound
import MPQuic.Wire.FrameParser

/-!
# CLOSE_PATH frames

`internal/wire/close_path_frame.go` repeats the codec of ACK frames, with flags in a byte of their
own, the fields in another order and numbers that are not masked. The blocks are the same, and so
is what they carry (`AckContent.Encoded`).

* `parseClosePathFrame_sound`: what the parser accepts is made of descending ranges, as for ACK
  frames.
* `closePath_encodes_ack`: for a content that an ACK frame can carry, the two encodings are decoded
  to the same path, the same bounds and the same ranges.
-/

namespace MPQuic

variable {version : VersionNumber} {f : ClosePathFrame}

open ByteCodec

/-! ## The header of the frame -/

/-- What the parser reads out of the flags. -/
structure ClosePathFlagsRead (flags : UInt8) (largestAckedLen missingSequenceNumberDeltaLen : Nat)
    (hasMissingRanges : Bool) : Prop where
  missing : decide (flags &&& 0x10 = 0x10) = hasMissingRanges
  largest : (lengthField ((flags &&& 0x0C) >>> 2)).toNat = largestAckedLen
  delta : (lengthField (flags &&& 0x03)).toNat = missingSequenceNumberDeltaLen

theorem ClosePathFrame.flags_read (f : ClosePathFrame) :
    ClosePathFlagsRead f.flags (getPacketNumberLength f.largestAcked)
      f.getMissingSequenceNumberDeltaLen f.hasMissingRanges := by
  have table : ∀ m : Bool, ∀ l ∈ packetNumberLens, ∀ d ∈ packetNumberLens,
      let flags : UInt8 := if m then 0x10 else 0x00
      let flags := if l ≠ 1 then flags ^^^ (UInt8.ofNat (l / 2) <<< 2) else flags
      let flags := if d ≠ 1 then flags ^^^ UInt8.ofNat (d / 2) else flags
      decide (flags &&& 0x10 = 0x10) = m ∧
      (lengthField ((flags &&& 0x0C) >>> 2)).toNat = l ∧
      (lengthField (flags &&& 0x03)).toNat = d := by
    decide +kernel
  obtain ⟨missing, largest, delta⟩ := table f.hasMissingRanges _
    (getPacketNumberLength_mem f.largestAcked) _ f.getMissingSequenceNumberDeltaLen_mem
  exact ⟨missing, largest, delta⟩

/-! ## What the parser accepts -/

theorem parseClosePathFrame_sound {input rest : List UInt8}
    (run : Reads (parseClosePathFrame version) input f rest) : f.Sound := by
  obtain ⟨_, _, -, run⟩ := run.of_bind
  obtain ⟨_, _, -, run⟩ := run.of_bind
  obtain ⟨flags, _, -, run⟩ := run.of_bind
  obtain ⟨numAckBlocks, _, -, run⟩ := run.of_bind
  obtain ⟨_, _, passed, run⟩ := run.of_bind
  obtain ⟨largest, _, readLargest, run⟩ := run.of_bind
  obtain ⟨content, _, parsed, run⟩ := run.of_bind
  cases run
  exact sound_of_parseAckContent (missingSequenceNumberDeltaLen_le flags)
    (largestAcked_lt readLargest) (count_ne_zero passed.of_failIf) parsed

/-! ## Writing and parsing -/

/-- The parser gets back what the blocks carry. -/
theorem ClosePathFrame.reads_written (ok : f.WellFormed)
    (version : VersionNumber) (fits : f.FirstGapFits) :
    ∃ bytes, f.write version = .ok bytes ∧
      ∀ tail, Reads (parseClosePathFrame version) (bytes ++ tail)
        { f.transmitted with pathID := f.pathID } tail := by
  obtain ⟨numRanges, firstLength, blocks, encoded⟩ := ok.encoded (getByteOrder version) fits
  have largest := (getByteOrder version).writePacketNumber_eq false
    (getPacketNumberLength_mem f.largestAcked) (lt_of_getPacketNumberLength ok.bound)
  have first := (getByteOrder version).writePacketNumber_eq false
    f.getMissingSequenceNumberDeltaLen_mem encoded.firstFits
  have wrote : f.write version = .ok (0x11 :: f.pathID :: f.flags ::
      ((if f.hasMissingRanges then [UInt8.ofNat (numRanges - 1)] else []) ++
        ((getByteOrder version).bytes (getPacketNumberLength f.largestAcked) f.largestAcked ++
          ((getByteOrder version).bytes f.getMissingSequenceNumberDeltaLen firstLength ++
            blocks)))) := by
    simp only [ClosePathFrame.write, encoded.announced, largest, encoded.first, first,
      encoded.written false, bind, Except.bind, ne_eq, not_true_eq_false, if_false]
  have flags := f.flags_read
  have announced : (f.hasMissingRanges && UInt8.ofNat (numRanges - 1) == 0) = false := by
    cases missing : f.hasMissingRanges with
    | false => rfl
    | true => simpa using encoded.count_some missing
  refine ⟨_, wrote, fun tail => ?_⟩
  have content := encoded.reads tail
  rw [← encoded.toNat_count] at content
  simp only [List.cons_append, List.append_assoc]
  refine Reads.bind (Reads.byte _ _ _) ?_
  refine Reads.bind (Reads.byte _ _ _) ?_
  refine Reads.bind (Reads.byte _ _ _) ?_
  simp only [flags.missing, flags.largest, flags.delta]
  refine Reads.bind (reads_numAckBlocks f.hasMissingRanges encoded.count_none _) ?_
  refine Reads.bind (Reads.failIf announced _) ?_
  refine Reads.bind
    (ByteOrder.readUintN_bytes_of_lt _ _ (lt_of_getPacketNumberLength ok.bound)) ?_
  exact Reads.bind content (Reads.pure _ _)

/-! ## Two encodings of one acknowledgement -/

/-- An interval of packet numbers, as a whole or cut into at least two ranges that descend and are
not adjacent. That the ranges reach from the largest to the lowest number is left to the writers,
which check it. -/
structure AckContent.Descends (c : AckContent) : Prop where
  lowest : 1 ≤ c.lowestAcked
  bound : c.largestAcked < 2 ^ 48
  ranges : c.ackRanges = [] ∧ c.lowestAcked ≤ c.largestAcked ∨
    2 ≤ c.ackRanges.length ∧ (∀ r ∈ c.ackRanges, r.first ≤ r.last) ∧
      c.ackRanges.IsChain AckRange.Under

/-- The checks of a writer. -/
theorem AckContent.Descends.wellFormed {c : AckContent} (descends : c.Descends)
    {firstLength : Nat} (checked : c.firstAckBlockLength = .ok firstLength) : c.WellFormed := by
  rcases descends.ranges with ⟨whole, ordered⟩ | ⟨two, nonempty, chain⟩
  · exact ⟨descends.lowest, ordered, descends.bound, Or.inl whole⟩
  · cases ranges : c.ackRanges with
    | nil =>
      rw [ranges] at two
      exact absurd two (by simp)
    | cons top rest =>
      unfold AckContent.firstAckBlockLength at checked
      simp only [ranges] at checked
      split at checked
      · cases checked
      · rename_i largest
        split at checked
        · cases checked
        · rename_i lowest
          rw [not_not] at largest lowest
          have bounds := chain_bounds (ranges ▸ nonempty) (ranges ▸ chain) top
            List.mem_cons_self
          have ordered := nonempty top (ranges ▸ List.mem_cons_self)
          refine ⟨descends.lowest, by omega, descends.bound,
            Or.inr ⟨two, nonempty, chain, ?_, ?_⟩⟩
          · rw [ranges, largest]
            rfl
          · rw [ranges, lowest, List.getLast?_eq_some_getLast (List.cons_ne_nil _ _)]
            rfl

theorem AckContent.Descends.wellFormed_of_write {f : AckFrame} (descends : f.Descends) {now : Int}
    {bytes : List UInt8} (wrote : f.write version now = .ok bytes) : f.WellFormed := by
  obtain ⟨_, -, wrote⟩ := exists_of_bind_eq_ok wrote
  obtain ⟨_, -, wrote⟩ := exists_of_bind_eq_ok wrote
  obtain ⟨_, checked, -⟩ := exists_of_bind_eq_ok wrote
  exact descends.wellFormed checked

/-- CLOSE_PATH and ACK frames encode the same acknowledgement: whatever an ACK frame can be written
with, a CLOSE_PATH frame can be written with, and the two parsers return the same path, bounds and
ranges. -/
theorem closePath_encodes_ack (f : AckFrame) (version : VersionNumber) (now : Int)
    (ackBytes : List UInt8) (descends : f.Descends)
    (wrote : f.write version now = .ok ackBytes) :
    ∃ closeBytes,
      ClosePathFrame.write { f.toAckContent with pathID := f.pathID } version =
        .ok closeBytes ∧
      ∀ tail, ∃ (ack : AckFrame) (close : ClosePathFrame),
        Reads (parseAckFrame version) (ackBytes ++ tail) ack tail ∧
        Reads (parseClosePathFrame version) (closeBytes ++ tail) close tail ∧
        ack.pathID = f.pathID ∧ close.pathID = ack.pathID ∧
        close.largestAcked = ack.largestAcked ∧ close.lowestAcked = ack.lowestAcked ∧
        close.ackRanges = ack.ackRanges := by
  have ok := descends.wellFormed_of_write wrote
  have fits := AckFrame.firstGapFits_of_write ok wrote
  obtain ⟨bytes, wrote', readsAck⟩ := AckFrame.reads_written ok version now fits
  obtain rfl : bytes = ackBytes := Except.ok.inj (wrote'.symm.trans wrote)
  obtain ⟨closeBytes, closeWrote, readsClose⟩ := ClosePathFrame.reads_written
    (f := { f.toAckContent with pathID := f.pathID }) ok version fits
  exact ⟨closeBytes, closeWrote, fun tail =>
    ⟨_, _, readsAck tail, readsClose tail, rfl, rfl, rfl, rfl, rfl⟩⟩

/-- Two ranges with 600 packets missing in between, on path 3. -/
theorem closePath_encodes_longGap :
    let f : AckFrame :=
      { largestAcked := 1000, lowestAcked := 398, pathID := 3,
        ackRanges := [⟨1000, 1000⟩, ⟨398, 399⟩] }
    f.Descends ∧ ∃ ackBytes, f.write version39 5000 = .ok ackBytes ∧ ∃ closeBytes,
      ClosePathFrame.write { f.toAckContent with pathID := f.pathID } version39 =
        .ok closeBytes ∧
      ∀ tail, ∃ (ack : AckFrame) (close : ClosePathFrame),
        Reads (parseAckFrame version39) (ackBytes ++ tail) ack tail ∧
        Reads (parseClosePathFrame version39) (closeBytes ++ tail) close tail ∧
        ack.pathID = f.pathID ∧ close.pathID = ack.pathID ∧
        close.largestAcked = ack.largestAcked ∧ close.lowestAcked = ack.lowestAcked ∧
        close.ackRanges = ack.ackRanges := by
  intro f
  have descends : f.Descends :=
    ⟨by decide, by decide, Or.inr ⟨by decide, by decide, by simp [f, AckRange.Under]⟩⟩
  have wrote : f.write version39 5000 =
      .ok [116, 3, 3, 232, 0, 5, 3, 1, 255, 0, 255, 0, 90, 2, 0] := by decide +kernel
  exact ⟨descends, _, wrote, closePath_encodes_ack f version39 5000 _ descends wrote⟩

end MPQuic
