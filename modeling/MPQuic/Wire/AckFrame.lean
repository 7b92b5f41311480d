import MPQuic.Wire.AckRangeCodec

/-!
# ACK frames

`internal/wire/ack_frame.go`. Times are nanoseconds on one clock; the delay since the
largest packet was received travels as a 16-bit float of microseconds.

The round trip at the end has one exception. When the packets missing in front of the
second range take more than 254 blocks, the counting loop admits the first range only,
but the writing loop has no test before its first round and writes the second range as
well; `Write` then reports the inconsistency and no frame is sent.
-/

namespace MPQuic

open List ByteCodec

/-- An ACK frame. -/
structure AckFrame extends AckContent where
  pathID : PathID := initialPathID
  packetReceivedTime : Int := 0
  delayTime : Int := 0
  deriving DecidableEq, Repr

variable {version : VersionNumber} {f : AckFrame} {c : AckContent} {num : UInt8} (pathID : PathID)

def ackTypeByte (largestAckedLen missingSequenceNumberDeltaLen : Nat)
    (hasMissingRanges hasPathID : Bool) : UInt8 :=
  let typeByte : UInt8 := 0x40
  let typeByte := if largestAckedLen ≠ 1 then
    typeByte ^^^ (UInt8.ofNat (largestAckedLen / 2) <<< 2) else typeByte
  let typeByte := if missingSequenceNumberDeltaLen ≠ 1 then
    typeByte ^^^ UInt8.ofNat (missingSequenceNumberDeltaLen / 2) else typeByte
  let typeByte := if hasMissingRanges then typeByte ||| 0x20 else typeByte
  if hasPathID then typeByte ||| 0x10 else typeByte

/-- `uint64(d / time.Microsecond)` -/
def microseconds (d : Int) : Nat := (d.tdiv 1000 % 2 ^ 64).toNat

/-- The bytes `Write` appends to the buffer at time `now`. -/
def AckFrame.write (f : AckFrame) (version : VersionNumber) (now : Int) :
    Except WireError (List UInt8) := do
  let order := getByteOrder version
  let largestAckedLen := getPacketNumberLength f.largestAcked
  let missingSequenceNumberDeltaLen := f.getMissingSequenceNumberDeltaLen
  let hasPathID := decide (f.pathID ≠ initialPathID)
  let typeByte := ackTypeByte largestAckedLen missingSequenceNumberDeltaLen
    f.hasMissingRanges hasPathID
  let pathBytes := if hasPathID then [f.pathID] else []
  let largestBytes ← order.writePacketNumber true largestAckedLen f.largestAcked
  let delayBytes := order.writeUfloat16 (microseconds (now - f.packetReceivedTime))
  let numRanges ← f.announcedRanges "AckFrame: Too many ACK ranges"
  let numBytes := if f.hasMissingRanges then [UInt8.ofNat (numRanges - 1)] else []
  let firstAckBlockLength ← f.firstAckBlockLength
  let firstBytes ← order.writePacketNumber true missingSequenceNumberDeltaLen firstAckBlockLength
  let ranges ← order.writeRanges true missingSequenceNumberDeltaLen numRanges f.ackRanges
    (if f.hasMissingRanges then 1 else 0)
  if numRanges ≠ ranges.2 then
    .error .inconsistentNumberOfAckRanges
  else
    .ok (typeByte :: (pathBytes ++ (largestBytes ++ (delayBytes ++ (numBytes ++
      (firstBytes ++ (ranges.1 ++ [0])))))))

/-- The timestamps behind the blocks are read and dropped. -/
def skipTimestamps (order : ByteOrder) : Nat → Reader WireError Unit
  | 0 => pure ()
  | count + 1 => do
    let _ ← readUint8
    let _ ← order.readUint16
    skipTimestamps order count

def skipTimestampSection (order : ByteOrder) (numTimestamp : Nat) : Reader WireError Unit :=
  if numTimestamp > 0 then do
    let _ ← readUint8
    let _ ← order.readUint32
    skipTimestamps order (numTimestamp - 1)
  else pure ()

/-- A length field of two bits: the length is twice its value, or one byte for zero. -/
def lengthField (bits : UInt8) : UInt8 := if 2 * bits = 0 then 1 else 2 * bits

def parseAckFrame (version : VersionNumber) : Reader WireError AckFrame := do
  let order := getByteOrder version
  let typeByte ← readUint8
  let hasMissingRanges := decide (typeByte &&& 0x20 = 0x20)
  let largestAckedLen := lengthField ((typeByte &&& 0x0C) >>> 2)
  let missingSequenceNumberDeltaLen := lengthField (typeByte &&& 0x03)
  let pathID ← readIf (typeByte &&& 0x10 = 0x10) readUint8 initialPathID
  let largestAcked ← order.readUintN largestAckedLen.toNat
  let delay ← order.readUfloat16
  let numAckBlocks ← readIf hasMissingRanges readUint8 0
  failIf (hasMissingRanges && numAckBlocks == 0) .errInvalidAckRanges
  let content ← order.parseAckContent hasMissingRanges numAckBlocks.toNat
    missingSequenceNumberDeltaLen.toNat largestAcked
  let numTimestamp ← readUint8
  skipTimestampSection order numTimestamp.toNat
  return { content with pathID, delayTime := delay * 1000 }

/-! ## The header of the frame -/

/-- What the parser reads out of a type byte. -/
structure AckTypeByteReads (t : UInt8) (largestAckedLen missingSequenceNumberDeltaLen : Nat)
    (hasMissingRanges hasPathID : Bool) : Prop where
  missing : decide (t &&& 0x20 = 0x20) = hasMissingRanges
  path : decide (t &&& 0x10 = 0x10) = hasPathID
  largest : (lengthField ((t &&& 0x0C) >>> 2)).toNat = largestAckedLen
  delta : (lengthField (t &&& 0x03)).toNat = missingSequenceNumberDeltaLen

theorem ackTypeByte_reads {len delta : Nat} (lenMem : len ∈ packetNumberLens)
    (deltaMem : delta ∈ packetNumberLens) (hasMissingRanges hasPathID : Bool) :
    AckTypeByteReads (ackTypeByte len delta hasMissingRanges hasPathID) len delta
      hasMissingRanges hasPathID := by
  have table : ∀ m p : Bool, ∀ l ∈ packetNumberLens, ∀ d ∈ packetNumberLens,
      decide (ackTypeByte l d m p &&& 0x20 = 0x20) = m ∧
      decide (ackTypeByte l d m p &&& 0x10 = 0x10) = p ∧
      (lengthField ((ackTypeByte l d m p &&& 0x0C) >>> 2)).toNat = l ∧
      (lengthField (ackTypeByte l d m p &&& 0x03)).toNat = d := by
    decide +kernel
  obtain ⟨missing, path, largest, delta⟩ :=
    table hasMissingRanges hasPathID len lenMem delta deltaMem
  exact ⟨missing, path, largest, delta⟩

theorem reads_pathID (rest : List UInt8) :
    Reads (readIf (decide (pathID ≠ initialPathID)) readUint8 initialPathID)
      ((if decide (pathID ≠ initialPathID) then [pathID] else []) ++ rest) pathID rest := by
  by_cases initial : pathID = initialPathID
  · subst initial
    exact Reads.readIf_false _
  · simp only [initial, ne_eq, not_false_eq_true, decide_true, if_true]
    exact Reads.readIf_true (Reads.byte _ _ _)

theorem reads_numAckBlocks (hasMissingRanges : Bool) (zero : hasMissingRanges = false → num = 0)
    (rest : List UInt8) :
    Reads (readIf hasMissingRanges readUint8 0)
      ((if hasMissingRanges then [num] else []) ++ rest) num rest := by
  cases hasMissingRanges with
  | false =>
    rw [zero rfl]
    exact Reads.readIf_false _
  | true => exact Reads.readIf_true (Reads.byte _ _ _)

/-- The parser, once it is known what it makes of the blocks. -/
theorem reads_parseAckFrame {largest delta : Nat} (bound : largest < 2 ^ 48)
    (deltaMem : delta ∈ packetNumberLens) (hasMissingRanges : Bool) (delay : Nat)
    (zero : hasMissingRanges = false → num = 0) (nonzero : hasMissingRanges = true → num ≠ 0)
    {body tail : List UInt8} {content : AckContent} (blocks : Reads
      ((getByteOrder version).parseAckContent hasMissingRanges num.toNat delta largest)
      (body ++ 0 :: tail) content (0 :: tail)) :
    Reads (parseAckFrame version)
      (ackTypeByte (getPacketNumberLength largest) delta hasMissingRanges
          (decide (pathID ≠ initialPathID)) ::
        ((if decide (pathID ≠ initialPathID) then [pathID] else []) ++
          ((getByteOrder version).bytes (getPacketNumberLength largest) largest ++
            ((getByteOrder version).bytes 2 delay ++
              ((if hasMissingRanges then [num] else []) ++ (body ++ 0 :: tail))))))
      { content with pathID, delayTime := decodeUfloat16 (delay % 2 ^ 16) * 1000 } tail := by
  have header := ackTypeByte_reads (getPacketNumberLength_mem largest) deltaMem
    hasMissingRanges (decide (pathID ≠ initialPathID))
  have announced : (hasMissingRanges && num == 0) = false := by
    cases hasMissingRanges with
    | false => rfl
    | true => simpa using nonzero rfl
  refine Reads.bind (Reads.byte _ _ _) ?_
  simp only [header.missing, header.path, header.largest, header.delta]
  refine Reads.bind (reads_pathID pathID _) ?_
  refine Reads.bind
    (ByteOrder.readUintN_bytes_of_lt _ _ (lt_of_getPacketNumberLength bound)) ?_
  refine Reads.bind (ByteOrder.readUfloat16_bytes _ _ _) ?_
  refine Reads.bind (reads_numAckBlocks hasMissingRanges zero _) ?_
  refine Reads.bind (Reads.failIf announced _) ?_
  refine Reads.bind blocks ?_
  refine Reads.bind (Reads.byte _ _ _) ?_
  refine Reads.bind (Reads.pure _ _) ?_
  exact Reads.pure _ _

/-! ## Writing -/

/-- The writer, once it is known what its two loops do. -/
theorem AckFrame.write_eq (now : Int) {numRanges firstLength : Nat} {ranges : List UInt8 × Nat}
    (bound : f.largestAcked < 2 ^ 48)
    (announced : f.announcedRanges "AckFrame: Too many ACK ranges" = .ok numRanges)
    (first : f.firstAckBlockLength = .ok firstLength)
    (firstFits : firstLength < 2 ^ (8 * f.getMissingSequenceNumberDeltaLen))
    (written : (getByteOrder version).writeRanges true f.getMissingSequenceNumberDeltaLen
      numRanges f.ackRanges (if f.hasMissingRanges then 1 else 0) = .ok ranges) :
    f.write version now =
      if numRanges ≠ ranges.2 then .error .inconsistentNumberOfAckRanges
      else .ok (ackTypeByte (getPacketNumberLength f.largestAcked)
          f.getMissingSequenceNumberDeltaLen f.hasMissingRanges
          (decide (f.pathID ≠ initialPathID)) ::
        ((if decide (f.pathID ≠ initialPathID) then [f.pathID] else []) ++
          ((getByteOrder version).bytes (getPacketNumberLength f.largestAcked) f.largestAcked ++
            ((getByteOrder version).bytes 2
                (encodeUfloat16 (microseconds (now - f.packetReceivedTime))) ++
              ((if f.hasMissingRanges then [UInt8.ofNat (numRanges - 1)] else []) ++
                ((getByteOrder version).bytes f.getMissingSequenceNumberDeltaLen firstLength ++
                  (ranges.1 ++ [0]))))))) := by
  have largest := (getByteOrder version).writePacketNumber_eq true
    (getPacketNumberLength_mem f.largestAcked) (lt_of_getPacketNumberLength bound)
  have firstBytes := (getByteOrder version).writePacketNumber_eq true
    f.getMissingSequenceNumberDeltaLen_mem firstFits
  simp only [AckFrame.write, largest, announced, first, firstBytes, written, bind, Except.bind]
  rfl

namespace AckContent

theorem hasMissingRanges_cons {top : AckRange}
    {rest : List AckRange} (ranges : c.ackRanges = top :: rest) : c.hasMissingRanges = true := by
  simp [hasMissingRanges, ranges]

theorem hasMissingRanges_nil (ranges : c.ackRanges = []) :
    c.hasMissingRanges = false := by
  simp [hasMissingRanges, ranges]

section Split

variable {c : AckContent} {top below : AckRange} {rest : List AckRange}

section

variable (ok : c.WellFormed)

include ok

/-- The announced number is that of the blocks of the writable prefix and the first. -/
theorem WellFormed.announcedRanges_eq (ranges : c.ackRanges = top :: rest)
    (reason : String) :
    c.announcedRanges reason = .ok (1 + (blocksOf (writable 254 c.ackRanges)).length) := by
  have count : countWritable c.ackRanges 0 =
      0 + (blocksOf (writable 254 c.ackRanges)).length :=
    ok.descending.countWritable_eq (Nat.zero_le 254)
  have small := ok.descending.blocksOf_writable_le 254
  have notEmpty : ¬c.ackRanges.length = 0 := by simp [ranges]
  have num : c.numWritableNackRanges = 1 + (blocksOf (writable 254 c.ackRanges)).length := by
    rw [numWritableNackRanges, if_neg notEmpty, count]
    omega
  simp only [announcedRanges, hasMissingRanges_cons ranges, if_true, num]
  rw [if_neg (by omega)]

theorem WellFormed.firstAckBlockLength_eq (ranges : c.ackRanges = top :: rest) :
    c.firstAckBlockLength = .ok top.length := by
  have largest := ok.top_last ranges
  have lowest := ok.getLast_first ranges
  unfold firstAckBlockLength
  simp only [ranges]
  rw [if_neg (not_not.mpr largest.symm), if_neg (not_not.mpr lowest.symm), ← largest]
  rfl

theorem WellFormed.firstAckBlockLength_whole (whole : c.ackRanges = []) :
    c.firstAckBlockLength = .ok (c.largestAcked - c.lowestAcked + 1) := by
  have ordered := ok.ordered
  have bound := ok.bound
  unfold firstAckBlockLength
  simp only [whole]
  rw [subUint64_of_le ordered (by omega), addUint64_of_lt (by omega)]

/-- The packets missing in front of the second range take at most 254 blocks. -/
def FirstGapFits (c : AckContent) : Prop :=
  ∀ top below rest, c.ackRanges = top :: below :: rest →
    top.first - below.last - 1 ≤ 254 * 255

theorem WellFormed.gapBlocks_le_iff (ranges : c.ackRanges = top :: below :: rest) :
    gapBlocks (rangeGap top below) ≤ 254 ↔ c.FirstGapFits := by
  have desc := ok.descending
  rw [ranges] at desc
  have gapEq := AckRange.Under.rangeGap_eq desc.under (desc.valid top (by simp))
  obtain ⟨pos, -⟩ := desc.gap_pos
  rw [gapBlocks_eq pos, gapEq]
  constructor
  · intro small top' below' rest' ranges'
    obtain ⟨rfl, tail⟩ := List.cons.inj (ranges.symm.trans ranges')
    obtain ⟨rfl, rfl⟩ := List.cons.inj tail
    omega
  · intro fits
    have small := fits top below rest ranges
    omega

/-- A prefix of at least two ranges is written when the first gap fits. -/
theorem WellFormed.writable_cons_cons (ranges : c.ackRanges = top :: below :: rest)
    (fits : c.FirstGapFits) : ∃ more, writable 254 c.ackRanges = top :: below :: more := by
  have room := (ok.gapBlocks_le_iff ranges).mpr fits
  obtain ⟨more, head⟩ := writable_cons (254 - gapBlocks (rangeGap top below)) below rest
  exact ⟨more, by rw [ranges, writable, if_pos room, head]⟩

/-! ## The blocks of a frame -/

/-- What a frame with this content carries: the ranges whose blocks can be written. -/
def transmitted (c : AckContent) : AckContent where
  largestAcked := c.largestAcked
  lowestAcked := ((writable 254 c.ackRanges).getLast?.map AckRange.first).getD c.lowestAcked
  ackRanges := writable 254 c.ackRanges

theorem WellFormed.transmitted_lowestAcked
    (all : writable 254 c.ackRanges = c.ackRanges) : c.transmitted.lowestAcked = c.lowestAcked := by
  rcases ok.ranges with whole | split
  · rw [transmitted, whole]
    rfl
  · rw [transmitted, all, split.bottom, Option.getD_some]

theorem WellFormed.transmitted_eq (all : writable 254 c.ackRanges = c.ackRanges) :
    c.transmitted = c := by
  have lowest : ((writable 254 c.ackRanges).getLast?.map AckRange.first).getD c.lowestAcked =
      c.lowestAcked := ok.transmitted_lowestAcked all
  rw [transmitted, lowest, all]

/-- What was left out lies below. -/
theorem WellFormed.lowestAcked_le_transmitted :
    c.lowestAcked ≤ c.transmitted.lowestAcked := by
  cases bottom : (writable 254 c.ackRanges).getLast? with
  | none =>
    rw [transmitted, bottom]
    exact le_refl _
  | some lowest =>
    have desc := ok.descending
    obtain ⟨back, split⟩ := writable_append 254 c.ackRanges
    have mem : lowest ∈ c.ackRanges := by
      rw [split]
      exact mem_append_left back (mem_of_getLast? bottom)
    cases ranges : c.ackRanges with
    | nil =>
      rw [ranges] at mem
      cases mem
    | cons top rest =>
      rw [ranges] at mem desc
      have bounds :=
        chain_bounds (fun r mem => (desc.valid r mem).ordered) desc.chain lowest mem
      rw [ok.getLast_first ranges] at bounds
      rw [transmitted, bottom]
      exact bounds.2

end

/-- What the two loops of a writer make of the content, and what the parser of the blocks makes of
the result. -/
structure Encoded (c : AckContent) (order : ByteOrder) (numRanges firstLength : Nat)
    (blocks : List UInt8) : Prop where
  announced : ∀ reason, c.announcedRanges reason = .ok numRanges
  first : c.firstAckBlockLength = .ok firstLength
  firstFits : firstLength < 2 ^ (8 * c.getMissingSequenceNumberDeltaLen)
  written : ∀ masked, order.writeRanges masked c.getMissingSequenceNumberDeltaLen numRanges
    c.ackRanges (if c.hasMissingRanges then 1 else 0) = .ok (blocks, numRanges)
  none : c.hasMissingRanges = false → numRanges = 0
  some : c.hasMissingRanges = true → 2 ≤ numRanges
  few : numRanges ≤ 255
  reads : ∀ tail, Reads
    (order.parseAckContent c.hasMissingRanges (numRanges - 1) c.getMissingSequenceNumberDeltaLen
      c.largestAcked)
    (order.bytes c.getMissingSequenceNumberDeltaLen firstLength ++ (blocks ++ tail))
    c.transmitted tail

section Encoded

variable {order : ByteOrder} {numRanges firstLength : Nat} {blocks : List UInt8}

section

variable (encoded : c.Encoded order numRanges firstLength blocks)

include encoded

theorem Encoded.toNat_count : (UInt8.ofNat (numRanges - 1)).toNat = numRanges - 1 := by
  have few := encoded.few
  rw [UInt8.toNat_ofNat']
  exact Nat.mod_eq_of_lt (by omega)

theorem Encoded.count_none (missing : c.hasMissingRanges = false) :
    UInt8.ofNat (numRanges - 1) = 0 := by
  rw [encoded.none missing]
  rfl

theorem Encoded.count_some (missing : c.hasMissingRanges = true) :
    UInt8.ofNat (numRanges - 1) ≠ 0 := by
  intro zero
  have two := encoded.some missing
  have count := encoded.toNat_count
  rw [zero] at count
  have : numRanges - 1 = 0 := count.symm
  omega

end

theorem WellFormed.encoded_whole (ok : c.WellFormed) (order : ByteOrder)
    (whole : c.ackRanges = []) : c.Encoded order 0 (c.largestAcked - c.lowestAcked + 1) [] := by
  have missing := hasMissingRanges_nil whole
  have same := ok.transmitted_eq (by rw [whole]; rfl)
  have content : c = { largestAcked := c.largestAcked, lowestAcked := c.lowestAcked } := by
    rw [← whole]
  refine ⟨fun reason => ?_, ok.firstAckBlockLength_whole whole, ok.whole_lt whole, fun masked => ?_,
    fun _ => rfl, fun any => ?_, by decide, fun tail => ?_⟩
  · simp [announcedRanges, missing]
  · rw [whole, missing]
    rfl
  · rw [missing] at any
    cases any
  · rw [missing, same, nil_append]
    have reads := reads_parseAckContent_whole order ok.lowest ok.ordered ok.bound
      (ok.whole_lt whole) tail
    rw [← content] at reads
    exact reads

theorem WellFormed.encoded_split (ok : c.WellFormed) (order : ByteOrder)
    (ranges : c.ackRanges = top :: below :: rest) (fits : c.FirstGapFits) :
    c.Encoded order (1 + (blocksOf (writable 254 c.ackRanges)).length) top.length
      (order.blockBytes c.getMissingSequenceNumberDeltaLen
        (blocksOf (writable 254 c.ackRanges))) := by
  have missing := hasMissingRanges_cons ranges
  have desc := ok.descending
  have small := desc.blocksOf_writable_le 254
  have front := desc.of_writable 254
  obtain ⟨back, split⟩ := writable_append 254 c.ackRanges
  obtain ⟨more, chosen⟩ := ok.writable_cons_cons ranges fits
  have content : c.transmitted =
      { largestAcked := top.last
        lowestAcked := ((top :: below :: more).getLast (cons_ne_nil _ _)).first
        ackRanges := top :: below :: more } := by
    rw [transmitted, chosen, getLast?_eq_some_getLast (cons_ne_nil _ _),
      Option.map_some, Option.getD_some, ok.top_last ranges]
  rw [chosen] at small front split ⊢
  have lengths : FitLength c.getMissingSequenceNumberDeltaLen (top :: below :: more) :=
    fun r mem => ok.fitLength r (split ▸ mem_append_left back mem)
  have pos : 0 < (blocksOf (top :: below :: more)).length := by
    rw [front.blocksOf_cons]
    simp
  refine ⟨fun reason => ?_, ok.firstAckBlockLength_eq ranges, lengths top (by simp),
    fun masked => ?_, fun whole => ?_, fun _ => by omega, by omega, fun tail => ?_⟩
  · rw [ok.announcedRanges_eq ranges reason, chosen]
  · have written := order.writeRanges_eq masked c.getMissingSequenceNumberDeltaLen_mem
      (split ▸ desc) lengths (by simp) 1
    rw [← split] at written
    rw [missing]
    exact written
  · rw [missing] at whole
    cases whole
  · rw [missing, content, Nat.add_sub_cancel_left, ← ok.top_last ranges]
    exact front.reads_parseAckContent order lengths tail

theorem WellFormed.encoded (ok : c.WellFormed) (order : ByteOrder)
    (fits : c.FirstGapFits) :
    ∃ numRanges firstLength blocks, c.Encoded order numRanges firstLength blocks := by
  match ranges : c.ackRanges, ok.ranges with
  | [], _ => exact ⟨_, _, _, ok.encoded_whole order ranges⟩
  | [_], .inr split =>
    have two := split.two
    rw [ranges] at two
    exact absurd two (by simp)
  | top :: below :: rest, _ => exact ⟨_, _, _, ok.encoded_split order ranges fits⟩

end Encoded

end Split

end AckContent

/-! ## The round trip -/

/-- `Write` succeeds, and the parser, in front of any bytes, consumes what was written and
returns the path, the largest packet and the longest prefix of the ranges that fits into
255 blocks, which is all of them and the lowest packet when they fit; it acknowledges
nothing that the frame does not. -/
def AckFrame.RoundTrips (f : AckFrame) (version : VersionNumber) (now : Int) : Prop :=
  ∃ bytes, f.write version now = .ok bytes ∧ ∀ tail, ∃ g : AckFrame,
    Reads (parseAckFrame version) (bytes ++ tail) g tail ∧
      g.pathID = f.pathID ∧ g.largestAcked = f.largestAcked ∧
      LongestFitting f.ackRanges g.ackRanges ∧
      (blocksNeeded f.ackRanges ≤ 255 →
        g.ackRanges = f.ackRanges ∧ g.lowestAcked = f.lowestAcked) ∧
      ∀ p, g.acksPacket p = true → f.acksPacket p = true

/-- A prefix of the ranges acknowledges no more than all of them. -/
theorem AckContent.acksPacket_of_front {c d : AckContent} {p : Nat} {back : List AckRange}
    (acked : d.acksPacket p = true) (ranges : c.ackRanges = d.ackRanges ++ back)
    (listed : d.hasMissingRanges = true) (largest : d.largestAcked = c.largestAcked)
    (lowest : c.lowestAcked ≤ d.lowestAcked) : c.acksPacket p = true := by
  have missing : c.hasMissingRanges = true := by
    simp only [AckContent.hasMissingRanges, decide_eq_true_eq] at listed ⊢
    rw [ranges, length_append]
    omega
  unfold AckContent.acksPacket at acked ⊢
  rw [if_pos listed] at acked
  rw [if_pos missing, ranges, any_append]
  split at acked
  · exact absurd acked Bool.false_ne_true
  · rename_i inside
    simp only [Bool.or_eq_true, decide_eq_true_eq, not_or] at inside
    rw [if_neg (by simp only [Bool.or_eq_true, decide_eq_true_eq]; omega), acked, Bool.true_or]

/-- The frame with the given content that the receiver gets for `f` written at `now`. -/
def AckFrame.delivered (f : AckFrame) (now : Int) (content : AckContent) : AckFrame where
  toAckContent := content
  pathID := f.pathID
  delayTime :=
    decodeUfloat16 (encodeUfloat16 (microseconds (now - f.packetReceivedTime)) % 2 ^ 16) * 1000

/-- The parser gets back what the blocks carry. -/
theorem AckFrame.reads_written (ok : f.WellFormed) (version : VersionNumber)
    (now : Int) (fits : f.FirstGapFits) :
    ∃ bytes, f.write version now = .ok bytes ∧
      ∀ tail, Reads (parseAckFrame version) (bytes ++ tail) (f.delivered now f.transmitted)
        tail := by
  obtain ⟨numRanges, firstLength, blocks, encoded⟩ := ok.encoded (getByteOrder version) fits
  have wrote := AckFrame.write_eq now ok.bound (encoded.announced _) encoded.first
    encoded.firstFits (encoded.written true)
  rw [if_neg (not_not.mpr rfl)] at wrote
  refine ⟨_, wrote, fun tail => ?_⟩
  have content := encoded.reads (0 :: tail)
  rw [← encoded.toNat_count, ← append_assoc] at content
  have run := reads_parseAckFrame f.pathID ok.bound f.getMissingSequenceNumberDeltaLen_mem
    f.hasMissingRanges (encodeUfloat16 (microseconds (now - f.packetReceivedTime)))
    encoded.count_none encoded.count_some content
  simp only [cons_append, append_assoc] at run ⊢
  exact run

theorem AckFrame.roundTrips_of_firstGapFits (ok : f.WellFormed)
    (version : VersionNumber) (now : Int) (fits : f.FirstGapFits) : f.RoundTrips version now := by
  obtain ⟨bytes, wrote, reads⟩ := AckFrame.reads_written ok version now fits
  have longest := ok.descending.longestFitting
  refine ⟨bytes, wrote, fun tail => ⟨_, reads tail, rfl, rfl, longest, fun all => ?_, ?_⟩⟩
  · have same : writable 254 f.ackRanges = f.ackRanges :=
      longest.front.eq_of_length_le (longest.longest _ prefix_rfl all)
    exact ⟨same, ok.transmitted_lowestAcked same⟩
  · intro p acked
    cases ranges : f.ackRanges with
    | nil =>
      rw [← ok.transmitted_eq (by rw [ranges]; rfl)]
      exact acked
    | cons top rest =>
      obtain ⟨back, split⟩ := writable_append 254 f.ackRanges
      have missing : f.transmitted.hasMissingRanges = true := by
        obtain ⟨more, chosen⟩ := writable_cons 254 top rest
        rw [← ranges] at chosen
        exact AckContent.hasMissingRanges_cons chosen
      exact AckContent.acksPacket_of_front acked split missing rfl ok.lowestAcked_le_transmitted

/-- When the first gap does not fit, one block is announced and the second range written
all the same. -/
theorem AckFrame.write_of_not_firstGapFits (ok : f.WellFormed)
    (version : VersionNumber) (now : Int) {top below : AckRange} {rest : List AckRange}
    (ranges : f.ackRanges = top :: below :: rest) (long : ¬f.FirstGapFits) :
    f.write version now = .error .inconsistentNumberOfAckRanges := by
  have missing := AckContent.hasMissingRanges_cons ranges
  have tooLong : ¬gapBlocks (rangeGap top below) ≤ 254 :=
    fun small => long ((ok.gapBlocks_le_iff ranges).mp small)
  have desc := ok.descending
  have lengths := ok.fitLength
  have announced := ok.announcedRanges_eq ranges "AckFrame: Too many ACK ranges"
  have one : writable 254 f.ackRanges = [top] := by
    rw [ranges, writable, if_neg tooLong]
  rw [one] at announced
  rw [ranges] at desc lengths
  have count := desc.rangeBlocks_length
  have bounds := desc.block_bounds lengths
  have blocks := (getByteOrder version).writeBlocks_eq true f.getMissingSequenceNumberDeltaLen_mem
    (fun block mem => (bounds block (mem_append_left _ mem)).2)
  have written := ByteOrder.writeRanges_cons blocks 1 1 rest
  rw [if_pos (by omega), ← ranges] at written
  have wrote := AckFrame.write_eq now ok.bound announced (ok.firstAckBlockLength_eq ranges)
    (lengths top (by simp)) (by rw [missing]; exact written)
  rw [wrote, if_pos]
  simp only [blocksOf, length_nil, count]
  omega

theorem AckFrame.firstGapFits_of_write (ok : f.WellFormed) {now : Int} {bytes : List UInt8}
    (wrote : f.write version now = .ok bytes) : f.FirstGapFits := by
  intro top below rest ranges
  by_contra long
  have failed := AckFrame.write_of_not_firstGapFits ok version now ranges
    fun fits => long (fits top below rest ranges)
  rw [wrote] at failed
  cases failed

/-- An ACK frame survives the wire exactly when no packet is missing or the packets
missing in front of the second range fit into 254 blocks. -/
theorem ackFrame_roundTrips_iff (f : AckFrame) (version : VersionNumber) (now : Int)
    (ok : f.WellFormed) : f.RoundTrips version now ↔ f.FirstGapFits := by
  refine ⟨fun ⟨bytes, wrote, _⟩ => ?_, AckFrame.roundTrips_of_firstGapFits ok version now⟩
  exact AckFrame.firstGapFits_of_write ok wrote

/-- Two ranges with 600 packets missing in between, on path 3. -/
theorem ackFrame_roundTrips_longGap :
    AckFrame.RoundTrips
      { largestAcked := 1000, lowestAcked := 398, pathID := 3,
        ackRanges := [⟨1000, 1000⟩, ⟨398, 399⟩] } version39 5000 :=
  (ackFrame_roundTrips_iff _ version39 5000
    ⟨by decide, by decide, by decide, Or.inr ⟨by decide, by decide, by simp [AckRange.Under],
      rfl, rfl⟩⟩).mpr (by
    intro top below rest ranges
    simp only [List.cons.injEq] at ranges
    obtain ⟨rfl, rfl, -⟩ := ranges
    decide)

/-- Packet 1 and packet 64773 are acknowledged: the 64771 packets in between take 255
blocks, and `Write` fails. -/
theorem ackFrame_not_roundTrips_hugeGap :
    ¬AckFrame.RoundTrips
      { largestAcked := 64773, lowestAcked := 1, ackRanges := [⟨64773, 64773⟩, ⟨1, 1⟩] }
      version39 0 := by
  rintro ⟨bytes, wrote, -⟩
  have failed : AckFrame.write
      { largestAcked := 64773, lowestAcked := 1, ackRanges := [⟨64773, 64773⟩, ⟨1, 1⟩] }
      version39 0 = .error .inconsistentNumberOfAckRanges := by
    decide +kernel
  exact absurd (wrote.symm.trans failed) (by simp)

end MPQuic
