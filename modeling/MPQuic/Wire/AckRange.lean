import MPQuic.Utils.ByteOrder

/-!
# Acknowledged ranges on the wire

ACK and CLOSE_PATH frames (`internal/wire/ack_frame.go`,
`internal/wire/close_path_frame.go`) carry the same content, the packet numbers
between a lowest and a largest one, cut into ranges when some are missing, and they
encode it with the same code. That code is modelled here once; the two frame modules
apply it.

A range after the first one is written as a gap and a length. Gaps are one byte, so a
gap of more than 255 packets becomes a run of blocks of length zero. At most 255 blocks
are written, the first range included.
-/

namespace MPQuic

open ByteCodec

@[ext] structure AckRange where
  first : Nat
  last : Nat
  deriving DecidableEq, Repr

/-- What a frame acknowledges. The highest range goes first. -/
structure AckContent where
  largestAcked : Nat
  lowestAcked : Nat
  ackRanges : List AckRange := []
  deriving DecidableEq, Repr

variable (c : AckContent)

def AckContent.hasMissingRanges : Bool := 0 < c.ackRanges.length

def AckRange.contains (r : AckRange) (p : Nat) : Bool := p ≥ r.first && p ≤ r.last

def AckContent.acksPacket (p : Nat) : Bool :=
  if p < c.lowestAcked || p > c.largestAcked then false
  else if c.hasMissingRanges then c.ackRanges.any (AckRange.contains · p)
  else p ≥ c.lowestAcked && p ≤ c.largestAcked

/-- Consecutive ranges must descend and leave at least one packet between them. -/
def rangesDescend : List AckRange → Bool
  | lastAckRange :: ackRange :: rest =>
    if lastAckRange.first ≤ ackRange.first then false
    else if lastAckRange.first ≤ addUint64 ackRange.last 1 then false
    else rangesDescend (ackRange :: rest)
  | _ => true

def AckContent.validateAckRanges : Bool :=
  match c.ackRanges with
  | [] => true
  | [_] => false
  | top :: _ =>
    if top.last ≠ c.largestAcked then false
    else if c.ackRanges.any fun ackRange => ackRange.first > ackRange.last then false
    else rangesDescend c.ackRanges

/-! ## Lengths -/

/-- The four lengths of a packet number on the wire. -/
def packetNumberLens : List Nat := [1, 2, 4, 6]

def getPacketNumberLength (packetNumber : Nat) : Nat :=
  if packetNumber < 2 ^ 8 then 1
  else if packetNumber < 2 ^ 16 then 2
  else if packetNumber < 2 ^ 32 then 4
  else 6

def AckRange.length (r : AckRange) : Nat := addUint64 (subUint64 r.last r.first) 1

/-- The length of the longest range, or of the whole interval when none is missing. -/
def AckContent.maxRangeLength : Nat :=
  if c.hasMissingRanges then
    c.ackRanges.foldl (fun maxRangeLength ackRange =>
      if ackRange.length > maxRangeLength then ackRange.length else maxRangeLength) 0
  else addUint64 (subUint64 c.largestAcked c.lowestAcked) 1

def AckContent.getMissingSequenceNumberDeltaLen : Nat :=
  if c.maxRangeLength ≤ 0xFF then 1
  else if c.maxRangeLength ≤ 0xFFFF then 2
  else if c.maxRangeLength ≤ 0xFFFFFFFF then 4
  else 6

/-- The packets missing between two consecutive ranges. -/
def rangeGap (lastAckRange ackRange : AckRange) : Nat :=
  subUint64 (subUint64 lastAckRange.first ackRange.last) 1

/-- The number of blocks a gap takes. -/
def gapBlocks (gap : Nat) : Nat :=
  let num := gap / 0xFF + 1
  if gap % 0xFF = 0 then num - 1 else num

/-- The counting loop of `numWritableNackRanges`. -/
def countWritable : List AckRange → Nat → Nat
  | lastAckRange :: ackRange :: rest, numRanges =>
    let rangeLength := gapBlocks (rangeGap lastAckRange ackRange)
    if numRanges + rangeLength < 0xFF then
      countWritable (ackRange :: rest) (numRanges + rangeLength)
    else numRanges
  | _, numRanges => numRanges

def AckContent.numWritableNackRanges : Nat :=
  if c.ackRanges.length = 0 then 0 else countWritable c.ackRanges 0 + 1

/-! ## Writing -/

/-- Write a number in one of the four lengths. ACK frames mask the value to 48 bits
before the widest writer, CLOSE_PATH frames do not. -/
def ByteOrder.writePacketNumber (order : ByteOrder) (masked : Bool) (len v : Nat) :
    Except WireError (List UInt8) :=
  match len with
  | 1 => .ok [UInt8.ofNat v]
  | 2 => .ok (order.writeUint16 (v % 2 ^ 16))
  | 4 => .ok (order.writeUint32 (v % 2 ^ 32))
  | 6 => order.writeUint48 (if masked then v % 2 ^ 48 else v)
  | _ => .ok []

/-- The blocks of one range: the last one carries the length of the range. -/
def rangeBlocks (gap length : Nat) : List (Nat × Nat) :=
  let num := gapBlocks gap
  if num = 1 then [(gap, length)]
  else (List.range num).map fun i =>
    if i = num - 1 then (1 + subUint64 gap 1 % 255, length) else (0xFF, 0)

def ByteOrder.writeBlocks (order : ByteOrder) (masked : Bool) (len : Nat) :
    List (Nat × Nat) → Except WireError (List UInt8)
  | [] => .ok []
  | (gapWritten, lengthWritten) :: rest => do
    let bytes ← order.writePacketNumber masked len lengthWritten
    let more ← order.writeBlocks masked len rest
    return UInt8.ofNat gapWritten :: (bytes ++ more)

/-- The loop over the ranges after the first one: the bytes, and the number of blocks
written so far. It stops once the announced number is reached. -/
def ByteOrder.writeRanges (order : ByteOrder) (masked : Bool) (len numRanges : Nat) :
    List AckRange → Nat → Except WireError (List UInt8 × Nat)
  | lastAckRange :: ackRange :: rest, numRangesWritten => do
    let blocks := rangeBlocks (rangeGap lastAckRange ackRange) ackRange.length
    let bytes ← order.writeBlocks masked len blocks
    let numRangesWritten := numRangesWritten + blocks.length
    if numRangesWritten ≥ numRanges then
      return (bytes, numRangesWritten)
    else
      let more ← order.writeRanges masked len numRanges (ackRange :: rest) numRangesWritten
      return (bytes ++ more.1, more.2)
  | _, numRangesWritten => return ([], numRangesWritten)

/-- The length of the first block, or the error of an inconsistent frame. -/
def AckContent.firstAckBlockLength : Except WireError Nat :=
  match c.ackRanges with
  | [] => .ok (addUint64 (subUint64 c.largestAcked c.lowestAcked) 1)
  | top :: rest =>
    if c.largestAcked ≠ top.last then .error .errInconsistentAckLargestAcked
    else if c.lowestAcked ≠ ((top :: rest).getLast (List.cons_ne_nil _ _)).first then
      .error .errInconsistentAckLowestAcked
    else .ok (addUint64 (subUint64 c.largestAcked top.first) 1)

/-- The number of blocks announced, with the panic when it does not fit a byte. -/
def AckContent.announcedRanges (reason : String) : Except WireError Nat :=
  let numRanges := if c.hasMissingRanges then c.numWritableNackRanges else 0
  if numRanges > 0xFF then .error (.panic reason) else .ok numRanges

/-! ## Parsing -/

/-- The state of the block loop: the ranges already left behind, the range at the end of
the list, and the two flags. -/
structure BlockState where
  above : List AckRange
  current : AckRange
  inLongBlock : Bool := false
  lastRangeComplete : Bool := false
  deriving DecidableEq, Repr

def BlockState.block (s : BlockState) (gap length : Nat) : BlockState :=
  if s.inLongBlock then
    { s with
      current :=
        { first := subUint64 s.current.first (addUint64 gap length)
          last := subUint64 s.current.last gap }
      lastRangeComplete := if length > 0 then true else s.lastRangeComplete
      inLongBlock := length == 0 }
  else
    let last := subUint64 (subUint64 s.current.first gap) 1
    { above := s.above ++ [s.current]
      current := { first := addUint64 (subUint64 last length) 1, last := last }
      lastRangeComplete := length > 0
      inLongBlock := length == 0 }

def ByteOrder.parseBlocks (order : ByteOrder) (len : Nat) :
    Nat → BlockState → Reader WireError BlockState
  | 0, s => pure s
  | numAckBlocks + 1, s => do
    let gap ← readUint8
    let ackBlockLength ← order.readUintN len
    order.parseBlocks len numAckBlocks (s.block gap.toNat ackBlockLength)

/-- The ranges after the loop; an incomplete last range is removed. -/
def BlockState.ranges (s : BlockState) : List AckRange :=
  if s.lastRangeComplete then s.above ++ [s.current] else s.above

/-- The part of the two parsers from the first block on. -/
def ByteOrder.parseAckContent (order : ByteOrder) (hasMissingRanges : Bool)
    (numAckBlocks len largestAcked : Nat) : Reader WireError AckContent := do
  let ackBlockLength ← order.readUintN len
  failIf (largestAcked > 0 && ackBlockLength < 1) .errInvalidFirstAckRange
  failIf (ackBlockLength > largestAcked) .errInvalidAckRanges
  let top : AckRange :=
    { first := addUint64 (subUint64 largestAcked ackBlockLength) 1, last := largestAcked }
  let final ← readIf hasMissingRanges
    (order.parseBlocks len numAckBlocks { above := [], current := top })
    { above := [], current := top }
  let ranges := if hasMissingRanges then final.ranges else []
  -- the source reads the last range without a check
  failIf (hasMissingRanges && ranges.isEmpty) (.panic "index out of range")
  let lowestAcked :=
    if hasMissingRanges then (ranges.getLast?.map AckRange.first).getD 0
    else if largestAcked = 0 then 0 else subUint64 (addUint64 largestAcked 1) ackBlockLength
  let content : AckContent := { largestAcked, lowestAcked, ackRanges := ranges }
  failIf (!content.validateAckRanges) .errInvalidAckRanges
  return content

end MPQuic
