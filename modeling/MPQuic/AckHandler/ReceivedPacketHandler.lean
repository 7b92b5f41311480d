import MPQuic.Wire.Frame

/-!
# The received packet handler

`ackhandler/received_packet_history.go` and `ackhandler/received_packet_handler.go`. The
history is a list of intervals of packet numbers; the handler decides when an ACK frame is
due and builds it from the intervals.

The source walks its linked list from the back when a packet arrives and when an ACK frame
is built. `ranges` holds the intervals in that order, the highest one first.
-/

namespace MPQuic

/-- Packets with consecutive numbers. -/
structure PacketInterval where
  start : Nat
  /-- `End` in the source -/
  last : Nat
  deriving DecidableEq, Repr

/-- The errors of the handler. -/
inductive ReceiveError where
  | errInvalidPacketNumber
  | errTooManyOutstandingReceivedAckRanges
  deriving DecidableEq, Repr

/-! ## The history -/

/-- The packets that arrived, as intervals from the highest to the lowest. -/
structure ReceivedPacketHistory where
  ranges : List PacketInterval := []
  lowestInReceivedPacketNumbers : Nat := 0
  deriving DecidableEq, Repr

/-- A range that was extended is merged with the one below when they touch. -/
def mergeWithPrev (el : PacketInterval) : List PacketInterval → List PacketInterval
  | prev :: below =>
    if prev.last + 1 = el.start then { prev with last := el.last } :: below
    else el :: prev :: below
  | [] => [el]

/-- The loop of `receivedPacketHistory.ReceivedPacket`. Packet numbers stay below `2 ^ 64 - 1`, so
`p + 1` does not wrap around. For `p = 0` the source compares with `2 ^ 64 - 1`, the model with 0,
which is the end of a range only if that range holds 0, and then the first branch is taken. -/
def insertPacket (p : Nat) : List PacketInterval → List PacketInterval
  | [] => [{ start := p, last := p }]
  | el :: below =>
    if p ≥ el.start ∧ p ≤ el.last then el :: below
    else if el.last = p - 1 then mergeWithPrev { el with last := p } below
    else if el.start = p + 1 then mergeWithPrev { el with start := p } below
    else if p > el.last then { start := p, last := p } :: el :: below
    else el :: insertPacket p below

variable (h : ReceivedPacketHistory)

/-- `ReceivedPacket`: enter a packet into the intervals. -/
def ReceivedPacketHistory.receivedPacket (p : Nat) : Except ReceiveError ReceivedPacketHistory :=
  if h.ranges.length ≥ maxTrackedReceivedAckRanges then
    .error .errTooManyOutstandingReceivedAckRanges
  else .ok { h with ranges := insertPacket p h.ranges }

/-- The loop of `DeleteUpTo`, from the lowest range up. -/
def deleteFromFront (p : Nat) : List PacketInterval → List PacketInterval
  | [] => []
  | el :: above =>
    if p ≥ el.start ∧ p < el.last then { el with start := p + 1 } :: deleteFromFront p above
    else if el.last ≤ p then deleteFromFront p above
    else el :: above

/-- `DeleteUpTo`: forget the packets up to `p`. -/
def ReceivedPacketHistory.deleteUpTo (p : Nat) : ReceivedPacketHistory where
  ranges := (deleteFromFront p h.ranges.reverse).reverse
  lowestInReceivedPacketNumbers := max h.lowestInReceivedPacketNumbers (p + 1)

/-- The interval as a range of an ACK frame. -/
def PacketInterval.toAckRange (r : PacketInterval) : AckRange :=
  { first := r.start, last := r.last }

/-- `GetAckRanges`. -/
def ReceivedPacketHistory.getAckRanges : List AckRange :=
  h.ranges.map PacketInterval.toAckRange

/-- `GetHighestAckRange`; the zero range if nothing arrived. -/
def ReceivedPacketHistory.getHighestAckRange : AckRange :=
  match h.ranges with
  | r :: _ => r.toAckRange
  | [] => { first := 0, last := 0 }

/-! ## The handler -/

/-- What a receiver knows of the packets of a path. -/
structure ReceivedPacketHandler where
  largestObserved : Nat := 0
  lowerLimit : Nat := 0
  largestObservedReceivedTime : Int := 0
  packetHistory : ReceivedPacketHistory := {}
  ackSendDelay : Int := ackSendDelay
  packetsReceivedSinceLastAck : Nat := 0
  retransmittablePacketsReceivedSinceLastAck : Nat := 0
  ackQueued : Bool := false
  ackAlarm : Option Int := none
  lastAck : Option AckFrame := none
  version : VersionNumber
  packets : Nat := 0
  deriving DecidableEq, Repr

namespace ReceivedPacketHandler

variable (h : ReceivedPacketHandler)

/-- The reasons to send an ACK frame that do not depend on the delayed-ack rule. -/
def mustAck (packetNumber : Nat) : Bool :=
  match h.lastAck with
  | none => true
  | some lastAck =>
    packetNumber < lastAck.largestAcked ||
      h.packetHistory.getHighestAckRange.first > lastAck.largestAcked

/-- `maybeQueueAck`: decide whether an ACK is due now, or when. -/
def maybeQueueAck (now : Int) (packetNumber : Nat)
    (shouldInstigateAck : Bool) : ReceivedPacketHandler :=
  let received := h.packetsReceivedSinceLastAck + 1
  let retransmittable := if shouldInstigateAck then
    h.retransmittablePacketsReceivedSinceLastAck + 1
    else h.retransmittablePacketsReceivedSinceLastAck
  let everyTwenty := h.version < version39 ∧ received ≥ maxPacketsReceivedBeforeAckSend
  let queued := h.ackQueued || h.mustAck packetNumber || everyTwenty
  let queuedByCount :=
    shouldInstigateAck && retransmittable ≥ retransmittablePacketsBeforeAck
  let ackAlarm := if shouldInstigateAck && h.ackAlarm.isNone then some (now + h.ackSendDelay)
    else h.ackAlarm
  { h with
    packetsReceivedSinceLastAck := received
    retransmittablePacketsReceivedSinceLastAck := retransmittable
    ackQueued := queued || queuedByCount
    ackAlarm := if queued || queuedByCount then none else ackAlarm }

/-- The counters and the largest packet number, updated before any check on the history. -/
def countPacket (now : Int) (packetNumber : Nat) : ReceivedPacketHandler :=
  let h := { h with packets := h.packets + 1 }
  if packetNumber > h.largestObserved then
    { h with largestObserved := packetNumber, largestObservedReceivedTime := now }
  else h

/-- `ReceivedPacket`. Packets at or below the lower limit are not recorded. -/
def receivedPacket (now : Int) (packetNumber : Nat)
    (shouldInstigateAck : Bool) : ReceivedPacketHandler × Option ReceiveError :=
  if packetNumber = 0 then (h, some .errInvalidPacketNumber)
  else
    let h := h.countPacket now packetNumber
    if packetNumber ≤ h.lowerLimit then (h, none)
    else
      match h.packetHistory.receivedPacket packetNumber with
      | .error err => (h, some err)
      | .ok packetHistory =>
        let h := { h with packetHistory }
        (h.maybeQueueAck now packetNumber shouldInstigateAck, none)

/-- `SetLowerLimit`: packets up to `p` are not acked any more. -/
def setLowerLimit (p : Nat) : ReceivedPacketHandler :=
  { h with lowerLimit := p, packetHistory := h.packetHistory.deleteUpTo p }

/-- The packets an ACK or a CLOSE_PATH frame reports. The index of the lowest range is out
of bounds when there is none. -/
def ackContent : Except RuntimePanic AckContent :=
  let ackRanges := h.packetHistory.getAckRanges
  match ackRanges.getLast? with
  | none => .error .indexOutOfRange
  | some lowest => .ok
    { largestAcked := h.largestObserved
      lowestAcked := lowest.first
      ackRanges := if ackRanges.length > 1 then ackRanges else [] }

/-- No ACK frame is queued and the alarm is not set or not due. -/
def ackNotDue (now : Int) : Bool :=
  !h.ackQueued && match h.ackAlarm with
    | none => true
    | some ackAlarm => ackAlarm > now

/-- `GetAckFrame`: an ACK frame, if one is due. -/
def getAckFrame (now : Int) : Except RuntimePanic (ReceivedPacketHandler × Option AckFrame) :=
  if h.ackNotDue now then .ok (h, none)
  else
    match h.ackContent with
    | .error panic => .error panic
    | .ok content =>
      let ack : AckFrame :=
        { content with packetReceivedTime := h.largestObservedReceivedTime }
      .ok ({ h with
        lastAck := some ack
        ackAlarm := none
        ackQueued := false
        packetsReceivedSinceLastAck := 0
        retransmittablePacketsReceivedSinceLastAck := 0 }, some ack)

/-- `GetClosePathFrame`: the same acknowledgement for the end of a path. -/
def getClosePathFrame : Except RuntimePanic ClosePathFrame :=
  h.ackContent.map fun content => { content with pathID := 0 }

end ReceivedPacketHandler

end MPQuic
