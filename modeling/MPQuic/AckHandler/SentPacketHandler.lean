import MPQuic.AckHandler.Packet
import MPQuic.Lib.KeyedList

/-!
# The sent packet handler

`ackhandler/sent_packet_handler.go`. The handler keeps the packets in flight, moves them
to the retransmission queue when they are lost, and drops them when they are acked.

Times are nanoseconds on one clock, with `none` for the zero time. What a call reads
from its surroundings (the clock, the RTT statistics, the congestion controller, the
outcome of the RTO callback) is in `AckEnv`; what it tells the congestion controller and
the RTT estimator is appended to `notified`, in the order of the calls.

The linked list of packets is a list. An element of it is named by its packet number,
which is unique: packet numbers strictly increase (`Ledger`).
-/

namespace MPQuic

/-- The errors of the handler. -/
inductive AckError where
  | errDuplicateOrOutOfOrderAck
  | errTooManyTrackedSentPackets
  | errAckForSkippedPacket
  | errAckForUnsentPacket
  | errPacketNumberNotIncreasing
  /-- "BUG: ackhandler would have acked wrong packet", with the packet and the range -/
  | bugWrongPacket (packetNumber first last : Nat)
  deriving DecidableEq, Repr

/-- What a call of the handler reads from its surroundings. -/
structure AckEnv where
  now : Int
  /-- `rttStats.LatestRTT()` -/
  latestRTT : Int
  /-- `rttStats.SmoothedRTT()` -/
  smoothedRTT : Int
  /-- `congestion.SmoothedRTT()` -/
  congestionSmoothedRTT : Int
  /-- `congestion.RetransmissionDelay()` -/
  retransmissionDelay : Int
  /-- `time.Duration((1.0 + timeReorderingFraction) * maxRTT)`, in floating point -/
  delayUntilLost : (maxRTT : Int) → Int
  /-- `onRTOCallback`, when one is set -/
  onRTOCallback : Option ((lastSentTime : Int) → Bool)
  deriving Inhabited

/-- The calls to the congestion controller and to the RTT estimator. -/
inductive Notification where
  | onPacketSent (sentTime : Int) (bytesInFlight packetNumber bytes : Nat)
      (isRetransmittable : Bool)
  | maybeExitSlowStart
  | onPacketAcked (number ackedBytes bytesInFlight : Nat)
  | onPacketLost (number lostBytes bytesInFlight : Nat)
  | onRetransmissionTimeout (packetsRetransmitted : Bool)
  | updateRTT (sendDelta ackDelay : Int)
  deriving DecidableEq, Repr

/-- What a sender knows of the packets of a path. -/
structure SentPacketHandler where
  lastSentPacketNumber : Nat := 0
  skippedPackets : List Nat := []
  numNonRetransmittablePackets : Nat := 0
  largestAcked : Nat := 0
  largestReceivedPacketWithAck : Nat := 0
  packetHistory : List Packet := []
  stopWaitingManager : StopWaitingManager := {}
  retransmissionQueue : List Packet := []
  bytesInFlight : Nat := 0
  rtoCount : Nat := 0
  tlpCount : Nat := 0
  lossTime : Option Int := none
  lastSentTime : Int := 0
  alarm : Option Int := none
  packets : Nat := 0
  retransmissions : Nat := 0
  losses : Nat := 0
  notified : List Notification := []
  deriving DecidableEq, Repr

/-- Durations are counted in nanoseconds. -/
def millisecond : Int := 1000000

def defaultRTOTimeout : Int := 500 * millisecond

def minRTOTimeout : Int := 200 * millisecond

def maxRTOTimeout : Int := 60000 * millisecond

def maxTailLossProbes : Nat := 2

def minRetransmissionTime : Int := 200 * millisecond

def minTailLossProbeTimeout : Int := 10 * millisecond

namespace SentPacketHandler

variable (h : SentPacketHandler)

/-- A call of the congestion controller. -/
def notify (n : Notification) : SentPacketHandler :=
  { h with notified := h.notified ++ [n] }

/-- `PacketList.Remove` of the element with the number of `p`. -/
def removeFromHistory (history : List Packet) (p : Packet) : List Packet :=
  KeyedList.remove Packet.packetNumber history p

/-- `largestInOrderAcked`: all packets up to this one are settled. -/
def largestInOrderAcked : Nat :=
  match h.packetHistory with
  | front :: _ => front.packetNumber - 1
  | [] => h.largestAcked

/-- `GetLeastUnacked`. -/
def getLeastUnacked : Nat := h.largestInOrderAcked + 1

/-! ## The loss detection alarm -/

/-- Whether a packet in flight is retransmittable. -/
def hasOutstandingRetransmittablePacket : Bool :=
  h.packetHistory.any Packet.isRetransmittable

def hasMultipleOutstandingRetransmittablePackets : Bool :=
  1 < h.packetHistory.length

variable (env : AckEnv)

/-- `computeRTOTimeout`. The shift comes before the maximum is taken, and may overflow. -/
def computeRTOTimeout : Int :=
  let rto := env.retransmissionDelay
  let rto := if rto = 0 then defaultRTOTimeout else rto
  let rto := max rto minRTOTimeout
  let rto := wrapInt64 (rto * 2 ^ h.rtoCount)
  min rto maxRTOTimeout

/-- `computeTLPTimeout`: the timeout of a tail loss probe. -/
def computeTLPTimeout : Int :=
  let rtt := env.congestionSmoothedRTT
  if h.hasMultipleOutstandingRetransmittablePackets then
    max (2 * rtt) ((rtt * 3).tdiv 2 + minRetransmissionTime / 2)
  else max (2 * rtt) minTailLossProbeTimeout

/-- `updateLossDetectionAlarm`; `none` is the zero time. -/
def updateLossDetectionAlarm : SentPacketHandler :=
  if h.packetHistory.length = 0 then { h with alarm := none }
  else
    match h.lossTime with
    | some lossTime => { h with alarm := some lossTime }
    | none =>
      if env.smoothedRTT ≠ 0 ∧ h.tlpCount < maxTailLossProbes then
        { h with alarm := some (h.lastSentTime + h.computeTLPTimeout env) }
      else
        { h with
          alarm := some (h.lastSentTime + max (h.computeRTOTimeout env) minRetransmissionTime) }

/-! ## Moving packets -/

/-- `onPacketAcked`: the packet leaves the history. -/
def onPacketAcked (p : Packet) : SentPacketHandler :=
  { h with
    bytesInFlight := subUint64 h.bytesInFlight p.length
    rtoCount := 0
    tlpCount := 0
    packetHistory := removeFromHistory h.packetHistory p }

/-- The packet moves from the history into the retransmission queue. -/
def queuePacketForRetransmission (p : Packet) : SentPacketHandler :=
  { h with
    bytesInFlight := subUint64 h.bytesInFlight p.length
    retransmissionQueue := h.retransmissionQueue ++ [p]
    packetHistory := removeFromHistory h.packetHistory p
    stopWaitingManager :=
      h.stopWaitingManager.queuedRetransmissionForPacketNumber p.packetNumber }

/-- The body of the loops over acked packets. -/
def ackPacket (p : Packet) : SentPacketHandler :=
  let h := h.onPacketAcked p
  h.notify (.onPacketAcked p.packetNumber p.length h.bytesInFlight)

/-- The body of the loops over lost packets. -/
def losePacket (p : Packet) : SentPacketHandler :=
  let h := h.queuePacketForRetransmission p
  h.notify (.onPacketLost p.packetNumber p.length h.bytesInFlight)

/-- `queueRTO`: the packet is queued and reported as lost. -/
def queueRTO (p : Packet) : SentPacketHandler :=
  let h := h.queuePacketForRetransmission p
  let h := { h with losses := h.losses + 1 }
  h.notify (.onPacketLost p.packetNumber p.length h.bytesInFlight)

/-- `DuplicatePacket`: the packet is queued and stays in flight. -/
def duplicatePacket (p : Packet) : SentPacketHandler :=
  { h with retransmissionQueue := h.retransmissionQueue ++ [p] }

/-- `DequeuePacketForRetransmission`; `none` is nil. -/
def dequeuePacketForRetransmission :
    SentPacketHandler × Option Packet :=
  match h.retransmissionQueue with
  | [] => (h, none)
  | packet :: rest =>
    ({ h with retransmissionQueue := rest, retransmissions := h.retransmissions + 1 },
      some packet)

/-! ## Sending -/

/-- The skipped packet numbers are kept, the newest ones when there are too many. -/
def trackSkipped (skipped : List Nat) (p : Nat) : List Nat :=
  let skipped := skipped ++ [p]
  if skipped.length > maxTrackedSkippedPackets then skipped.drop 1 else skipped

/-- The part of `SentPacket` after its two checks. -/
def recordSent (packet : Packet) : SentPacketHandler :=
  let skipped := (List.range' (h.lastSentPacketNumber + 1)
    (packet.packetNumber - (h.lastSentPacketNumber + 1))).foldl trackSkipped h.skippedPackets
  let frames := stripNonRetransmittableFrames packet.frames
  let h := { h with
    skippedPackets := skipped
    lastSentPacketNumber := packet.packetNumber
    packets := h.packets + 1
    lastSentTime := env.now }
  if frames.length ≠ 0 then
    let h := { h with
      bytesInFlight := addUint64 h.bytesInFlight packet.length
      packetHistory := h.packetHistory ++ [{ packet with frames, sendTime := env.now }]
      numNonRetransmittablePackets := 0 }
    h.notify (.onPacketSent env.now h.bytesInFlight packet.packetNumber packet.length true)
  else
    let h := { h with numNonRetransmittablePackets := h.numNonRetransmittablePackets + 1 }
    h.notify (.onPacketSent env.now h.bytesInFlight packet.packetNumber packet.length false)

/-- `SentPacket`: record a packet, unless its number is old or too many are tracked. -/
def sentPacket (packet : Packet) : SentPacketHandler × Option AckError :=
  if packet.packetNumber ≤ h.lastSentPacketNumber then
    (h, some .errPacketNumberNotIncreasing)
  else if h.retransmissionQueue.length + h.packetHistory.length + 1 > maxTrackedSentPackets then
    (h, some .errTooManyTrackedSentPackets)
  else ((h.recordSent env packet).updateLossDetectionAlarm env, none)

/-! ## Losses -/

/-- `detectLostPackets`: packets up to the largest acked one that are overdue are lost. -/
def detectLostPackets : SentPacketHandler :=
  let delayUntilLost := env.delayUntilLost (max env.latestRTT env.smoothedRTT)
  let isLost := fun packet : Packet => decide (env.now - packet.sendTime > delayUntilLost)
  let candidates := h.packetHistory.takeWhile fun packet => packet.packetNumber ≤ h.largestAcked
  let lostPackets := candidates.filter isLost
  let lossTime := (candidates.find? fun packet => !isLost packet).map fun packet =>
    env.now + (delayUntilLost - (env.now - packet.sendTime))
  lostPackets.foldl losePacket
    { h with lossTime, losses := h.losses + lostPackets.length }

/-- `SetInflightAsLost`. The loop ends behind the largest acked packet. -/
def setInflightAsLost : SentPacketHandler :=
  let lostPackets := h.packetHistory.takeWhile fun packet => packet.packetNumber ≤ h.largestAcked
  lostPackets.foldl losePacket { h with losses := h.losses + lostPackets.length }

/-- `retransmitTLP`: the last packet is sent again as a probe. -/
def retransmitTLP : SentPacketHandler :=
  match h.packetHistory.getLast? with
  | some p => h.queuePacketForRetransmission p
  | none => h

/-- The oldest packet is sent again after a timeout. -/
def retransmitOldestPacket : SentPacketHandler :=
  match h.packetHistory with
  | p :: _ => h.queueRTO p
  | [] => h

/-- `retransmitOldestTwoPackets`, after a retransmission timeout. -/
def retransmitOldestTwoPackets : SentPacketHandler :=
  h.retransmitOldestPacket.retransmitOldestPacket.notify (.onRetransmissionTimeout true)

/-- One round of the loop of `retransmitAllPackets` for every packet in the history. -/
def retransmitAllPackets : SentPacketHandler :=
  (h.packetHistory.length.repeat retransmitOldestPacket h).notify (.onRetransmissionTimeout true)

/-- The answer of the callback, asked when one is set. -/
def potentiallyFailed : Bool :=
  match env.onRTOCallback with
  | some callback => callback h.lastSentTime
  | none => false

/-- The branch of `OnAlarm` for a retransmission timeout. -/
def onRTO : SentPacketHandler :=
  let h := if h.potentiallyFailed env then h.retransmitAllPackets
    else h.retransmitOldestTwoPackets
  { h with rtoCount := h.rtoCount + 1 }

/-- `OnAlarm`: the loss timer, a tail loss probe or a retransmission timeout. -/
def onAlarm : SentPacketHandler :=
  if !h.hasOutstandingRetransmittablePacket then { h with alarm := none }
  else
    let h :=
      if h.lossTime.isSome then h.detectLostPackets env
      else if h.tlpCount < maxTailLossProbes then
        let h := h.retransmitTLP
        { h with tlpCount := h.tlpCount + 1 }
      else h.onRTO env
    h.updateLossDetectionAlarm env

/-! ## Acknowledgements -/

/-- The inner loop of the range walk: go up while the packet lies above the range and
there is a next one. -/
def advanceRange (packetNumber : Nat) (ackRange : AckRange) :
    List AckRange → AckRange × List AckRange
  | next :: above =>
    if packetNumber > ackRange.last then advanceRange packetNumber next above
    else (ackRange, next :: above)
  | [] => (ackRange, [])

/-- The loop over the history. `position` holds the ranges from the current one up, and
is empty when no packets are missing. -/
def walkHistory (c : AckContent) (position : List AckRange) :
    List Packet → Except AckError (List Packet)
  | [] => .ok []
  | packet :: rest =>
    if packet.packetNumber < c.lowestAcked then walkHistory c position rest
    else if packet.packetNumber > c.largestAcked then .ok []
    else
      match position with
      | [] => (walkHistory c [] rest).map (packet :: ·)
      | ackRange :: above =>
        let next := advanceRange packet.packetNumber ackRange above
        if packet.packetNumber ≥ next.1.first then
          if packet.packetNumber > next.1.last then
            .error (.bugWrongPacket packet.packetNumber next.1.first next.1.last)
          else (walkHistory c (next.1 :: next.2) rest).map (packet :: ·)
        else walkHistory c (next.1 :: next.2) rest

/-- The packets of the history that a frame acks. The source has the function twice, for ACK and
for CLOSE_PATH frames. -/
def determineNewlyAckedPackets (c : AckContent) :
    Except AckError (List Packet) :=
  walkHistory c c.ackRanges.reverse h.packetHistory

def determineNewlyAckedPacketsClosePath (f : ClosePathFrame) :
    Except AckError (List Packet) :=
  h.determineNewlyAckedPackets f.toAckContent

/-- `skippedPacketsAcked` and `skippedPacketsAckedClosePath` -/
def skippedPacketsAcked (c : AckContent) : Bool :=
  h.skippedPackets.any c.acksPacket

/-- Forget the skipped packets up to the largest one acked in order. -/
def garbageCollectSkippedPackets : SentPacketHandler :=
  let lioa := h.largestInOrderAcked
  let deleteIndex := h.skippedPackets.zipIdx.foldl
    (fun deleteIndex entry => if entry.1 ≤ lioa then entry.2 + 1 else deleteIndex) 0
  { h with skippedPackets := h.skippedPackets.drop deleteIndex }

/-- Look for the largest acked packet, among packets sorted by number. -/
def maybeUpdateRTT (largestAcked : Nat) (ackDelay rcvTime : Int) :
    SentPacketHandler × Bool :=
  match (h.packetHistory.takeWhile fun packet => packet.packetNumber ≤ largestAcked).find?
      fun packet => packet.packetNumber == largestAcked with
  | some packet => (h.notify (.updateRTT (rcvTime - packet.sendTime) ackDelay), true)
  | none => (h, false)

/-- The RTT estimator and slow start learn of a new largest acked packet. -/
def updateRTT (ackFrame : AckFrame) (rcvTime : Int) :
    SentPacketHandler :=
  let updated := h.maybeUpdateRTT ackFrame.largestAcked ackFrame.delayTime rcvTime
  if updated.2 then updated.1.notify .maybeExitSlowStart else updated.1

/-- The rest of `ReceivedAck`, once the newly acked packets are known. -/
def finishAck (ackFrame : AckFrame) (ackedPackets : List Packet) : SentPacketHandler :=
  let h := ackedPackets.foldl ackPacket h
  let h := h.detectLostPackets env
  let h := h.updateLossDetectionAlarm env
  let h := h.garbageCollectSkippedPackets
  { h with stopWaitingManager := h.stopWaitingManager.receivedAck ackFrame }

/-- `ReceivedAck`. -/
def receivedAck (ackFrame : AckFrame)
    (withPacketNumber : Nat) (rcvTime : Int) : SentPacketHandler × Option AckError :=
  if ackFrame.largestAcked > h.lastSentPacketNumber then (h, some .errAckForUnsentPacket)
  else if withPacketNumber ≤ h.largestReceivedPacketWithAck then
    (h, some .errDuplicateOrOutOfOrderAck)
  else
    let h := { h with largestReceivedPacketWithAck := withPacketNumber }
    if ackFrame.largestAcked ≤ h.largestInOrderAcked then (h, none)
    else
      let h := { h with largestAcked := ackFrame.largestAcked }
      if h.skippedPacketsAcked ackFrame.toAckContent then (h, some .errAckForSkippedPacket)
      else
        let h := h.updateRTT ackFrame rcvTime
        match h.determineNewlyAckedPackets ackFrame.toAckContent with
        | .error err => (h, some err)
        | .ok ackedPackets => (h.finishAck env ackFrame ackedPackets, none)

/-- `ReceivedClosePath`: the packets that the frame does not ack are to count as lost. -/
def receivedClosePath (f : ClosePathFrame) (withPacketNumber : Nat) :
    SentPacketHandler × Option AckError :=
  if f.largestAcked > h.lastSentPacketNumber then (h, some .errAckForUnsentPacket)
  else if withPacketNumber ≤ h.largestReceivedPacketWithAck then
    (h, some .errDuplicateOrOutOfOrderAck)
  else
    let h := { h with largestReceivedPacketWithAck := withPacketNumber }
    if h.skippedPacketsAcked f.toAckContent then (h, some .errAckForSkippedPacket)
    else
      match h.determineNewlyAckedPackets f.toAckContent with
      | .error err => (h, some err)
      | .ok ackedPackets =>
        let h := ackedPackets.foldl ackPacket h
        let h := h.setInflightAsLost
        (h.garbageCollectSkippedPackets, none)

/-- `GetStopWaitingFrame`. -/
def getStopWaitingFrame (force : Bool) :
    SentPacketHandler × Option StopWaitingFrame :=
  let (manager, swf) := h.stopWaitingManager.getStopWaitingFrame force
  ({ h with stopWaitingManager := manager }, swf)

def maxNonRetransmittablePackets : Nat := 19

/-- Whether a PING has to be added, to provoke an ACK. -/
def shouldSendRetransmittablePacket : Bool :=
  h.numNonRetransmittablePackets ≥ maxNonRetransmittablePackets

/-- `SendingAllowed`: retransmissions may exceed the congestion window. -/
def sendingAllowed (congestionWindow : Nat) : Bool :=
  let congestionLimited := decide (h.bytesInFlight > congestionWindow)
  let maxTrackedLimited :=
    decide (h.retransmissionQueue.length + h.packetHistory.length ≥ maxTrackedSentPackets)
  let haveRetransmissions := decide (h.retransmissionQueue.length > 0)
  !maxTrackedLimited && (!congestionLimited || haveRetransmissions)

end SentPacketHandler

end MPQuic
