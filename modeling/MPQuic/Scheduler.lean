import MPQuic.Lib.Loop
import MPQuic.Lib.Selection
import MPQuic.Session

/-!
# The scheduler

`scheduler.go`: which packet is sent next, and on which path. `sendPacket` works in rounds. A
round first takes the packets that were declared lost from the paths and puts their frames back
into the queues (`getRetransmission`), then selects a path (`selectPathLowLatency`, and
`selectPathUnreliable` when that finds none), and sends one packet on it.

The order in which a loop visits the paths, the clock and the outcome of writing to a socket are
arguments, one set for each round. The outcome of a round says whether there is another one; no
number of rounds is fixed in advance.
-/

namespace MPQuic

/-! ## Retransmissions -/

/-- What one iteration of the loop of `getRetransmission` reads from its surroundings. -/
structure RetransmissionEnv where
  /-- the order in which the paths are asked for a packet -/
  order : List PathID := []
  /-- for a PATHS frame -/
  now : Int := 0
  pathsOrder : List PathID := []

/-- What `getRetransmission` leaves and returns. `fromPth` is the path of the packet that was
dequeued last; there is one exactly if the source's `hasRetransmission` is set. All packets that
were dequeued are in `dequeued`, which the source does not keep. -/
structure Retransmission where
  session : Session
  /-- the packet of the handshake that is sent again as it is -/
  retransmitPacket : Option Packet := none
  fromPth : Option Path := none
  dequeued : List Packet := []

variable (r : Retransmission)

def Retransmission.hasRetransmission : Bool := r.fromPth.isSome

/-- The frames that wait to be sent again, before and after this call. -/
def Retransmission.hasStreamRetransmission : Bool :=
  r.session.streamFramer.hasFramesForRetransmission

namespace Session

variable (s : Session)

/-- Take the head of a path's retransmission queue. -/
def dequeueFrom (pth : Path) : Option (Session × Path × Packet) :=
  match pth.sentPacketHandler.dequeuePacketForRetransmission with
  | (_, none) => none
  | (sentPacketHandler, some packet) =>
    let pth := { pth with sentPacketHandler }
    some (s.setPath pth, pth, packet)

/-- The loop over the paths, which ends with the first packet. -/
def dequeue (order : List PathID) : Option (Session × Path × Packet) :=
  (s.paths.visited order).findSome? s.dequeueFrom

/-- The frame does not belong to a stream that is marked as unreliable. -/
def isReliable (f : StreamFrame) : Bool :=
  match s.streamsMap.getStreasmType f.streamID with
  | .ok true => false
  | _ => true

/-- Put a frame of a lost packet back into a queue. Data of unreliable streams is dropped, and so
is a WINDOW_UPDATE that was overtaken by a later one. -/
def requeueFrame (env : RetransmissionEnv) (pathID : PathID) (s : Session) (frame : Frame) :
    Session :=
  match frame with
  | .stream f =>
    if s.isReliable f then
      { s with streamFramer := s.streamFramer.addFrameForRetransmission f }
    else s
  | .windowUpdate f =>
    match s.flowControlManager.getReceiveWindow f.streamID with
    | some currentOffset =>
      if f.byteOffset ≥ currentOffset then s.queueControlFrame (.windowUpdate f) pathID else s
    | none => s
  | .paths _ => s.schedulePathsFrame env.now env.pathsOrder
  | frame => s.queueControlFrame frame pathID

/-- The frames of a lost packet are queued again. -/
def requeueFrames (env : RetransmissionEnv) (pathID : PathID) (packet : Packet) : Session :=
  packet.getFramesForRetransmission.foldl (requeueFrame env pathID) s

/-- The packets that wait on all paths. -/
def lostPackets : Nat :=
  MapSum.total (fun pth : Path => pth.sentPacketHandler.retransmissionQueue.length)
    s.paths.entries

end Session

/-- Packets below forward-secure are sent again as a whole during the handshake, and not at all
after it. The surroundings are numbered by the packets that were dequeued before. -/
def retransmissionLoop (env : Nat → RetransmissionEnv) : Nat → Retransmission → Retransmission
  | 0, r => r
  | fuel + 1, r =>
    match r.session.dequeue (env r.dequeued.length).order with
    | none => r
    | some (s, pth, packet) =>
      let dequeued := r.dequeued ++ [packet]
      if packet.encryptionLevel ≠ .forwardSecure then
        if s.handshakeComplete then
          retransmissionLoop env fuel { session := s, fromPth := some pth, dequeued }
        else
          { session := s, retransmitPacket := some packet, fromPth := some pth, dequeued }
      else
        retransmissionLoop env fuel
          { session := s.requeueFrames (env r.dequeued.length) pth.pathID packet
            fromPth := some pth
            dequeued }

namespace Session

variable (s : Session)

/-- Each iteration but the last one dequeues a packet. -/
def getRetransmission (env : Nat → RetransmissionEnv) : Retransmission :=
  retransmissionLoop env (s.lostPackets + 1) { session := s }

/-! ## Selecting a path -/

/-- The rule of all selections when there is at most one path. -/
def selectInitialPath (hasRetransmission : Bool) : Except Abort (Option Path) :=
  match s.paths.lookup initialPathID with
  | none => if hasRetransmission then .ok none else .error .nilPath
  | some pth =>
    if !hasRetransmission && !pth.sendingAllowed then .ok none else .ok (some pth)

/-- Another path than `fromPth` that has sent fewer packets. -/
def selectLessUsed (fromPth : Path) (order : List PathID) : Option Path :=
  (s.paths.visited order).find? fun pth =>
    pth.pathID ≠ initialPathID ∧ pth.pathID ≠ fromPth.pathID ∧
      s.scheduler.quotas pth.pathID < s.scheduler.quotas fromPth.pathID

/-- The body of the loop of `selectPathLowLatency`. The variable `lowerRTT` of the source is the
RTT of the path that is selected so far. -/
def considerLowLatency (hasRetransmission : Bool) (selectedPath : Option Path)
    (pth : Path) : Option Path :=
  let lowerRTT := (selectedPath.map Path.smoothedRTT).getD 0
  let currentRTT := pth.smoothedRTT
  if !hasRetransmission && !pth.sendingAllowed then selectedPath
  else if pth.potentiallyFailed then selectedPath
  else if pth.pathID = initialPathID then selectedPath
  else if lowerRTT ≠ 0 ∧ currentRTT = 0 then selectedPath
  else if currentRTT = 0 ∧ selectedPath.any (fun selected =>
      s.scheduler.quotas pth.pathID > s.scheduler.quotas selected.pathID) then selectedPath
  else if currentRTT ≠ 0 ∧ lowerRTT ≠ 0 ∧ selectedPath.isSome ∧ currentRTT ≥ lowerRTT then
    selectedPath
  else some pth

/-- The orders in which the two loops of `selectPathLowLatency` and the one of
`selectPathUnreliable` visit the paths. -/
structure SelectEnv where
  lessUsed : List PathID := []
  lowLatency : List PathID := []
  unreliable : List PathID := []

/-- The path to use while frames of a path without an RTT estimate wait to be sent again. The flags
are not checked against `fromPth`, which is nil if nothing was dequeued. -/
def selectForUnprobed (hasRetransmission hasStreamRetransmission : Bool)
    (fromPth : Option Path) (order : List PathID) : Except Abort (Option Path) :=
  if hasRetransmission && hasStreamRetransmission then
    match fromPth with
    | none => .error .nilPath
    | some fromPth =>
      .ok (if fromPth.smoothedRTT = 0 then s.selectLessUsed fromPth order else none)
  else .ok none

/-- `selectPathLowLatency`: prefer a low RTT. -/
def selectPathLowLatency (hasRetransmission hasStreamRetransmission : Bool)
    (fromPth : Option Path) (env : SelectEnv) : Except Abort (Option Path) :=
  if s.paths.length ≤ 1 then s.selectInitialPath hasRetransmission
  else
    match s.selectForUnprobed hasRetransmission hasStreamRetransmission fromPth env.lessUsed with
    | .error abort => .error abort
    | .ok (some pth) => .ok (some pth)
    | .ok none =>
      .ok ((s.paths.visited env.lowLatency).foldl (s.considerLowLatency hasRetransmission) none)

/-- `selectPath`; `none` is nil. -/
def selectPath (hasRetransmission hasStreamRetransmission : Bool)
    (fromPth : Option Path) (env : SelectEnv) : Except Abort (Option Path) :=
  s.selectPathLowLatency hasRetransmission hasStreamRetransmission fromPth env

/-- `^uint(0)` -/
def maxQuota : Nat := 2 ^ 64 - 1

/-- The body of the loop of `selectPathUnreliable`. -/
def considerUnreliable (selectedPath : Option Path) (pth : Path) : Option Path :=
  let lowerQuota := (selectedPath.map fun selected =>
    s.scheduler.quotas2 selected.pathID).getD maxQuota
  if pth.potentiallyFailed then selectedPath
  else if pth.pathID = initialPathID then selectedPath
  else if s.scheduler.quotas2 pth.pathID < lowerQuota then some pth
  else selectedPath

/-- The congestion windows are not looked at, unless there is only one path. The other flag and the
path of the last packet dequeued, which the source passes as well, are not used. -/
def selectPathUnreliable (hasRetransmission : Bool) (env : SelectEnv) :
    Except Abort (Option Path) :=
  if s.paths.length ≤ 1 then s.selectInitialPath hasRetransmission
  else .ok ((s.paths.visited env.unreliable).foldl s.considerUnreliable none)

/-- Whether an unreliable stream has data to send. -/
def hasUnreliableData : Bool :=
  s.streamsMap.openStreams.any fun id =>
    (s.streamsMap.streams.lookup id).any fun stream =>
      stream.unreliableMarker && 0 < stream.lenOfDataForWriting

/-- The path for the next packet; `none` if only ACK frames are left to be sent. Whatever the
second selection returns is used without a check. -/
def choosePath (env : SelectEnv) : Except Abort (Option Path) :=
  match r.session.selectPath r.hasRetransmission r.hasStreamRetransmission r.fromPth env with
  | .error abort => .error abort
  | .ok (some pth) => .ok (some pth)
  | .ok none =>
    if !r.session.hasUnreliableData then .ok none
    else
      match r.session.selectPathUnreliable r.hasRetransmission env with
      | .error abort => .error abort
      | .ok none => .error .nilPath
      | .ok (some pth) => .ok (some pth)

/-! ## Sending on the selected path -/

variable (pth : Path)

/-- The frames that go ahead of the stream data, in the order in which they are queued. -/
def queueFrames (hasStreamRetransmission : Bool) (now : Int) :
    Except RuntimePanic (Session × Path) :=
  match pth.getAckFrame now with
  | .error panic => .error panic
  | .ok (pth, ack) =>
    let s := s.queueControlFrames (ack.toList.map .ack) pth.pathID
    let (pth, swf) :=
      if ack.isSome || hasStreamRetransmission then
        pth.getStopWaitingFrame hasStreamRetransmission
      else (pth, none)
    let s := s.queueControlFrames
      (swf.toList.map .stopWaiting ++ s.closePathFrameQueue.map .closePath ++
        s.addAddressFrameQueue.map .addAddress ++
        s.streamFramer.pathsFrame.toList.map .paths) pth.pathID
    .ok ({ s with
      closePathFrameQueue := []
      addAddressFrameQueue := []
      streamFramer := { s.streamFramer with pathsFrame := none }
      paths := s.paths.set pth }, pth)

/-- Whether the window was full after the packet was sent decides which counter goes up. -/
def countSent : Session :=
  { s with scheduler :=
      if pth.sendingAllowed then
        { s.scheduler with
          quotas := Function.update s.scheduler.quotas pth.pathID
            (addUint64 (s.scheduler.quotas pth.pathID) 1) }
      else
        { s.scheduler with
          quotas2 := Function.update s.scheduler.quotas2 pth.pathID
            (addUint64 (s.scheduler.quotas2 pth.pathID) 1) } }

/-- What `performPacketSending` leaves and returns. The packet is there if it was sent. -/
structure Performed where
  session : Session
  pth : Path
  packet : Option Packet := none
  err : Option SessionError := none

/-- `performPacketSending`: pack a packet for the path and send it. -/
def performPacketSending (windowUpdateFrames : List WindowUpdateFrame) (pth : Path)
    (env : SendEnv) : Except RuntimePanic Performed :=
  let s := if pth.sentPacketHandler.shouldSendRetransmittablePacket then
    s.queueControlFrame .ping pth.pathID else s
  match (s.packState pth).packPacket (s.packEnv env) with
  | .error panic => .error panic
  | .ok result =>
    let packed := s.packing result
    match packed.outcome with
    | .error err => .ok { session := packed.session, pth := packed.pth, err := some err }
    | .ok none => .ok { session := packed.session, pth := packed.pth }
    | .ok (some packet) =>
      let sending := packed.session.sendPackedPacket packet packed.pth env
      match sending.err with
      | some err => .ok { session := sending.session, pth := sending.pth, err := some err }
      | none =>
        -- every window update is sent twice
        let s := sending.session.queueControlFrames
          (windowUpdateFrames.map .windowUpdate) pth.pathID
        .ok
          { session := s.countSent sending.pth
            pth := sending.pth
            packet := some (ackhandlerPacket packet) }

/-- A packet that was sent on a path without an RTT estimate is sent once more, if there is
another path that has sent fewer packets. -/
def duplicatePacket (packet : Packet) (order : List PathID) : Session :=
  if pth.smoothedRTT = 0 ∧ (s.paths.visited order).any (fun other =>
      other.pathID ≠ initialPathID ∧ other.pathID ≠ pth.pathID ∧
        s.scheduler.quotas other.pathID < s.scheduler.quotas pth.pathID ∧
        other.handlerAllowsSending) then
    s.setPath { pth with sentPacketHandler := pth.sentPacketHandler.duplicatePacket packet }
  else s

/-- A path that has potentially failed, and whose packets were sent again, gets a PING. -/
def pingFailedPath (fromPth : Option Path) (env : SendEnv) :
    Except RuntimePanic (Session × Option SessionError) :=
  match fromPth.bind fun pth => s.paths.lookup pth.pathID with
  | none => .ok (s, none)
  | some pth =>
    if pth.potentiallyFailed then
      (s.sendPing pth env).map fun sending => (sending.session, sending.err)
    else .ok (s, none)

/-- A handshake packet is sent again. -/
def retransmitHandshakePacket (packet : Packet) (env : SendEnv) :
    Except RuntimePanic (Session × Option SessionError) :=
  let (pth, swf) := pth.getStopWaitingFrame true
  let s := { s.setPath pth with packer := s.packer.setStopWaiting pth.pathID swf }
  let result := (s.packState pth).packHandshakeRetransmission (s.packEnv env) packet
  (sendPacking (s.packing result) env).map fun sending => (sending.session, sending.err)

/-! ## Acknowledgements on the other paths -/

structure AckRemainingEnv where
  flow : FlowEnv
  flowOrder : List Nat := []
  order : List PathID := []
  send : PathID → SendEnv

/-- The body of the loop of `ackRemainingPaths`. The initial path gets no packet for window
updates alone. -/
def ackPath (windowUpdateFrames : List WindowUpdateFrame) (pth : Path)
    (env : SendEnv) : Except RuntimePanic (Session × Option SessionError) :=
  match pth.getAckFrame env.now with
  | .error panic => .error panic
  | .ok (pth, ack) =>
    let s := (s.setPath pth).queueControlFrames (windowUpdateFrames.map .windowUpdate)
      pth.pathID
    if ack.isNone ∧ (windowUpdateFrames = [] ∨ pth.pathID = initialPathID) then .ok (s, none)
    else
      let (pth, swf) := pth.getStopWaitingFrame false
      let s := (s.setPath pth).queueControlFrames (swf.toList.map .stopWaiting) pth.pathID
      let s := { s with packer := s.packer.setAckFrame pth.pathID ack }
      let packed : Except RuntimePanic PackResult := match ack with
        | some _ => .ok ((s.packState pth).packAckPacket (s.packEnv env))
        | none => (s.packState pth).packPacket (s.packEnv env)
      match packed with
      | .error panic => .error panic
      | .ok result =>
        (sendPacking (s.packing result) env).map fun sending =>
          (sending.session, sending.err)

def ackPaths (windowUpdateFrames : List WindowUpdateFrame) (env : PathID → SendEnv) :
    List Path → Session → Except RuntimePanic (Session × Option SessionError)
  | [], s => .ok ({ s with peerBlocked := false }, none)
  | pth :: rest, s =>
    match s.ackPath windowUpdateFrames pth (env pth.pathID) with
    | .error panic => .error panic
    | .ok (s, some err) => .ok (s, some err)
    | .ok (s, none) => ackPaths windowUpdateFrames env rest s

/-- `ackRemainingPaths`: the ACKs of the paths that did not send. -/
def ackRemainingPaths (totalWindowUpdateFrames : List WindowUpdateFrame)
    (env : AckRemainingEnv) : Except RuntimePanic (Session × Option SessionError) :=
  let (s, windowUpdateFrames) :=
    if totalWindowUpdateFrames = [] then
      s.getWindowUpdateFrames env.flow env.flowOrder s.peerBlocked
    else (s, totalWindowUpdateFrames)
  ackPaths windowUpdateFrames env.send (s.paths.visited env.order) s

/-! ## Rounds -/

/-- What one round reads from its surroundings. -/
structure RoundEnv where
  retransmission : Nat → RetransmissionEnv := fun _ => {}
  select : SelectEnv := {}
  send : SendEnv
  duplicateOrder : List PathID := []
  ping : SendEnv
  /-- for the window updates when there is no path left -/
  flow : FlowEnv
  flowOrder : List Nat := []
  ackRemaining : AckRemainingEnv

/-- A round returns, or it goes on to the next one with the window updates that are not sent twice
yet. -/
abbrev RoundOutcome :=
  Loop.Outcome (Session × List WindowUpdateFrame) (Session × Option SessionError)

/-- The outcome of the calls that a round ends with. -/
def endRound (result : Except RuntimePanic (Session × Option SessionError)) :
    Except Abort RoundOutcome :=
  match result with
  | .error panic => .error (.runtime panic)
  | .ok result => .ok (.returns result)

/-- The outcome of the calls that another round follows, unless they fail. -/
def nextRound (windowUpdateFrames : List WindowUpdateFrame)
    (result : Except RuntimePanic (Session × Option SessionError)) : Except Abort RoundOutcome :=
  match result with
  | .error panic => .error (.runtime panic)
  | .ok (s, some err) => .ok (.returns (s, some err))
  | .ok (s, none) => .ok (.goesOn (s, windowUpdateFrames))

/-- A round in which a packet is composed. -/
def sendOnPath (windowUpdateFrames : List WindowUpdateFrame)
    (env : RoundEnv) : Except Abort RoundOutcome :=
  match r.session.queueFrames pth r.hasStreamRetransmission env.send.now with
  | .error panic => .error (.runtime panic)
  | .ok (s, pth) =>
    match s.performPacketSending windowUpdateFrames pth env.send with
    | .error panic => .error (.runtime panic)
    | .ok { session := s, err := some err, .. } => .ok (.returns (s, some err))
    | .ok { session := s, packet := none, err := none, .. } =>
      endRound (s.ackRemainingPaths [] env.ackRemaining)
    | .ok { session := s, pth, packet := some packet, err := none } =>
      let s := s.duplicatePacket pth packet env.duplicateOrder
      nextRound [] (s.pingFailedPath r.fromPth env.ping)

/-- A round after `getRetransmission`. -/
def sendRound (windowUpdateFrames : List WindowUpdateFrame)
    (env : RoundEnv) : Except Abort RoundOutcome :=
  match choosePath r env.select with
  | .error abort => .error abort
  | .ok none =>
    let (s, updates) := r.session.getWindowUpdateFrames env.flow env.flowOrder false
    endRound (s.ackRemainingPaths updates env.ackRemaining)
  | .ok (some pth) =>
    match r.retransmitPacket with
    | some packet =>
      nextRound windowUpdateFrames (r.session.retransmitHandshakePacket pth packet env.send)
    | none => sendOnPath r pth windowUpdateFrames env

/-- The body of the loop of `sendPacket`. -/
def round (st : Session × List WindowUpdateFrame) (env : RoundEnv) : Except Abort RoundOutcome :=
  sendRound (st.1.getRetransmission env.retransmission) st.2 env

/-- The part of `sendPacket` ahead of the rounds. -/
def beginSending (flow : FlowEnv) (flowOrder : List Nat) : Session × List WindowUpdateFrame :=
  let s := (s.paths.visited []).foldl
    (fun s pth => s.setPath (pth.setLeastUnacked pth.sentPacketHandler.getLeastUnacked)) s
  let (s, updates) := s.getWindowUpdateFrames flow flowOrder false
  (s.queueControlFrames (updates.map .windowUpdate) initialPathID, updates)

/-- `sendPacket`, as far as the rounds go that there are surroundings for. -/
def sendPacket (flow : FlowEnv) (flowOrder : List Nat) (rounds : List RoundEnv) :
    Except Abort RoundOutcome :=
  Loop.run round rounds (s.beginSending flow flowOrder)

end Session

end MPQuic
