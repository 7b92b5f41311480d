import MPQuic.Protocol

/-!
# Flow controllers

`internal/flowcontrol/flow_controller.go`, and the parameters it reads from
`internal/handshake/connection_parameters_manager.go`. One controller keeps the send window
and the receive window of one stream, or, with stream ID 0, of the whole connection.

Byte counts are unsigned 64-bit words; sums and differences wrap around. Times are
nanoseconds on one clock, with `none` for the zero time.
-/

namespace MPQuic

/-! ## Connection parameters -/

/-- The negotiated parameters. -/
structure ConnectionParametersManager where
  perspective : Perspective
  maxStreamsPerConnection : Nat
  maxIncomingDynamicStreamsPerConnection : Nat
  sendStreamFlowControlWindow : Nat
  sendConnectionFlowControlWindow : Nat
  receiveStreamFlowControlWindow : Nat
  receiveConnectionFlowControlWindow : Nat
  maxReceiveStreamFlowControlWindow : Nat
  maxReceiveConnectionFlowControlWindow : Nat
  deriving DecidableEq, Repr

/-- The parameters before the negotiation. -/
def newConnectionParametersManager (pers : Perspective)
    (maxReceiveStreamFlowControlWindow maxReceiveConnectionFlowControlWindow : Nat) :
    ConnectionParametersManager where
  perspective := pers
  maxStreamsPerConnection := maxStreamsPerConnection
  maxIncomingDynamicStreamsPerConnection := maxStreamsPerConnection
  sendStreamFlowControlWindow := initialStreamFlowControlWindow
  sendConnectionFlowControlWindow := initialConnectionFlowControlWindow
  receiveStreamFlowControlWindow := receiveStreamFlowControlWindow
  receiveConnectionFlowControlWindow := receiveConnectionFlowControlWindow
  maxReceiveStreamFlowControlWindow
  maxReceiveConnectionFlowControlWindow

/-- "incoming" is seen from the other side. -/
def ConnectionParametersManager.getMaxOutgoingStreams (h : ConnectionParametersManager) : Nat :=
  h.maxIncomingDynamicStreamsPerConnection

/-- The larger of the two kinds of slack. The multiplier of the source is 1.1. -/
def getMaxIncomingStreams : Nat :=
  max (maxIncomingDynamicStreamsPerConnection + maxStreamsMinimumIncrement)
    (maxIncomingDynamicStreamsPerConnection * 11 / 10)

/-- A window of the configuration, with the default in place of zero. -/
def configuredWindow (configured default : Nat) : Nat :=
  if configured = 0 then default else configured

/-- The parameters of a server whose configuration asks for the given maximum windows. -/
def serverParameters (maxReceiveStream maxReceiveConnection : Nat) :
    ConnectionParametersManager :=
  newConnectionParametersManager .server
    (configuredWindow maxReceiveStream defaultMaxReceiveStreamFlowControlWindowServer)
    (configuredWindow maxReceiveConnection defaultMaxReceiveConnectionFlowControlWindowServer)

/-- The parameters of a client whose configuration asks for the given maximum windows. -/
def clientParameters (maxReceiveStream maxReceiveConnection : Nat) :
    ConnectionParametersManager :=
  newConnectionParametersManager .client
    (configuredWindow maxReceiveStream defaultMaxReceiveStreamFlowControlWindowClient)
    (configuredWindow maxReceiveConnection defaultMaxReceiveConnectionFlowControlWindowClient)

/-! ## The controller -/

/-- The clock and the round-trip times that a call reads. -/
structure FlowEnv where
  now : Int
  smoothedRTT : Int
  remoteRTTs : List Int := []
  /-- `ByteCount(float64(newIncrement) * ConnectionFlowControlMultiplier)`, which is exact
  for increments below `2 ^ 52` -/
  connectionIncrement : (newIncrement : Nat) → Nat := fun newIncrement => newIncrement * 3 / 2

/-- The windows of a stream, or of the connection under ID 0. -/
structure FlowController where
  streamID : Nat
  contributesToConnection : Bool
  bytesSent : Nat := 0
  sendWindow : Nat := 0
  bytesRetrans : Nat := 0
  lastWindowUpdateTime : Option Int := none
  bytesRead : Nat := 0
  highestReceived : Nat := 0
  receiveWindow : Nat
  receiveWindowIncrement : Nat
  maxReceiveWindowIncrement : Nat
  deriving DecidableEq, Repr

/-- A controller with the initial windows. -/
def newFlowController (streamID : Nat) (contributesToConnection : Bool)
    (params : ConnectionParametersManager) : FlowController :=
  if streamID = 0 then
    { streamID, contributesToConnection
      receiveWindow := params.receiveConnectionFlowControlWindow
      receiveWindowIncrement := params.receiveConnectionFlowControlWindow
      maxReceiveWindowIncrement := params.maxReceiveConnectionFlowControlWindow }
  else
    { streamID, contributesToConnection
      receiveWindow := params.receiveStreamFlowControlWindow
      receiveWindowIncrement := params.receiveStreamFlowControlWindow
      maxReceiveWindowIncrement := params.maxReceiveStreamFlowControlWindow }

namespace FlowController

/-! ### Sending -/

variable (c : FlowController)

/-- The send window; before the first update the negotiated one. -/
def getSendWindow (params : ConnectionParametersManager) : Nat :=
  if c.sendWindow = 0 then
    if c.streamID = 0 then params.sendConnectionFlowControlWindow
    else params.sendStreamFlowControlWindow
  else c.sendWindow

/-- `AddBytesSent`. -/
def addBytesSent (n : Nat) : FlowController :=
  { c with bytesSent := addUint64 c.bytesSent n }

/-- `AddBytesRetrans`. -/
def addBytesRetrans (n : Nat) : FlowController :=
  { c with bytesRetrans := addUint64 c.bytesRetrans n }

/-- The controller and whether the window was updated. -/
def updateSendWindow (newOffset : Nat) : FlowController × Bool :=
  if newOffset > c.sendWindow then ({ c with sendWindow := newOffset }, true) else (c, false)

/-- What may still be sent. -/
def sendWindowSize (params : ConnectionParametersManager) : Nat :=
  if c.bytesSent > c.getSendWindow params then 0 else c.getSendWindow params - c.bytesSent

/-! ### Receiving -/

/-- The controller, the increment, and whether a smaller offset was received before
(`ErrReceivedSmallerByteOffset`). -/
def updateHighestReceived (byteOffset : Nat) : FlowController × Nat × Bool :=
  if byteOffset = c.highestReceived then (c, 0, false)
  else if byteOffset > c.highestReceived then
    ({ c with highestReceived := byteOffset }, byteOffset - c.highestReceived, false)
  else (c, 0, true)

theorem updateHighestReceived_eq (fc : FlowController) (offset : Nat) :
    fc.updateHighestReceived offset =
      ({ fc with highestReceived := max fc.highestReceived offset },
        max fc.highestReceived offset - fc.highestReceived,
        decide (offset < fc.highestReceived)) := by
  unfold updateHighestReceived
  split
  · rename_i same
    simp [same]
  · split
    · rename_i larger
      rw [max_eq_right (le_of_lt larger),
        decide_eq_false (not_lt.mpr (le_of_lt larger))]
    · rw [Nat.max_eq_left (by omega), Nat.sub_self, decide_eq_true (by omega)]

/-- `IncrementHighestReceived`. -/
def incrementHighestReceived (increment : Nat) : FlowController :=
  { c with highestReceived := addUint64 c.highestReceived increment }

/-- Reading the first byte counts as a window update. -/
def addBytesRead (env : FlowEnv) (n : Nat) : FlowController :=
  { c with
    lastWindowUpdateTime := if c.bytesRead = 0 then some env.now else c.lastWindowUpdateTime
    bytesRead := addUint64 c.bytesRead n }

/-- The auto-tuning doubles the increment when the last update is too recent. -/
def maybeAdjustWindowIncrement (env : FlowEnv) : FlowController :=
  match c.lastWindowUpdateTime with
  | none => c
  | some lastWindowUpdateTime =>
    let maxRemoteRTT := env.remoteRTTs.foldl max 0
    if env.smoothedRTT = 0 then c
    else if env.now - lastWindowUpdateTime ≥ 2 * max env.smoothedRTT maxRemoteRTT then c
    else
      { c with
        receiveWindowIncrement :=
          min (addUint64 c.receiveWindowIncrement c.receiveWindowIncrement)
            c.maxReceiveWindowIncrement }

/-- Whether so little of the window is left that an update is due. -/
def windowUpdateDue : Bool :=
  subUint64 c.receiveWindow c.bytesRead < c.receiveWindowIncrement / 2

/-- What `MaybeUpdateWindow` returns. -/
structure WindowResult where
  necessary : Bool
  newIncrement : Nat
  offset : Nat

/-- `MaybeUpdateWindow`: move the receive window once half of it is read. -/
def maybeUpdateWindow (env : FlowEnv) : FlowController × WindowResult :=
  if c.windowUpdateDue then
    let adjusted := c.maybeAdjustWindowIncrement env
    let newIncrement :=
      if adjusted.receiveWindowIncrement ≠ c.receiveWindowIncrement then
        adjusted.receiveWindowIncrement
      else 0
    let updated := { adjusted with
      lastWindowUpdateTime := some env.now
      receiveWindow := addUint64 adjusted.bytesRead adjusted.receiveWindowIncrement }
    (updated, { necessary := true, newIncrement, offset := updated.receiveWindow })
  else
    (c, { necessary := false, newIncrement := c.receiveWindowIncrement,
          offset := c.receiveWindow })

/-- The next update is not auto-tuned after the increment was raised. -/
def ensureMinimumWindowIncrement (inc : Nat) : FlowController :=
  if inc > c.receiveWindowIncrement then
    { c with
      receiveWindowIncrement := min inc c.maxReceiveWindowIncrement
      lastWindowUpdateTime := none }
  else c

/-- `CheckFlowControlViolation`. -/
def checkFlowControlViolation : Bool := c.highestReceived > c.receiveWindow

end FlowController

end MPQuic
