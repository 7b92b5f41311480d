import MPQuic.FlowControl.FlowController
import MPQuic.Lib.MapOrder
import Mathlib.Data.List.AList

/-!
# The flow control manager

`internal/flowcontrol/flow_control_manager.go`: the flow controllers of the open streams
and the one of the connection.
-/

namespace MPQuic

/-- The errors of the manager. -/
inductive FlowError where
  | errMapAccess
  | streamDataAfterTermination
  /-- "Received %d bytes on stream %d, allowed %d bytes" -/
  | streamReceivedTooMuchData (received streamID allowed : Nat)
  /-- "Received %d bytes for the connection, allowed %d bytes" -/
  | connectionReceivedTooMuchData (received allowed : Nat)
  deriving DecidableEq, Repr

/-- A window that is to be announced; ID 0 is the connection. -/
structure WindowUpdate where
  streamID : Nat
  offset : Nat
  deriving DecidableEq, Repr

/-- The flow controllers of the streams and of the connection. -/
structure FlowControlManager where
  connectionParameters : ConnectionParametersManager
  streamFlowController : AList fun _ : Nat => FlowController
  connFlowController : FlowController

/-- A manager without streams. -/
def newFlowControlManager (params : ConnectionParametersManager) : FlowControlManager where
  connectionParameters := params
  streamFlowController := ∅
  connFlowController := newFlowController 0 false params

namespace FlowControlManager

variable (f : FlowControlManager) (streamID : Nat)

/-- The controller of a stream. -/
def getFlowController : Option FlowController :=
  f.streamFlowController.lookup streamID

/-- The controller of a stream was changed in place. -/
def setFlowController (fc : FlowController) : FlowControlManager :=
  { f with streamFlowController := f.streamFlowController.insert streamID fc }

theorem getFlowController_setFlowController_self (id : Nat)
    (fc : FlowController) : (f.setFlowController id fc).getFlowController id = some fc :=
  AList.lookup_insert _

theorem getFlowController_setFlowController_of_ne {id other : Nat} (differ : other ≠ id)
    (f : FlowControlManager) (fc : FlowController) :
    (f.setFlowController id fc).getFlowController other = f.getFlowController other :=
  AList.lookup_insert_ne differ

/-- `NewStream`: a stream that has a controller keeps it. -/
def newStream (contributesToConnection : Bool) : FlowControlManager :=
  match f.getFlowController streamID with
  | some _ => f
  | none => f.setFlowController streamID
    (newFlowController streamID contributesToConnection f.connectionParameters)

/-- `RemoveStream`. -/
def removeStream : FlowControlManager :=
  { f with streamFlowController := f.streamFlowController.erase streamID }

/-- Count bytes for a stream, and for the connection if the stream contributes to it. Nothing
happens for a stream without a controller, where the source returns `errMapAccess`. -/
def onBothLevels (count : FlowController → FlowController) : FlowControlManager :=
  match f.getFlowController streamID with
  | none => f
  | some fc =>
    let f := f.setFlowController streamID (count fc)
    if fc.contributesToConnection then
      { f with connFlowController := count f.connFlowController }
    else f

/-! ## Receiving -/

/-- The checks after the highest offset of a stream has been updated. -/
def checkReceived (streamID byteOffset increment : Nat)
    (fc : FlowController) : FlowControlManager × Option FlowError :=
  let f := f.setFlowController streamID fc
  if fc.checkFlowControlViolation then
    (f, some (.streamReceivedTooMuchData byteOffset streamID fc.receiveWindow))
  else if fc.contributesToConnection then
    let conn := f.connFlowController.incrementHighestReceived increment
    ({ f with connFlowController := conn },
      if conn.checkFlowControlViolation then
        some (.connectionReceivedTooMuchData conn.highestReceived conn.receiveWindow)
      else none)
  else (f, none)

/-- `ResetStream`: the final offset of a stream is known. -/
def resetStream (streamID byteOffset : Nat) : FlowControlManager × Option FlowError :=
  match f.getFlowController streamID with
  | none => (f, some .errMapAccess)
  | some fc =>
    let updated := fc.updateHighestReceived byteOffset
    if updated.2.2 then
      (f.setFlowController streamID updated.1, some .streamDataAfterTermination)
    else f.checkReceived streamID byteOffset updated.2.1 updated.1

/-- A smaller offset than before only means that frames were reordered. -/
def updateHighestReceived (streamID byteOffset : Nat) : FlowControlManager × Option FlowError :=
  match f.getFlowController streamID with
  | none => (f, some .errMapAccess)
  | some fc =>
    let updated := fc.updateHighestReceived byteOffset
    f.checkReceived streamID byteOffset updated.2.1 updated.1

/-- `AddBytesRead`, on the stream and on the connection. -/
def addBytesRead (env : FlowEnv) (streamID n : Nat) : FlowControlManager :=
  f.onBothLevels streamID fun fc => fc.addBytesRead env n

/-- The loop body of `GetWindowUpdates` for one stream. -/
def updateStreamWindow (env : FlowEnv) (force : Bool)
    (state : FlowControlManager × List WindowUpdate) (streamID : Nat) :
    FlowControlManager × List WindowUpdate :=
  match state.1.getFlowController streamID with
  | none => state
  | some fc =>
    let updated := fc.maybeUpdateWindow env
    let f := state.1.setFlowController streamID updated.1
    if force || updated.2.necessary then
      let res := state.2 ++ [{ streamID, offset := updated.2.offset }]
      if fc.contributesToConnection && updated.2.newIncrement ≠ 0 then
        ({ f with
          connFlowController := f.connFlowController.ensureMinimumWindowIncrement
            (env.connectionIncrement updated.2.newIncrement) }, res)
      else (f, res)
    else (f, state.2)

/-- `order` is the order in which the loop visits the streams. -/
def getWindowUpdates (env : FlowEnv) (force : Bool)
    (order : List Nat) : FlowControlManager × List WindowUpdate :=
  let streams := (MapOrder.visited order f.streamFlowController.keys).foldl
    (updateStreamWindow env force) (f, [])
  let updated := streams.1.connFlowController.maybeUpdateWindow env
  let f := { streams.1 with connFlowController := updated.1 }
  if force || updated.2.necessary then
    (f, streams.2 ++ [{ streamID := 0, offset := updated.2.offset }])
  else (f, streams.2)

/-- `GetReceiveWindow`. -/
def getReceiveWindow : Option Nat :=
  if streamID = 0 then some f.connFlowController.receiveWindow
  else (f.getFlowController streamID).map FlowController.receiveWindow

/-! ## Sending -/

/-- `AddBytesSent`, on the stream and on the connection. -/
def addBytesSent (streamID n : Nat) : FlowControlManager :=
  f.onBothLevels streamID fun fc => fc.addBytesSent n

/-- `AddBytesRetrans`, on the stream and on the connection. -/
def addBytesRetrans (streamID n : Nat) : FlowControlManager :=
  f.onBothLevels streamID fun fc => fc.addBytesRetrans n

/-- `SendWindowSize`: what the stream and the connection allow. -/
def sendWindowSize : Option Nat :=
  (f.getFlowController streamID).map fun fc =>
    let res := fc.sendWindowSize f.connectionParameters
    if fc.contributesToConnection then
      min res (f.connFlowController.sendWindowSize f.connectionParameters)
    else res

/-- `RemainingConnectionWindowSize`. -/
def remainingConnectionWindowSize : Nat :=
  f.connFlowController.sendWindowSize f.connectionParameters

/-- A WINDOW_UPDATE frame of the peer. -/
def updateWindow (streamID offset : Nat) : FlowControlManager :=
  if streamID = 0 then
    { f with connFlowController := (f.connFlowController.updateSendWindow offset).1 }
  else
    match f.getFlowController streamID with
    | none => f
    | some fc => f.setFlowController streamID (fc.updateSendWindow offset).1

end FlowControlManager

end MPQuic
