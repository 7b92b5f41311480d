import MPQuic.Wire.Frame

/-!
# Sent packets

`ackhandler/packet.go`, `ackhandler/retransmittable.go` and
`ackhandler/stop_waiting_manager.go`: the packets the sender keeps, which of their
frames are sent again after a loss, and the bookkeeping behind STOP_WAITING frames.
-/

namespace MPQuic

/-- A packet that was sent. -/
structure Packet where
  packetNumber : Nat
  frames : List Frame
  length : Nat
  encryptionLevel : EncryptionLevel := .forwardSecure
  sendTime : Int := 0
  deriving DecidableEq, Repr

/-- All frames of the packet but ACK and STOP_WAITING frames. -/
def Packet.getFramesForRetransmission (p : Packet) : List Frame :=
  p.frames.filter fun
    | .ack _ => false
    | .stopWaiting _ => false
    | _ => true

/-- `IsRetransmittable`. CLOSE_PATH and CONNECTION_CLOSE frames are not listed. -/
def Packet.isRetransmittable (p : Packet) : Bool :=
  p.frames.any fun
    | .stream _ => true
    | .rstStream _ => true
    | .windowUpdate _ => true
    | .blocked _ => true
    | .ping => true
    | .goaway _ => true
    | .addAddress _ => true
    | .paths _ => true
    | _ => false

/-- STREAM frames of unreliable streams are not retransmitted. -/
def isFrameRetransmittable : Frame → Bool
  | .stopWaiting _ => false
  | .ack _ => false
  | .stream f => !f.unreliableMarker
  | _ => true

/-- `stripNonRetransmittableFrames`: the frames that are sent again after a loss. -/
def stripNonRetransmittableFrames (fs : List Frame) : List Frame :=
  fs.filter isFrameRetransmittable

/-- `HasRetransmittableFrames`. -/
def hasRetransmittableFrames (fs : List Frame) : Bool := fs.any isFrameRetransmittable

/-! ## STOP_WAITING frames -/

/-- Which STOP_WAITING frame is to be sent. -/
structure StopWaitingManager where
  largestLeastUnackedSent : Nat := 0
  nextLeastUnacked : Nat := 0
  lastStopWaitingFrame : Option StopWaitingFrame := none
  deriving DecidableEq, Repr

variable (s : StopWaitingManager)

/-- `GetStopWaitingFrame`: a frame if there is news, or if it is forced. -/
def StopWaitingManager.getStopWaitingFrame (force : Bool) :
    StopWaitingManager × Option StopWaitingFrame :=
  if s.nextLeastUnacked ≤ s.largestLeastUnackedSent then
    if force then
      if s.lastStopWaitingFrame = none ∧ s.largestLeastUnackedSent > 0 then
        let swf : StopWaitingFrame := { leastUnacked := s.nextLeastUnacked }
        ({ s with lastStopWaitingFrame := some swf }, some swf)
      else (s, s.lastStopWaitingFrame)
    else (s, none)
  else
    let swf : StopWaitingFrame := { leastUnacked := s.nextLeastUnacked }
    ({ s with
      largestLeastUnackedSent := s.nextLeastUnacked
      lastStopWaitingFrame := some swf }, some swf)

/-- The packets up to the largest acked one need no ACK any more. -/
def StopWaitingManager.receivedAck (ack : AckFrame) : StopWaitingManager :=
  if ack.largestAcked ≥ s.nextLeastUnacked then
    { s with nextLeastUnacked := ack.largestAcked + 1 }
  else s

/-- A packet that will be sent again needs no ACK any more. -/
def StopWaitingManager.queuedRetransmissionForPacketNumber (p : Nat) : StopWaitingManager :=
  if p ≥ s.nextLeastUnacked then { s with nextLeastUnacked := p + 1 } else s

end MPQuic
