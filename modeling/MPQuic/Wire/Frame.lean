import MPQuic.Wire.AckFrame
import MPQuic.Wire.StreamFrame

/-!
# Frames

The frames of `internal/wire` as the rest of the code passes them around: one
constructor for each type that implements the `Frame` interface and is packed or
unpacked. Go hands out pointers to frames; the values are enough wherever a frame is
not changed after it was handed out.
-/

namespace MPQuic

/-- CLOSE_PATH: an acknowledgement for the end of a path. -/
structure ClosePathFrame extends AckContent where
  pathID : PathID := initialPathID
  deriving DecidableEq, Repr

structure StopWaitingFrame where
  leastUnacked : Nat
  packetNumberLen : Nat := 0
  packetNumber : Nat := 0
  deriving DecidableEq, Repr

structure RstStreamFrame where
  streamID : Nat
  errorCode : Nat
  byteOffset : Nat
  deriving DecidableEq, Repr

/-- A string of the source is any sequence of bytes. -/
structure ConnectionCloseFrame where
  errorCode : Nat
  reasonPhrase : List UInt8
  deriving DecidableEq, Repr

structure GoawayFrame where
  errorCode : Nat
  lastGoodStream : Nat
  reasonPhrase : List UInt8
  deriving DecidableEq, Repr

structure WindowUpdateFrame where
  streamID : Nat
  byteOffset : Nat
  deriving DecidableEq, Repr

structure BlockedFrame where
  streamID : Nat
  deriving DecidableEq, Repr

/-- The part of `net.UDPAddr` that goes on the wire. -/
structure UDPAddr where
  ip : List UInt8
  port : Nat
  deriving DecidableEq, Repr

structure AddAddressFrame where
  ipVersion : UInt8
  addr : UDPAddr
  deriving DecidableEq, Repr

structure PathsFrame where
  maxNumPaths : UInt8
  numPaths : UInt8
  pathIDs : List PathID
  remoteRTTs : List Int
  deriving DecidableEq, Repr

/-- The frames of a packet. -/
inductive Frame where
  | stream (f : StreamFrame)
  | ack (f : AckFrame)
  | stopWaiting (f : StopWaitingFrame)
  | rstStream (f : RstStreamFrame)
  | connectionClose (f : ConnectionCloseFrame)
  | goaway (f : GoawayFrame)
  | windowUpdate (f : WindowUpdateFrame)
  | blocked (f : BlockedFrame)
  | ping
  | addAddress (f : AddAddressFrame)
  | closePath (f : ClosePathFrame)
  | paths (f : PathsFrame)
  deriving DecidableEq, Repr

end MPQuic
