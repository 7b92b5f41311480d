import MPQuic.Wire.Frame

/-!
# Writing frames

The `Write` and `MinLength` methods of the frames in `internal/wire`. STREAM and ACK frames have
theirs in their own modules; here are the other ones, and the dispatch over all of them that
the `Frame` interface of the source stands for.

A frame writer appends to a buffer. On an error the packet is given up together with the buffer,
so the bytes written before the error are not part of the model.
-/

namespace MPQuic

/-- The errors of the frame writers. -/
inductive FrameError where
  | wire (err : WireError)
  | errLeastUnackedHigherThanPacketNumber
  | errPacketNumberNotSet
  | errPacketNumberLenNotSet
  /-- "ConnectionFrame: ReasonPhrase too long" -/
  | reasonPhraseTooLong
  | errInconsistentAddrIPVersion
  | errUnknownIPVersion
  | errPathsNumber
  | errMissingRTT
  deriving DecidableEq, Repr

namespace StopWaitingFrame

/-- The least unacked packet number goes on the wire as a distance from the packet's own number,
masked like the numbers of ACK frames. -/
def write (f : StopWaitingFrame) (version : VersionNumber) : Except FrameError (List UInt8) :=
  if f.packetNumber = 0 then .error .errPacketNumberNotSet
  else if f.leastUnacked > f.packetNumber then .error .errLeastUnackedHigherThanPacketNumber
  else if f.packetNumberLen ∈ packetNumberLens then
    match (getByteOrder version).writePacketNumber true f.packetNumberLen
        (f.packetNumber - f.leastUnacked) with
    | .error err => .error (.wire err)
    | .ok leastUnackedDelta => .ok (0x06 :: leastUnackedDelta)
  else .error .errPacketNumberLenNotSet

def minLength (f : StopWaitingFrame) : Except FrameError Nat :=
  if f.packetNumberLen = 0 then .error .errPacketNumberLenNotSet
  else .ok (1 + f.packetNumberLen)

end StopWaitingFrame

namespace RstStreamFrame

def write (f : RstStreamFrame) (version : VersionNumber) : List UInt8 :=
  let order := getByteOrder version
  0x01 :: (order.writeUint32 f.streamID ++ order.writeUint64 f.byteOffset ++
    order.writeUint32 f.errorCode)

def minLength : Nat := 1 + 4 + 8 + 4

end RstStreamFrame

namespace ConnectionCloseFrame

def write (f : ConnectionCloseFrame) (version : VersionNumber) :
    Except FrameError (List UInt8) :=
  let order := getByteOrder version
  if f.reasonPhrase.length > 2 ^ 16 - 1 then .error .reasonPhraseTooLong
  else
    .ok (0x02 :: (order.writeUint32 f.errorCode ++ order.writeUint16 f.reasonPhrase.length ++
      f.reasonPhrase))

def minLength (f : ConnectionCloseFrame) : Nat := 1 + 4 + 2 + f.reasonPhrase.length

end ConnectionCloseFrame

namespace GoawayFrame

/-- Unlike in a CONNECTION_CLOSE frame, the length of the phrase is cut to sixteen bits. -/
def write (f : GoawayFrame) (version : VersionNumber) : List UInt8 :=
  let order := getByteOrder version
  0x03 :: (order.writeUint32 f.errorCode ++ order.writeUint32 f.lastGoodStream ++
    order.writeUint16 (f.reasonPhrase.length % 2 ^ 16) ++ f.reasonPhrase)

def minLength (f : GoawayFrame) : Nat := 1 + 4 + 4 + 2 + f.reasonPhrase.length

end GoawayFrame

namespace WindowUpdateFrame

def write (f : WindowUpdateFrame) (version : VersionNumber) : List UInt8 :=
  let order := getByteOrder version
  0x04 :: (order.writeUint32 f.streamID ++ order.writeUint64 f.byteOffset)

def minLength : Nat := 1 + 4 + 8

end WindowUpdateFrame

namespace BlockedFrame

def write (f : BlockedFrame) (version : VersionNumber) : List UInt8 :=
  0x05 :: (getByteOrder version).writeUint32 f.streamID

def minLength : Nat := 1 + 4

end BlockedFrame

/-! ## ADD_ADDRESS -/

/-- The first twelve bytes of an IPv4 address in its sixteen-byte form. -/
def v4InV6Prefix : List UInt8 := List.replicate 10 0 ++ [0xff, 0xff]

/-- `net.IP.To4` -/
def ipTo4 (ip : List UInt8) : Option (List UInt8) :=
  if ip.length = 4 then some ip
  else if ip.length = 16 ∧ ip.take 12 = v4InV6Prefix then some (ip.drop 12)
  else none

/-- `net.IP.To16` -/
def ipTo16 (ip : List UInt8) : Option (List UInt8) :=
  if ip.length = 4 then some (v4InV6Prefix ++ ip)
  else if ip.length = 16 then some ip
  else none

namespace AddAddressFrame

variable (f : AddAddressFrame)

/-- The address in the form that the version of the frame asks for. -/
def ipBytes : Except FrameError (List UInt8) :=
  if f.ipVersion = 4 then (ipTo4 f.addr.ip).elim (.error .errInconsistentAddrIPVersion) .ok
  else if f.ipVersion = 6 then (ipTo16 f.addr.ip).elim (.error .errInconsistentAddrIPVersion) .ok
  else .error .errUnknownIPVersion

def write (version : VersionNumber) : Except FrameError (List UInt8) :=
  match f.ipBytes with
  | .error err => .error err
  | .ok ip =>
    .ok (0x10 :: f.ipVersion ::
      (ip ++ (getByteOrder version).writeUint16 (f.addr.port % 2 ^ 16)))

def minLength : Except FrameError Nat :=
  if f.ipVersion = 4 then .ok (1 + 1 + 4 + 2)
  else if f.ipVersion = 6 then .ok (1 + 1 + 16 + 2)
  else .error .errUnknownIPVersion

end AddAddressFrame

/-! ## CLOSE_PATH -/

namespace ClosePathFrame

def flags (f : ClosePathFrame) : UInt8 :=
  let largestAckedLen := getPacketNumberLength f.largestAcked
  let missingSequenceNumberDeltaLen := f.getMissingSequenceNumberDeltaLen
  let flags : UInt8 := if f.hasMissingRanges then 0x10 else 0x00
  let flags := if largestAckedLen ≠ 1 then flags ^^^ (UInt8.ofNat (largestAckedLen / 2) <<< 2)
    else flags
  if missingSequenceNumberDeltaLen ≠ 1 then
    flags ^^^ UInt8.ofNat (missingSequenceNumberDeltaLen / 2)
  else flags

def write (f : ClosePathFrame) (version : VersionNumber) : Except WireError (List UInt8) := do
  let order := getByteOrder version
  let missingSequenceNumberDeltaLen := f.getMissingSequenceNumberDeltaLen
  let numRanges ← f.announcedRanges "ClosePathFrame: Too many ACK ranges"
  let numBytes := if f.hasMissingRanges then [UInt8.ofNat (numRanges - 1)] else []
  let largestBytes ← order.writePacketNumber false (getPacketNumberLength f.largestAcked)
    f.largestAcked
  let firstAckBlockLength ← f.firstAckBlockLength
  let firstBytes ← order.writePacketNumber false missingSequenceNumberDeltaLen
    firstAckBlockLength
  let ranges ← order.writeRanges false missingSequenceNumberDeltaLen numRanges f.ackRanges
    (if f.hasMissingRanges then 1 else 0)
  if numRanges ≠ ranges.2 then
    .error .inconsistentNumberOfAckRanges
  else
    .ok (0x11 :: f.pathID :: f.flags ::
      (numBytes ++ (largestBytes ++ (firstBytes ++ ranges.1))))

end ClosePathFrame

/-- The room for the blocks of an ACK or CLOSE_PATH frame, with the byte that counts them. -/
def AckContent.blocksMinLength (c : AckContent) : Nat :=
  if c.hasMissingRanges then (1 + c.getMissingSequenceNumberDeltaLen) * c.numWritableNackRanges
  else c.getMissingSequenceNumberDeltaLen

def ClosePathFrame.minLength (f : ClosePathFrame) : Nat :=
  1 + 1 + 1 + getPacketNumberLength f.largestAcked + f.blocksMinLength

def AckFrame.minLength (f : AckFrame) : Nat :=
  1 + 2 + 1 + getPacketNumberLength f.largestAcked + f.blocksMinLength +
    (if f.pathID ≠ initialPathID then 1 else 0)

/-! ## PATHS -/

namespace PathsFrame

def write (f : PathsFrame) (version : VersionNumber) : Except FrameError (List UInt8) :=
  if f.numPaths.toNat ≠ f.pathIDs.length then .error .errPathsNumber
  else if f.pathIDs.length ≠ f.remoteRTTs.length then .error .errMissingRTT
  else
    .ok (0x12 :: f.maxNumPaths :: f.numPaths ::
      (f.pathIDs.zip f.remoteRTTs).flatMap fun entry =>
        entry.1 :: (getByteOrder version).writeUfloat16 (microseconds entry.2))

/-- The sum is taken in the type of `NumPaths`, a byte. -/
def minLength (f : PathsFrame) : Nat := (1 + 1 + 1 + 3 * f.numPaths : UInt8).toNat

end PathsFrame

/-! ## All frames -/

namespace Frame

/-- The bytes that `Write` appends. Only ACK frames read the clock. -/
def write (frame : Frame) (version : VersionNumber) (now : Int) :
    Except FrameError (List UInt8) :=
  match frame with
  | .stream f => (f.write version).mapError .wire
  | .ack f => (f.write version now).mapError .wire
  | .stopWaiting f => f.write version
  | .rstStream f => .ok (f.write version)
  | .connectionClose f => f.write version
  | .goaway f => .ok (f.write version)
  | .windowUpdate f => .ok (f.write version)
  | .blocked f => .ok (f.write version)
  | .ping => .ok [0x07]
  | .addAddress f => f.write version
  | .closePath f => (f.write version).mapError .wire
  | .paths f => f.write version

def minLength : Frame → Except FrameError Nat
  | .stream f => .ok f.minLength
  | .ack f => .ok f.minLength
  | .stopWaiting f => f.minLength
  | .rstStream _ => .ok RstStreamFrame.minLength
  | .connectionClose f => .ok f.minLength
  | .goaway f => .ok f.minLength
  | .windowUpdate _ => .ok WindowUpdateFrame.minLength
  | .blocked _ => .ok BlockedFrame.minLength
  | .ping => .ok 1
  | .addAddress f => f.minLength
  | .closePath f => .ok f.minLength
  | .paths f => .ok f.minLength

/-- The bytes of frames that are written one after the other. -/
def writeAll (version : VersionNumber) (now : Int) : List Frame → Except FrameError (List UInt8)
  | [] => .ok []
  | frame :: rest =>
    match frame.write version now, writeAll version now rest with
    | .error err, _ => .error err
    | .ok _, .error err => .error err
    | .ok bytes, .ok more => .ok (bytes ++ more)

end Frame

end MPQuic
