import MPQuic.Utils.ByteOrder

/-!
# STREAM frames

`internal/wire/stream_frame.go`: the frame, its writer and its parser, statement
by statement. The writer builds the type byte by exclusive-or of the flags, the
encoded length of the offset and the encoded length of the stream identifier; the
parser takes it apart with masks.
-/

namespace MPQuic

open ByteCodec

/-- A STREAM frame. -/
structure StreamFrame where
  streamID : Nat
  unreliableMarker : Bool := false
  finBit : Bool := false
  dataLenPresent : Bool := false
  offset : Nat := 0
  data : List UInt8 := []
  deriving DecidableEq, Repr

variable {f : StreamFrame} (order : ByteOrder) (v : Nat)

namespace StreamFrame

variable (f)

def dataLen : Nat := f.data.length

def calculateStreamIDLength : Nat :=
  if f.streamID < 2 ^ 8 then 1
  else if f.streamID < 2 ^ 16 then 2
  else if f.streamID < 2 ^ 24 then 3
  else 4

def getOffsetLength : Nat :=
  if f.offset = 0 then 0
  else if f.offset < 2 ^ 16 then 2
  else if f.offset < 2 ^ 24 then 3
  else if f.offset < 2 ^ 32 then 4
  else if f.offset < 2 ^ 40 then 5
  else if f.offset < 2 ^ 48 then 6
  else if f.offset < 2 ^ 56 then 7
  else 8

/-- The length of the header of the frame. -/
def minLength : Nat :=
  1 + f.calculateStreamIDLength + f.getOffsetLength + if f.dataLenPresent then 2 else 0

variable {f}


end StreamFrame
/-- The type byte: flags, offset length and stream identifier length. -/
def streamTypeByte (unreliableMarker finBit dataLenPresent : Bool)
    (offsetLength streamIDLen : UInt8) : UInt8 :=
  let typeByte : UInt8 := 0x80
  let typeByte := if unreliableMarker then typeByte ^^^ 0x01 else typeByte
  let typeByte := if finBit then typeByte ^^^ 0x40 else typeByte
  let typeByte := if dataLenPresent then typeByte ^^^ 0x20 else typeByte
  let typeByte := if offsetLength > 0 then typeByte ^^^ ((offsetLength - 1) <<< 2) else typeByte
  typeByte ^^^ (streamIDLen - 1)

def StreamFrame.typeByte (f : StreamFrame) : UInt8 :=
  streamTypeByte f.unreliableMarker f.finBit f.dataLenPresent
    (UInt8.ofNat f.getOffsetLength) (UInt8.ofNat f.calculateStreamIDLength)

def StreamFrame.writeStreamID (f : StreamFrame) (order : ByteOrder) :
    Except WireError (List UInt8) :=
  match f.calculateStreamIDLength with
  | 1 => .ok [UInt8.ofNat f.streamID]
  | 2 => .ok (order.writeUint16 (f.streamID % 2 ^ 16))
  | 3 => order.writeUint24 (f.streamID % 2 ^ 32)
  | 4 => .ok (order.writeUint32 (f.streamID % 2 ^ 32))
  | _ => .error .errInvalidStreamIDLen

def StreamFrame.writeOffset (f : StreamFrame) (order : ByteOrder) :
    Except WireError (List UInt8) :=
  match f.getOffsetLength with
  | 0 => .ok []
  | 2 => .ok (order.writeUint16 (f.offset % 2 ^ 16))
  | 3 => order.writeUint24 (f.offset % 2 ^ 32)
  | 4 => .ok (order.writeUint32 (f.offset % 2 ^ 32))
  | 5 => order.writeUint40 f.offset
  | 6 => order.writeUint48 f.offset
  | 7 => order.writeUint56 f.offset
  | 8 => .ok (order.writeUint64 f.offset)
  | _ => .error .errInvalidOffsetLen

/-- The bytes `Write` appends to the buffer. -/
def StreamFrame.write (f : StreamFrame) (version : VersionNumber) :
    Except WireError (List UInt8) := do
  if f.data.length = 0 ∧ ¬f.finBit then
    throw .writeEmptyFrameWithoutFin
  let order := getByteOrder version
  let idBytes ← f.writeStreamID order
  let offsetBytes ← f.writeOffset order
  let lengthBytes := if f.dataLenPresent then order.writeUint16 (f.data.length % 2 ^ 16) else []
  return f.typeByte :: (idBytes ++ offsetBytes ++ lengthBytes ++ f.data)

/-- `io.ReadFull` on the packet reader. -/
def ioReadFull (n : Nat) : Reader WireError (List UInt8) :=
  readFull (fun available => if available = 0 then .eof else .unexpectedEOF) n

/-- The parser; the type byte must not have been read yet. -/
def parseStreamFrame (version : VersionNumber) : Reader WireError StreamFrame := do
  let order := getByteOrder version
  let firstByte ← readUint8
  -- the lowest bit is the reliability marker, which the unpacker reads from the raw byte
  let typeByte := firstByte &&& 0xFE
  let finBit := decide (typeByte &&& 0x40 > 0)
  let dataLenPresent := decide (typeByte &&& 0x20 > 0)
  let offsetLen := (typeByte &&& 0x1c) >>> 2
  let offsetLen := if offsetLen ≠ 0 then offsetLen + 1 else offsetLen
  let streamIDLen := (typeByte &&& 0x3) + 1
  let sid ← order.readUintN streamIDLen.toNat
  let offset ← order.readUintN offsetLen.toNat
  let sentLen ← readIf dataLenPresent order.readUint16 0
  failIf (sentLen > maxPacketSize) (.invalidStreamData "data len too large")
  let available ← unread
  let dataLen := if dataLenPresent then sentLen else available.length % 2 ^ 16
  let data ← readIf (dataLen ≠ 0) (ioReadFull dataLen) []
  failIf ((offset + data.length) % 2 ^ 64 < offset)
    (.invalidStreamData "data overflows maximum offset")
  failIf (!finBit && data.length == 0) .emptyStreamFrameNoFin
  return { streamID := sid % 2 ^ 32, finBit, dataLenPresent, offset, data }

open StreamFrame

/-! ## The writer on frames that fit -/

theorem StreamFrame.calculateStreamIDLength_mem (f : StreamFrame) :
    f.calculateStreamIDLength ∈ [1, 2, 3, 4] := by
  unfold calculateStreamIDLength
  split_ifs <;> simp

theorem StreamFrame.getOffsetLength_mem (f : StreamFrame) :
    f.getOffsetLength ∈ [0, 2, 3, 4, 5, 6, 7, 8] := by
  unfold getOffsetLength
  split_ifs <;> simp

theorem StreamFrame.streamID_lt (bound : f.streamID < 2 ^ 32) :
    f.streamID < 2 ^ (8 * f.calculateStreamIDLength) := by
  unfold calculateStreamIDLength
  split_ifs <;> omega

theorem StreamFrame.offset_lt (bound : f.offset < 2 ^ 64) :
    f.offset < 2 ^ (8 * f.getOffsetLength) := by
  unfold getOffsetLength
  split_ifs <;> omega

theorem ByteOrder.bytes_zero : order.bytes 0 v = [] := by
  cases order <;> rfl

theorem ByteOrder.bytes_one : order.bytes 1 v = [UInt8.ofNat v] := by
  cases order <;> rfl

/-- The stream identifier is written in as many bytes as its length says. -/
theorem StreamFrame.writeStreamID_eq (bound : f.streamID < 2 ^ 32) :
    f.writeStreamID order = .ok (order.bytes f.calculateStreamIDLength f.streamID) := by
  have fits := streamID_lt bound
  have mem := f.calculateStreamIDLength_mem
  unfold writeStreamID
  simp only [List.mem_cons, List.not_mem_nil, or_false] at mem
  rcases mem with len | len | len | len <;> rw [len] at fits ⊢
  · simp [ByteOrder.bytes_one]
  · rw [Nat.mod_eq_of_lt (show f.streamID < 2 ^ 16 from fits)]
    rfl
  · rw [Nat.mod_eq_of_lt bound]
    exact ByteOrder.writeFitting_ok fits
  · rw [Nat.mod_eq_of_lt bound]
    rfl

/-- The offset is written in as many bytes as its length says. -/
theorem StreamFrame.writeOffset_eq (bound : f.offset < 2 ^ 64) :
    f.writeOffset order = .ok (order.bytes f.getOffsetLength f.offset) := by
  have fits := offset_lt bound
  have mem := f.getOffsetLength_mem
  unfold writeOffset
  simp only [List.mem_cons, List.not_mem_nil, or_false] at mem
  rcases mem with len | len | len | len | len | len | len | len <;> rw [len] at fits ⊢
  · simp [ByteOrder.bytes_zero]
  · rw [Nat.mod_eq_of_lt (show f.offset < 2 ^ 16 from fits)]
    rfl
  · rw [Nat.mod_eq_of_lt (show f.offset < 2 ^ 32 by omega)]
    exact ByteOrder.writeFitting_ok fits
  · rw [Nat.mod_eq_of_lt (show f.offset < 2 ^ 32 from fits)]
    rfl
  · exact ByteOrder.writeFitting_ok fits
  · exact ByteOrder.writeFitting_ok fits
  · exact ByteOrder.writeFitting_ok fits
  · rfl

/-- The length field of a frame, present or not. -/
def StreamFrame.lengthBytes (f : StreamFrame) (order : ByteOrder) : List UInt8 :=
  if f.dataLenPresent then order.bytes 2 f.data.length else []

theorem StreamFrame.write_eq (version : VersionNumber)
    (idBound : f.streamID < 2 ^ 32) (offsetBound : f.offset < 2 ^ 64)
    (lenBound : f.data.length < 2 ^ 16) (nonempty : f.data ≠ [] ∨ f.finBit = true) :
    f.write version = .ok (f.typeByte ::
      ((getByteOrder version).bytes f.calculateStreamIDLength f.streamID ++
        (getByteOrder version).bytes f.getOffsetLength f.offset ++
        f.lengthBytes (getByteOrder version) ++ f.data)) := by
  have written : ¬(f.data.length = 0 ∧ ¬f.finBit = true) := by
    rintro ⟨empty, noFin⟩
    exact nonempty.elim (fun h => h (List.length_eq_zero_iff.mp empty)) noFin
  simp only [write, if_neg written, writeStreamID_eq _ idBound,
    writeOffset_eq _ offsetBound, Nat.mod_eq_of_lt lenBound]
  rfl

end MPQuic
