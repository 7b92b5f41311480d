import MPQuic.Lib.ByteCodec
import MPQuic.Protocol

/-!
# Byte orders

`internal/utils/byteorder.go` and its two implementations: integers on the wire
are little endian before version 39 and big endian from then on. The writers of
24, 40, 48 and 56 bits panic when the value does not fit; a panic is the error
`WireError.panic` here, so that its absence can be stated.

The 16-bit float of `internal/utils/float16.go` carries acknowledgement delays.
-/

namespace MPQuic

open ByteCodec

/-- The errors of the frame readers and writers of `internal/wire`, and of its header parser. -/
inductive WireError where
  /-- `io.EOF` -/
  | eof
  /-- `io.ErrUnexpectedEOF` -/
  | unexpectedEOF
  /-- `qerr.InvalidStreamData` with the given text -/
  | invalidStreamData (reason : String)
  /-- `qerr.EmptyStreamFrameNoFin` -/
  | emptyStreamFrameNoFin
  /-- "StreamFrame: attempting to write empty frame without FIN" -/
  | writeEmptyFrameWithoutFin
  | errInvalidStreamIDLen
  | errInvalidOffsetLen
  | errInvalidAckRanges
  | errInvalidFirstAckRange
  | errInconsistentAckLargestAcked
  | errInconsistentAckLowestAcked
  /-- "BUG: Inconsistent number of ACK ranges written" -/
  | inconsistentNumberOfAckRanges
  /-- "PathsFrame: more paths than the maximum enabled" -/
  | errTooManyPaths
  /-- `qerr.InvalidConnectionCloseData` with the given text -/
  | invalidConnectionCloseData (reason : String)
  /-- `qerr.InvalidGoawayData` with the given text -/
  | invalidGoawayData (reason : String)
  /-- `qerr.InvalidStopWaitingData` with the given text -/
  | invalidStopWaitingData (reason : String)
  /-- "AddAddressFrame: unknown IP version" -/
  | errUnknownIPVersion
  /-- `wire.ErrPacketWithUnknownVersion` -/
  | errPacketWithUnknownVersion
  /-- "receiving packets with truncated ConnectionID is not supported" -/
  | errReceivedTruncatedConnectionID
  /-- "connection ID cannot be 0" -/
  | errInvalidConnectionID
  /-- `qerr.InvalidVersionNegotiationPacket` -/
  | invalidVersionNegotiationPacket
  /-- an index outside a slice, or an explicit `panic` -/
  | panic (reason : String)
  deriving DecidableEq, Repr

inductive ByteOrder where
  | littleEndian
  | bigEndian
  deriving DecidableEq, Repr

/-- The byte order of a protocol version. -/
def getByteOrder (version : VersionNumber) : ByteOrder :=
  if version < version39 then .littleEndian else .bigEndian

/-- `bytes.Reader.ReadByte`. -/
def readUint8 : Reader WireError UInt8 := readByte .eof

/-- The reader fails with an error value of the source, if it fails. -/
abbrev NoPanic {α : Type} (p : Reader WireError α) : Prop :=
  Avoids (fun err => ∃ reason, err = .panic reason) p

theorem noPanic_readUint8 : NoPanic readUint8 := Avoids.byte (by simp)

variable (order : ByteOrder) (v : Nat) (rest : List UInt8)

namespace ByteOrder

/-- The `w` low bytes of `v` in the given order. -/
def bytes : ByteOrder → Nat → Nat → List UInt8
  | .littleEndian => leBytes
  | .bigEndian => beBytes

@[simp] theorem bytes_length (w v : Nat) :
    (order.bytes w v).length = w := by
  cases order <;> simp [bytes]

/-! ## Writers -/

def writeUint16 (i : Nat) : List UInt8 := order.bytes 2 i

def writeUint32 (i : Nat) : List UInt8 := order.bytes 4 i

def writeUint64 (i : Nat) : List UInt8 := order.bytes 8 i

/-- The writers of widths that are no machine word refuse a value that does not fit. -/
def writeFitting (w i : Nat) (reason : String) :
    Except WireError (List UInt8) :=
  if 2 ^ (8 * w) ≤ i then .error (.panic reason) else .ok (order.bytes w i)

def writeUint24 (i : Nat) : Except WireError (List UInt8) :=
  order.writeFitting 3 i "doesn't fit into 24 bits"

def writeUint40 (i : Nat) : Except WireError (List UInt8) :=
  order.writeFitting 5 i "doesn't fit into 40 bits"

def writeUint48 (i : Nat) : Except WireError (List UInt8) :=
  order.writeFitting 6 i "doesn't fit into 48 bits"

def writeUint56 (i : Nat) : Except WireError (List UInt8) :=
  order.writeFitting 7 i "doesn't fit into 56 bits"

theorem writeFitting_ok {order : ByteOrder} {w i : Nat} {reason : String}
    (fits : i < 2 ^ (8 * w)) : order.writeFitting w i reason = .ok (order.bytes w i) := by
  rw [writeFitting, if_neg (not_le.mpr fits)]

/-! ## Readers -/

/-- Read `length` bytes as one integer; `length` is at most eight in every caller. -/
def readUintN : ByteOrder → Nat → Reader WireError Nat
  | .littleEndian, length => readXor .eof (fun i => i * 8) length 0 0
  | .bigEndian, length => readXor .eof (fun i => (length - 1 - i) * 8) length 0 0

def readUint16 : ByteOrder → Reader WireError Nat
  | .littleEndian => do
    let b1 ← readUint8
    let b2 ← readUint8
    return b1.toNat + b2.toNat <<< 8
  | .bigEndian => do
    let b2 ← readUint8
    let b1 ← readUint8
    return b1.toNat + b2.toNat <<< 8

def readUint32 : ByteOrder → Reader WireError Nat
  | .littleEndian => do
    let b1 ← readUint8
    let b2 ← readUint8
    let b3 ← readUint8
    let b4 ← readUint8
    return b1.toNat + b2.toNat <<< 8 + b3.toNat <<< 16 + b4.toNat <<< 24
  | .bigEndian => do
    let b4 ← readUint8
    let b3 ← readUint8
    let b2 ← readUint8
    let b1 ← readUint8
    return b1.toNat + b2.toNat <<< 8 + b3.toNat <<< 16 + b4.toNat <<< 24

def readUint64 : ByteOrder → Reader WireError Nat
  | .littleEndian => do
    let b1 ← readUint8
    let b2 ← readUint8
    let b3 ← readUint8
    let b4 ← readUint8
    let b5 ← readUint8
    let b6 ← readUint8
    let b7 ← readUint8
    let b8 ← readUint8
    return b1.toNat + b2.toNat <<< 8 + b3.toNat <<< 16 + b4.toNat <<< 24 + b5.toNat <<< 32 +
      b6.toNat <<< 40 + b7.toNat <<< 48 + b8.toNat <<< 56
  | .bigEndian => do
    let b8 ← readUint8
    let b7 ← readUint8
    let b6 ← readUint8
    let b5 ← readUint8
    let b4 ← readUint8
    let b3 ← readUint8
    let b2 ← readUint8
    let b1 ← readUint8
    return b1.toNat + b2.toNat <<< 8 + b3.toNat <<< 16 + b4.toNat <<< 24 + b5.toNat <<< 32 +
      b6.toNat <<< 40 + b7.toNat <<< 48 + b8.toNat <<< 56

/-- Reading back the `w` bytes of a value yields its low `8 * w` bits. -/
theorem readUintN_bytes (w v : Nat) (rest : List UInt8) :
    Reads (order.readUintN w) (order.bytes w v ++ rest) (v % 2 ^ (8 * w)) rest := by
  cases order with
  | littleEndian =>
    have run := Reads.xor_le WireError.eof v rest w 0
    simpa [readUintN, bytes, Nat.mod_one] using run
  | bigEndian =>
    have run := Reads.xor_be WireError.eof v rest w w 0 0 (zero_add w)
    simpa [readUintN, bytes] using run

theorem readUintN_bytes_of_lt {w v : Nat}
    (fits : v < 2 ^ (8 * w)) : Reads (order.readUintN w) (order.bytes w v ++ rest) v rest := by
  have run := order.readUintN_bytes w v rest
  rwa [Nat.mod_eq_of_lt fits] at run

/-- What is read in `w` bytes has no more than `8 * w` bits. -/
theorem readUintN_lt {order : ByteOrder} {w v : Nat} {input rest : List UInt8}
    (run : Reads (order.readUintN w) input v rest) : v < 2 ^ (8 * w) := by
  cases order <;> exact Reads.xor_lt w 0 0 (fun k below => by omega) (Nat.two_pow_pos _) run

theorem readUint16_bytes :
    Reads order.readUint16 (order.bytes 2 v ++ rest) (v % 2 ^ 16) rest := by
  have value : (UInt8.ofNat v).toNat + (UInt8.ofNat (v >>> 8)).toNat <<< 8 = v % 2 ^ 16 := by
    rw [toNat_ofNat_shiftRight, UInt8.toNat_ofNat', Nat.shiftLeft_eq]
    omega
  rw [← value]
  cases order <;>
    exact Reads.bind (Reads.byte _ _ _) (Reads.bind (Reads.byte _ _ _) (Reads.pure _ _))

theorem readUint32_bytes :
    Reads order.readUint32 (order.bytes 4 v ++ rest) (v % 2 ^ 32) rest := by
  have value : (UInt8.ofNat v).toNat + (UInt8.ofNat (v >>> 8)).toNat <<< 8 +
      (UInt8.ofNat (v >>> 16)).toNat <<< 16 + (UInt8.ofNat (v >>> 24)).toNat <<< 24 =
        v % 2 ^ 32 := by
    simp only [UInt8.toNat_ofNat', Nat.shiftLeft_eq, Nat.shiftRight_eq_div_pow]
    rw [mod_two_pow_add_eight v 24, mod_two_pow_add_eight v 16, mod_two_pow_add_eight v 8]
  rw [← value]
  cases order <;> rfl

theorem readUint64_bytes :
    Reads order.readUint64 (order.bytes 8 v ++ rest) (v % 2 ^ 64) rest := by
  have value : (UInt8.ofNat v).toNat + (UInt8.ofNat (v >>> 8)).toNat <<< 8 +
      (UInt8.ofNat (v >>> 16)).toNat <<< 16 + (UInt8.ofNat (v >>> 24)).toNat <<< 24 +
      (UInt8.ofNat (v >>> 32)).toNat <<< 32 + (UInt8.ofNat (v >>> 40)).toNat <<< 40 +
      (UInt8.ofNat (v >>> 48)).toNat <<< 48 + (UInt8.ofNat (v >>> 56)).toNat <<< 56 =
        v % 2 ^ 64 := by
    simp only [UInt8.toNat_ofNat', Nat.shiftLeft_eq, Nat.shiftRight_eq_div_pow]
    rw [mod_two_pow_add_eight v 56, mod_two_pow_add_eight v 48, mod_two_pow_add_eight v 40,
      mod_two_pow_add_eight v 32, mod_two_pow_add_eight v 24, mod_two_pow_add_eight v 16,
      mod_two_pow_add_eight v 8]
  rw [← value]
  cases order <;> rfl

/-! ## Readers do not panic -/

theorem noPanic_readUintN (length : Nat) : NoPanic (order.readUintN length) := by
  cases order <;> exact Avoids.xor (by simp) _ _ _ _

theorem noPanic_readUint16 : NoPanic order.readUint16 := by
  cases order
  all_goals
    exact noPanic_readUint8.bind fun _ _ _ _ => noPanic_readUint8.bind fun _ _ _ _ =>
      Avoids.pure _

theorem noPanic_readUint32 : NoPanic order.readUint32 := by
  cases order
  all_goals
    exact noPanic_readUint8.bind fun _ _ _ _ => noPanic_readUint8.bind fun _ _ _ _ =>
      noPanic_readUint8.bind fun _ _ _ _ => noPanic_readUint8.bind fun _ _ _ _ =>
        Avoids.pure _

end ByteOrder

/-! ## The 16-bit float -/

def uFloat16ExponentBits : Nat := 5

def uFloat16MaxExponent : Nat := 2 ^ uFloat16ExponentBits - 2

def uFloat16MantissaBits : Nat := 16 - uFloat16ExponentBits

def uFloat16MantissaEffectiveBits : Nat := uFloat16MantissaBits + 1

def uFloat16MaxValue : Nat := (2 ^ uFloat16MantissaEffectiveBits - 1) <<< uFloat16MaxExponent

/-- The value a 16-bit code stands for. -/
def decodeUfloat16 (val : Nat) : Nat :=
  if val < 2 ^ uFloat16MantissaEffectiveBits then val
  else
    let exponent := val >>> uFloat16MantissaBits - 1
    (val - exponent <<< uFloat16MantissaBits) <<< exponent

/-- The binary search for the exponent: halve the offset down from 16, shifting
the value whenever its highest bit lies at or above the mantissa plus the offset. -/
def normalizeUfloat16 (value : Nat) : Nat × Nat :=
  [16, 8, 4, 2, 1].foldl (fun state offset =>
    if 2 ^ (uFloat16MantissaBits + offset) ≤ state.2 then
      (state.1 + offset, state.2 >>> offset)
    else state) (0, value)

/-- The 16-bit code of a value, clamped at the largest representable one. -/
def encodeUfloat16 (value : Nat) : Nat :=
  if value < 2 ^ uFloat16MantissaEffectiveBits then value
  else if uFloat16MaxValue ≤ value then 2 ^ 16 - 1
  else
    let normalized := normalizeUfloat16 value
    (normalized.2 + normalized.1 <<< uFloat16MantissaBits) % 2 ^ 16

def ByteOrder.readUfloat16 : Reader WireError Nat := do
  let val ← order.readUint16
  return decodeUfloat16 val

def ByteOrder.writeUfloat16 (value : Nat) : List UInt8 :=
  order.writeUint16 (encodeUfloat16 value)

theorem ByteOrder.noPanic_readUfloat16 : NoPanic order.readUfloat16 :=
  order.noPanic_readUint16.bind fun _ _ _ _ => Avoids.pure _

theorem ByteOrder.readUfloat16_bytes :
    Reads order.readUfloat16 (order.bytes 2 v ++ rest) (decodeUfloat16 (v % 2 ^ 16)) rest :=
  Reads.bind (order.readUint16_bytes v rest) (Reads.pure _ _)

end MPQuic
