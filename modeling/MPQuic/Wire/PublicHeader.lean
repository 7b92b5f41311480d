import MPQuic.Wire.AckRange

/-!
# The public header

The part of `internal/wire/public_header.go` that writes headers, and the arithmetic on packet
numbers of `internal/protocol/packet_number.go`. A header carries the packet number cut to as
many bytes as the sender chooses; the receiver completes it from the largest number it has seen.
-/

namespace MPQuic

open ByteOrder

/-- The header of a packet. -/
structure PublicHeader where
  connectionID : Nat
  pathID : PathID := initialPathID
  versionFlag : Bool := false
  resetFlag : Bool := false
  truncateConnectionID : Bool := false
  multipathFlag : Bool := false
  packetNumberLen : Nat := 0
  packetNumber : Nat := 0
  /-- the version sent by the client -/
  versionNumber : VersionNumber := 0
  /-- the versions sent by the server -/
  supportedVersions : List VersionNumber := []
  diversificationNonce : List UInt8 := []
  deriving DecidableEq, Repr

/-- The errors of the header. -/
inductive HeaderError where
  | errResetAndVersionFlagSet
  | errGetLengthNotForVersionNegotiation
  | errPacketNumberLenNotSet
  /-- "invalid diversification nonce length" -/
  | invalidDiversificationNonceLength
  /-- "PublicHeader: PacketNumberLen not set" -/
  | packetNumberLenNotSet
  deriving DecidableEq, Repr

/-- The tag 'Q' and three digits, in the bytes of a 32-bit word. -/
def versionNumberToTag (vn : VersionNumber) : Nat :=
  let v := (vn % 2 ^ 32).toNat
  (81 + (v / 100 % 10 + 48) * 2 ^ 8 + (v / 10 % 10 + 48) * 2 ^ 16 + (v % 10 + 48) * 2 ^ 24) % 2 ^ 32

namespace PublicHeader

variable {bytes : List UInt8} {length : Nat}

variable (h : PublicHeader)

/-- A packet has a number unless it is a public reset or negotiates the version. -/
def hasPacketNumber (packetSentBy : Perspective) : Bool :=
  if h.resetFlag then false
  else if h.versionFlag ∧ packetSentBy = .server then false
  else true

def getLength (pers : Perspective) : Except HeaderError Nat :=
  if h.versionFlag ∧ h.resetFlag then .error .errResetAndVersionFlagSet
  else if h.versionFlag ∧ pers = .server then .error .errGetLengthNotForVersionNegotiation
  else if h.hasPacketNumber pers ∧ h.packetNumberLen ∉ packetNumberLens then
    .error .errPacketNumberLenNotSet
  else
    .ok (1 + (if h.hasPacketNumber pers then h.packetNumberLen else 0) +
      (if h.truncateConnectionID then 0 else 8) + (if h.versionFlag then 4 else 0) +
      h.diversificationNonce.length + (if h.multipathFlag then 1 else 0))

/-- The bits that tell the length of the packet number. -/
def packetNumberLenBits : Nat → UInt8
  | 2 => 0x10
  | 4 => 0x20
  | 6 => 0x30
  | _ => 0x00

def publicFlagByte (pers : Perspective) : UInt8 :=
  (if h.versionFlag then 0x01 else 0x00) ||| (if h.resetFlag then 0x02 else 0x00) |||
    (if h.truncateConnectionID then 0x00 else 0x08) |||
    (if h.diversificationNonce = [] then 0x00 else 0x04) |||
    (if h.hasPacketNumber pers then packetNumberLenBits h.packetNumberLen else 0x00) |||
    (if h.multipathFlag then 0x40 else 0x00)

/-- The connection ID and the version tag are little endian in every version. -/
def leadingBytes (pers : Perspective) : List UInt8 :=
  h.publicFlagByte pers ::
    ((if h.truncateConnectionID then [] else littleEndian.writeUint64 h.connectionID) ++
      ((if h.versionFlag ∧ pers = .client then
          littleEndian.writeUint32 (versionNumberToTag h.versionNumber) else []) ++
        (h.diversificationNonce ++ (if h.multipathFlag then [h.pathID] else []))))

def write (version : VersionNumber) (pers : Perspective) : Except HeaderError (List UInt8) :=
  if h.versionFlag ∧ h.resetFlag then .error .errResetAndVersionFlagSet
  else if h.diversificationNonce ≠ [] ∧ h.diversificationNonce.length ≠ 32 then
    .error .invalidDiversificationNonceLength
  else if ¬ h.hasPacketNumber pers then .ok (h.leadingBytes pers)
  else
    let order := getByteOrder version
    match h.packetNumberLen with
    | 1 => .ok (h.leadingBytes pers ++ [UInt8.ofNat h.packetNumber])
    | 2 => .ok (h.leadingBytes pers ++ order.writeUint16 (h.packetNumber % 2 ^ 16))
    | 4 => .ok (h.leadingBytes pers ++ order.writeUint32 (h.packetNumber % 2 ^ 32))
    -- the value is masked to 48 bits, so that the writer does not refuse it
    | 6 => .ok (h.leadingBytes pers ++ order.bytes 6 (h.packetNumber % 2 ^ 48))
    | _ => .error .packetNumberLenNotSet

variable {h : PublicHeader} {version : VersionNumber} {pers : Perspective}

theorem length_leadingBytes (notNegotiation : ¬(h.versionFlag = true ∧ pers = .server)) :
    (h.leadingBytes pers).length =
      1 + (if h.truncateConnectionID then 0 else 8) + (if h.versionFlag then 4 else 0) +
        h.diversificationNonce.length + (if h.multipathFlag then 1 else 0) := by
  have idBytes : (if h.truncateConnectionID then []
      else littleEndian.writeUint64 h.connectionID).length =
        if h.truncateConnectionID then 0 else 8 := by
    cases h.truncateConnectionID with
    | false => exact bytes_length .littleEndian 8 _
    | true => rfl
  have versionBytes : (if h.versionFlag ∧ pers = .client then
      littleEndian.writeUint32 (versionNumberToTag h.versionNumber) else []).length =
        if h.versionFlag then 4 else 0 := by
    cases flag : h.versionFlag with
    | false => rfl
    | true =>
      cases pers with
      | client => exact bytes_length .littleEndian 4 _
      | server => exact absurd ⟨flag, rfl⟩ notNegotiation
  have pathBytes : (if h.multipathFlag then [h.pathID] else []).length =
      if h.multipathFlag then 1 else 0 := by
    cases h.multipathFlag <;> rfl
  unfold leadingBytes
  rw [List.length_cons, List.length_append, List.length_append, List.length_append, idBytes,
    versionBytes, pathBytes]
  omega

/-- A header that is written has the length that `GetLength` says. -/
theorem length_write (written : h.write version pers = .ok bytes)
    (told : h.getLength pers = .ok length) : bytes.length = length := by
  unfold getLength at told
  split at told
  · cases told
  · split at told
    · cases told
    · rename_i notNegotiation
      split at told
      · cases told
      · cases told
        have leading := length_leadingBytes notNegotiation
        unfold write at written
        split at written
        · cases written
        · split at written
          · cases written
          · split at written
            · rename_i noNumber
              cases written
              rw [leading, if_neg noNumber]
            · rename_i number
              rw [if_pos (not_not.mp number)]
              simp only at written
              split at written <;> cases written <;>
                simp only [*, List.length_append, List.length_singleton, writeUint16,
                  writeUint32, bytes_length] <;> omega

/-- The largest header has a nonce. -/
theorem length_write_le (written : h.write version pers = .ok bytes)
    (told : h.getLength pers = .ok length) : length ≤ 52 := by
  have nonce : h.diversificationNonce.length ≤ 32 := by
    unfold write at written
    split at written
    · cases written
    · split at written
      · cases written
      · rename_i allowed
        by_cases empty : h.diversificationNonce = []
        · simp [empty]
        · have exactly := not_not.mp (not_and.mp allowed empty)
          omega
  unfold getLength at told
  split at told
  · cases told
  · split at told
    · cases told
    · split at told
      · cases told
      · rename_i chosen
        cases told
        have number : (if h.hasPacketNumber pers then h.packetNumberLen else 0) ≤ 6 := by
          split
          · rename_i has
            have mem := not_not.mp (not_and.mp chosen has)
            simp only [packetNumberLens, List.mem_cons, List.not_mem_nil, or_false] at mem
            omega
          · omega
        split_ifs at number ⊢ <;> omega

end PublicHeader

/-! ## Packet numbers -/

/-- One byte is never chosen. -/
def getPacketNumberLengthForPublicHeader (packetNumber leastUnacked : Nat) : Nat :=
  let diff := subUint64 packetNumber leastUnacked
  if diff < 2 ^ 15 then 2 else if diff < 2 ^ 31 then 4 else 6

/-- The distance of two numbers. -/
def packetNumberDelta (a b : Nat) : Nat := if a < b then b - a else a - b

def closestTo (target a b : Nat) : Nat :=
  if packetNumberDelta target a < packetNumberDelta target b then a else b

/-- The number closest to the one after the last seen, among those that end in the bytes on the
wire, in the epoch of the last seen number, the one before and the one after. -/
def inferPacketNumber (packetNumberLength lastPacketNumber wirePacketNumber : Nat) : Nat :=
  let epochDelta := 2 ^ (packetNumberLength * 8)
  let epoch := lastPacketNumber / epochDelta * epochDelta
  let prevEpochBegin := subUint64 epoch epochDelta
  let nextEpochBegin := addUint64 epoch epochDelta
  let target := addUint64 lastPacketNumber 1
  closestTo target (addUint64 epoch wirePacketNumber)
    (closestTo target (addUint64 prevEpochBegin wirePacketNumber)
      (addUint64 nextEpochBegin wirePacketNumber))

end MPQuic
