import MPQuic.Wire.PublicHeader
import MPQuic.Wire.StreamFrame

/-!
# Parsing the public header

`ParsePublicHeader` of `internal/wire/public_header.go`. Which fields a header has is decided three
times: by `Write`, by `GetLength` and by the parser, from flags whose meaning depends on who sent
the packet.

* `parsePublicHeader_write`: on every header that an endpoint builds the three agree, and the
  parser gives back what was written and leaves the payload.
-/

namespace MPQuic

open ByteCodec ByteOrder PublicHeader

/-- The digits of a version tag, in the arithmetic of 32-bit words. -/
def versionTagToNumber (v : Nat) : VersionNumber :=
  ((subUint32 (v / 2 ^ 8 % 256) 48 * 100 + subUint32 (v / 2 ^ 16 % 256) 48 * 10 +
    subUint32 (v / 2 ^ 24 % 256) 48) % 2 ^ 32 : Nat)

/-- The length of the packet number that the flags announce. -/
def packetNumberLenOfFlags (publicFlagByte : UInt8) : Nat :=
  if publicFlagByte &&& 0x30 = 0x30 then 6
  else if publicFlagByte &&& 0x30 = 0x20 then 4
  else if publicFlagByte &&& 0x30 = 0x10 then 2
  else 1

def readVersion : Reader WireError VersionNumber := do
  let versionTag ← littleEndian.readUint32
  return versionTagToNumber versionTag

/-- The loop over the versions of a version negotiation packet. It runs to the end of the packet,
whose length is a multiple of four. -/
def readSupportedVersions : Nat → Reader WireError (List VersionNumber)
  | 0 => pure []
  | count + 1 => do
    let v ← readVersion
    let rest ← readSupportedVersions count
    return v :: rest

def parsePublicHeader (packetSentBy : Perspective) (version : VersionNumber) :
    Reader WireError PublicHeader := do
  let publicFlagByte ← readUint8
  let resetFlag := decide (publicFlagByte &&& 0x02 > 0)
  let versionFlag := decide (publicFlagByte &&& 0x01 > 0)
  failIf (version = versionUnknown && !(versionFlag || resetFlag)) .errPacketWithUnknownVersion
  let truncateConnectionID := decide (publicFlagByte &&& 0x08 = 0)
  failIf (truncateConnectionID && packetSentBy = .client) .errReceivedTruncatedConnectionID
  let header : PublicHeader :=
    { connectionID := 0
      resetFlag
      versionFlag
      truncateConnectionID
      multipathFlag := decide (publicFlagByte &&& 0x40 > 0) }
  let packetNumberLen :=
    if header.hasPacketNumber packetSentBy then packetNumberLenOfFlags publicFlagByte else 0
  let connectionID ← readIf (!truncateConnectionID) littleEndian.readUint64 0
  failIf (!truncateConnectionID && connectionID = 0) .errInvalidConnectionID
  -- a nonce is not expected next to the other two flags, whatever the flag byte says
  let diversificationNonce ← readIf (packetSentBy = .server && publicFlagByte &&& 0x04 > 0 &&
    (!versionFlag && !resetFlag)) (ioReadFull 32) []
  let header := { header with packetNumberLen, connectionID, diversificationNonce }
  if !resetFlag && versionFlag && packetSentBy = .server then
    let available ← unread
    failIf (available.length % 4 ≠ 0) .invalidVersionNegotiationPacket
    let supportedVersions ← readSupportedVersions (available.length / 4)
    return { header with supportedVersions }
  else
    let versionNumber ← readIf (!resetFlag && versionFlag) readVersion 0
    let version := if !resetFlag && versionFlag then versionNumber else version
    let pathID ← readIf header.multipathFlag readUint8 0
    let packetNumber ← readIf (header.hasPacketNumber packetSentBy)
      ((getByteOrder version).readUintN packetNumberLen) 0
    return { header with versionNumber, pathID, packetNumber }

/-! ## Versions -/

/-- The three digits of a version number, encoded and decoded. -/
theorem digits_of_tag {a b c : Nat} (hundreds : a < 10) (tens : b < 10) (ones : c < 10) :
    versionTagToNumber ((81 + (a + 48) * 2 ^ 8 + (b + 48) * 2 ^ 16 + (c + 48) * 2 ^ 24) % 2 ^ 32) =
      (a * 100 + b * 10 + c : Nat) := by
  have first : (81 + (a + 48) * 2 ^ 8 + (b + 48) * 2 ^ 16 + (c + 48) * 2 ^ 24) % 2 ^ 32 / 2 ^ 8 %
      256 = a + 48 := by omega
  have second : (81 + (a + 48) * 2 ^ 8 + (b + 48) * 2 ^ 16 + (c + 48) * 2 ^ 24) % 2 ^ 32 /
      2 ^ 16 % 256 = b + 48 := by omega
  have third : (81 + (a + 48) * 2 ^ 8 + (b + 48) * 2 ^ 16 + (c + 48) * 2 ^ 24) % 2 ^ 32 /
      2 ^ 24 % 256 = c + 48 := by omega
  have digit : ∀ d, d < 10 → subUint32 (d + 48) 48 = d := by
    intro d small
    unfold subUint32
    omega
  unfold versionTagToNumber
  rw [first, second, third, digit a hundreds, digit b tens, digit c ones,
    Nat.mod_eq_of_lt (by omega)]

theorem versionTagToNumber_versionNumberToTag {vn : VersionNumber} (lower : 0 ≤ vn)
    (upper : vn ≤ 999) : versionTagToNumber (versionNumberToTag vn) = vn := by
  obtain ⟨n, rfl⟩ := Int.eq_ofNat_of_zero_le lower
  have small : n ≤ 999 := Int.ofNat_le.mp upper
  have word : ((n : Int) % 2 ^ 32).toNat = n := by omega
  have digits : n / 100 % 10 * 100 + n / 10 % 10 * 10 + n % 10 = n := by omega
  simp only [versionNumberToTag, word]
  rw [digits_of_tag (Nat.mod_lt _ (by decide)) (Nat.mod_lt _ (by decide))
    (Nat.mod_lt _ (by decide)), digits]

theorem versionNumberToTag_lt (vn : VersionNumber) : versionNumberToTag vn < 2 ^ 32 :=
  Nat.mod_lt _ (by decide)

/-! ## The flag byte -/

/-- What the parser reads out of a flag byte. -/
structure FlagByteReads (b : UInt8) (versionFlag resetFlag truncateConnectionID nonce
    multipathFlag : Bool) (packetNumberLen : Nat) : Prop where
  reset : decide (b &&& 0x02 > 0) = resetFlag
  version : decide (b &&& 0x01 > 0) = versionFlag
  truncate : decide (b &&& 0x08 = 0) = truncateConnectionID
  nonce : decide (b &&& 0x04 > 0) = nonce
  multipath : decide (b &&& 0x40 > 0) = multipathFlag
  packetNumberLen : packetNumberLenOfFlags b = packetNumberLen

theorem publicFlagByte_reads (h : PublicHeader) (pers : Perspective)
    (chosen : h.packetNumberLen ∈ packetNumberLens) :
    FlagByteReads (h.publicFlagByte pers) h.versionFlag h.resetFlag h.truncateConnectionID
      (decide (h.diversificationNonce ≠ [])) h.multipathFlag
      (if h.hasPacketNumber pers then h.packetNumberLen else 1) := by
  have table : ∀ v r t n p m : Bool, ∀ len ∈ packetNumberLens,
      let b : UInt8 := (if v then 0x01 else 0x00) ||| (if r then 0x02 else 0x00) |||
        (if t then 0x00 else 0x08) ||| (if n then 0x04 else 0x00) |||
        (if p then packetNumberLenBits len else 0x00) |||
        (if m then 0x40 else 0x00)
      decide (b &&& 0x02 > 0) = r ∧ decide (b &&& 0x01 > 0) = v ∧ decide (b &&& 0x08 = 0) = t ∧
        decide (b &&& 0x04 > 0) = n ∧ decide (b &&& 0x40 > 0) = m ∧
        packetNumberLenOfFlags b = if p then len else 1 := by
    decide +kernel
  have flagByte : h.publicFlagByte pers = (if h.versionFlag then 0x01 else 0x00) |||
      (if h.resetFlag then 0x02 else 0x00) ||| (if h.truncateConnectionID then 0x00 else 0x08) |||
      (if decide (h.diversificationNonce ≠ []) then 0x04 else 0x00) |||
      (if h.hasPacketNumber pers then packetNumberLenBits h.packetNumberLen
        else 0x00) ||| (if h.multipathFlag then 0x40 else 0x00) := by
    unfold publicFlagByte
    by_cases empty : h.diversificationNonce = []
    · simp [empty]
    · simp [empty]
  obtain ⟨reset, version, truncate, nonce, multipath, len⟩ := table h.versionFlag h.resetFlag
    h.truncateConnectionID (decide (h.diversificationNonce ≠ [])) (h.hasPacketNumber pers)
    h.multipathFlag h.packetNumberLen chosen
  rw [flagByte]
  exact ⟨reset, version, truncate, nonce, multipath, len⟩

/-! ## The round trip -/

/-- The headers that the endpoints build. -/
structure PublicHeader.Built (h : PublicHeader) (version : VersionNumber) (pers : Perspective) :
    Prop where
  flags : ¬(h.versionFlag = true ∧ h.resetFlag = true)
  packetNumberLen : h.packetNumberLen ∈ packetNumberLens
  connectionID : h.truncateConnectionID = false → 0 < h.connectionID ∧ h.connectionID < 2 ^ 64
  truncated : h.truncateConnectionID = true → pers = .server
  nonce : h.diversificationNonce ≠ [] → h.diversificationNonce.length = 32 ∧ pers = .server ∧
    h.versionFlag = false ∧ h.resetFlag = false
  versionFlag : h.versionFlag = true → pers = .client ∧ h.versionNumber = version ∧
    0 ≤ h.versionNumber ∧ h.versionNumber ≤ 999

/-- The fields of a header that go on the wire, all others empty. -/
def PublicHeader.written (h : PublicHeader) (pers : Perspective) : PublicHeader where
  connectionID := if h.truncateConnectionID then 0 else h.connectionID
  pathID := if h.multipathFlag then h.pathID else 0
  versionFlag := h.versionFlag
  resetFlag := h.resetFlag
  truncateConnectionID := h.truncateConnectionID
  multipathFlag := h.multipathFlag
  packetNumberLen := if h.hasPacketNumber pers then h.packetNumberLen else 0
  packetNumber :=
    if h.hasPacketNumber pers then h.packetNumber % 2 ^ (8 * h.packetNumberLen) else 0
  versionNumber := if h.versionFlag then h.versionNumber else 0
  diversificationNonce := h.diversificationNonce

/-- The packet number, cut to its length. -/
def PublicHeader.packetNumberBytes (h : PublicHeader) (version : VersionNumber)
    (pers : Perspective) : List UInt8 :=
  if h.hasPacketNumber pers then
    (getByteOrder version).bytes h.packetNumberLen
      (h.packetNumber % 2 ^ (8 * h.packetNumberLen))
  else []

namespace PublicHeader.Built

variable {h : PublicHeader} {version : VersionNumber} {pers : Perspective}

section

variable (built : h.Built version pers) (rest : List UInt8)

include built

theorem write_eq :
    h.write version pers = .ok (h.leadingBytes pers ++ h.packetNumberBytes version pers) := by
  have nonce : ¬(h.diversificationNonce ≠ [] ∧ h.diversificationNonce.length ≠ 32) :=
    fun wrong => wrong.2 (built.nonce wrong.1).1
  unfold PublicHeader.write packetNumberBytes
  rw [if_neg built.flags, if_neg nonce]
  cases h.hasPacketNumber pers with
  | false => simp
  | true =>
    have chosen := built.packetNumberLen
    simp only [packetNumberLens, List.mem_cons, List.not_mem_nil, or_false] at chosen
    rcases chosen with len | len | len | len <;> rw [len]
    · have sameByte :
          UInt8.ofNat h.packetNumber = UInt8.ofNat (h.packetNumber % 2 ^ (8 * 1)) := by
        rw [← UInt8.toNat_inj, UInt8.toNat_ofNat', UInt8.toNat_ofNat', Nat.mod_mod]
      rw [if_pos rfl, bytes_one, ← sameByte]
      rfl
    · rfl
    · rfl
    · rfl

theorem getLength_eq :
    h.getLength pers =
      .ok (h.leadingBytes pers ++ h.packetNumberBytes version pers).length := by
  have negotiation : ¬(h.versionFlag = true ∧ pers = .server) := by
    rintro ⟨flag, rfl⟩
    exact absurd (built.versionFlag flag).1 (by decide)
  have chosen : ¬(h.hasPacketNumber pers = true ∧ h.packetNumberLen ∉ packetNumberLens) :=
    fun wrong => wrong.2 built.packetNumberLen
  have numberBytes : (h.packetNumberBytes version pers).length =
      if h.hasPacketNumber pers then h.packetNumberLen else 0 := by
    unfold packetNumberBytes
    cases h.hasPacketNumber pers with
    | false => rfl
    | true => exact bytes_length _ _ _
  unfold getLength
  rw [if_neg built.flags, if_neg negotiation, if_neg chosen, List.length_append,
    length_leadingBytes negotiation, numberBytes]
  congr 1
  omega

theorem reads_connectionID :
    Reads (readIf (!h.truncateConnectionID) littleEndian.readUint64 0)
      ((if h.truncateConnectionID then []
        else littleEndian.writeUint64 h.connectionID) ++ rest)
      (h.written pers).connectionID rest := by
  unfold written
  cases truncated : h.truncateConnectionID with
  | true => exact Reads.readIf_false _
  | false =>
    have run := littleEndian.readUint64_bytes h.connectionID rest
    rw [Nat.mod_eq_of_lt (built.connectionID truncated).2] at run
    exact Reads.readIf_true run

/-- The parser looks for a nonce only where one may have been written. -/
theorem reads_nonce :
    Reads (readIf (decide (pers = .server) && decide (h.diversificationNonce ≠ []) &&
        (!h.versionFlag && !h.resetFlag)) (ioReadFull 32) [])
      (h.diversificationNonce ++ rest) h.diversificationNonce rest := by
  by_cases empty : h.diversificationNonce = []
  · rw [empty]
    simpa using Reads.readIf_false (p := ioReadFull 32) rest
  · obtain ⟨length, rfl, noVersion, noReset⟩ := built.nonce empty
    have run : Reads (ioReadFull h.diversificationNonce.length) (h.diversificationNonce ++ rest)
        h.diversificationNonce rest := Reads.full _ _ _
    rw [length] at run
    simpa [empty, noVersion, noReset] using Reads.readIf_true run

theorem reads_versionNumber :
    Reads (readIf (!h.resetFlag && h.versionFlag) readVersion 0)
      ((if h.versionFlag ∧ pers = .client then
        littleEndian.writeUint32 (versionNumberToTag h.versionNumber) else []) ++ rest)
      (h.written pers).versionNumber rest := by
  unfold written
  cases flag : h.versionFlag with
  | false => simpa using Reads.readIf_false (p := readVersion) rest
  | true =>
    obtain ⟨client, -, lower, upper⟩ := built.versionFlag flag
    have noReset : h.resetFlag = false := by
      cases reset : h.resetFlag with
      | false => rfl
      | true => exact absurd ⟨flag, reset⟩ built.flags
    have run := littleEndian.readUint32_bytes (versionNumberToTag h.versionNumber) rest
    rw [Nat.mod_eq_of_lt (versionNumberToTag_lt _)] at run
    have parsed : Reads readVersion (littleEndian.writeUint32
        (versionNumberToTag h.versionNumber) ++ rest) h.versionNumber rest := by
      refine Reads.bind run ?_
      rw [versionTagToNumber_versionNumberToTag lower upper]
      exact Reads.pure _ _
    simpa [client, noReset] using Reads.readIf_true parsed

/-- The writer puts the version in front of the nonce and the parser reads the nonce first: a
header never has both. -/
theorem nonce_before_version (versionBytes rest : List UInt8) :
    (if h.versionFlag ∧ pers = .client then versionBytes else []) ++
        (h.diversificationNonce ++ rest) =
      h.diversificationNonce ++
        ((if h.versionFlag ∧ pers = .client then versionBytes else []) ++ rest) := by
  by_cases empty : h.diversificationNonce = []
  · rw [empty]
    rfl
  · have noVersion : ¬(h.versionFlag = true ∧ pers = .client) := by
      rw [(built.nonce empty).2.2.1]
      exact fun wrong => absurd wrong.1 (by decide)
    rw [if_neg noVersion]
    rfl

end

theorem reads_pathID (h : PublicHeader) (pers : Perspective) (rest : List UInt8) :
    Reads (readIf h.multipathFlag readUint8 0)
      ((if h.multipathFlag then [h.pathID] else []) ++ rest) (h.written pers).pathID rest := by
  unfold written
  cases h.multipathFlag with
  | false => exact Reads.readIf_false _
  | true => exact Reads.readIf_true (Reads.byte _ _ _)

theorem reads_packetNumber (h : PublicHeader) (version : VersionNumber) (pers : Perspective)
    (rest : List UInt8) :
    Reads (readIf (h.hasPacketNumber pers)
        ((getByteOrder version).readUintN (h.written pers).packetNumberLen) 0)
      (h.packetNumberBytes version pers ++ rest) (h.written pers).packetNumber rest := by
  unfold written packetNumberBytes
  cases h.hasPacketNumber pers with
  | false => exact Reads.readIf_false _
  | true =>
    have run := (getByteOrder version).readUintN_bytes h.packetNumberLen
      (h.packetNumber % 2 ^ (8 * h.packetNumberLen)) rest
    rw [Nat.mod_mod] at run
    exact Reads.readIf_true run

/-- The parser on the bytes of the header, in front of any payload. -/
theorem parses (built : h.Built version pers) (known : version ≠ versionUnknown)
    (payload : List UInt8) :
    Reads (parsePublicHeader pers version)
      (h.leadingBytes pers ++ h.packetNumberBytes version pers ++ payload)
      (h.written pers) payload := by
  have flags := publicFlagByte_reads h pers built.packetNumberLen
  have knownVersion : (decide (version = versionUnknown) && !(h.versionFlag || h.resetFlag)) =
      false := by
    simp [known]
  have notTruncated : (h.truncateConnectionID && decide (pers = .client)) = false := by
    cases truncated : h.truncateConnectionID with
    | false => rfl
    | true =>
      rw [built.truncated truncated]
      rfl
  have nonzero : (!h.truncateConnectionID && decide ((h.written pers).connectionID = 0)) =
      false := by
    unfold written
    cases truncated : h.truncateConnectionID with
    | true => rfl
    | false =>
      have positive := (built.connectionID truncated).1
      simp [Nat.ne_of_gt positive]
  have noNegotiation : (!h.resetFlag && h.versionFlag && decide (pers = .server)) = false := by
    cases flag : h.versionFlag with
    | false => simp
    | true =>
      rw [(built.versionFlag flag).1]
      simp
  have sameVersion : (if (!h.resetFlag && h.versionFlag) = true then
      (h.written pers).versionNumber else version) = version := by
    unfold written
    cases flag : h.versionFlag with
    | false => simp
    | true => simp [(built.versionFlag flag).2.1]
  have hasNumber : hasPacketNumber
      { connectionID := 0, resetFlag := h.resetFlag, versionFlag := h.versionFlag,
        truncateConnectionID := h.truncateConnectionID, multipathFlag := h.multipathFlag } pers =
      h.hasPacketNumber pers := rfl
  have numberLen : (if h.hasPacketNumber pers then
      (if h.hasPacketNumber pers then h.packetNumberLen else 1) else 0) =
        (h.written pers).packetNumberLen := by
    unfold written
    cases h.hasPacketNumber pers <;> rfl
  unfold leadingBytes
  simp only [List.cons_append, List.append_assoc]
  unfold parsePublicHeader
  refine Reads.bind (Reads.byte _ _ _) ?_
  simp only [flags.reset, flags.version, flags.truncate, flags.nonce, flags.multipath,
    flags.packetNumberLen, hasNumber, numberLen]
  refine Reads.bind (Reads.failIf knownVersion _) ?_
  refine Reads.bind (Reads.failIf notTruncated _) ?_
  refine Reads.bind (built.reads_connectionID _) ?_
  refine Reads.bind (Reads.failIf nonzero _) ?_
  rw [built.nonce_before_version]
  refine Reads.bind (built.reads_nonce _) ?_
  rw [if_neg (by simp [noNegotiation])]
  refine Reads.bind (built.reads_versionNumber _) ?_
  simp only [sameVersion]
  refine Reads.bind (reads_pathID h pers _) ?_
  refine Reads.bind (reads_packetNumber h version pers _) ?_
  exact Reads.pure _ _

end PublicHeader.Built

/-- Every header that an endpoint builds is as long as `GetLength` says, and the peer, which knows
the version, reads from it exactly the fields that were written. -/
theorem parsePublicHeader_write {h : PublicHeader} {version : VersionNumber} {pers : Perspective}
    (built : h.Built version pers) (known : version ≠ versionUnknown) :
    ∃ bytes, h.write version pers = .ok bytes ∧ h.getLength pers = .ok bytes.length ∧
      ∀ payload, Reads (parsePublicHeader pers version) (bytes ++ payload) (h.written pers)
        payload :=
  ⟨_, built.write_eq, built.getLength_eq, built.parses known⟩

/-- The first packet of a client on a second path, in the multipath version. -/
theorem parsePublicHeader_write_firstPacket :
    let h : PublicHeader :=
      { connectionID := 7, pathID := 3, versionFlag := true, multipathFlag := true,
        packetNumberLen := 2, packetNumber := 70000, versionNumber := versionMP }
    ∃ bytes, h.write versionMP .client = .ok bytes ∧ h.getLength .client = .ok bytes.length ∧
      ∀ payload, Reads (parsePublicHeader .client versionMP) (bytes ++ payload)
        { h with packetNumber := 4464 } payload :=
  parsePublicHeader_write ⟨by decide, by decide, by decide, by decide, by decide, by decide⟩
    (by decide)

end MPQuic
