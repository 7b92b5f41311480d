import MPQuic.Wire.PublicHeaderCodec

/-!
# Version negotiation packets

`internal/wire/version_negotiation.go`. A server that does not support the version of a client
answers with the versions that it supports, as a list of tags. The client reads the tags to the
end of the packet and turns each into a number, whether it knows the version or not
(`reads_versionNegotiation`).
-/

namespace MPQuic

open ByteCodec ByteOrder

variable (connectionID : Nat) (tags : List UInt32) (versions : List VersionNumber)

/-- A version for when it does not matter. -/
def versionWhatever : VersionNumber := 0

/-- A list of version tags, as the packet and the server hello carry it. -/
def versionTagBytes (tags : List UInt32) : List UInt8 :=
  tags.flatMap fun tag => littleEndian.writeUint32 tag.toNat

def versionOfTag (tag : UInt32) : VersionNumber := versionTagToNumber tag.toNat

def tagOfVersion (vn : VersionNumber) : UInt32 := UInt32.ofNat (versionNumberToTag vn)

def versionNegotiationHeader (connectionID : Nat) : PublicHeader :=
  { connectionID, packetNumber := 1, versionFlag := true }

/-- If the header cannot be written, the packet goes out without it. -/
def composeVersionNegotiation (connectionID : Nat) (versions : List VersionNumber) :
    List UInt8 :=
  let header := (versionNegotiationHeader connectionID).write versionWhatever .server
  header.toOption.getD [] ++
    versions.flatMap fun v => littleEndian.writeUint32 (versionNumberToTag v)

/-- The packet of a server that may use any tags. -/
def versionNegotiation (connectionID : Nat) (tags : List UInt32) : List UInt8 :=
  (versionNegotiationHeader connectionID).leadingBytes .server ++ versionTagBytes tags

theorem versionTagBytes_map :
    versionTagBytes (versions.map tagOfVersion) =
      versions.flatMap fun v => littleEndian.writeUint32 (versionNumberToTag v) := by
  unfold versionTagBytes
  rw [List.flatMap_map]
  congr 1
  funext v
  rw [tagOfVersion, UInt32.toNat_ofNat', Nat.mod_eq_of_lt (versionNumberToTag_lt v)]

/-- The server of this repository sends the tags of its versions. -/
theorem composeVersionNegotiation_eq :
    composeVersionNegotiation connectionID versions =
      versionNegotiation connectionID (versions.map tagOfVersion) := by
  rw [versionNegotiation, versionTagBytes_map]
  rfl

theorem length_versionTagBytes : (versionTagBytes tags).length = 4 * tags.length := by
  induction tags with
  | nil => rfl
  | cons tag tags ih =>
    change (littleEndian.writeUint32 tag.toNat ++ versionTagBytes tags).length = _
    rw [List.length_append, ih, writeUint32, bytes_length, List.length_cons]
    omega

/-! ## Reading the tags -/

theorem reads_version (tag : UInt32) (rest : List UInt8) :
    Reads readVersion (littleEndian.writeUint32 tag.toNat ++ rest) (versionOfTag tag)
      rest := by
  have run := littleEndian.readUint32_bytes tag.toNat rest
  rw [Nat.mod_eq_of_lt tag.toNat_lt] at run
  exact Reads.bind run (Reads.pure _ _)

theorem reads_supportedVersions (rest : List UInt8) :
    Reads (readSupportedVersions tags.length) (versionTagBytes tags ++ rest)
      (tags.map versionOfTag) rest := by
  induction tags with
  | nil => exact Reads.pure _ _
  | cons tag tags ih =>
    have bytes : versionTagBytes (tag :: tags) ++ rest =
        littleEndian.writeUint32 tag.toNat ++ (versionTagBytes tags ++ rest) :=
      List.append_assoc _ _ _
    rw [bytes]
    exact Reads.bind (reads_version tag _) (Reads.bind ih (Reads.pure _ _))

/-- The version flag and the full connection ID are set, and nothing else. -/
theorem leadingBytes_versionNegotiation :
    (versionNegotiationHeader connectionID).leadingBytes .server =
      0x09 :: littleEndian.writeUint64 connectionID := by
  have bits : (0x01 : UInt8) ||| 0x08 = 0x09 := by decide
  have flagByte : (versionNegotiationHeader connectionID).publicFlagByte .server = 0x09 := by
    simp [versionNegotiationHeader, PublicHeader.publicFlagByte, PublicHeader.hasPacketNumber,
      bits]
  rw [PublicHeader.leadingBytes, flagByte]
  simp only [versionNegotiationHeader, Bool.false_eq_true, if_false, reduceCtorEq, and_false,
    List.append_nil]

/-- The client gets the number of every tag, in the order of the packet. -/
theorem reads_versionNegotiation {connectionID : Nat} (nonzero : 0 < connectionID)
    (word : connectionID < 2 ^ 64) (version : VersionNumber) (tags : List UInt32) :
    Reads (parsePublicHeader .server version) (versionNegotiation connectionID tags)
      { connectionID, versionFlag := true, supportedVersions := tags.map versionOfTag } [] := by
  have flags : FlagByteReads 0x09 true false false false false 1 :=
    ⟨by decide, by decide, by decide, by decide, by decide, by decide⟩
  have readID := littleEndian.readUint64_bytes connectionID (versionTagBytes tags)
  rw [Nat.mod_eq_of_lt word] at readID
  have fours := length_versionTagBytes tags
  have versions := reads_supportedVersions tags []
  rw [List.append_nil] at versions
  rw [versionNegotiation, leadingBytes_versionNegotiation]
  unfold parsePublicHeader
  refine Reads.bind (Reads.byte _ _ _) ?_
  simp only [flags.reset, flags.version, flags.truncate, flags.nonce, flags.multipath]
  refine Reads.bind (Reads.failIf (by simp) _) ?_
  refine Reads.bind (Reads.failIf rfl _) ?_
  refine Reads.bind (Reads.readIf_true readID) ?_
  refine Reads.bind (Reads.failIf (by simp [Nat.ne_of_gt nonzero]) _) ?_
  refine Reads.bind (Reads.readIf_false _) ?_
  refine Reads.bind (Reads.unread _) ?_
  refine Reads.bind (Reads.failIf (by simp [fours]) _) ?_
  rw [fours, Nat.mul_div_cancel_left _ (by decide)]
  exact Reads.bind versions (Reads.pure _ _)

end MPQuic
