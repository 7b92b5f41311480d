import MPQuic.Utils.Float16
import MPQuic.Wire.FrameWriter
import MPQuic.Wire.PathsFrame

/-!
# Parsing control frames

The parsers of `internal/wire` for the frames that are neither STREAM nor ACK frames. Every parser
reads the type byte again, which the unpacker has only looked at.

The lemmas `….parses` say what each parser makes of the bytes that `Write` of the same frame
appends, whatever comes behind them. Not everything comes back as it was: the parser of STOP_WAITING
frames sets one field of three, an IPv4 address comes back in its sixteen-byte form, and the RTTs of
a PATHS frame are rounded.
-/

namespace MPQuic

open ByteCodec List ByteOrder

/-! ## The parsers -/

variable (version : VersionNumber)

def parseRstStreamFrame : Reader WireError RstStreamFrame := do
  let order := getByteOrder version
  let _ ← readUint8
  let streamID ← order.readUint32
  let byteOffset ← order.readUint64
  let errorCode ← order.readUint32
  return { streamID, errorCode, byteOffset }

def parseConnectionCloseFrame : Reader WireError ConnectionCloseFrame := do
  let order := getByteOrder version
  let _ ← readUint8
  let errorCode ← order.readUint32
  let reasonPhraseLen ← order.readUint16
  failIf (reasonPhraseLen > maxPacketSize) (.invalidConnectionCloseData "reason phrase too long")
  let reasonPhrase ← ioReadFull reasonPhraseLen
  return { errorCode, reasonPhrase }

def parseGoawayFrame : Reader WireError GoawayFrame := do
  let order := getByteOrder version
  let _ ← readUint8
  let errorCode ← order.readUint32
  let lastGoodStream ← order.readUint32
  let reasonPhraseLen ← order.readUint16
  failIf (reasonPhraseLen > maxPacketSize) (.invalidGoawayData "reason phrase too long")
  let reasonPhrase ← ioReadFull reasonPhraseLen
  return { errorCode, lastGoodStream, reasonPhrase }

def parseWindowUpdateFrame : Reader WireError WindowUpdateFrame := do
  let order := getByteOrder version
  let _ ← readUint8
  let streamID ← order.readUint32
  let byteOffset ← order.readUint64
  return { streamID, byteOffset }

def parseBlockedFrame : Reader WireError BlockedFrame := do
  let _ ← readUint8
  let streamID ← (getByteOrder version).readUint32
  return { streamID }

/-- The frame only carries a distance from the number of its packet. -/
def parseStopWaitingFrame (packetNumber packetNumberLen : Nat) (version : VersionNumber) :
    Reader WireError StopWaitingFrame := do
  let _ ← readUint8
  let leastUnackedDelta ← (getByteOrder version).readUintN packetNumberLen
  failIf (leastUnackedDelta ≥ packetNumber) (.invalidStopWaitingData "invalid LeastUnackedDelta")
  return { leastUnacked := packetNumber - leastUnackedDelta }

def parsePingFrame : Reader WireError Unit := do
  let _ ← readUint8
  return ()

/-- The loop that reads an address byte by byte. -/
def readBytes : Nat → Reader WireError (List UInt8)
  | 0 => pure []
  | count + 1 => do
    let b ← readUint8
    let rest ← readBytes count
    return b :: rest

def parseAddAddressFrame : Reader WireError AddAddressFrame := do
  let _ ← readUint8
  let ipVersion ← readUint8
  if ipVersion = 4 then
    let ip ← readBytes 4
    let port ← (getByteOrder version).readUint16
    -- `net.IPv4` builds the sixteen-byte form
    return { ipVersion, addr := { ip := v4InV6Prefix ++ ip, port } }
  else if ipVersion = 6 then
    let ip ← readBytes 16
    let port ← (getByteOrder version).readUint16
    return { ipVersion, addr := { ip, port } }
  else throw .errUnknownIPVersion

def parseClosePathFrame : Reader WireError ClosePathFrame := do
  let order := getByteOrder version
  let _ ← readUint8
  let pathID ← readUint8
  let flags ← readUint8
  let hasMissingRanges := decide (flags &&& 0x10 = 0x10)
  let largestAckedLen := lengthField ((flags &&& 0x0C) >>> 2)
  let missingSequenceNumberDeltaLen := lengthField (flags &&& 0x03)
  let numAckBlocks ← readIf hasMissingRanges readUint8 0
  failIf (hasMissingRanges && numAckBlocks == 0) .errInvalidAckRanges
  let largestAcked ← order.readUintN largestAckedLen.toNat
  let content ← order.parseAckContent hasMissingRanges numAckBlocks.toNat
    missingSequenceNumberDeltaLen.toNat largestAcked
  return { content with pathID }

/-! ## Reading back what was written -/

/-- The bytes begin with the type byte, and the parser reads the frame from them and leaves what
comes behind them. -/
structure ParsesAs {α : Type} (p : Reader WireError α) (typeByte : UInt8) (bytes : List UInt8)
    (f : α) : Prop where
  typeByte : ∃ more, bytes = typeByte :: more
  reads : ∀ rest, Reads p (bytes ++ rest) f rest

section Fields

variable (rest : List UInt8) {v : Nat} (order : ByteOrder) (front : List UInt8)

theorem ByteOrder.readUint32_bytes_of_lt (fits : v < 2 ^ 32) :
    Reads order.readUint32 (order.bytes 4 v ++ rest) v rest := by
  have run := order.readUint32_bytes v rest
  rwa [Nat.mod_eq_of_lt fits] at run

theorem ByteOrder.readUint64_bytes_of_lt (fits : v < 2 ^ 64) :
    Reads order.readUint64 (order.bytes 8 v ++ rest) v rest := by
  have run := order.readUint64_bytes v rest
  rwa [Nat.mod_eq_of_lt fits] at run

theorem ByteOrder.readUint16_bytes_of_lt (fits : v < 2 ^ 16) :
    Reads order.readUint16 (order.bytes 2 v ++ rest) v rest := by
  have run := order.readUint16_bytes v rest
  rwa [Nat.mod_eq_of_lt fits] at run

theorem reads_ioReadFull :
    Reads (ioReadFull front.length) (front ++ rest) front rest := Reads.full _ _ _

theorem reads_readBytes : Reads (readBytes front.length) (front ++ rest) front rest := by
  induction front with
  | nil => exact Reads.pure _ _
  | cons b front ih => exact Reads.bind (Reads.byte _ _ _) (Reads.bind ih (Reads.pure _ _))

end Fields

section RoundTrip

variable (version : VersionNumber)

theorem RstStreamFrame.parses {f : RstStreamFrame} (streamID : f.streamID < 2 ^ 32)
    (byteOffset : f.byteOffset < 2 ^ 64) (errorCode : f.errorCode < 2 ^ 32) :
    ParsesAs (parseRstStreamFrame version) 0x01 (f.write version) f := by
  refine ⟨⟨_, rfl⟩, fun rest => ?_⟩
  unfold RstStreamFrame.write
  simp only [cons_append, append_assoc]
  refine Reads.bind (Reads.byte _ _ _) ?_
  refine Reads.bind (readUint32_bytes_of_lt _ _ streamID) ?_
  refine Reads.bind (readUint64_bytes_of_lt _ _ byteOffset) ?_
  refine Reads.bind (readUint32_bytes_of_lt _ _ errorCode) ?_
  exact Reads.pure _ _

theorem ConnectionCloseFrame.parses {f : ConnectionCloseFrame} (errorCode : f.errorCode < 2 ^ 32)
    (reasonPhrase : f.reasonPhrase.length ≤ maxPacketSize) :
    ∃ bytes, f.write version = .ok bytes ∧
      ParsesAs (parseConnectionCloseFrame version) 0x02 bytes f := by
  have short : f.reasonPhrase.length < 2 ^ 16 := lt_of_le_of_lt reasonPhrase (by decide)
  have accepted : decide (f.reasonPhrase.length > maxPacketSize) = false :=
    decide_eq_false (not_lt.mpr reasonPhrase)
  have notTooLong : ¬ f.reasonPhrase.length > 2 ^ 16 - 1 := by omega
  unfold ConnectionCloseFrame.write
  rw [if_neg notTooLong]
  refine ⟨_, rfl, ⟨_, rfl⟩, fun rest => ?_⟩
  simp only [cons_append, append_assoc]
  refine Reads.bind (Reads.byte _ _ _) ?_
  refine Reads.bind (readUint32_bytes_of_lt _ _ errorCode) ?_
  refine Reads.bind (readUint16_bytes_of_lt _ _ short) ?_
  refine Reads.bind (Reads.failIf accepted _) ?_
  refine Reads.bind (reads_ioReadFull _ _) ?_
  exact Reads.pure _ _

theorem GoawayFrame.parses {f : GoawayFrame} (errorCode : f.errorCode < 2 ^ 32)
    (lastGoodStream : f.lastGoodStream < 2 ^ 32)
    (reasonPhrase : f.reasonPhrase.length ≤ maxPacketSize) :
    ParsesAs (parseGoawayFrame version) 0x03 (f.write version) f := by
  have short : f.reasonPhrase.length < 2 ^ 16 := lt_of_le_of_lt reasonPhrase (by decide)
  have accepted : decide (f.reasonPhrase.length > maxPacketSize) = false :=
    decide_eq_false (not_lt.mpr reasonPhrase)
  refine ⟨⟨_, rfl⟩, fun rest => ?_⟩
  unfold GoawayFrame.write
  simp only [cons_append, append_assoc, Nat.mod_eq_of_lt short]
  refine Reads.bind (Reads.byte _ _ _) ?_
  refine Reads.bind (readUint32_bytes_of_lt _ _ errorCode) ?_
  refine Reads.bind (readUint32_bytes_of_lt _ _ lastGoodStream) ?_
  refine Reads.bind (readUint16_bytes_of_lt _ _ short) ?_
  refine Reads.bind (Reads.failIf accepted _) ?_
  refine Reads.bind (reads_ioReadFull _ _) ?_
  exact Reads.pure _ _

theorem WindowUpdateFrame.parses {f : WindowUpdateFrame} (streamID : f.streamID < 2 ^ 32)
    (byteOffset : f.byteOffset < 2 ^ 64) :
    ParsesAs (parseWindowUpdateFrame version) 0x04 (f.write version) f := by
  refine ⟨⟨_, rfl⟩, fun rest => ?_⟩
  unfold WindowUpdateFrame.write
  simp only [cons_append, append_assoc]
  refine Reads.bind (Reads.byte _ _ _) ?_
  refine Reads.bind (readUint32_bytes_of_lt _ _ streamID) ?_
  refine Reads.bind (readUint64_bytes_of_lt _ _ byteOffset) ?_
  exact Reads.pure _ _

theorem BlockedFrame.parses {f : BlockedFrame} (streamID : f.streamID < 2 ^ 32) :
    ParsesAs (parseBlockedFrame version) 0x05 (f.write version) f := by
  refine ⟨⟨_, rfl⟩, fun rest => ?_⟩
  unfold BlockedFrame.write
  rw [cons_append]
  refine Reads.bind (Reads.byte _ _ _) ?_
  refine Reads.bind (readUint32_bytes_of_lt _ _ streamID) ?_
  exact Reads.pure _ _

/-- The parser sets one field of three. -/
theorem StopWaitingFrame.parses {f : StopWaitingFrame}
    (packetNumberLen : f.packetNumberLen ∈ packetNumberLens) (least : 0 < f.leastUnacked)
    (le : f.leastUnacked ≤ f.packetNumber)
    (fits : f.packetNumber - f.leastUnacked < 2 ^ (8 * f.packetNumberLen)) :
    ∃ bytes, f.write version = .ok bytes ∧
      ParsesAs (parseStopWaitingFrame f.packetNumber f.packetNumberLen version) 0x06 bytes
        { leastUnacked := f.leastUnacked } := by
  have numbered : ¬ f.packetNumber = 0 := by omega
  have accepted : decide (f.packetNumber - f.leastUnacked ≥ f.packetNumber) = false :=
    decide_eq_false (by omega)
  have delta := (getByteOrder version).writePacketNumber_eq true packetNumberLen fits
  have written : f.write version = .ok (0x06 ::
      (getByteOrder version).bytes f.packetNumberLen (f.packetNumber - f.leastUnacked)) := by
    unfold StopWaitingFrame.write
    rw [if_neg numbered, if_neg (not_lt.mpr le), if_pos packetNumberLen, delta]
  refine ⟨_, written, ⟨_, rfl⟩, fun rest => ?_⟩
  rw [cons_append]
  refine Reads.bind (Reads.byte _ _ _) ?_
  refine Reads.bind (readUintN_bytes_of_lt _ _ fits) ?_
  refine Reads.bind (Reads.failIf accepted _) ?_
  rw [Nat.sub_sub_self le]
  exact Reads.pure _ _

/-- The address is of the kind that the frame announces. -/
def AddAddressFrame.Consistent (f : AddAddressFrame) : Prop :=
  f.ipVersion = 4 ∧ (ipTo4 f.addr.ip).isSome ∨ f.ipVersion = 6 ∧ (ipTo16 f.addr.ip).isSome

/-- The frame with its address in sixteen bytes. -/
def AddAddressFrame.to16 (f : AddAddressFrame) : AddAddressFrame :=
  { f with addr := { f.addr with ip := (ipTo16 f.addr.ip).getD f.addr.ip } }

/-- An IPv4 address has a four-byte form, which the prefix completes. -/
theorem ipTo16_of_ipTo4 {ip short : List UInt8} (taken : ipTo4 ip = some short) :
    short.length = 4 ∧ ipTo16 ip = some (v4InV6Prefix ++ short) := by
  unfold ipTo4 at taken
  unfold ipTo16
  split at taken
  · rename_i four
    cases taken
    exact ⟨four, if_pos four⟩
  · rename_i notFour
    split at taken
    · rename_i mapped
      cases taken
      rw [if_neg notFour, if_pos mapped.1, ← mapped.2, take_append_drop]
      exact ⟨by rw [length_drop, mapped.1], rfl⟩
    · cases taken

theorem length_of_ipTo16 {ip long : List UInt8} (taken : ipTo16 ip = some long) :
    long.length = 16 := by
  unfold ipTo16 at taken
  split at taken
  · rename_i four
    cases taken
    rw [length_append, four]
    rfl
  · split at taken
    · cases taken
      assumption
    · cases taken

/-- The address comes back in its sixteen-byte form. -/
theorem AddAddressFrame.parses {f : AddAddressFrame} (consistent : f.Consistent)
    (port : f.addr.port < 2 ^ 16) :
    ∃ bytes, f.write version = .ok bytes ∧
      ParsesAs (parseAddAddressFrame version) 0x10 bytes f.to16 := by
  unfold AddAddressFrame.write AddAddressFrame.ipBytes AddAddressFrame.to16
  rcases consistent with ⟨four, valid⟩ | ⟨six, valid⟩
  · obtain ⟨short, taken⟩ := Option.isSome_iff_exists.mp valid
    obtain ⟨length, long⟩ := ipTo16_of_ipTo4 taken
    rw [if_pos four, taken, long]
    refine ⟨_, rfl, ⟨_, rfl⟩, fun rest => ?_⟩
    have address := reads_readBytes ((getByteOrder version).bytes 2 f.addr.port ++ rest) short
    rw [length] at address
    simp only [cons_append, append_assoc, Nat.mod_eq_of_lt port, Option.getD_some]
    refine Reads.bind (Reads.byte _ _ _) (Reads.bind (Reads.byte _ _ _) ?_)
    rw [if_pos four]
    refine Reads.bind address ?_
    refine Reads.bind (readUint16_bytes_of_lt _ _ port) ?_
    exact Reads.pure _ _
  · obtain ⟨long, taken⟩ := Option.isSome_iff_exists.mp valid
    have notFour : ¬ f.ipVersion = 4 := by
      rw [six]
      decide
    rw [if_neg notFour, if_pos six, taken]
    refine ⟨_, rfl, ⟨_, rfl⟩, fun rest => ?_⟩
    have address := reads_readBytes ((getByteOrder version).bytes 2 f.addr.port ++ rest) long
    rw [length_of_ipTo16 taken] at address
    simp only [cons_append, append_assoc, Nat.mod_eq_of_lt port, Option.getD_some]
    refine Reads.bind (Reads.byte _ _ _) (Reads.bind (Reads.byte _ _ _) ?_)
    rw [if_neg notFour, if_pos six]
    refine Reads.bind address ?_
    refine Reads.bind (readUint16_bytes_of_lt _ _ port) ?_
    exact Reads.pure _ _

/-- An RTT as the 16-bit float carries it. -/
def roundRTT (rtt : Int) : Int := (decodeUfloat16 (encodeUfloat16 (microseconds rtt)) : Nat) * 1000

theorem reads_readPathsEntries (rest : List UInt8) (order : ByteOrder)
    (entries : List (PathID × Int)) :
    Reads (readPathsEntries order entries.length)
      ((entries.flatMap fun entry => entry.1 :: order.writeUfloat16 (microseconds entry.2)) ++ rest)
      (entries.map fun entry => (entry.1, roundRTT entry.2)) rest := by
  induction entries with
  | nil => exact Reads.pure _ _
  | cons entry entries ih =>
    have rtt := order.readUfloat16_bytes (encodeUfloat16 (microseconds entry.2))
      ((entries.flatMap fun entry =>
        entry.1 :: order.writeUfloat16 (microseconds entry.2)) ++ rest)
    rw [Nat.mod_eq_of_lt (encodeUfloat16_lt _)] at rtt
    rw [flatMap_cons, append_assoc, cons_append]
    refine Reads.bind (Reads.byte _ _ _) ?_
    refine Reads.bind rtt ?_
    refine Reads.bind ih ?_
    exact Reads.pure _ _

/-- A frame about more paths than it allows is refused; otherwise the RTTs are rounded. -/
theorem PathsFrame.parses {f : PathsFrame} (wellFormed : f.WellFormed) :
    ∃ bytes, f.write version = .ok bytes ∧
      ParsesAs (parsePathsFrame version) 0x12 bytes
        { f with remoteRTTs := f.remoteRTTs.map roundRTT } := by
  obtain ⟨few, ids, rtts⟩ := wellFormed
  have accepted : decide (f.numPaths > f.maxNumPaths) = false :=
    decide_eq_false (UInt8.not_lt.mpr few)
  have count : (f.pathIDs.zip f.remoteRTTs).length = f.numPaths.toNat := by
    rw [length_zip, ids, rtts, min_self]
  unfold PathsFrame.write
  rw [if_neg (by omega), if_neg (by omega)]
  refine ⟨_, rfl, ⟨_, rfl⟩, fun rest => ?_⟩
  have entries := reads_readPathsEntries rest (getByteOrder version)
    (f.pathIDs.zip f.remoteRTTs)
  rw [count] at entries
  simp only [cons_append]
  refine Reads.bind (Reads.byte _ _ _) (Reads.bind (Reads.byte _ _ _) ?_)
  refine Reads.bind (Reads.byte _ _ _) ?_
  refine Reads.bind (Reads.failIf accepted _) ?_
  refine Reads.bind entries ?_
  have fst : ((f.pathIDs.zip f.remoteRTTs).map fun entry => (entry.1, roundRTT entry.2)).map
      Prod.fst = f.pathIDs := by
    rw [map_map]
    exact map_fst_zip (by omega)
  have snd : ((f.pathIDs.zip f.remoteRTTs).map fun entry => (entry.1, roundRTT entry.2)).map
      Prod.snd = f.remoteRTTs.map roundRTT := by
    have swap : ((f.pathIDs.zip f.remoteRTTs).map fun entry => (entry.1, roundRTT entry.2)).map
        Prod.snd = ((f.pathIDs.zip f.remoteRTTs).map Prod.snd).map roundRTT := by
      rw [map_map, map_map]
      rfl
    rw [swap, map_snd_zip (by omega)]
  rw [fst, snd]
  exact Reads.pure _ _

/-- What is lost of an RTT: the part below a microsecond, and less than one part in 2048. -/
theorem roundRTT_bounds {rtt : Int} (nonneg : 0 ≤ rtt) (small : rtt ≤ uFloat16MaxValue * 1000) :
    roundRTT rtt ≤ rtt ∧ 2 ^ 11 * (rtt - roundRTT rtt) < rtt + 2 ^ 11 * 1000 := by
  have top : uFloat16MaxValue = 4095 * 2 ^ 30 := by decide
  obtain ⟨n, rfl⟩ := Int.eq_ofNat_of_zero_le nonneg
  have micros : microseconds (n : Int) = n / 1000 := by
    have division : (n : Int).tdiv 1000 = (n / 1000 : Nat) := rfl
    rw [microseconds, division]
    omega
  have bounded : n / 1000 ≤ uFloat16MaxValue := by omega
  have below := roundUfloat16_le (n / 1000)
  have close := roundUfloat16_close bounded
  rw [roundRTT, micros]
  unfold roundUfloat16 at below close
  generalize decodeUfloat16 (encodeUfloat16 (n / 1000)) = rounded at below close
  omega

end RoundTrip

end MPQuic
