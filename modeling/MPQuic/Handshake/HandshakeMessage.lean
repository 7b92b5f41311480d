import MPQuic.Lib.ByteCodec
import MPQuic.Protocol
import Mathlib.Data.List.AList
import Mathlib.Data.List.Sort

/-!
# Handshake messages

`internal/handshake/handshake_message.go` and the tags of `internal/handshake/tags.go` that the
client reads or writes. A message is a tag and a map from tags to values; on the wire the values
stand behind an index of tags and end offsets.
-/

namespace MPQuic

open ByteCodec

/-! ## Tags -/

abbrev Tag := UInt32

/-- `a + b<<8 + c<<16 + d<<24` -/
def Tag.ofBytes (a b c d : UInt8) : Tag :=
  UInt32.ofNat (leValue [a, b, c, d])

def tagCHLO : Tag := .ofBytes 0x43 0x48 0x4c 0x4f
def tagREJ : Tag := .ofBytes 0x52 0x45 0x4a 0
def tagSCFG : Tag := .ofBytes 0x53 0x43 0x46 0x47
def tagPAD : Tag := .ofBytes 0x50 0x41 0x44 0
def tagSNI : Tag := .ofBytes 0x53 0x4e 0x49 0
def tagVER : Tag := .ofBytes 0x56 0x45 0x52 0
def tagCCS : Tag := .ofBytes 0x43 0x43 0x53 0
def tagTCID : Tag := .ofBytes 0x54 0x43 0x49 0x44
def tagPDMD : Tag := .ofBytes 0x50 0x44 0x4d 0x44
def tagSTK : Tag := .ofBytes 0x53 0x54 0x4b 0
def tagSNO : Tag := .ofBytes 0x53 0x4e 0x4f 0
def tagPROF : Tag := .ofBytes 0x50 0x52 0x4f 0x46
def tagNONC : Tag := .ofBytes 0x4e 0x4f 0x4e 0x43
def tagXLCT : Tag := .ofBytes 0x58 0x4c 0x43 0x54
def tagSCID : Tag := .ofBytes 0x53 0x43 0x49 0x44
def tagKEXS : Tag := .ofBytes 0x4b 0x45 0x58 0x53
def tagAEAD : Tag := .ofBytes 0x41 0x45 0x41 0x44
def tagPUBS : Tag := .ofBytes 0x50 0x55 0x42 0x53
def tagOBIT : Tag := .ofBytes 0x4f 0x42 0x49 0x54
def tagEXPY : Tag := .ofBytes 0x45 0x58 0x50 0x59
def tagCERT : Tag := 0xff545243
def tagSHLO : Tag := .ofBytes 0x53 0x48 0x4c 0x4f

/-- `map[Tag][]byte` -/
abbrev TagMap := AList fun _ : Tag => List UInt8

/-! ## Errors -/

/-- The error codes of `qerr` that the client's handshake returns. -/
inductive ErrorCode where
  | cryptoTooManyEntries
  | cryptoInvalidValueLength
  | cryptoMessageParameterNotFound
  | cryptoNoSupport
  | cryptoServerConfigExpired
  | cryptoEncryptionLevelIncorrect
  | cryptoTooManyRejects
  | invalidCryptoMessageParameter
  | invalidCryptoMessageType
  | versionNegotiationMismatch
  | proofInvalid
  | handshakeFailed
  deriving DecidableEq, Repr

/-- The errors of the handshake. -/
inductive HandshakeError where
  /-- `io.EOF` -/
  | eof
  /-- `io.ErrUnexpectedEOF` -/
  | unexpectedEOF
  /-- a code of `qerr`; the text is empty where the source returns the bare code -/
  | qerr (code : ErrorCode) (text : String)
  /-- "ServerConfig must have TagSCFG" -/
  | errMessageNotServerConfig
  /-- "CryptoSetup BUG: No OBIT for client nonce available" -/
  | errNoObitForClientNonce
  /-- "CryptoSetup BUG: A client nonce was already generated" -/
  | errClientNonceAlreadyExists
  /-- "Received two different diversification nonces" -/
  | errConflictingDiversificationNonces
  /-- "CertManager BUG: No certicifate chain loaded" -/
  | errNoCertificateChain
  /-- an error of a library: of the random source, of a certificate, of the crypto stream -/
  | library (text : String)
  | panic (panic : RuntimePanic)
  /-- the panic "send on closed channel" -/
  | sendOnClosedChannel
  deriving DecidableEq, Repr

/-- Fail with `err` when the test is true. -/
def refuseIf (test : Bool) (err : HandshakeError) : Except HandshakeError Unit :=
  if test then .error err else .ok ()

theorem eq_false_of_refuseIf {test : Bool} {err : HandshakeError} {u : Unit}
    (passed : refuseIf test err = .ok u) : test = false := by
  cases test with
  | false => rfl
  | true => cases passed

/-- Fail with `err` when there is no value. -/
def orError {α : Type} (value : Option α) (err : HandshakeError) : Except HandshakeError α :=
  match value with
  | none => .error err
  | some value => .ok value

/-! ## Messages -/

/-- A tag with its values. -/
structure HandshakeMessage where
  tag : Tag
  data : TagMap

/-- `io.ReadFull` -/
def readFullOrEOF : Nat → Reader HandshakeError (List UInt8) :=
  readFull fun
    | 0 => .eof
    | _ => .unexpectedEOF

/-- The loop over the index. The subtraction of the offsets wraps around. -/
def parseEntries : Nat → List UInt8 → Nat → TagMap → Reader HandshakeError TagMap
  | 0, _, _, resultMap => pure resultMap
  | nPairs + 1, index, dataStart, resultMap => do
    let tag : Tag := UInt32.ofNat (leValue (index.take 4))
    let dataEnd := leValue ((index.drop 4).take 4)
    let dataLen := subUint32 dataEnd dataStart
    failIf (dataLen > cryptoParameterMaxLength) (.qerr .cryptoInvalidValueLength "value too long")
    let data ← readFullOrEOF dataLen
    parseEntries nPairs (index.drop 8) dataEnd (resultMap.insert tag data)

def parseHandshakeMessage : Reader HandshakeError HandshakeMessage := do
  let slice4 ← readFullOrEOF 4
  let messageTag : Tag := UInt32.ofNat (leValue slice4)
  let slice4 ← readFullOrEOF 4
  let nPairs := leValue slice4
  failIf (nPairs > cryptoMaxParams) (.qerr .cryptoTooManyEntries "")
  let index ← readFullOrEOF (nPairs * 8)
  let resultMap ← parseEntries nPairs index 0 ∅
  return { tag := messageTag, data := resultMap }

namespace HandshakeMessage

def getTagsSorted (h : HandshakeMessage) : List Tag :=
  h.data.keys.insertionSort (· ≤ ·)

/-- The index and the values of the tags, from an offset on. -/
def writeEntries (data : TagMap) : List Tag → Nat → List UInt8 × List UInt8
  | [], _ => ([], [])
  | t :: tags, offset =>
    let v := (data.lookup t).getD []
    let offset := addUint32 offset v.length
    let (index, values) := writeEntries data tags offset
    (leBytes 4 t.toNat ++ leBytes 4 offset ++ index, v ++ values)

/-- The source writes the values behind an empty index and fills in the index afterwards. -/
def write (h : HandshakeMessage) : List UInt8 :=
  let (index, values) := writeEntries h.data h.getTagsSorted 0
  leBytes 4 h.tag.toNat ++ leBytes 2 h.data.keys.length ++ leBytes 2 0 ++ index ++ values

end HandshakeMessage

end MPQuic
