import MPQuic.CryptoSetup
import MPQuic.Handshake.HandshakeMessage

/-!
# The server config on the client

`internal/handshake/server_config_client.go`, with the key exchange of
`internal/crypto/curve_25519.go`. A server config is itself a handshake message; the client parses
it and computes a shared secret from the public value it holds.

The cryptographic functions are parameters, collected in `Primitives`. The clock, the random source
and the file system answer through `HandshakeEnv`.
-/

namespace MPQuic

open ByteCodec

/-- The cryptographic functions of the client's handshake, as far as the protocol is concerned. -/
structure Primitives where
  /-- `curve25519.ScalarBaseMult` -/
  scalarBaseMult : List UInt8 → List UInt8
  /-- `curve25519.ScalarMult`, of a secret and a public value -/
  scalarMult : List UInt8 → List UInt8 → List UInt8
  /-- `decompressChain`; it fails on data it cannot read -/
  decompressChain : List UInt8 → Option (List (List UInt8))
  /-- whether `x509.ParseCertificate` accepts a certificate -/
  parseCertificate : List UInt8 → Bool
  /-- `x509.Certificate.Verify`, of a chain and a host name -/
  verifyCertificate : List (List UInt8) → String → Bool
  /-- `verifyServerProof`, of a proof, a certificate, a CHLO and a server config -/
  verifyServerProof : List UInt8 → List UInt8 → List UInt8 → List UInt8 → Bool
  /-- `HashCert` -/
  hashCert : List UInt8 → Nat
  /-- `DeriveQuicCryptoAESKeys`, of the forward-secure flag, the shared secret, the nonces, the
  connection ID, the CHLO, the server config, the leaf certificate and the diversification nonce -/
  keyDerivation : Bool → List UInt8 → List UInt8 → Nat → List UInt8 → List UInt8 → List UInt8 →
    List UInt8 → Option AEADAESGCM12

/-- The files of a cached handshake. -/
inductive CacheFile where
  | sni
  | stk
  | cert
  | scfg
  deriving DecidableEq, Repr

/-- What the client learns from its surroundings while it handles one input. -/
structure HandshakeEnv where
  /-- in nanoseconds since 1970 -/
  now : Int := 0
  /-- the random bytes of a new key exchange, unless the random source fails -/
  kexSecret : Option (Vector UInt8 32) := some (.replicate 32 0)
  /-- the random bytes of a client nonce -/
  nonceBytes : Option (Vector UInt8 20) := some (.replicate 20 0)
  /-- `getCommonCertificateHashes`, which iterates over a map -/
  commonCertificateHashes : List UInt8 := []
  /-- `GetHelloMap` of the connection parameters -/
  helloMap : TagMap := ∅
  /-- the error of `SetFromMap` of the connection parameters, if it refuses the map -/
  setFromMap : TagMap → Option HandshakeError := fun _ => none
  /-- writing to the crypto stream fails -/
  writeFails : Bool := false
  /-- a file exists and cannot be read -/
  unreadable : CacheFile → Bool := fun _ => false
  /-- a file cannot be created -/
  uncreatable : CacheFile → Bool := fun _ => false

/-! ## Key exchange -/

structure Curve25519KEX where
  secret : List UInt8
  publicKey : List UInt8
  deriving DecidableEq, Repr

variable (prims : Primitives) {env : HandshakeEnv}

def newCurve25519KEX (env : HandshakeEnv) : Except HandshakeError Curve25519KEX :=
  match env.kexSecret with
  | none => .error (.library "Curve25519: could not create private key")
  | some random =>
    let secret := (random.toList.modify 0 (· &&& 248)).modify 31 fun b => b &&& 127 ||| 64
    .ok { secret, publicKey := prims.scalarBaseMult secret }

def Curve25519KEX.calculateSharedKey (kex : Curve25519KEX)
    (otherPublic : List UInt8) : Except HandshakeError (List UInt8) :=
  if otherPublic.length ≠ 32 then
    .error (.library "Curve25519: expected public key of 32 byte")
  else .ok (prims.scalarMult kex.secret otherPublic)

/-! ## Server configs -/

/-- A server config as the client sees it. -/
structure ServerConfigClient where
  raw : List UInt8
  id : List UInt8
  obit : List UInt8
  /-- in seconds since 1970 -/
  expiry : Nat
  kex : Curve25519KEX
  sharedSecret : List UInt8
  deriving DecidableEq, Repr

variable {serverConfig : ServerConfigClient}

/-- A value that a server config must have. -/
def TagMap.require (tagMap : TagMap) (tag : Tag) (name : String) :
    Except HandshakeError (List UInt8) :=
  orError (tagMap.lookup tag) (.qerr .cryptoMessageParameterNotFound name)

def checkLength (valid : Bool) (name : String) : Except HandshakeError Unit :=
  refuseIf (!valid) (.qerr .cryptoInvalidValueLength name)

/-- "C255" -/
def c255 : List UInt8 := [0x43, 0x32, 0x35, 0x35]

/-- "AESG" -/
def aesg : List UInt8 := [0x41, 0x45, 0x53, 0x47]

/-- The position of an algorithm in a list of four-byte names. -/
def findAlgorithm (name names : List UInt8) : Option Nat :=
  (List.range (names.length / 4)).find? fun i => (names.drop (4 * i)).take 4 == name

/-- The public values, each behind its length in three bytes. Every round takes four bytes at
least, so the length of the list bounds the rounds. -/
def parsePubs : Nat → List UInt8 → Except HandshakeError (List (List UInt8))
  | 0, _ => .ok []
  | rounds + 1, pubs =>
    if pubs.length ≤ 3 then .ok []
    else do
      let lastLen := leValue (pubs.take 3)
      checkLength (lastLen ≠ 0) "PUBS"
      checkLength (3 + lastLen ≤ pubs.length) "PUBS"
      let rest ← parsePubs rounds (pubs.drop (3 + lastLen))
      return (pubs.drop 3).take lastLen :: rest

/-- Values close to the largest 64-bit integer are no valid time. -/
def maxExpiry : Nat := (2 ^ 63 - 1) / 2

namespace ServerConfigClient

def parseValues (env : HandshakeEnv) (raw : List UInt8) (tagMap : TagMap) :
    Except HandshakeError ServerConfigClient := do
  let id ← tagMap.require tagSCID "SCID"
  checkLength (id.length = 16) "SCID"
  let kexs ← tagMap.require tagKEXS "KEXS"
  checkLength (kexs.length % 4 = 0) "KEXS"
  let c255FoundAt ← orError (findAlgorithm c255 kexs) (.qerr .cryptoNoSupport
    "KEXS: Could not find C255, other key exchanges are not supported")
  let aead ← tagMap.require tagAEAD "AEAD"
  checkLength (aead.length % 4 = 0) "AEAD"
  refuseIf (findAlgorithm aesg aead).isNone (.qerr .cryptoNoSupport "AEAD")
  let pubs ← tagMap.require tagPUBS "PUBS"
  let pubsKexs ← parsePubs pubs.length pubs
  let value ← orError pubsKexs[c255FoundAt]?
    (.qerr .cryptoMessageParameterNotFound "KEXS not in PUBS")
  checkLength (value.length = 32) "PUBS"
  let kex ← newCurve25519KEX prims env
  let sharedSecret ← kex.calculateSharedKey prims value
  let obit ← tagMap.require tagOBIT "OBIT"
  checkLength (obit.length = 8) "OBIT"
  let expy ← tagMap.require tagEXPY "EXPY"
  checkLength (expy.length = 8) "EXPY"
  return { raw, id, obit, expiry := min (leValue expy) maxExpiry, kex, sharedSecret }

def isExpired (s : ServerConfigClient) (env : HandshakeEnv) : Bool :=
  s.expiry * 1000000000 < env.now

end ServerConfigClient

def parseServerConfig (env : HandshakeEnv) (data : List UInt8) :
    Except HandshakeError ServerConfigClient := do
  let (message, _) ← parseHandshakeMessage.run data
  refuseIf (message.tag ≠ tagSCFG) .errMessageNotServerConfig
  ServerConfigClient.parseValues prims env data message.data

variable {prims}

theorem ServerConfigClient.parseValues_raw {raw : List UInt8} {tagMap : TagMap}
    (parsed : parseValues prims env raw tagMap = .ok serverConfig) : serverConfig.raw = raw := by
  unfold parseValues at parsed
  iterate 18 obtain ⟨_, -, parsed⟩ := exists_of_bind_eq_ok parsed
  cases parsed
  rfl

theorem parseServerConfig_raw {data : List UInt8}
    (parsed : parseServerConfig prims env data = .ok serverConfig) : serverConfig.raw = data := by
  obtain ⟨⟨message, _⟩, -, parsed⟩ := exists_of_bind_eq_ok parsed
  obtain ⟨_, -, parsed⟩ := exists_of_bind_eq_ok parsed
  exact ServerConfigClient.parseValues_raw parsed

end MPQuic
