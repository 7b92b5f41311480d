import MPQuic.Handshake.ServerConfigClient
import MPQuic.Wire.PublicHeaderCodec

/-!
# The client's handshake

`internal/handshake/crypto_setup_client.go`, with the certificate manager of
`internal/crypto/cert_manager.go`: the messages REJ and SHLO, the upgrade of the encryption, the
CHLO, and the files in which a finished handshake is cached for the next one.

`HandleCryptoStream` is a loop. Its body is cut where the source waits: `begin` is what it does
before it first waits, and `handleInput` followed by `beforeSelect` is one round.

Three fields of the client are no part of the source. They record which server configs
`VerifyServerProof` has accepted and which one the keys were derived from; nothing reads them.
-/

namespace MPQuic

open ByteCodec

/-! ## Certificates -/

/-- The chain of the server. -/
structure CertManager where
  chain : List (List UInt8) := []
  /-- `InsecureSkipVerify` of the TLS configuration -/
  insecureSkipVerify : Bool := false
  deriving DecidableEq, Repr

namespace CertManager

variable (prims : Primitives) (c : CertManager)

def setData (data : List UInt8) : Except HandshakeError CertManager :=
  match prims.decompressChain data with
  | none => .error (.qerr .invalidCryptoMessageParameter "Certificate data invalid")
  | some chain =>
    if chain.all prims.parseCertificate then .ok { c with chain }
    else .error (.library "x509: malformed certificate")

def getLeafCert : Option (List UInt8) := c.chain.head?

/-- Without a chain no proof is valid. -/
def verifyServerProof (proof chlo serverConfigData : List UInt8) : Bool :=
  match c.chain with
  | [] => false
  | leafCert :: _ => prims.verifyServerProof proof leafCert chlo serverConfigData

def verify (hostname : String) : Except HandshakeError Unit :=
  if c.chain = [] then .error .errNoCertificateChain
  else if c.insecureSkipVerify then .ok ()
  else if prims.verifyCertificate c.chain hostname then .ok ()
  else .error (.library "x509: certificate is not valid")

end CertManager

/-! ## The client -/

structure TransportParameters where
  requestConnectionIDTruncation : Bool := false
  cacheHandshake : Bool := false
  deriving DecidableEq, Repr

/-- A client's side of the handshake. -/
structure CryptoSetupClient where
  hostname : List UInt8
  connID : Nat
  version : VersionNumber
  negotiatedVersions : List VersionNumber := []
  params : TransportParameters := {}
  certManager : CertManager := {}
  serverConfig : Option ServerConfigClient := none
  stk : List UInt8 := []
  sno : List UInt8 := []
  nonc : List UInt8 := []
  proof : List UInt8 := []
  chloForSignature : List UInt8 := []
  lastSentCHLO : List UInt8 := []
  certData : List UInt8 := []
  scfgData : List UInt8 := []
  diversificationNonce : List UInt8 := []
  clientHelloCounter : Nat := 0
  serverVerified : Bool := false
  receivedSecurePacket : Bool := false
  secureAEAD : Option AEADAESGCM12 := none
  forwardSecureAEAD : Option AEADAESGCM12 := none
  /-- the server configs for which `VerifyServerProof` succeeded in this handshake -/
  verified : List (List UInt8) := []
  /-- the server config that was taken from the cache, if `VerifyServerProof` had succeeded for it
  in the handshake that stored it there -/
  verifiedInCache : Option (List UInt8) := none
  /-- the server config that `secureAEAD` was derived from -/
  derivedFrom : Option (List UInt8) := none
  deriving DecidableEq

/-- The files of one host, as the handshakes before left them. -/
structure HandshakeCache where
  file : CacheFile → Option (List UInt8) := fun _ => none
  /-- the handshake that stored the server config had verified it; no part of the source -/
  scfgVerified : Bool := false

namespace HandshakeCache

variable (env : HandshakeEnv)

/-- A file that exists is left alone. -/
def writeBinaryFile (name : CacheFile) (data : List UInt8)
    (cache : HandshakeCache) : HandshakeCache :=
  if (cache.file name).isSome || env.uncreatable name then cache
  else { cache with file := Function.update cache.file name (some data) }

def readBinaryFile (name : CacheFile) (cache : HandshakeCache) : Option (List UInt8) :=
  if env.unreadable name then none else cache.file name

end HandshakeCache

namespace CryptoSetupClient

/-! ## Nonces and the cache -/

def generateClientNonce (env : HandshakeEnv) (h : CryptoSetupClient) :
    Except HandshakeError CryptoSetupClient :=
  if h.nonc ≠ [] then .error .errClientNonceAlreadyExists
  else
    match h.serverConfig with
    | none => .error (.panic .nilDereference)
    | some serverConfig =>
      if serverConfig.obit.length ≠ 8 then .error .errNoObitForClientNonce
      else
        match env.nonceBytes with
        | none => .error (.library "rand: no random bytes")
        | some random =>
          let seconds := (env.now / 1000000000 % 2 ^ 32).toNat
          .ok { h with nonc := beBytes 4 seconds ++ serverConfig.obit ++ random.toList }

def cacheHandshake (env : HandshakeEnv) (h : CryptoSetupClient) (cache : HandshakeCache) :
    HandshakeCache :=
  let written := cache
    |>.writeBinaryFile env .sni h.hostname
    |>.writeBinaryFile env .stk h.stk
    |>.writeBinaryFile env .cert h.certData
    |>.writeBinaryFile env .scfg h.scfgData
  let scfgVerified :=
    if (cache.file .scfg).isSome then cache.scfgVerified else decide (h.scfgData ∈ h.verified)
  { written with scfgVerified }

variable (prims : Primitives)

/-- Stops at the first file that is missing or that it cannot use, with what it has read so far. -/
def useHandshakeCache (env : HandshakeEnv) (cache : HandshakeCache)
    (h : CryptoSetupClient) : CryptoSetupClient :=
  match cache.readBinaryFile env .sni with
  | none => h
  | some sni =>
    if h.hostname ≠ sni then h else
    match cache.readBinaryFile env .stk with
    | none => h
    | some stk =>
      match cache.readBinaryFile env .cert with
      | none => { h with stk }
      | some certData =>
        match h.certManager.setData prims certData with
        | .error _ => { h with stk, certData }
        | .ok certManager =>
          match cache.readBinaryFile env .scfg with
          | none => { h with stk, certData, certManager }
          | some scfgData =>
            match parseServerConfig prims env scfgData with
            | .error _ => { h with stk, certData, certManager, scfgData, serverConfig := none }
            | .ok serverConfig =>
              let h := { h with
                stk, certData, certManager, scfgData, serverConfig := some serverConfig }
              match h.generateClientNonce env with
              | .error _ => h
              | .ok h =>
                { h with
                  serverVerified := true
                  verifiedInCache := if cache.scfgVerified then some scfgData else none }

/-! ## REJ -/

/-- The SCFG tag of a REJ. -/
def receiveServerConfig (env : HandshakeEnv) (cryptoData : TagMap)
    (h : CryptoSetupClient) : Except HandshakeError CryptoSetupClient :=
  match cryptoData.lookup tagSCFG with
  | none => .ok h
  | some scfg => do
    let serverConfig ← parseServerConfig prims env scfg
    refuseIf (serverConfig.isExpired env) (.qerr .cryptoServerConfigExpired "")
    let h := { h with serverConfig := some serverConfig, scfgData := scfg }
    if h.nonc = [] then h.generateClientNonce env else .ok h

/-- The PROF tag of a REJ. -/
def receiveProof (cryptoData : TagMap) (h : CryptoSetupClient) : CryptoSetupClient :=
  match cryptoData.lookup tagPROF with
  | none => h
  | some proof => { h with proof, chloForSignature := h.lastSentCHLO }

/-- The certificate is verified for a fixed name, not for the name of the host. -/
def receiveCertificates (cryptoData : TagMap) (h : CryptoSetupClient) :
    Except HandshakeError CryptoSetupClient :=
  match cryptoData.lookup tagCERT with
  | none => .ok h
  | some crt =>
    match h.certManager.setData prims crt with
    | .error _ => .error (.qerr .invalidCryptoMessageParameter "Certificate data invalid")
    | .ok certManager =>
      match certManager.verify prims "quic.clemente.io" with
      | .error _ => .error (.qerr .proofInvalid "")
      | .ok () => .ok { h with certManager, certData := crt }

variable (h : CryptoSetupClient)

/-- The proof is checked as soon as there are a server config, a proof and a certificate. -/
def checkServerProof : Except HandshakeError CryptoSetupClient :=
  match h.serverConfig with
  | none => .ok h
  | some serverConfig =>
    if h.proof ≠ [] ∧ h.certManager.getLeafCert ≠ none then
      if h.certManager.verifyServerProof prims h.proof h.chloForSignature serverConfig.raw then
        .ok { h with serverVerified := true, verified := serverConfig.raw :: h.verified }
      else .error (.qerr .proofInvalid "")
    else .ok h

def handleREJMessage (env : HandshakeEnv) (cryptoData : TagMap)
    (h : CryptoSetupClient) : Except HandshakeError CryptoSetupClient := do
  let h := { h with
    stk := (cryptoData.lookup tagSTK).getD h.stk
    sno := (cryptoData.lookup tagSNO).getD h.sno }
  let h ← h.receiveServerConfig prims env cryptoData
  let h ← (h.receiveProof cryptoData).receiveCertificates prims cryptoData
  h.checkServerProof prims

/-! ## SHLO -/

/-- The loop over the negotiated versions. -/
def compareVersions : List VersionNumber → List UInt8 → Bool
  | [], _ => true
  | negotiatedVersion :: rest, b =>
    match readVersion.run b with
    | .error _ => false
    | .ok (ver, b) =>
      let ver := if ver ∈ supportedVersions then ver else versionUnsupported
      if ver ≠ negotiatedVersion then false else compareVersions rest b

def validateVersionList (verTags : List UInt8) : Bool :=
  if h.negotiatedVersions = [] then true
  else if verTags.length % 4 ≠ 0 ∨ verTags.length / 4 ≠ h.negotiatedVersions.length then false
  else compareVersions h.negotiatedVersions verTags

def handleSHLOMessage (env : HandshakeEnv) (cryptoData : TagMap)
    (h : CryptoSetupClient) : Except HandshakeError CryptoSetupClient := do
  refuseIf (!h.receivedSecurePacket)
    (.qerr .cryptoEncryptionLevelIncorrect "unencrypted SHLO message")
  let h := { h with sno := (cryptoData.lookup tagSNO).getD h.sno }
  let serverPubs ← cryptoData.require tagPUBS "PUBS"
  let verTag ← orError (cryptoData.lookup tagVER)
    (.qerr .invalidCryptoMessageParameter "server hello missing version list")
  refuseIf (!h.validateVersionList verTag)
    (.qerr .versionNegotiationMismatch "Downgrade attack detected")
  let serverConfig ← orError h.serverConfig (.panic .nilDereference)
  let ephermalSharedSecret ← serverConfig.kex.calculateSharedKey prims serverPubs
  let aead ← orError (prims.keyDerivation true ephermalSharedSecret (h.nonc ++ h.sno) h.connID
    h.lastSentCHLO serverConfig.raw (h.certManager.getLeafCert.getD []) [])
    (.library "key derivation failed")
  refuseIf (env.setFromMap cryptoData).isSome (.qerr .invalidCryptoMessageParameter "")
  -- the first SHLO has closed the channel that announces the keys
  refuseIf h.forwardSecureAEAD.isSome .sendOnClosedChannel
  return { h with forwardSecureAEAD := some aead }

/-! ## CHLO -/

def insertIf (test : Bool) (tag : Tag) (value : List UInt8) (tags : TagMap) : TagMap :=
  if test then tags.insert tag value else tags

/-- "X509" -/
def x509 : List UInt8 := [0x58, 0x35, 0x30, 0x39]

/-- The tags of the next CHLO. -/
def getTags (env : HandshakeEnv) (h : CryptoSetupClient) : TagMap :=
  let tags := env.helloMap
    |>.insert tagSNI h.hostname
    |>.insert tagPDMD x509
    |> insertIf (0 < env.commonCertificateHashes.length) tagCCS env.commonCertificateHashes
    |>.insert tagVER (leBytes 4 (versionNumberToTag h.version))
    |> insertIf h.params.requestConnectionIDTruncation tagTCID [0, 0, 0, 0]
    |> insertIf (0 < h.stk.length) tagSTK h.stk
    |> insertIf (0 < h.sno.length) tagSNO h.sno
  match h.serverConfig with
  | none => tags
  | some serverConfig =>
    let tags := tags.insert tagSCID serverConfig.id
    match h.certManager.getLeafCert with
    | none => tags
    | some leafCert => tags
      |>.insert tagNONC h.nonc
      |>.insert tagXLCT (leBytes 8 (prims.hashCert leafCert))
      |>.insert tagKEXS c255
      |>.insert tagAEAD aesg
      |>.insert tagPUBS serverConfig.kex.publicKey

def addPadding (tags : TagMap) : TagMap :=
  let size := (tags.entries.map fun entry => 8 + entry.2.length).sum
  insertIf (size < clientHelloMinimumSize) tagPAD
    (List.replicate (clientHelloMinimumSize - size) 0) tags

def sendCHLO (env : HandshakeEnv) (h : CryptoSetupClient) :
    Except HandshakeError CryptoSetupClient :=
  let clientHelloCounter := h.clientHelloCounter + 1
  if clientHelloCounter > maxClientHellos then
    .error (.qerr .cryptoTooManyRejects "More than 3 rejects")
  else if env.writeFails then .error (.library "write to the crypto stream failed")
  else
    let message : HandshakeMessage :=
      { tag := tagCHLO, data := addPadding (h.getTags prims env) }
    .ok { h with clientHelloCounter, lastSentCHLO := message.write }

/-! ## Keys -/

/-- There is everything that the initial keys are derived from. -/
def CanUpgrade (serverConfig : ServerConfigClient) : Prop :=
  0 < serverConfig.sharedSecret.length ∧ 0 < h.nonc.length ∧
    0 < (h.certManager.getLeafCert.getD []).length ∧ 0 < h.diversificationNonce.length ∧
    0 < h.lastSentCHLO.length

instance (h : CryptoSetupClient) (serverConfig : ServerConfigClient) :
    Decidable (h.CanUpgrade serverConfig) :=
  inferInstanceAs (Decidable (_ ∧ _))

/-- `maybeUpgradeCrypto`: the initial keys. -/
def maybeUpgradeCrypto : Except HandshakeError CryptoSetupClient :=
  if !h.serverVerified then .ok h
  else
    match h.secureAEAD, h.serverConfig with
    | none, some serverConfig =>
      if h.CanUpgrade serverConfig then
        match prims.keyDerivation false serverConfig.sharedSecret (h.nonc ++ h.sno) h.connID
            h.lastSentCHLO serverConfig.raw (h.certManager.getLeafCert.getD [])
            h.diversificationNonce with
        | none => .error (.library "key derivation failed")
        | some aead => .ok { h with
          secureAEAD := some aead, derivedFrom := some serverConfig.raw }
      else .ok h
    | _, _ => .ok h

/-- `Open`, of a packet that the AEADs of the given levels accept. -/
def openPacket (opens : EncryptionLevel → Bool) (h : CryptoSetupClient) :
    CryptoSetupClient × Option EncryptionLevel :=
  if h.forwardSecureAEAD.isSome then
    (h, if opens .forwardSecure then some .forwardSecure else none)
  else if h.secureAEAD.isSome && opens .secure then
    ({ h with receivedSecurePacket := true }, some .secure)
  else if h.secureAEAD.isSome && h.receivedSecurePacket then (h, none)
  else (h, if opens .unencrypted then some .unencrypted else none)

/-! ## The loop -/

/-- What a round does before it waits. -/
def beforeSelect (env : HandshakeEnv) (h : CryptoSetupClient) :
    Except HandshakeError CryptoSetupClient := do
  let h ← h.maybeUpgradeCrypto prims
  if h.secureAEAD.isNone then h.sendCHLO prims env else .ok h

end CryptoSetupClient

/-- What `HandleCryptoStream` waits for. -/
inductive CryptoInput where
  | divNonce (divNonce : List UInt8)
  | message (message : HandshakeMessage)
  /-- the crypto stream holds no further message -/
  | parseError (text : String)

namespace CryptoSetupClient

variable (prims : Primitives) (env : HandshakeEnv)

/-- `HandleCryptoStream`, until it waits for the first time. -/
def begin (cache : HandshakeCache)
    (h : CryptoSetupClient) : Except HandshakeError CryptoSetupClient :=
  let h := if h.params.cacheHandshake then h.useHandshakeCache prims env cache else h
  h.beforeSelect prims env

/-- What a round does after it has waited. -/
def handleInput (cache : HandshakeCache) (h : CryptoSetupClient) :
    CryptoInput → Except HandshakeError (CryptoSetupClient × HandshakeCache)
  | .divNonce divNonce =>
    if h.diversificationNonce ≠ [] ∧ h.diversificationNonce ≠ divNonce then
      .error .errConflictingDiversificationNonces
    else .ok ({ h with diversificationNonce := divNonce }, cache)
  | .message message =>
    if message.tag = tagREJ then do
      let h ← h.handleREJMessage prims env message.data
      return (h, cache)
    else if message.tag = tagSHLO then do
      let h ← h.handleSHLOMessage prims env message.data
      return (h, if h.params.cacheHandshake then h.cacheHandshake env cache else cache)
    else .error (.qerr .invalidCryptoMessageType "")
  | .parseError text => .error (.qerr .handshakeFailed text)

end CryptoSetupClient

end MPQuic
