import MPQuic.Handshake.CryptoSetupClient

/-!
# Server configs and their proofs

The client may derive its initial keys once a flag says that the server is verified. The flag is
set when a proof for a server config has been checked, or when the handshake was found in the cache.
It stays set when a later REJ brings another server config, and the proof for that one is checked
only if there is a proof and a certificate to check it with.

* `derivedFrom_verified`: in every run of any number of handshakes that share a cache, if no REJ
  replaces the server config of a verified server without something to check it with, the keys are
  derived from a server config for which `VerifyServerProof` has succeeded.
* `replacedConfig_unverified`: a REJ without a proof makes a client with a cached handshake derive
  its keys from a server config that nobody has verified.
-/

namespace MPQuic

open ByteCodec

/-! ## What each function can do -/

namespace CryptoSetupClient

variable {prims : Primitives} {env : HandshakeEnv} {cache : HandshakeCache}
  {h h' : CryptoSetupClient} {cryptoData : TagMap}

theorem generateClientNonce_cases (generated : h.generateClientNonce env = .ok h') :
    ∃ nonc, h' = { h with nonc } := by
  unfold generateClientNonce at generated
  split at generated
  · cases generated
  · split at generated
    · cases generated
    · split at generated
      · cases generated
      · split at generated
        · cases generated
        · cases generated
          exact ⟨_, rfl⟩

theorem receiveServerConfig_cases (received : h.receiveServerConfig prims env cryptoData = .ok h') :
    (cryptoData.lookup tagSCFG = none ∧ h' = h) ∨
      ∃ scfg serverConfig nonc, cryptoData.lookup tagSCFG = some scfg ∧
        serverConfig.raw = scfg ∧
        h' = { h with serverConfig := some serverConfig, scfgData := scfg, nonc } := by
  unfold receiveServerConfig at received
  split at received
  · rename_i missing
    cases received
    exact .inl ⟨missing, rfl⟩
  · rename_i scfg present
    obtain ⟨serverConfig, parsed, received⟩ := exists_of_bind_eq_ok received
    obtain ⟨_, -, received⟩ := exists_of_bind_eq_ok received
    have raw := parseServerConfig_raw parsed
    simp only at received
    split at received
    · obtain ⟨nonc, rfl⟩ := generateClientNonce_cases received
      exact .inr ⟨scfg, serverConfig, nonc, present, raw, rfl⟩
    · cases received
      exact .inr ⟨scfg, serverConfig, h.nonc, present, raw, rfl⟩

theorem receiveProof_eq (cryptoData : TagMap) (h : CryptoSetupClient) :
    ∃ chloForSignature, h.receiveProof cryptoData =
      { h with proof := (cryptoData.lookup tagPROF).getD h.proof, chloForSignature } := by
  unfold receiveProof
  cases cryptoData.lookup tagPROF with
  | none => exact ⟨h.chloForSignature, rfl⟩
  | some proof => exact ⟨h.lastSentCHLO, rfl⟩

/-- An empty chain does not pass `Verify`. -/
theorem receiveCertificates_cases (received : h.receiveCertificates prims cryptoData = .ok h') :
    (cryptoData.lookup tagCERT = none ∧ h' = h) ∨
      ∃ crt certManager, cryptoData.lookup tagCERT = some crt ∧ certManager.chain ≠ [] ∧
        h' = { h with certManager, certData := crt } := by
  unfold receiveCertificates at received
  split at received
  · rename_i missing
    cases received
    exact .inl ⟨missing, rfl⟩
  · rename_i crt present
    split at received
    · cases received
    · rename_i certManager _
      split at received
      · cases received
      · rename_i valid
        cases received
        refine .inr ⟨crt, certManager, present, ?_, rfl⟩
        intro empty
        rw [CertManager.verify, if_pos empty] at valid
        cases valid

theorem checkServerProof_cases (checked : h.checkServerProof prims = .ok h') :
    (∃ serverConfig, h.serverConfig = some serverConfig ∧
      h' = { h with serverVerified := true, verified := serverConfig.raw :: h.verified }) ∨
    ((h.serverConfig = none ∨ h.proof = [] ∨ h.certManager.chain = []) ∧ h' = h) := by
  unfold checkServerProof at checked
  split at checked
  · rename_i missing
    cases checked
    exact .inr ⟨.inl missing, rfl⟩
  · rename_i serverConfig present
    split at checked
    · split at checked
      · cases checked
        exact .inl ⟨serverConfig, present, rfl⟩
      · cases checked
    · rename_i incomplete
      cases checked
      rw [not_and_or, not_not, not_not, CertManager.getLeafCert, List.head?_eq_none_iff]
        at incomplete
      exact .inr ⟨.inr incomplete, rfl⟩

/-- What a REJ leaves alone. -/
def outline (h : CryptoSetupClient) :
    List UInt8 × TransportParameters × Option AEADAESGCM12 × Bool × Option (List UInt8) ×
      Option (List UInt8) :=
  (h.hostname, h.params, h.secureAEAD, h.receivedSecurePacket, h.verifiedInCache, h.derivedFrom)

/-- The server config is the one that a REJ brings, if it brings one. -/
def TakesConfig (cryptoData : TagMap) (h h' : CryptoSetupClient) : Prop :=
  (cryptoData.lookup tagSCFG = none ∧ h'.serverConfig = h.serverConfig ∧
    h'.scfgData = h.scfgData) ∨
  ∃ scfg serverConfig, cryptoData.lookup tagSCFG = some scfg ∧ serverConfig.raw = scfg ∧
    h'.serverConfig = some serverConfig ∧ h'.scfgData = scfg

/-- What there is of a REJ when the proof is about to be checked. -/
structure Prepared (cryptoData : TagMap) (h h' : CryptoSetupClient) : Prop where
  outline : h'.outline = h.outline
  config : TakesConfig cryptoData h h'
  proof : h'.proof = (cryptoData.lookup tagPROF).getD h.proof
  chain : h'.certManager.chain = [] → cryptoData.lookup tagCERT = none ∧ h.certManager.chain = []
  serverVerified : h'.serverVerified = h.serverVerified
  verified : h'.verified = h.verified

/-- What a REJ that is accepted does to the server config and to its verification. -/
structure Rejected (cryptoData : TagMap) (h h' : CryptoSetupClient) : Prop where
  outline : h'.outline = h.outline
  config : TakesConfig cryptoData h h'
  checked :
    (∃ serverConfig, h'.serverConfig = some serverConfig ∧ h'.serverVerified = true ∧
      h'.verified = serverConfig.raw :: h.verified) ∨
    ((h'.serverConfig = none ∨ (cryptoData.lookup tagPROF).getD h.proof = [] ∨
      (cryptoData.lookup tagCERT = none ∧ h.certManager.chain = [])) ∧
      h'.serverVerified = h.serverVerified ∧ h'.verified = h.verified)

theorem Prepared.rejected {h₂ : CryptoSetupClient} (prepared : Prepared cryptoData h h₂)
    (checked : h₂.checkServerProof prims = .ok h') : Rejected cryptoData h h' := by
  rcases checkServerProof_cases checked with ⟨serverConfig, present, rfl⟩ | ⟨incomplete, rfl⟩
  · refine ⟨prepared.outline, prepared.config, .inl ⟨serverConfig, present, rfl, ?_⟩⟩
    exact congrArg (serverConfig.raw :: ·) prepared.verified
  · refine ⟨prepared.outline, prepared.config,
      .inr ⟨?_, prepared.serverVerified, prepared.verified⟩⟩
    rcases incomplete with missing | empty | noLeaf
    · exact .inl missing
    · exact .inr (.inl (prepared.proof ▸ empty))
    · exact .inr (.inr (prepared.chain noLeaf))

theorem handleREJMessage_cases (handled : h.handleREJMessage prims env cryptoData = .ok h') :
    Rejected cryptoData h h' := by
  obtain ⟨h₁, configured, handled⟩ := exists_of_bind_eq_ok handled
  obtain ⟨h₂, certified, checked⟩ := exists_of_bind_eq_ok handled
  obtain ⟨chlo, proof⟩ := receiveProof_eq cryptoData h₁
  rw [proof] at certified
  have config : TakesConfig cryptoData h h₁ ∧ h₁.outline = h.outline ∧ h₁.proof = h.proof ∧
      h₁.certManager = h.certManager ∧ h₁.serverVerified = h.serverVerified ∧
      h₁.verified = h.verified := by
    rcases receiveServerConfig_cases configured with
      ⟨missing, rfl⟩ | ⟨scfg, serverConfig, nonc, present, raw, rfl⟩
    · exact ⟨.inl ⟨missing, rfl, rfl⟩, rfl, rfl, rfl, rfl, rfl⟩
    · exact ⟨.inr ⟨scfg, serverConfig, present, raw, rfl, rfl⟩, rfl, rfl, rfl, rfl, rfl⟩
  obtain ⟨config, outline, oldProof, oldChain, serverVerified, verified⟩ := config
  have newProof : (cryptoData.lookup tagPROF).getD h₁.proof =
      (cryptoData.lookup tagPROF).getD h.proof := by rw [oldProof]
  refine Prepared.rejected ?_ checked
  rcases receiveCertificates_cases certified with
    ⟨noCert, rfl⟩ | ⟨crt, certManager, _, chain, rfl⟩
  · refine ⟨outline, config, newProof, ?_, serverVerified, verified⟩
    intro empty
    exact ⟨noCert, oldChain ▸ empty⟩
  · exact ⟨outline, config, newProof, fun empty => absurd empty chain, serverVerified,
      verified⟩

theorem handleSHLOMessage_cases (handled : h.handleSHLOMessage prims env cryptoData = .ok h') :
    h.receivedSecurePacket = true ∧
      ∃ sno forwardSecureAEAD, h' = { h with sno, forwardSecureAEAD } := by
  obtain ⟨_, secure, handled⟩ := exists_of_bind_eq_ok handled
  iterate 8 obtain ⟨_, -, handled⟩ := exists_of_bind_eq_ok handled
  cases handled
  exact ⟨Bool.not_eq_false_eq_eq_true _ |>.mp (eq_false_of_refuseIf secure), _, _, rfl⟩

theorem maybeUpgradeCrypto_cases (upgraded : h.maybeUpgradeCrypto prims = .ok h') :
    h' = h ∨ (h.serverVerified = true ∧ h.secureAEAD = none ∧ ∃ serverConfig aead,
      h.serverConfig = some serverConfig ∧
        h' = { h with secureAEAD := some aead, derivedFrom := some serverConfig.raw }) := by
  unfold maybeUpgradeCrypto at upgraded
  split at upgraded
  · cases upgraded
    exact .inl rfl
  · rename_i verified
    split at upgraded
    · rename_i serverConfig noKeys present
      split at upgraded
      · split at upgraded
        · cases upgraded
        · rename_i aead _
          cases upgraded
          have verified : h.serverVerified = true := by simpa using verified
          exact .inr ⟨verified, noKeys, serverConfig, aead, present, rfl⟩
      · cases upgraded
        exact .inl rfl
    · cases upgraded
      exact .inl rfl

theorem sendCHLO_cases (sent : h.sendCHLO prims env = .ok h') :
    ∃ clientHelloCounter lastSentCHLO, h' = { h with clientHelloCounter, lastSentCHLO } := by
  unfold sendCHLO at sent
  simp only at sent
  split at sent
  · cases sent
  · split at sent
    · cases sent
    · cases sent
      exact ⟨_, _, rfl⟩

/-! ## Verified server configs -/

/-- `VerifyServerProof` has succeeded for the server config, in this handshake or in the one that
stored it in the cache. -/
def Vouched (h : CryptoSetupClient) (raw : List UInt8) : Prop :=
  raw ∈ h.verified ∨ h.verifiedInCache = some raw

/-- A REJ that replaces the server config of a verified server leaves a proof and a certificate to
check the new one with. Once the initial keys are derived this matters for the cache only. -/
def ChecksNewConfig (h : CryptoSetupClient) (cryptoData : TagMap) : Prop :=
  h.serverVerified = true → h.secureAEAD = none ∨ h.params.cacheHandshake = true →
    ∀ scfg ∈ cryptoData.lookup tagSCFG, scfg = h.scfgData ∨
      ((cryptoData.lookup tagPROF).getD h.proof ≠ [] ∧
        (cryptoData.lookup tagCERT ≠ none ∨ h.certManager.chain ≠ []))

instance (h : CryptoSetupClient) (cryptoData : TagMap) : Decidable (h.ChecksNewConfig cryptoData) :=
  inferInstanceAs (Decidable (_ → _ → _))

/-- What holds of a client between two rounds, when the cache of its host is as given. -/
structure Sound (cache : HandshakeCache) (h : CryptoSetupClient) : Prop where
  config : ∀ serverConfig, h.serverConfig = some serverConfig → h.scfgData = serverConfig.raw
  verified : h.serverVerified = true → ∃ serverConfig, h.serverConfig = some serverConfig ∧
    (h.secureAEAD = none ∨ h.params.cacheHandshake = true → h.Vouched serverConfig.raw)
  keys : h.secureAEAD ≠ none → h.serverVerified = true
  received : h.receivedSecurePacket = true → h.secureAEAD ≠ none
  cached : h.verifiedInCache ≠ none → cache.file .scfg ≠ none
  derived : h.secureAEAD ≠ none → ∃ raw, h.derivedFrom = some raw ∧ h.Vouched raw

end CryptoSetupClient

/-- The server config in the cache was verified by the handshake that stored it. -/
def HandshakeCache.Sound (cache : HandshakeCache) : Prop :=
  cache.file .scfg ≠ none → cache.scfgVerified = true

namespace CryptoSetupClient

variable {prims : Primitives} {env : HandshakeEnv} {cache cache' : HandshakeCache}
  {h h' : CryptoSetupClient} {cryptoData : TagMap}

theorem Sound.mono (sound : h.Sound cache)
    (kept : cache.file .scfg ≠ none → cache'.file .scfg ≠ none) : h.Sound cache' :=
  { sound with cached := fun found => kept (sound.cached found) }

/-- Nothing has been received and nothing has been read from the cache. -/
def Fresh (h : CryptoSetupClient) : Prop :=
  (h.serverConfig, h.serverVerified, h.secureAEAD, h.receivedSecurePacket, h.verifiedInCache) =
    (none, false, none, false, none)

/-- A client that does not take its server for verified. -/
theorem Sound.of_unverified (config : ∀ serverConfig, h.serverConfig = some serverConfig →
      h.scfgData = serverConfig.raw)
    (unverified : (h.serverVerified, h.secureAEAD, h.receivedSecurePacket, h.verifiedInCache) =
      (false, none, false, none)) : h.Sound cache := by
  simp only [Prod.mk.injEq] at unverified
  obtain ⟨flag, noKeys, nothing, notCached⟩ := unverified
  exact
    { config
      verified := fun set => absurd (flag.symm.trans set) Bool.false_ne_true
      keys := fun keys => absurd noKeys keys
      received := fun set => absurd (nothing.symm.trans set) Bool.false_ne_true
      cached := fun found => absurd notCached found
      derived := fun keys => absurd noKeys keys }

theorem Fresh.sound (fresh : h.Fresh) : h.Sound cache := by
  obtain ⟨noConfig, unverified⟩ := Prod.mk.inj fresh
  refine Sound.of_unverified (fun serverConfig present => ?_) unverified
  exact absurd (noConfig.symm.trans present) (Option.some_ne_none _).symm

/-- What is read from the cache of a verified server config is one. -/
theorem Fresh.useHandshakeCache (fresh : h.Fresh) (cacheSound : cache.Sound) :
    (h.useHandshakeCache prims env cache).Sound cache ∧
      (h.useHandshakeCache prims env cache).hostname = h.hostname := by
  unfold CryptoSetupClient.useHandshakeCache
  split
  · exact ⟨fresh.sound, rfl⟩
  split
  · exact ⟨fresh.sound, rfl⟩
  split
  · exact ⟨fresh.sound, rfl⟩
  split
  · exact ⟨Fresh.sound fresh, rfl⟩
  split
  · exact ⟨Fresh.sound fresh, rfl⟩
  rename_i certManager _
  split
  · exact ⟨Fresh.sound fresh, rfl⟩
  rename_i scfgData read
  have stored : cache.file .scfg = some scfgData := by
    unfold HandshakeCache.readBinaryFile at read
    split at read
    · cases read
    · exact read
  obtain ⟨-, unverified⟩ := Prod.mk.inj fresh
  split
  · exact ⟨Sound.of_unverified (fun _ present => by cases present) unverified, rfl⟩
  rename_i serverConfig parsed
  have raw := parseServerConfig_raw parsed
  simp only
  split
  · refine ⟨Sound.of_unverified (fun _ present => ?_) unverified, rfl⟩
    cases present
    exact raw.symm
  · rename_i generated
    obtain ⟨nonc, rfl⟩ := generateClientNonce_cases generated
    simp only [Prod.mk.injEq] at unverified
    obtain ⟨-, noKeys, nothing, -⟩ := unverified
    have verified : cache.scfgVerified = true :=
      cacheSound (by rw [stored]; exact Option.some_ne_none _)
    refine ⟨?_, rfl⟩
    exact
      { config := fun _ present => by
          cases present
          exact raw.symm
        verified := fun _ => ⟨serverConfig, rfl, fun _ => .inr (by rw [if_pos verified, raw])⟩
        keys := fun keys => absurd noKeys keys
        received := fun set => absurd (nothing.symm.trans set) Bool.false_ne_true
        cached := fun _ => by
          rw [stored]
          exact Option.some_ne_none _
        derived := fun keys => absurd noKeys keys }

theorem Sound.maybeUpgradeCrypto (sound : h.Sound cache)
    (upgraded : h.maybeUpgradeCrypto prims = .ok h') : h'.Sound cache := by
  rcases maybeUpgradeCrypto_cases upgraded with rfl | ⟨verified, noKeys, config, aead, present, rfl⟩
  · exact sound
  · obtain ⟨config', present', vouched⟩ := sound.verified verified
    obtain rfl : config' = config := Option.some.inj (present'.symm.trans present)
    have vouched := vouched (.inl noKeys)
    exact
      { config := sound.config
        verified := fun _ => ⟨config', present, fun _ => vouched⟩
        keys := fun _ => verified
        received := fun _ => Option.some_ne_none _
        cached := sound.cached
        derived := fun _ => ⟨config'.raw, rfl, vouched⟩ }

theorem Sound.beforeSelect (sound : h.Sound cache)
    (ready : h.beforeSelect prims env = .ok h') : h'.Sound cache := by
  obtain ⟨h₁, upgraded, sent⟩ := exists_of_bind_eq_ok ready
  have sound := sound.maybeUpgradeCrypto upgraded
  split at sent
  · obtain ⟨_, _, rfl⟩ := sendCHLO_cases sent
    exact ⟨sound.config, sound.verified, sound.keys, sound.received, sound.cached, sound.derived⟩
  · cases sent
    exact sound

theorem Rejected.vouched (rejected : Rejected cryptoData h h') {raw : List UInt8}
    (vouched : h.Vouched raw) : h'.Vouched raw := by
  have outline := rejected.outline
  simp only [CryptoSetupClient.outline, Prod.mk.injEq] at outline
  obtain ⟨-, -, -, -, inCache, -⟩ := outline
  rcases vouched with here | stored
  · left
    rcases rejected.checked with ⟨_, -, -, new⟩ | ⟨-, -, old⟩
    · exact new ▸ List.mem_cons_of_mem _ here
    · exact old ▸ here
  · exact .inr (inCache.trans stored)

section

variable (sound : h.Sound cache)

include sound

/-- After a REJ the server counts as verified if the proof was checked just now, or if it did so
before. In the second case the server config is an old one. -/
theorem Sound.verified_of_rejected (checks : h.ChecksNewConfig cryptoData)
    (rejected : Rejected cryptoData h h') (set : h'.serverVerified = true) :
    ∃ serverConfig, h'.serverConfig = some serverConfig ∧
      (h.secureAEAD = none ∨ h.params.cacheHandshake = true → h'.Vouched serverConfig.raw) := by
  rcases rejected.checked with ⟨serverConfig, present, -, new⟩ | ⟨incomplete, flag, -⟩
  · exact ⟨serverConfig, present, fun _ => .inl (new ▸ List.mem_cons_self)⟩
  · have set : h.serverVerified = true := flag ▸ set
    obtain ⟨old, present, vouched⟩ := sound.verified set
    rcases rejected.config with ⟨-, same, -⟩ | ⟨scfg, new, brings, raw, taken, -⟩
    · exact ⟨old, same.trans present, fun matters => rejected.vouched (vouched matters)⟩
    · refine ⟨new, taken, fun matters => ?_⟩
      rcases checks set matters scfg brings with again | ⟨proof, leaf⟩
      · rw [raw, again, sound.config old present]
        exact rejected.vouched (vouched matters)
      · -- there was everything to check the proof with, so it was not left out
        rcases incomplete with missing | empty | ⟨noCert, noChain⟩
        · exact absurd (taken.symm.trans missing) (Option.some_ne_none _)
        · exact absurd empty proof
        · exact absurd noChain (leaf.resolve_left (not_not.mpr noCert))

theorem Sound.handleREJMessage (checks : h.ChecksNewConfig cryptoData)
    (handled : h.handleREJMessage prims env cryptoData = .ok h') : h'.Sound cache := by
  have rejected := handleREJMessage_cases handled
  have outline := rejected.outline
  simp only [CryptoSetupClient.outline, Prod.mk.injEq] at outline
  obtain ⟨-, params, keys, received, inCache, derived⟩ := outline
  refine ⟨?_, ?_, ?_, ?_, ?_, ?_⟩
  · intro serverConfig present
    rcases rejected.config with ⟨-, same, data⟩ | ⟨scfg, new, -, raw, taken, data⟩
    · exact data.trans (sound.config serverConfig (same ▸ present))
    · obtain rfl : new = serverConfig := Option.some.inj (taken.symm.trans present)
      exact data.trans raw.symm
  · rw [keys, params]
    exact sound.verified_of_rejected checks rejected
  · rw [keys]
    intro keys
    have set := sound.keys keys
    rcases rejected.checked with ⟨_, -, new, -⟩ | ⟨-, old, -⟩
    · exact new
    · exact old.trans set
  · rw [keys, received]
    exact sound.received
  · rw [inCache]
    exact sound.cached
  · rw [keys, derived]
    intro keys
    obtain ⟨raw, source, vouched⟩ := sound.derived keys
    exact ⟨raw, source, rejected.vouched vouched⟩

theorem Sound.handleSHLOMessage (handled : h.handleSHLOMessage prims env cryptoData = .ok h') :
    h'.Sound cache := by
  obtain ⟨-, _, _, rfl⟩ := handleSHLOMessage_cases handled
  exact ⟨sound.config, sound.verified, sound.keys, sound.received, sound.cached, sound.derived⟩

/-- A client that has received a packet under its initial keys has a verified server config to
store, or there is one in the cache. -/
theorem Sound.scfgData_verified (received : h.receivedSecurePacket = true)
    (caches : h.params.cacheHandshake = true) (empty : cache.file .scfg = none) :
    h.scfgData ∈ h.verified := by
  obtain ⟨config, present, vouched⟩ := sound.verified (sound.keys (sound.received received))
  rw [sound.config config present]
  rcases vouched (.inr caches) with here | stored
  · exact here
  · exact absurd empty (sound.cached (by rw [stored]; exact Option.some_ne_none _))

theorem Sound.openPacket (opens : EncryptionLevel → Bool) : (h.openPacket opens).1.Sound cache := by
  unfold CryptoSetupClient.openPacket
  split
  · exact sound
  · split
    · rename_i keys
      have keys : h.secureAEAD ≠ none :=
        Option.isSome_iff_ne_none.mp (Bool.and_eq_true_iff.mp keys).1
      exact ⟨sound.config, sound.verified, sound.keys, fun _ => keys, sound.cached, sound.derived⟩
    · split
      · exact sound
      · exact sound

end

end CryptoSetupClient

namespace HandshakeCache

variable {env : HandshakeEnv} {cache : HandshakeCache}

theorem writeBinaryFile_of_ne {name other : CacheFile} (ne : other ≠ name) (data : List UInt8) :
    (cache.writeBinaryFile env name data).file other = cache.file other := by
  unfold writeBinaryFile
  split
  · rfl
  · exact Function.update_of_ne ne _ _

theorem writeBinaryFile_of_isSome {name : CacheFile} (stored : cache.file name ≠ none)
    (data : List UInt8) : cache.writeBinaryFile env name data = cache := by
  unfold writeBinaryFile
  rw [Option.isSome_iff_ne_none.mpr stored, Bool.true_or, if_pos rfl]

/-- A server config that is in the cache stays there. -/
theorem cacheHandshake_scfg (h : CryptoSetupClient) (stored : cache.file .scfg ≠ none) :
    (h.cacheHandshake env cache).file .scfg ≠ none := by
  have others : (((cache.writeBinaryFile env .sni h.hostname).writeBinaryFile env .stk
      h.stk).writeBinaryFile env .cert h.certData).file .scfg = cache.file .scfg := by
    rw [writeBinaryFile_of_ne (by decide), writeBinaryFile_of_ne (by decide),
      writeBinaryFile_of_ne (by decide)]
  unfold CryptoSetupClient.cacheHandshake
  simp only
  rw [writeBinaryFile_of_isSome (others ▸ stored), others]
  exact stored

/-- What a client stores it has verified. -/
theorem Sound.cacheHandshake {h : CryptoSetupClient} (sound : cache.Sound)
    (verified : cache.file .scfg = none → h.scfgData ∈ h.verified) :
    (h.cacheHandshake env cache).Sound := by
  intro _
  show (if (cache.file .scfg).isSome then cache.scfgVerified
    else decide (h.scfgData ∈ h.verified)) = true
  split
  · rename_i stored
    exact sound (Option.isSome_iff_ne_none.mp stored)
  · rename_i empty
    exact decide_eq_true (verified (Option.not_isSome_iff_eq_none.mp empty))

end HandshakeCache

namespace CryptoSetupClient

variable {prims : Primitives} {env : HandshakeEnv} {cache cache' : HandshakeCache}
  {h h' : CryptoSetupClient}

theorem beforeSelect_hostname (ready : h.beforeSelect prims env = .ok h') :
    h'.hostname = h.hostname := by
  obtain ⟨h₁, upgraded, sent⟩ := exists_of_bind_eq_ok ready
  have same : h₁.hostname = h.hostname := by
    rcases maybeUpgradeCrypto_cases upgraded with rfl | ⟨-, -, _, _, -, rfl⟩ <;> rfl
  split at sent
  · obtain ⟨_, _, rfl⟩ := sendCHLO_cases sent
    exact same
  · cases sent
    exact same

theorem openPacket_hostname (h : CryptoSetupClient) (opens : EncryptionLevel → Bool) :
    (h.openPacket opens).1.hostname = h.hostname := by
  unfold openPacket
  split_ifs <;> rfl

theorem Fresh.begin (fresh : h.Fresh) (cacheSound : cache.Sound)
    (begun : h.begin prims env cache = .ok h') : h'.Sound cache ∧ h'.hostname = h.hostname := by
  unfold CryptoSetupClient.begin at begun
  split at begun
  · obtain ⟨sound, same⟩ := fresh.useHandshakeCache cacheSound
    exact ⟨sound.beforeSelect begun, (beforeSelect_hostname begun).trans same⟩
  · exact ⟨fresh.sound.beforeSelect begun, beforeSelect_hostname begun⟩

/-- What a round does to the client and to the cache of its host. -/
structure Round (cache cache' : HandshakeCache) (h h' : CryptoSetupClient) : Prop where
  hostname : h'.hostname = h.hostname
  stored : cache.file .scfg ≠ none → cache'.file .scfg ≠ none
  cacheSound : cache'.Sound
  sound : h'.Sound cache'

theorem Sound.handleInput (sound : h.Sound cache) (cacheSound : cache.Sound) (input : CryptoInput)
    (checks : ∀ message, input = .message message → message.tag = tagREJ →
      h.ChecksNewConfig message.data)
    (handled : h.handleInput prims env cache input = .ok (h', cache')) :
    Round cache cache' h h' := by
  cases input with
  | divNonce divNonce =>
    rw [CryptoSetupClient.handleInput] at handled
    split at handled
    · cases handled
    · cases handled
      exact ⟨rfl, id, cacheSound, ⟨sound.config, sound.verified, sound.keys, sound.received,
        sound.cached, sound.derived⟩⟩
  | parseError text => cases handled
  | message message =>
    rw [CryptoSetupClient.handleInput] at handled
    split at handled
    · rename_i rej
      obtain ⟨h₁, rejected, handled⟩ := exists_of_bind_eq_ok handled
      cases handled
      have outline := (handleREJMessage_cases rejected).outline
      exact ⟨congrArg Prod.fst outline, id, cacheSound,
        sound.handleREJMessage (checks message rfl rej) rejected⟩
    · split at handled
      · obtain ⟨h₁, accepted, handled⟩ := exists_of_bind_eq_ok handled
        have sound₁ := sound.handleSHLOMessage accepted
        obtain ⟨received, _, _, rfl⟩ := handleSHLOMessage_cases accepted
        simp only at handled
        split at handled
        · rename_i caches
          cases handled
          refine ⟨rfl, ?_, cacheSound.cacheHandshake ?_, sound₁.mono ?_⟩
          · exact HandshakeCache.cacheHandshake_scfg _
          · exact sound.scfgData_verified received caches
          · exact HandshakeCache.cacheHandshake_scfg _
        · cases handled
          exact ⟨rfl, id, cacheSound, sound₁⟩
      · cases handled

end CryptoSetupClient

/-! ## Runs -/

/-- Handshakes that share the cache of this machine. A client that is gone has returned an error. -/
structure HandshakeRun where
  cache : List UInt8 → HandshakeCache := fun _ => {}
  clients : Nat → Option CryptoSetupClient := fun _ => none

inductive HandshakeEvent where
  /-- a new client, with the arguments of `NewCryptoSetupClient` -/
  | start (i : Nat) (hostname : List UInt8) (connID : Nat) (version : VersionNumber)
      (negotiatedVersions : List VersionNumber) (params : TransportParameters)
      (insecureSkipVerify : Bool) (env : HandshakeEnv)
  /-- a message, a diversification nonce or the end of the crypto stream -/
  | receive (i : Nat) (input : CryptoInput) (env : HandshakeEnv)
  /-- a packet that the AEADs of the given levels accept -/
  | openPacket (i : Nat) (opens : EncryptionLevel → Bool)

namespace HandshakeRun

variable (w : HandshakeRun)

def put (i : Nat) (result : Except HandshakeError CryptoSetupClient) : HandshakeRun :=
  { w with clients := Function.update w.clients i result.toOption }

def store (hostname : List UInt8) (cache : HandshakeCache) : HandshakeRun :=
  { w with cache := Function.update w.cache hostname cache }

/-- The run after an event. -/
def step (prims : Primitives) (w : HandshakeRun) : HandshakeEvent → HandshakeRun
  | .start i hostname connID version negotiatedVersions params insecureSkipVerify env =>
    let client : CryptoSetupClient :=
      { hostname, connID, version, negotiatedVersions, params
        certManager := { insecureSkipVerify } }
    w.put i (client.begin prims env (w.cache hostname))
  | .receive i input env =>
    match w.clients i with
    | none => w
    | some h =>
      match h.handleInput prims env (w.cache h.hostname) input with
      | .error err => w.put i (.error err)
      | .ok (h', cache) => (w.store h.hostname cache).put i (h'.beforeSelect prims env)
  | .openPacket i opens =>
    match w.clients i with
    | none => w
    | some h => w.put i (.ok (h.openPacket opens).1)

def run (prims : Primitives) (w : HandshakeRun) (events : List HandshakeEvent) : HandshakeRun :=
  events.foldl (step prims) w

/-- The event is no REJ that replaces the server config of a verified server unchecked. -/
def ChecksNewConfigs : HandshakeEvent → Prop
  | .receive i (.message message) _ =>
    message.tag = tagREJ → ∀ h ∈ w.clients i, h.ChecksNewConfig message.data
  | _ => True

instance (w : HandshakeRun) : ∀ event, Decidable (w.ChecksNewConfigs event)
  | .receive i (.message message) _ => inferInstanceAs (Decidable
    (message.tag = tagREJ → ∀ h ∈ w.clients i, h.ChecksNewConfig message.data))
  | .receive _ (.divNonce _) _ => inferInstanceAs (Decidable True)
  | .receive _ (.parseError _) _ => inferInstanceAs (Decidable True)
  | .start _ _ _ _ _ _ _ _ => inferInstanceAs (Decidable True)
  | .openPacket _ _ => inferInstanceAs (Decidable True)

/-- All events of a run are such. -/
def RunChecksNewConfigs (prims : Primitives) : HandshakeRun → List HandshakeEvent → Prop
  | _, [] => True
  | w, event :: events =>
    w.ChecksNewConfigs event ∧ RunChecksNewConfigs prims (w.step prims event) events

instance decidableRunChecksNewConfigs (prims : Primitives) :
    ∀ (w : HandshakeRun) (events : List HandshakeEvent),
      Decidable (RunChecksNewConfigs prims w events)
  | _, [] => inferInstanceAs (Decidable True)
  | w, event :: events =>
    have := decidableRunChecksNewConfigs prims (w.step prims event) events
    inferInstanceAs (Decidable (w.ChecksNewConfigs event ∧ _))

structure Sound (w : HandshakeRun) : Prop where
  cache : ∀ hostname, (w.cache hostname).Sound
  clients : ∀ i h, w.clients i = some h → h.Sound (w.cache h.hostname)

variable {prims : Primitives} {w : HandshakeRun}

theorem Sound.put (sound : w.Sound) (i : Nat) {result : Except HandshakeError CryptoSetupClient}
    (new : ∀ h, result = .ok h → h.Sound (w.cache h.hostname)) : (w.put i result).Sound := by
  refine ⟨sound.cache, fun j h found => ?_⟩
  change Function.update w.clients i result.toOption j = some h at found
  by_cases same : j = i
  · rw [same, Function.update_self] at found
    cases result with
    | error err => cases found
    | ok h =>
      cases found
      exact new h rfl
  · rw [Function.update_of_ne same] at found
    exact sound.clients j h found

theorem Sound.store (sound : w.Sound) (hostname : List UInt8) {cache : HandshakeCache}
    (cacheSound : cache.Sound)
    (stored : (w.cache hostname).file .scfg ≠ none → cache.file .scfg ≠ none) :
    (w.store hostname cache).Sound := by
  constructor
  · intro other
    by_cases same : other = hostname
    · subst same
      show (Function.update w.cache other cache other).Sound
      rw [Function.update_self]
      exact cacheSound
    · show (Function.update w.cache hostname cache other).Sound
      rw [Function.update_of_ne same]
      exact sound.cache other
  · intro i h found
    have before := sound.clients i h found
    show h.Sound (Function.update w.cache hostname cache h.hostname)
    by_cases same : h.hostname = hostname
    · rw [same, Function.update_self]
      exact before.mono (same ▸ stored)
    · rw [Function.update_of_ne same]
      exact before

theorem Sound.step (sound : w.Sound) {event : HandshakeEvent} (checks : w.ChecksNewConfigs event) :
    (w.step prims event).Sound := by
  cases event with
  | start i hostname connID version negotiatedVersions params insecureSkipVerify env =>
    refine sound.put i fun h ready => ?_
    let new : CryptoSetupClient :=
      { hostname, connID, version, negotiatedVersions, params
        certManager := { insecureSkipVerify } }
    have fresh : new.Fresh := rfl
    obtain ⟨begun, hostname⟩ := fresh.begin (sound.cache _) ready
    rw [hostname]
    exact begun
  | receive i input env =>
    rw [HandshakeRun.step]
    split
    · exact sound
    · rename_i h found
      split
      · exact sound.put i fun _ gone => by cases gone
      · rename_i h' cache handled
        have checks : ∀ message, input = .message message → message.tag = tagREJ →
            h.ChecksNewConfig message.data := by
          rintro message rfl rej
          exact checks rej h found
        have round := (sound.clients i h found).handleInput (sound.cache _) input checks handled
        refine (sound.store h.hostname round.cacheSound round.stored).put i fun h'' ready => ?_
        have hostname : h''.hostname = h.hostname :=
          (CryptoSetupClient.beforeSelect_hostname ready).trans round.hostname
        show h''.Sound (Function.update w.cache h.hostname cache h''.hostname)
        rw [hostname, Function.update_self]
        exact round.sound.beforeSelect ready
  | openPacket i opens =>
    rw [HandshakeRun.step]
    split
    · exact sound
    · rename_i h found
      refine sound.put i fun h' opened => ?_
      cases opened
      rw [h.openPacket_hostname]
      exact (sound.clients i h found).openPacket opens

theorem Sound.run {events : List HandshakeEvent} :
    ∀ {w : HandshakeRun}, w.Sound → RunChecksNewConfigs prims w events →
      (w.run prims events).Sound := by
  induction events with
  | nil =>
    intro w sound _
    exact sound
  | cons event events ih =>
    intro w sound checks
    exact ih (sound.step checks.1) checks.2

theorem sound_start : Sound {} where
  cache _ stored := absurd rfl stored
  clients _ _ found := by cases found

/-- The keys of a client come from a server config that `VerifyServerProof` has accepted, in this
handshake or in the one that stored it in the cache, if no REJ replaces the server config of a
verified server without a proof and a certificate to check the new one with. -/
theorem derivedFrom_verified (prims : Primitives) (events : List HandshakeEvent)
    (checks : RunChecksNewConfigs prims {} events) (i : Nat) (h : CryptoSetupClient)
    (client : (run prims {} events).clients i = some h) (keys : h.secureAEAD ≠ none) :
    ∃ raw, h.derivedFrom = some raw ∧ (raw ∈ h.verified ∨ h.verifiedInCache = some raw) :=
  ((sound_start.run checks).clients i h client).derived keys

/-! ## A replaced server config -/

/-- Primitives with which the proof of a server config is the server config itself. -/
def selfProving : Primitives where
  scalarBaseMult := id
  scalarMult secret _ := secret
  decompressChain data := some [data]
  parseCertificate _ := true
  verifyCertificate _ _ := true
  verifyServerProof proof _ _ serverConfigData := decide (proof = serverConfigData)
  hashCert := List.length
  keyDerivation _ _ _ _ _ _ _ _ := some zeroKeys

/-- A server config that expires in a distant future. -/
def serverConfigWithID (id : List UInt8) : List UInt8 :=
  HandshakeMessage.write
    { tag := tagSCFG
      data := (∅ : TagMap)
        |>.insert tagSCID id
        |>.insert tagKEXS c255
        |>.insert tagAEAD aesg
        |>.insert tagPUBS ([32, 0, 0] ++ List.replicate 32 1)
        |>.insert tagOBIT (List.replicate 8 0)
        |>.insert tagEXPY (List.replicate 8 255) }

def firstConfig : List UInt8 := serverConfigWithID (List.replicate 16 1)

def secondConfig : List UInt8 := serverConfigWithID (List.replicate 16 2)

/-- A client that caches its handshake. -/
def startCaching (i : Nat) : HandshakeEvent :=
  .start i [] 1 versionMP [] { cacheHandshake := true } false {}

/-- A complete handshake, then a second client that finds it in the cache. -/
def cachedHandshake : List HandshakeEvent :=
  [startCaching 0,
    .receive 0 (.message
      { tag := tagREJ
        data := (∅ : TagMap)
          |>.insert tagSCFG firstConfig
          |>.insert tagPROF firstConfig
          |>.insert tagCERT [1] }) {},
    .receive 0 (.divNonce [7]) {},
    .openPacket 0 fun _ => true,
    .receive 0 (.message
      { tag := tagSHLO
        data := (∅ : TagMap)
          |>.insert tagPUBS (List.replicate 32 1)
          |>.insert tagVER [] }) {},
    startCaching 1]

/-- The server accepts the cached server config at once. -/
def acceptedConfig : List HandshakeEvent :=
  cachedHandshake ++ [.receive 1 (.divNonce [8]) {}]

theorem acceptedConfig_verified :
    RunChecksNewConfigs selfProving {} acceptedConfig ∧
      ∃ h, (run selfProving {} acceptedConfig).clients 1 = some h ∧ h.secureAEAD ≠ none ∧
        ∃ raw, h.derivedFrom = some raw ∧ (raw ∈ h.verified ∨ h.verifiedInCache = some raw) := by
  have checks : RunChecksNewConfigs selfProving {} acceptedConfig := by decide +kernel
  have upgraded : ((run selfProving {} acceptedConfig).clients 1).any
      (·.secureAEAD.isSome) = true := by
    decide +kernel
  obtain ⟨h, client, keys⟩ := (Option.any_eq_true _ _).mp upgraded
  have keys : h.secureAEAD ≠ none := Option.isSome_iff_ne_none.mp keys
  exact ⟨checks, h, client, keys,
    derivedFrom_verified selfProving acceptedConfig checks 1 h client keys⟩

/-- A REJ with another server config and without a proof comes before the diversification nonce. -/
def replacedConfig : List HandshakeEvent :=
  cachedHandshake ++
    [.receive 1 (.message { tag := tagREJ, data := (∅ : TagMap).insert tagSCFG secondConfig }) {},
      .receive 1 (.divNonce [8]) {}]

theorem replacedConfig_unverified :
    ∃ h, (run selfProving {} replacedConfig).clients 1 = some h ∧ h.secureAEAD ≠ none ∧
      h.derivedFrom = some secondConfig ∧ secondConfig ∉ h.verified ∧
      h.verifiedInCache ≠ some secondConfig := by
  have derived : ((run selfProving {} replacedConfig).clients 1).any (fun h =>
      h.secureAEAD.isSome ∧ h.derivedFrom = some secondConfig ∧ secondConfig ∉ h.verified ∧
        h.verifiedInCache ≠ some secondConfig) = true := by
    decide +kernel
  obtain ⟨h, client, facts⟩ := (Option.any_eq_true _ _).mp derived
  obtain ⟨keys, source, notHere, notCached⟩ := of_decide_eq_true facts
  exact ⟨h, client, Option.isSome_iff_ne_none.mp keys, source, notHere, notCached⟩

end HandshakeRun

end MPQuic
