import MPQuic.Handshake.CryptoSetupClient
import MPQuic.Wire.VersionNegotiation

/-!
# The check against a downgrade

`handlePacketWithVersionFlag` of `client.go`. A client whose version the server does not support
starts again with one of the versions that the server offered, and remembers the offer. The server
repeats its versions in the SHLO, where nobody can change them on the way; if the two lists
differ, somebody may have changed the first one (`validateVersionList`).

A different list is always refused. The same list is accepted only if the client supports all of
its versions: the check replaces the other versions of the SHLO by `versionUnsupported`, while the
client has remembered their numbers (`downgradeCheck_iff`).
-/

namespace MPQuic

open ByteCodec List

/-! ## The client -/

/-- The best version of ours that is one of theirs. -/
def chooseSupportedVersion (ours theirs : List VersionNumber) : VersionNumber :=
  (ours.find? fun ourVer => ourVer ∈ theirs).getD versionUnsupported

/-- The version list of the SHLO. -/
def helloVersions (supportedVersions : List VersionNumber) : List UInt8 :=
  supportedVersions.flatMap fun v => ByteOrder.littleEndian.writeUint32 (versionNumberToTag v)

inductive ClientError where
  /-- `qerr.InvalidVersion` -/
  | invalidVersion
  /-- there are no random bytes for a connection ID -/
  | noConnectionID
  deriving DecidableEq

/-- The fields of `client` that take part in the version negotiation. Of the session only the
handshake is kept. -/
structure Client where
  hostname : List UInt8
  version : VersionNumber
  connectionID : Nat
  /-- `config.Versions`, the best one first -/
  versions : List VersionNumber := supportedVersions
  params : TransportParameters := {}
  receivedVersionNegotiationPacket : Bool := false
  session : CryptoSetupClient

namespace Client

def createNewSession (c : Client) (negotiatedVersions : List VersionNumber) : Client :=
  { c with
    session :=
      { hostname := c.hostname
        connID := c.connectionID
        version := c.version
        negotiatedVersions
        params := c.params } }

/-- `random` is the new connection ID, if there is one. -/
def handlePacketWithVersionFlag (c : Client) (hdr : PublicHeader) (random : Option Nat) :
    Client × Option ClientError :=
  -- the server supports our version after all: the packet is ignored
  if c.version ∈ hdr.supportedVersions then (c, none)
  else
    let c := { c with receivedVersionNegotiationPacket := true }
    let newVersion := chooseSupportedVersion c.versions hdr.supportedVersions
    if newVersion = versionUnsupported then (c, some .invalidVersion)
    else
      let c := { c with version := newVersion, connectionID := random.getD 0 }
      if random = none then (c, some .noConnectionID)
      else (c.createNewSession hdr.supportedVersions, none)

/-- A packet that is not ignored and leads to no error is remembered, and it is not empty. -/
theorem negotiatedVersions_of_handled {c c' : Client} {hdr : PublicHeader} {random : Option Nat}
    (unsupported : c.version ∉ hdr.supportedVersions)
    (handled : c.handlePacketWithVersionFlag hdr random = (c', none)) :
    c'.session.negotiatedVersions = hdr.supportedVersions ∧ hdr.supportedVersions ≠ [] := by
  unfold handlePacketWithVersionFlag at handled
  rw [if_neg unsupported] at handled
  dsimp only at handled
  split at handled
  · cases handled
  · rename_i chosen
    split at handled
    · cases handled
    · cases handled
      refine ⟨rfl, fun empty => chosen ?_⟩
      rw [empty, chooseSupportedVersion, find?_eq_none.mpr (by simp)]
      rfl

end Client

/-! ## The check -/

/-- The version that the check takes for one of the SHLO. -/
def knownVersion (ver : VersionNumber) : VersionNumber :=
  if ver ∈ supportedVersions then ver else versionUnsupported

theorem versionOfTag_ne_unsupported (tag : UInt32) : versionOfTag tag ≠ versionUnsupported := by
  have nonneg : (0 : Int) ≤ versionOfTag tag := Int.natCast_nonneg _
  intro unsupported
  rw [unsupported] at nonneg
  exact absurd nonneg (by decide)

theorem eq_knownVersion_iff {v w : VersionNumber} (real : v ≠ versionUnsupported) :
    v = knownVersion w ↔ w = v ∧ v ∈ supportedVersions := by
  unfold knownVersion
  split
  · rename_i known
    constructor
    · rintro rfl
      exact ⟨rfl, known⟩
    · exact fun same => same.1.symm
  · rename_i unknown
    constructor
    · exact fun same => absurd same real
    · rintro ⟨rfl, known⟩
      exact absurd known unknown

theorem eq_map_knownVersion_iff {vs : List VersionNumber}
    (real : ∀ v ∈ vs, v ≠ versionUnsupported) :
    ∀ {ws : List VersionNumber}, vs = ws.map knownVersion ↔
      ws = vs ∧ ∀ v ∈ vs, v ∈ supportedVersions := by
  induction vs with
  | nil =>
    intro ws
    simp [eq_comm]
  | cons v vs ih =>
    intro ws
    cases ws with
    | nil => simp
    | cons w ws =>
      have first := eq_knownVersion_iff (w := w) (real v mem_cons_self)
      have rest : vs = ws.map knownVersion ↔ ws = vs ∧ ∀ v ∈ vs, v ∈ supportedVersions :=
        ih fun v mem => real v (mem_cons_of_mem _ mem)
      rw [map_cons, List.cons.injEq, List.cons.injEq, forall_mem_cons, first, rest]
      tauto

namespace CryptoSetupClient

theorem compareVersions_iff (negotiated : List VersionNumber) :
    ∀ {tags : List UInt32}, tags.length = negotiated.length →
      (compareVersions negotiated (versionTagBytes tags) = true ↔
        negotiated = (tags.map versionOfTag).map knownVersion) := by
  induction negotiated with
  | nil =>
    intro tags sameLength
    rw [length_eq_zero_iff.mp sameLength]
    exact iff_of_true rfl rfl
  | cons negotiatedVersion rest ih =>
    intro tags sameLength
    cases tags with
    | nil => cases sameLength
    | cons tag tags =>
      have read : readVersion.run (versionTagBytes (tag :: tags)) =
          .ok (versionOfTag tag, versionTagBytes tags) := reads_version tag _
      have later := ih (Nat.succ.inj sameLength)
      have step : compareVersions (negotiatedVersion :: rest) (versionTagBytes (tag :: tags)) =
          if knownVersion (versionOfTag tag) ≠ negotiatedVersion then false
          else compareVersions rest (versionTagBytes tags) := by
        rw [compareVersions, read]
        rfl
      rw [step, map_cons, map_cons, List.cons.injEq]
      by_cases same : knownVersion (versionOfTag tag) = negotiatedVersion
      · simp [same, later]
      · simp [same, Ne.symm same]

/-- What the check says about any list of tags in the SHLO. -/
theorem validateVersionList_iff {h : CryptoSetupClient} {tags : List UInt32}
    (recorded : h.negotiatedVersions = tags.map versionOfTag) (named : tags ≠ [])
    (others : List UInt32) :
    h.validateVersionList (versionTagBytes others) = true ↔
      others.map versionOfTag = tags.map versionOfTag ∧
        ∀ tag ∈ tags, versionOfTag tag ∈ supportedVersions := by
  have notEmpty : tags.map versionOfTag ≠ [] := mt map_eq_nil_iff.mp named
  unfold validateVersionList
  rw [recorded, if_neg notEmpty, length_versionTagBytes, length_map]
  by_cases sameLength : others.length = tags.length
  · have real : ∀ v ∈ tags.map versionOfTag, v ≠ versionUnsupported := by
      intro v mem
      obtain ⟨tag, -, rfl⟩ := mem_map.mp mem
      exact versionOfTag_ne_unsupported tag
    rw [if_neg (by omega), compareVersions_iff _ (by rw [length_map, sameLength]),
      eq_map_knownVersion_iff real, forall_mem_map]
  · rw [if_pos (by omega)]
    refine iff_of_false Bool.false_ne_true fun same => sameLength ?_
    have lengths := congrArg List.length same.1
    rw [length_map, length_map] at lengths
    exact lengths

end CryptoSetupClient

/-- The client reads every version negotiation packet. If it starts again with a version of the
packet, the check of the SHLO accepts the same versions and refuses all others if and only if the
client supports all versions of the packet. -/
theorem downgradeCheck_iff (c : Client) {connectionID : Nat} (nonzero : 0 < connectionID)
    (word : connectionID < 2 ^ 64) (tags : List UInt32) :
    ∃ hdr, Reads (parsePublicHeader .server c.version) (versionNegotiation connectionID tags)
        hdr [] ∧
      ∀ (random : Option Nat) (c' : Client), c.version ∉ hdr.supportedVersions →
        c.handlePacketWithVersionFlag hdr random = (c', none) →
        (c'.session.validateVersionList (versionTagBytes tags) = true ∧
            (∀ others : List UInt32, others.map versionOfTag ≠ tags.map versionOfTag →
              c'.session.validateVersionList (versionTagBytes others) = false) ↔
          ∀ tag ∈ tags, versionOfTag tag ∈ supportedVersions) := by
  refine ⟨_, reads_versionNegotiation nonzero word c.version tags, ?_⟩
  intro random c' unsupported handled
  obtain ⟨recorded, notEmpty⟩ := Client.negotiatedVersions_of_handled unsupported handled
  have check := CryptoSetupClient.validateVersionList_iff recorded
    (fun empty => notEmpty (by rw [empty]; rfl))
  constructor
  · rintro ⟨accepted, -⟩
    exact ((check tags).mp accepted).2
  · intro supported
    refine ⟨(check tags).mpr ⟨rfl, supported⟩, fun others differ => ?_⟩
    rw [Bool.eq_false_iff]
    exact fun accepted => differ ((check others).mp accepted).1

/-- A client that first offers the multipath version. -/
def multipathClient : Client where
  hostname := []
  version := versionMP
  connectionID := 7
  session := { hostname := [], connID := 7, version := versionMP }

/-- What the client reads from the packet of a server with the given versions. -/
def offered (supportedVersions : List VersionNumber) : PublicHeader :=
  { connectionID := 7, versionFlag := true, supportedVersions }

/-- The server offers the versions 39 and 38, both of which the client supports. -/
theorem downgradeCheck_supported :
    let c' := (multipathClient.handlePacketWithVersionFlag (offered [39, 38]) (some 8)).1
    Reads (parsePublicHeader .server versionMP) (composeVersionNegotiation 7 [39, 38])
        (offered [39, 38]) [] ∧
      c'.version = 39 ∧ c'.session.validateVersionList (helloVersions [39, 38]) = true := by
  have tags := versionTagBytes_map [39, 38]
  have packet := composeVersionNegotiation_eq 7 [39, 38]
  have supported : ∀ tag ∈ List.map tagOfVersion [39, 38],
      versionOfTag tag ∈ supportedVersions := by
    rw [forall_mem_map]
    decide
  obtain ⟨hdr, reads, check⟩ := downgradeCheck_iff multipathClient (by decide : 0 < 7) (by decide)
    (List.map tagOfVersion [39, 38])
  have same : hdr = offered [39, 38] :=
    (reads.unique (reads_versionNegotiation (by decide) (by decide) versionMP _)).1.trans
      (by decide)
  rw [same] at reads check
  rw [packet]
  refine ⟨reads, by decide, ?_⟩
  rw [helloVersions, ← tags]
  exact ((check (some 8) _ (by decide) rfl).mpr supported).1

/-- The server offers the versions 39 and 98, and repeats them in the SHLO. The client refuses. -/
theorem downgradeCheck_unknown :
    let handled := multipathClient.handlePacketWithVersionFlag (offered [39, 98]) (some 8)
    Reads (parsePublicHeader .server versionMP) (composeVersionNegotiation 7 [39, 98])
        (offered [39, 98]) [] ∧
      handled.2 = none ∧ handled.1.version = 39 ∧
      handled.1.session.negotiatedVersions = [39, 98] ∧
      handled.1.session.validateVersionList (helloVersions [39, 98]) = false := by
  refine ⟨?_, by decide, by decide, by decide, by decide⟩
  rw [composeVersionNegotiation_eq]
  exact reads_versionNegotiation (by decide) (by decide) versionMP _

end MPQuic
