import MPQuic.Session.HandleFrames

/-!
# Receiving a packet

`session.handlePacketImpl` finds the path that a packet names, or lets the path manager create it,
and hands the packet to `path.handlePacketImpl`, which decrypts it and passes its frames on. Opening
the packet is an argument here: it either fails, or it yields the frames or the error of a parser.

A packet that cannot be decrypted changes nothing on a path that is there already but the time of
the last activity and the mark of a potential failure. The path of a packet with a new ID, however,
is created before the packet is decrypted, and stays.

* `undecryptable_packet_keeps_paths_iff`: when such a packet leaves the paths as they were.
-/

namespace MPQuic

/-- A packet as it came from the socket. -/
structure ReceivedPacket where
  remoteAddr : UDPAddr
  publicHeader : PublicHeader
  /-- `none` is the zero time -/
  rcvTime : Option Int := none
  /-- `rcvPconn.LocalAddr()` -/
  localAddr : UDPAddr

/-- What `packetUnpacker.Unpack` makes of a packet. -/
inductive Unpacked where
  /-- the packet could not be opened -/
  | decryptionFailure (reason : String)
  /-- The packet is authentic. Streams are marked as unreliable while it is parsed, also if a later
  frame does not parse. -/
  | opened (unreliableStreams : List Nat) (outcome : Except String (List Frame))

/-- What receiving a packet reads from its surroundings. -/
structure PacketEnv where
  now : Int
  /-- `Unpack`, by the header with the complete packet number -/
  unpack : PublicHeader → Unpacked
  /-- for the frames of the packet, by their position -/
  frame : Nat → FrameEnv

namespace Session

variable {s : Session} {pth : Path} {p : ReceivedPacket} {env : PacketEnv} {reason : String}
  (rcvTime : Int)

variable (s)

/-- The unpacker found the mark of unreliable streams in frames of these streams. -/
def markUnreliable (streams : List Nat) : Session :=
  { s with streamsMap := { s.streamsMap with
      unreliableStreamMark :=
        streams.foldl (fun marks id => marks.insert id true) s.streamsMap.unreliableStreamMark } }

/-- The header with the packet number that it stands for, after the largest one received. -/
def completeHeader (hdr : PublicHeader) (largestRcvdPacketNumber : Nat) : PublicHeader :=
  { hdr with packetNumber :=
      inferPacketNumber hdr.packetNumberLen largestRcvdPacketNumber hdr.packetNumber }

/-- The part of `path.handlePacketImpl` behind the decryption. -/
def handleFramesOnPath (pth : Path) (packetNumber : Nat) (frames : List Frame)
    (env : PacketEnv) : Except Abort Handled :=
  let received := pth.receivedPacketHandler.receivedPacket env.now packetNumber
    (hasRetransmittableFrames frames)
  let s := s.setPath { pth with
    lastRcvdPacketNumber := packetNumber
    largestRcvdPacketNumber := max pth.largestRcvdPacketNumber packetNumber
    receivedPacketHandler := received.1 }
  match received.2 with
  | some err => .ok (s, some (.receive err))
  | none =>
    s.handleFrames pth.pathID (frames.zipIdx.map fun entry => (entry.1, env.frame entry.2))

/-- `path.handlePacketImpl`. A closed path ignores the packet. -/
def handlePacketOnPath (pth : Path) (p : ReceivedPacket) (rcvTime : Int)
    (env : PacketEnv) : Except Abort Handled :=
  if !pth.isOpen then .ok (s, none)
  else
    let pth := { pth with lastNetworkActivityTime := rcvTime, potentiallyFailed := false }
    let hdr := completeHeader p.publicHeader pth.largestRcvdPacketNumber
    match env.unpack hdr with
    | .decryptionFailure reason =>
      .ok (s.setPath pth, some (.unpack (.decryptionFailure reason)))
    | .opened unreliableStreams outcome =>
      let s := s.markUnreliable unreliableStreams
      let pth := if s.perspective = .server then { pth with remoteAddr := p.remoteAddr } else pth
      match outcome with
      | .error reason => .ok (s.setPath pth, some (.unpack (.other reason)))
      | .ok frames => s.handleFramesOnPath pth hdr.packetNumber frames env

/-- The peer may not create a path with this ID: a server opens no paths with an odd ID, and a
client none with an even one. -/
def refusesPathID (pathID : PathID) : Option SessionError :=
  match s.perspective with
  | .client => if pathID % 2 ≠ 0 then some .oddPathID else none
  | .server => if pathID % 2 = 0 then some .evenPathID else none

variable (p)

/-- `pathManager.createPathFromRemote` -/
def createPathFromRemote (now : Int) : Except SessionError (Session × Path) :=
  let pathID := p.publicHeader.pathID
  match s.paths.lookup pathID with
  | some _ => .error .alreadyExistingPath
  | none =>
    match s.refusesPathID pathID with
    | some err => .error err
    | none =>
      let pth := newPath pathID p.localAddr p.remoteAddr s.version now
      .ok (s.setPath pth, pth)

/-- What the session notes of every packet. -/
def notePacket (rcvTime : Int) : Session :=
  { s with
    diversificationNonces :=
      if s.perspective = .client ∧ p.publicHeader.diversificationNonce ≠ [] then
        s.diversificationNonces ++ [p.publicHeader.diversificationNonce]
      else s.diversificationNonces
    lastNetworkActivityTime := rcvTime
    keepAlivePingSent := false }

/-- The part of `session.handlePacketImpl` that finds the path. Without a path manager the packet
of an unknown path is a nil dereference. -/
def dispatchPacket (rcvTime : Int) (env : PacketEnv) : Except Abort Handled :=
  match s.paths.lookup p.publicHeader.pathID with
  | some pth => s.handlePacketOnPath pth p rcvTime env
  | none =>
    match s.pathManager with
    | none => .error (.runtime .nilDereference)
    | some _ =>
      match s.createPathFromRemote p env.now with
      | .error err => .ok (s, some err)
      | .ok (s, pth) => s.handlePacketOnPath pth p rcvTime env

def handlePacketImpl (env : PacketEnv) : Except Abort Handled :=
  let rcvTime := p.rcvTime.getD env.now
  (s.notePacket p rcvTime).dispatchPacket p rcvTime env

/-! ## Packets that cannot be decrypted -/

/-- What only an authentic packet may change on a path. -/
def authenticated (pth : Path) : UDPAddr × Nat × Nat × ReceivedPacketHandler :=
  (pth.remoteAddr, pth.largestRcvdPacketNumber, pth.lastRcvdPacketNumber,
    pth.receivedPacketHandler)

/-- The same paths, with the same remote addresses and the same packets received. -/
def SamePaths (s s' : Session) : Prop :=
  ∀ pathID, (s'.paths.lookup pathID).map authenticated = (s.paths.lookup pathID).map authenticated

/-- The largest packet number that was received on the path the packet names; none was on a new
one. -/
def largestReceived : Nat :=
  match s.paths.lookup p.publicHeader.pathID with
  | some pth => pth.largestRcvdPacketNumber
  | none => 0

/-- `Unpack` returns a decryption failure for the packet. -/
def DecryptionFails (env : PacketEnv) : Prop :=
  ∃ reason, env.unpack (completeHeader p.publicHeader (s.largestReceived p)) =
    .decryptionFailure reason

variable {p}

variable {s}

theorem SamePaths.set {pth pth' : Path}
    (known : s.paths.lookup pth.pathID = some pth) (sameID : pth'.pathID = pth.pathID)
    (same : authenticated pth' = authenticated pth) : s.SamePaths (s.setPath pth') := by
  intro pathID
  by_cases here : pathID = pth'.pathID
  · have written : (s.setPath pth').paths.lookup pathID = some pth' := by
      rw [here]
      exact PathTable.lookup_set_self s.paths pth'
    rw [written, here, sameID, known, Option.map_some, Option.map_some, same]
  · have kept : (s.setPath pth').paths.lookup pathID = s.paths.lookup pathID :=
      PathTable.lookup_set_of_ne here
    rw [kept]

/-- A packet that cannot be decrypted changes at most the notes on the activity of its path. -/
theorem handlePacketOnPath_of_decryptionFailure
    (fails : env.unpack (completeHeader p.publicHeader pth.largestRcvdPacketNumber) =
      .decryptionFailure reason) :
    s.handlePacketOnPath pth p rcvTime env =
      if pth.isOpen then
        .ok (s.setPath { pth with lastNetworkActivityTime := rcvTime, potentiallyFailed := false },
          some (.unpack (.decryptionFailure reason)))
      else .ok (s, none) := by
  unfold handlePacketOnPath
  simp only [fails]
  cases pth.isOpen <;> rfl

/-- On a known path it leaves everything that counts. -/
theorem samePaths_handlePacketOnPath (known : s.paths.lookup pth.pathID = some pth)
    (fails : env.unpack (completeHeader p.publicHeader pth.largestRcvdPacketNumber) =
      .decryptionFailure reason) :
    ∃ s' err, s.handlePacketOnPath pth p rcvTime env = .ok (s', err) ∧ s.SamePaths s' := by
  rw [handlePacketOnPath_of_decryptionFailure rcvTime fails]
  split
  · exact ⟨_, _, rfl, SamePaths.set known rfl rfl⟩
  · exact ⟨_, _, rfl, fun _ => rfl⟩

/-- A path that is created for the packet stays. -/
theorem not_samePaths_of_created {s s' : Session} {rcvTime : Int} {err : Option SessionError}
    (unknown : s.paths.lookup pth.pathID = none)
    (fails : env.unpack (completeHeader p.publicHeader pth.largestRcvdPacketNumber) =
      .decryptionFailure reason)
    (handled : (s.setPath pth).handlePacketOnPath pth p rcvTime env = .ok (s', err)) :
    ¬ s.SamePaths s' := by
  intro same
  have created : (s.setPath pth).paths.lookup pth.pathID = some pth :=
    PathTable.lookup_set_self s.paths pth
  obtain ⟨s'', err', handled', kept⟩ := samePaths_handlePacketOnPath rcvTime created fails
  rw [handled] at handled'
  cases handled'
  have view := (same pth.pathID).symm.trans (kept pth.pathID)
  rw [unknown, created] at view
  cases view

theorem dispatchPacket_samePaths_iff (fails : s.DecryptionFails p env) :
    (∃ s' err, s.dispatchPacket p rcvTime env = .ok (s', err) ∧ s.SamePaths s') ↔
      s.paths.lookup p.publicHeader.pathID ≠ none ∨
        (s.pathManager ≠ none ∧ s.refusesPathID p.publicHeader.pathID ≠ none) := by
  obtain ⟨reason, fails⟩ := fails
  unfold largestReceived at fails
  unfold dispatchPacket
  cases found : s.paths.lookup p.publicHeader.pathID with
  | some pth =>
    rw [found] at fails
    have kept := samePaths_handlePacketOnPath rcvTime
      (PathTable.lookup_pathID_of_lookup found) fails
    exact ⟨fun _ => Or.inl (Option.some_ne_none pth), fun _ => kept⟩
  | none =>
    rw [found] at fails
    cases s.pathManager with
    | none => simp
    | some pm =>
      simp only [createPathFromRemote, found]
      cases s.refusesPathID p.publicHeader.pathID with
      | some err =>
        refine ⟨fun _ => Or.inr ⟨Option.some_ne_none pm, Option.some_ne_none err⟩,
          fun _ => ⟨s, some err, rfl, fun _ => rfl⟩⟩
      | none =>
        constructor
        · rintro ⟨s', err, handled, same⟩
          have unknown : s.paths.lookup (newPath p.publicHeader.pathID p.localAddr
            p.remoteAddr s.version env.now).pathID = none := found
          exact absurd same (not_samePaths_of_created unknown fails handled)
        · rintro (known | ⟨-, refused⟩)
          · exact absurd rfl known
          · exact absurd rfl refused

/-- A packet that cannot be decrypted leaves the paths as they were exactly if its path is known,
or the path manager refuses to create it. -/
theorem undecryptable_packet_keeps_paths_iff (s : Session) (p : ReceivedPacket) (env : PacketEnv)
    (fails : s.DecryptionFails p env) :
    (∃ s' err, s.handlePacketImpl p env = .ok (s', err) ∧ s.SamePaths s') ↔
      s.paths.lookup p.publicHeader.pathID ≠ none ∨
        (s.pathManager ≠ none ∧ s.refusesPathID p.publicHeader.pathID ≠ none) :=
  -- what the session notes of the packet concerns neither the paths nor the path manager
  dispatchPacket_samePaths_iff (p.rcvTime.getD env.now) fails

/-! ## A forged packet -/

/-- A server with a path manager, on its initial path. -/
def managedServer : Session where
  perspective := .server
  version := versionMP
  paths := PathTable.empty.set firstPath
  streamsMap := newStreamsMap .server
  flowControlManager := newFlowControlManager (serverParameters 0 0)
  packer := { connectionID := 1, perspective := .server, version := versionMP }
  handshakeComplete := true
  pathManager := some { nxtPathID := 2 }

def forgerAddr : UDPAddr := { ip := [10, 0, 0, 9], port := 4000 }

def forgedPacket (pathID : PathID) : ReceivedPacket where
  remoteAddr := forgerAddr
  publicHeader := { connectionID := 1, pathID, packetNumberLen := 1, packetNumber := 5 }
  localAddr := { ip := [], port := 0 }

/-- The forger does not have the keys. -/
def nothingDecrypts : PacketEnv where
  now := 0
  unpack := fun _ => .decryptionFailure "cipher: message authentication failed"
  frame := fun _ => quietFrameEnv

theorem undecryptable_packet_keeps_first_path :
    managedServer.DecryptionFails (forgedPacket initialPathID) nothingDecrypts ∧
      ∃ s' err, managedServer.handlePacketImpl (forgedPacket initialPathID) nothingDecrypts =
        .ok (s', err) ∧ managedServer.SamePaths s' :=
  ⟨⟨_, rfl⟩, (undecryptable_packet_keeps_paths_iff _ _ _ ⟨_, rfl⟩).mpr
    (Or.inl (Option.some_ne_none firstPath))⟩

/-- One packet that nobody can decrypt creates path 3, with the address of the forger. -/
theorem undecryptable_packet_creates_path :
    managedServer.DecryptionFails (forgedPacket 3) nothingDecrypts ∧
      managedServer.paths.lookup 3 = none ∧
      ∃ s' reason, managedServer.handlePacketImpl (forgedPacket 3) nothingDecrypts =
          .ok (s', some (.unpack (.decryptionFailure reason))) ∧
        (s'.paths.lookup 3).map Path.remoteAddr = some forgerAddr ∧
        ¬ managedServer.SamePaths s' := by
  refine ⟨⟨_, rfl⟩, rfl, _, _, rfl, rfl, ?_⟩
  intro same
  cases same 3

end Session

end MPQuic
