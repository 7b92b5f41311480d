import MPQuic.Session.HandlePacket

/-!
# The identity of paths

Both peers create paths, and enter them into one map under an ID of one byte. A client counts
through the odd IDs and a server through the even ones, each with a counter that wraps around; what
the peer creates must have the other parity. Paths stay in the map when they are closed.

A run of the path manager is a sequence of calls that create paths or close them, with anything in
between that leaves the IDs alone. The run keeps a record of the paths that were created.

* `createPaths_steps`, `handleAddAddressFrame_steps`: the calls of `createPath` in the code are
  steps of such a run, and of the kinds that create paths locally.
* `pathIdentity_iff`: IDs are unique, and no path is replaced, as long as a client has created no
  more than 128 paths and a server no more than 127.
-/

namespace MPQuic

open List PathManager PathTable

/-! ## What packing leaves of a path -/

/-- What distinguishes a path from the others. -/
def Path.identity (pth : Path) : PathID × UDPAddr × UDPAddr :=
  (pth.pathID, pth.localAddr, pth.remoteAddr)

namespace PackState

variable {st : PackState} {α : Type} {env : PackEnv} {result : PackResult} {read : PackState → α}

/-- A part of the state that the end of `PackPacket` leaves alone: it reads neither the packet
number generator nor what is sent once per packet. -/
structure Kept {α : Type} (read : PackState → α) : Prop where
  number : ∀ (st : PackState) (generator : PacketNumberGenerator),
    read { st with pth := { st.pth with packetNumberGenerator := generator } } = read st
  clear : ∀ st : PackState, read st.clearSlots = read st

theorem kept_identity : Kept fun st => st.pth.identity := ⟨fun _ _ => rfl, fun _ => rfl⟩

theorem kept_streams : Kept fun st => (st.streams, st.flow) := ⟨fun _ _ => rfl, fun _ => rfl⟩

theorem Kept.writeAndSealPacket (kept : Kept read) (st : PackState) (env : PackEnv)
    (publicHeader : PublicHeader) (payloadFrames : List Frame) (encLevel : EncryptionLevel)
    (sealer : Sealer) :
    read (st.writeAndSealPacket env publicHeader payloadFrames encLevel sealer).state =
      read st := by
  unfold PackState.writeAndSealPacket
  split
  · rfl
  · rfl
  · split
    · rfl
    · exact kept.number st _

theorem Kept.sealPayload (kept : Kept read) (composed : Composed) (env : PackEnv)
    (publicHeader : PublicHeader) (encLevel : EncryptionLevel) (sealer : Sealer) :
    read (sealPayload composed env publicHeader encLevel sealer).state = read composed.state := by
  unfold PackState.sealPayload
  split
  · rfl
  · split
    · rfl
    · split
      · rfl
      · exact (kept.writeAndSealPacket _ _ _ _ _ _).trans (kept.clear _)

theorem packQueued_identity (st : PackState) (env : PackEnv) :
    (st.packQueued env).state.pth.identity = st.pth.identity := by
  unfold packQueued
  simp only
  split
  · rfl
  · rw [kept_identity.sealPayload, choosePayload_pth, numberStopWaiting_pth]

theorem packCryptoPacket_identity (packed : st.packCryptoPacket env = .ok result) :
    result.state.pth.identity = st.pth.identity := by
  unfold packCryptoPacket at packed
  simp only at packed
  split at packed
  · cases packed
    rfl
  · split at packed
    · cases packed
    · cases packed
    · cases packed
      exact kept_identity.writeAndSealPacket _ _ _ _ _ _

theorem packPacket_identity
    (packed : st.packPacket env = .ok result) : result.state.pth.identity = st.pth.identity := by
  unfold packPacket at packed
  split at packed
  · cases packed
  · rename_i streams flow cs opened
    have queued := packQueued_identity { st with streams, flow } env
    simp only at packed
    split at packed
    · have same := packCryptoPacket_identity packed
      exact same
    · cases packed
      exact queued

/-- A PING at the head of the queue is sent without the streams. -/
theorem packQueued_ping {rest : List Frame} (ping : st.packer.controlFrames = .ping :: rest)
    (env : PackEnv) :
    ((st.packQueued env).state.streams, (st.packQueued env).state.flow) =
      (st.streams, st.flow) := by
  unfold packQueued
  simp only
  split
  · rfl
  · rw [kept_streams.sealPayload]
    unfold choosePayload
    rw [show (st.numberStopWaiting _).packer.controlFrames = .ping :: rest from ping]
    rfl

theorem packPing_identity
    (packed : st.packPing env = .ok result) : result.state.pth.identity = st.pth.identity :=
  (packPacket_identity packed).trans rfl

end PackState

namespace Session

variable {s s' : Session} {pth : Path} {pathID : PathID}

/-! ## What the session leaves of its paths -/

/-- The same paths are known, by their IDs. -/
structure SameIDs (s s' : Session) : Prop where
  perspective : s'.perspective = s.perspective
  known : ∀ pathID, s'.paths.lookup pathID = none ↔ s.paths.lookup pathID = none

theorem SameIDs.refl (s : Session) : s.SameIDs s := ⟨rfl, fun _ => Iff.rfl⟩

/-- The same paths are known, and they have kept their addresses. -/
structure SameIdentities (s s' : Session) : Prop where
  perspective : s'.perspective = s.perspective
  identity : ∀ pathID,
    (s'.paths.lookup pathID).map Path.identity = (s.paths.lookup pathID).map Path.identity

theorem SameIdentities.trans {s s' s'' : Session} (first : s.SameIdentities s')
    (second : s'.SameIdentities s'') : s.SameIdentities s'' :=
  ⟨second.perspective.trans first.perspective,
    fun pathID => (second.identity pathID).trans (first.identity pathID)⟩

theorem SameIdentities.sameIDs (same : s.SameIdentities s') : s.SameIDs s' := by
  refine ⟨same.perspective, fun pathID => ?_⟩
  rw [← Option.map_eq_none_iff, same.identity, Option.map_eq_none_iff]

theorem SameIdentities.exists_lookup (same : s.SameIdentities s')
    (found : s'.paths.lookup pathID = some pth) :
    ∃ old, s.paths.lookup pathID = some old ∧ old.identity = pth.identity := by
  have identity := same.identity pathID
  rw [found] at identity
  exact Option.map_eq_some_iff.mp identity.symm

/-- There is a path with this ID and these addresses. -/
def Knows (s : Session) (pth : Path) : Prop :=
  (s.paths.lookup pth.pathID).map Path.identity = some pth.identity

theorem knows_setPath (s : Session) (pth : Path) : (s.setPath pth).Knows pth :=
  congrArg (Option.map Path.identity) (lookup_set_self s.paths pth)

theorem Knows.congr {pth pth' : Path} (known : s.Knows pth)
    (same : pth'.identity = pth.identity) : s.Knows pth' := by
  have sameID : pth'.pathID = pth.pathID := congrArg Prod.fst same
  unfold Knows
  rw [sameID, same]
  exact known

/-- Writing back a path that is known. -/
theorem sameIdentities_set (pth : Path) (known : s.Knows pth)
    (perspective : s'.perspective = s.perspective) (paths : s'.paths = s.paths.set pth) :
    s.SameIdentities s' := by
  refine ⟨perspective, fun pathID => ?_⟩
  rw [paths]
  by_cases written : pathID = pth.pathID
  · rw [written, lookup_set_self, known]
    rfl
  · rw [lookup_set_of_ne written]

theorem knows_of_lookup (found : s.paths.lookup pathID = some pth) : s.Knows pth := by
  unfold Knows
  rw [pathID_of_lookup found, found]
  rfl

theorem sameIdentities_modifyPath (s : Session) (pathID : PathID) {change : Path → Path}
    (same : ∀ pth, (change pth).identity = pth.identity) :
    s.SameIdentities (s.modifyPath pathID change) := by
  unfold modifyPath
  split
  · exact ⟨rfl, fun _ => rfl⟩
  · rename_i pth found
    exact sameIdentities_set (change pth) ((knows_of_lookup found).congr (same pth)) rfl rfl

theorem sameIdentities_closePath (s : Session) (pathID : PathID) :
    s.SameIdentities (s.closePath pathID).1 := by
  unfold closePath
  split
  · exact ⟨rfl, fun _ => rfl⟩
  · rename_i pth found
    split
    · exact ⟨rfl, fun _ => rfl⟩
    · simp only
      split
      · have known : s.Knows { pth with closeChan := true } := (knows_of_lookup found).congr rfl
        exact sameIdentities_set { pth with closeChan := true } known rfl rfl
      · exact ⟨rfl, fun _ => rfl⟩

theorem sameIdentities_sendPackedPacket (packet : PackedPacket)
    (env : SendEnv) (known : s.Knows pth) :
    s.SameIdentities (s.sendPackedPacket packet pth env).session :=
  let handler := (pth.sentPacketHandler.sentPacket env.ack (ackhandlerPacket packet)).1
  sameIdentities_set { pth with sentPacketHandler := handler } (known.congr rfl) rfl rfl

/-- A PING on a known path. -/
theorem sameIdentities_sendPing {env : SendEnv} {sending : Sending}
    (known : s.Knows pth) (sent : s.sendPing pth env = .ok sending) :
    s.SameIdentities sending.session := by
  unfold sendPing at sent
  split at sent
  · cases sent
  · rename_i result packed
    have same : result.state.pth.identity = pth.identity := PackState.packPing_identity packed
    have packing : s.SameIdentities (s.packing result).session :=
      sameIdentities_set result.state.pth (known.congr same) rfl rfl
    have still : (s.packing result).session.Knows (s.packing result).pth :=
      knows_setPath s result.state.pth
    simp only at sent
    split at sent
    · cases sent
      exact packing
    · unfold sendPacking at sent
      split at sent
      · cases sent
        exact packing
      · cases sent
      · cases sent
        exact packing.trans (sameIdentities_sendPackedPacket _ env still)

/-- There is no crypto data to send. -/
def Quiet (s : Session) : Prop :=
  ∃ cs, StreamFramer.cryptoStream s.streamsMap s.flowControlManager =
    .ok (s.streamsMap, s.flowControlManager, cs) ∧ cs.lenOfDataForWriting = 0

/-- A PING is sent without the crypto stream. -/
theorem sendPing_quiet (quiet : s.Quiet) (pth : Path) (env : SendEnv) :
    ∃ sending, s.sendPing pth env = .ok sending ∧ sending.session.Quiet := by
  obtain ⟨cs, opened, nothing⟩ := quiet
  let st := (s.packState pth).queuePing
  have packed : (s.packState pth).packPing (s.packEnv env) =
      .ok (st.packQueued (s.packEnv env)) := by
    unfold PackState.packPing PackState.packPacket
    rw [show StreamFramer.cryptoStream (s.packState pth).queuePing.streams
      (s.packState pth).queuePing.flow = .ok (s.streamsMap, s.flowControlManager, cs) from opened]
    simp only [nothing, lt_irrefl, if_false]
    rfl
  obtain ⟨streams, flow⟩ := Prod.mk.inj (st.packQueued_ping rfl (s.packEnv env))
  have still : (s.packing (st.packQueued (s.packEnv env))).session.Quiet := by
    refine ⟨cs, ?_, nothing⟩
    show StreamFramer.cryptoStream (st.packQueued (s.packEnv env)).state.streams
      (st.packQueued (s.packEnv env)).state.flow =
        .ok ((st.packQueued (s.packEnv env)).state.streams,
          (st.packQueued (s.packEnv env)).state.flow, cs)
    rw [streams, flow]
    exact opened
  unfold sendPing
  rw [packed]
  simp only
  split
  · exact ⟨_, rfl, still⟩
  · rename_i notNil
    unfold sendPacking
    split
    · exact ⟨_, rfl, still⟩
    · rename_i nil
      exact absurd nil notNil
    · exact ⟨_, rfl, still⟩

theorem lookup_setPath_ne_none_iff (s : Session) (pth : Path) (pathID : PathID) :
    (s.setPath pth).paths.lookup pathID ≠ none ↔
      pathID = pth.pathID ∨ s.paths.lookup pathID ≠ none := by
  by_cases new : pathID = pth.pathID
  · have found := lookup_set_self s.paths pth
    simp [new, setPath, found]
  · have other : (s.setPath pth).paths.lookup pathID = s.paths.lookup pathID :=
      lookup_set_of_ne new
    simp [new, other]

theorem refusesPathID_congr (perspective : s'.perspective = s.perspective)
    (pathID : PathID) : s'.refusesPathID pathID = s.refusesPathID pathID := by
  unfold refusesPathID
  rw [perspective]

end Session

/-! ## Runs of the path manager -/

/-- A path that was entered into the map. -/
structure PathCreation where
  pathID : PathID
  /-- by `createPathFromRemote` -/
  byPeer : Bool
  /-- there was a path with this ID -/
  replaces : Bool
  deriving DecidableEq, Repr

/-- The path manager and the session, and the paths that were created since `setup`, which the
source does not keep. -/
structure PathRun where
  pm : PathManager
  session : Session
  created : List PathCreation := []

namespace PathRun

variable {run : PathRun} {env : CreateEnv} {count : Nat} {s : Session}
  {managed : PathManager.Managed} {pm : PathManager} (p : Perspective)

/-- The record of a path with this ID. -/
def creation (run : PathRun) (pathID : PathID) (byPeer : Bool) : PathCreation where
  pathID
  byPeer
  replaces := (run.session.paths.lookup pathID).isSome

/-- What a call of `createPath` adds to the record: nothing if there is a path between the two
addresses. -/
def creationBetween (run : PathRun) (locAddr remAddr : UDPAddr) : List PathCreation :=
  if (run.session.paths.visited []).any fun pth =>
      sameAddr locAddr pth.localAddr && sameAddr remAddr pth.remoteAddr then []
  else [run.creation run.pm.nxtPathID false]

/-- A call of `createPath`, and what it adds to the record. -/
def createPath (run : PathRun) (locAddr remAddr : UDPAddr) (env : CreateEnv) :
    Except RuntimePanic PathRun :=
  match run.pm.createPath run.session locAddr remAddr env with
  | .error panic => .error panic
  | .ok managed =>
    .ok
      { pm := managed.pm
        session := managed.session
        created := run.created ++ run.creationBetween locAddr remAddr }

/-- One step that creates paths locally, or neither adds nor removes paths. -/
inductive LocalStep : PathRun → PathRun → Prop where
  | createPath {run run' : PathRun} (locAddr remAddr : UDPAddr) (env : CreateEnv)
      (called : run.createPath locAddr remAddr env = .ok run') : LocalStep run run'
  /-- the addresses change that paths are created between -/
  | addresses {run : PathRun} {pm : PathManager} (counter : pm.nxtPathID = run.pm.nxtPathID) :
      LocalStep run { run with pm }
  /-- anything else that neither adds nor removes paths -/
  | elsewhere {run : PathRun} {s : Session} (same : run.session.SameIDs s) :
      LocalStep run { run with session := s }

/-- One step of the path manager, or of the session around it. -/
inductive Step : PathRun → PathRun → Prop where
  | locally {run run' : PathRun} (step : LocalStep run run') : Step run run'
  | createPathFromRemote {run : PathRun} {s : Session} {pth : Path} (p : ReceivedPacket)
      (now : Int) (called : run.session.createPathFromRemote p now = .ok (s, pth)) :
      Step run
        { run with
          session := s
          created := run.created ++ [run.creation p.publicHeader.pathID true] }
  | closePath {run : PathRun} (pathID : PathID) :
      Step run { run with session := (run.session.closePath pathID).1 }
  /-- the goroutine of a path ends -/
  | pathClosed {run : PathRun} (pathID : PathID) :
      Step run { run with session := run.session.modifyPath pathID Path.close }

/-- Any number of local steps. -/
abbrev LocalSteps := Relation.ReflTransGen LocalStep

/-- Any number of steps. -/
abbrev Steps := Relation.ReflTransGen Step

variable (s)

/-- The run at its beginning: the session has only its initial path. -/
def start (localAddr remoteAddr : UDPAddr) (now : Int) : PathRun where
  pm := (setup { s with paths := .empty } localAddr remoteAddr now).pm
  session := (setup { s with paths := .empty } localAddr remoteAddr now).session

/-- The runs of a path manager of either perspective. -/
def Reachable (run : PathRun) : Prop :=
  ∃ s localAddr remoteAddr now, Steps (start s localAddr remoteAddr now) run

/-- The IDs of the paths created on this side. -/
def localIDs (run : PathRun) : List PathID :=
  (run.created.filter fun c => !c.byPeer).map PathCreation.pathID

/-- The IDs of the paths created by the peer. -/
def remoteIDs (run : PathRun) : List PathID :=
  (run.created.filter PathCreation.byPeer).map PathCreation.pathID

/-- No path was replaced, and no two paths were created with one ID. -/
structure Identity (run : PathRun) : Prop where
  replaces : ∀ c ∈ run.created, c.replaces = false
  nodup : run.localIDs.Nodup
  disjoint : ∀ pathID ∈ run.localIDs, pathID ∉ run.remoteIDs

/-- The number of IDs that the counter goes through before it comes to one that is taken. -/
def maxLocalPaths : Perspective → Nat
  | .client => 128
  | .server => 127

/-! ## The calls of the path manager -/

/-- A call of `createPath` either finds a path between the addresses or adds one. -/
theorem createPath_cases {run run' : PathRun} {locAddr remAddr : UDPAddr}
    (called : run.createPath locAddr remAddr env = .ok run') :
    (∃ pth ∈ run.session.paths.visited [], sameAddr remAddr pth.remoteAddr = true) ∧ run' = run ∨
      ∃ (pth : Path) (pm : PathManager) (s : Session),
      pth.identity = (run.pm.nxtPathID, locAddr, remAddr) ∧
        pm.nxtPathID = run.pm.nxtPathID + 2 ∧ (run.session.setPath pth).SameIdentities s ∧
        run' = { pm, session := s,
                 created := run.created ++ [run.creation run.pm.nxtPathID false] } := by
  unfold PathRun.createPath creationBetween PathManager.createPath at called
  split at called
  · cases called
  · rename_i managed created
    split at created
    · rename_i between
      cases created
      rw [if_pos between, append_nil] at called
      cases called
      obtain ⟨pth, visited, same⟩ := any_eq_true.mp between
      exact .inl ⟨⟨pth, visited, (Bool.and_eq_true_iff.mp same).2⟩, rfl⟩
    · rename_i between
      rw [if_neg between] at called
      let pth := newPath run.pm.nxtPathID locAddr remAddr run.session.version
        (env.send run.pm.nxtPathID).now
      simp only at created
      split at created
      · cases created
      · rename_i sent
        cases created
        cases called
        have same := Session.sameIdentities_sendPing (run.session.knows_setPath pth) sent
        exact .inr ⟨pth, _, _, rfl, rfl, same, rfl⟩

/-- A call of `createPath` between new addresses, by what comes of its PING. -/
theorem createPath_of_sent {locAddr remAddr : UDPAddr} {pth : Path}
    {sending : Session.Sending}
    (isNew : newPath run.pm.nxtPathID locAddr remAddr run.session.version
      (env.send run.pm.nxtPathID).now = pth)
    (noPath : (run.session.paths.visited []).any (fun old =>
      sameAddr locAddr old.localAddr && sameAddr remAddr old.remoteAddr) = false)
    (sent : (run.session.setPath pth).sendPing pth (env.send run.pm.nxtPathID) = .ok sending) :
    run.createPath locAddr remAddr env =
      .ok
        { pm := { run.pm with nxtPathID := run.pm.nxtPathID + 2 }
          session := sending.session
          created := run.created ++ [run.creation run.pm.nxtPathID false] } := by
  simp only [PathRun.createPath, PathManager.createPath, creationBetween, noPath,
    Bool.false_eq_true, if_false, isNew, sent]

/-- The loops of `createPaths` are calls of `createPath`. -/
theorem createPathLoop_steps (pairs : List (UDPAddr × UDPAddr)) :
    ∀ (run : PathRun) {managed : PathManager.Managed},
      createPathLoop env pairs run.pm run.session = .ok managed →
        ∃ created, LocalSteps run { pm := managed.pm, session := managed.session, created } := by
  induction pairs with
  | nil =>
    intro run managed looped
    cases looped
    exact ⟨run.created, .refl⟩
  | cons pair pairs ih =>
    intro run managed looped
    obtain ⟨locAddr, remAddr⟩ := pair
    rw [createPathLoop] at looped
    cases called : run.pm.createPath run.session locAddr remAddr env with
    | error panic =>
      rw [called] at looped
      cases looped
    | ok between =>
      let next : PathRun :=
        { pm := between.pm
          session := between.session
          created := run.created ++ run.creationBetween locAddr remAddr }
      have step : LocalStep run next :=
        .createPath locAddr remAddr env (by rw [PathRun.createPath, called])
      simp only [called] at looped
      split at looped
      · cases looped
        exact ⟨_, .single step⟩
      · obtain ⟨created, steps⟩ := ih next looped
        exact ⟨created, steps.head step⟩

theorem sameIDs_schedulePathsFrame (now : Int) (order : List PathID) :
    s.SameIDs (s.schedulePathsFrame now order) := ⟨rfl, fun _ => Iff.rfl⟩

/-- Advertising addresses leaves the paths and the counter alone. -/
theorem advertiseAddresses_keeps (pm : PathManager) (s : Session) :
    (pm.advertiseAddresses s).pm.nxtPathID = pm.nxtPathID ∧
      s.SameIDs (pm.advertiseAddresses s).session := by
  unfold advertiseAddresses
  generalize pm.localAddrs = addrs
  -- the invariant of the loop over the addresses
  suffices keeps : ∀ st : PathManager.Managed,
      st.pm.nxtPathID = pm.nxtPathID ∧ s.SameIDs st.session →
        (addrs.foldl _ st).pm.nxtPathID = pm.nxtPathID ∧ s.SameIDs (addrs.foldl _ st).session from
    keeps _ ⟨rfl, .refl s⟩
  induction addrs with
  | nil => exact fun st kept => kept
  | cons addr addrs ih =>
    intro st kept
    rw [foldl_cons]
    apply ih
    split
    · exact kept
    · exact ⟨kept.1, kept.2.perspective, kept.2.known⟩

theorem createPaths_steps (run : PathRun)
    (called : run.pm.createPaths run.session env = .ok managed) :
    ∃ created, LocalSteps run { pm := managed.pm, session := managed.session, created } := by
  unfold createPaths at called
  split at called
  · cases called
    obtain ⟨counter, same⟩ := advertiseAddresses_keeps run.pm run.session
    exact ⟨run.created, (Relation.ReflTransGen.single (LocalStep.addresses counter)).tail
      (LocalStep.elsewhere same)⟩
  · split at called
    · cases called
    · rename_i looped
      obtain ⟨created, steps⟩ := createPathLoop_steps _ run looped
      split at called
      · cases called
        exact ⟨created, steps⟩
      · cases called
        exact ⟨created, steps.tail (LocalStep.elsewhere (sameIDs_schedulePathsFrame _ _ _))⟩

theorem handleAddAddressFrame_steps (run : PathRun) {frame : AddAddressFrame}
    (called : run.pm.handleAddAddressFrame run.session frame env = .ok managed) :
    ∃ created, LocalSteps run { pm := managed.pm, session := managed.session, created } := by
  unfold handleAddAddressFrame at called
  split at called
  · have told : ∀ pm : PathManager, pm.nxtPathID = run.pm.nxtPathID →
        (if run.session.createPaths then pm.createPaths run.session env
          else .ok { pm, session := run.session }) = .ok managed →
        ∃ created, LocalSteps run { pm := managed.pm, session := managed.session, created } := by
      intro pm counter called
      have step : LocalStep run { run with pm } := .addresses counter
      split at called
      · obtain ⟨created, steps⟩ := createPaths_steps { run with pm } called
        exact ⟨created, steps.head step⟩
      · cases called
        exact ⟨run.created, .single step⟩
    refine told _ ?_ called
    split
    · rfl
    · rfl
  · cases called
    exact ⟨run.created, .refl⟩

/-! ## The IDs of the counter -/

/-- The value of the counter after `count` paths. -/
def localPathID : Perspective → Nat → PathID
  | .client, count => .ofNat (1 + 2 * count)
  | .server, count => .ofNat (2 + 2 * count)

theorem localPathID_succ (count : Nat) : localPathID p count + 2 = localPathID p (count + 1) := by
  cases p
  all_goals
    apply UInt8.toNat.inj
    simp only [localPathID, UInt8.toNat_add, UInt8.toNat_ofNat', UInt8.toNat_ofNat]
    omega

/-- There are 128 IDs of each parity. -/
theorem localPathID_eq_iff (i j : Nat) : localPathID p i = localPathID p j ↔ i % 128 = j % 128 := by
  cases p
  all_goals
    rw [← UInt8.toNat_inj]
    simp only [localPathID, UInt8.toNat_ofNat']
    omega

/-- The ID of the initial path is even. -/
theorem localPathID_eq_initial_iff (i : Nat) :
    localPathID p i = initialPathID ↔ p = .server ∧ i % 128 = 127 := by
  cases p with
  | client =>
    rw [← UInt8.toNat_inj]
    simp only [localPathID, initialPathID, UInt8.toNat_ofNat', UInt8.toNat_zero, reduceCtorEq,
      false_and, iff_false]
    omega
  | server =>
    rw [← UInt8.toNat_inj]
    simp only [localPathID, initialPathID, UInt8.toNat_ofNat', UInt8.toNat_zero, true_and]
    omega

/-- The counter comes to an ID that is taken after `maxLocalPaths` paths, and from then on all are
taken. -/
theorem localPathID_taken_iff (count : Nat) :
    (localPathID p count = initialPathID ∨
      localPathID p count ∈ (List.range count).map (localPathID p)) ↔ maxLocalPaths p ≤ count := by
  have before : localPathID p count ∈ (List.range count).map (localPathID p) ↔ 128 ≤ count := by
    simp only [mem_map, mem_range, localPathID_eq_iff]
    constructor
    · rintro ⟨i, earlier, same⟩
      omega
    · intro around
      exact ⟨count - 128, by omega, by omega⟩
  rw [before, localPathID_eq_initial_iff]
  cases p with
  | client => simp [maxLocalPaths]
  | server =>
    simp only [maxLocalPaths, true_and]
    omega

theorem localPathID_nodup {p : Perspective} (few : count ≤ maxLocalPaths p) :
    ((List.range count).map (localPathID p)).Nodup := by
  have atMost : maxLocalPaths p ≤ 128 := by
    cases p <;> decide
  apply List.Nodup.map_on _ nodup_range
  intro i iLt j jLt same
  rw [mem_range] at iLt jLt
  rw [localPathID_eq_iff] at same
  omega

/-- The peer may not create a path with an ID of the counter. -/
theorem localPathID_refused (count : Nat) :
    s.refusesPathID (localPathID s.perspective count) ≠ none := by
  unfold Session.refusesPathID
  cases s.perspective with
  | client =>
    have odd : localPathID .client count % 2 ≠ 0 := by
      rw [Ne, ← UInt8.toNat_inj]
      simp only [localPathID, UInt8.toNat_mod, UInt8.toNat_ofNat', UInt8.toNat_ofNat,
        Nat.reducePow, Nat.reduceMod]
      omega
    simp [odd]
  | server =>
    have even : localPathID .server count % 2 = 0 := by
      rw [← UInt8.toNat_inj]
      simp only [localPathID, UInt8.toNat_mod, UInt8.toNat_ofNat', UInt8.toNat_ofNat,
        Nat.reducePow, Nat.reduceMod]
      omega
    simp [even]

/-! ## The invariant -/

/-- The IDs of the paths that were created are those of the counter, or the peer's. -/
structure Counted (run : PathRun) : Prop where
  localIDs : run.localIDs =
    (List.range run.localIDs.length).map (localPathID run.session.perspective)
  counter : run.pm.nxtPathID = localPathID run.session.perspective run.localIDs.length
  /-- paths stay in the map -/
  known : ∀ pathID, run.session.paths.lookup pathID ≠ none ↔
    pathID = initialPathID ∨ pathID ∈ run.localIDs ∨ pathID ∈ run.remoteIDs
  remoteIDs : ∀ pathID ∈ run.remoteIDs, run.session.refusesPathID pathID = none
  replaces : (∃ c ∈ run.created, c.replaces = true) ↔
    maxLocalPaths run.session.perspective < run.localIDs.length

theorem counted_start (localAddr remoteAddr : UDPAddr) (now : Int) :
    (start s localAddr remoteAddr now).Counted where
  localIDs := rfl
  counter := by
    show (match s.perspective with | .client => 1 | .server => 2) = localPathID s.perspective 0
    cases s.perspective <;> rfl
  known := by
    intro pathID
    let pth := newPath initialPathID localAddr remoteAddr s.version now
    show ((PathTable.empty.set pth).lookup pathID ≠ none) ↔ _ ∨ pathID ∈ [] ∨ pathID ∈ []
    by_cases initial : pathID = initialPathID
    · have found := lookup_set_self .empty pth
      simp [initial, show initialPathID = pth.pathID from rfl, found]
    · have unknown : (PathTable.empty.set pth).lookup pathID = none :=
        lookup_set_of_ne initial
      simp [initial, unknown]
  remoteIDs := by simp [remoteIDs, start]
  replaces := by simp [start, localIDs]

variable {s}

section

variable (counted : run.Counted)

include counted

/-- The parts of the invariant that depend on the session depend only on the IDs it knows. -/
theorem Counted.elsewhere (counter : pm.nxtPathID = run.pm.nxtPathID)
    (same : run.session.SameIDs s) : ({ run with pm, session := s } : PathRun).Counted where
  localIDs := by
    rw [same.perspective]
    exact counted.localIDs
  counter := by
    rw [same.perspective, counter]
    exact counted.counter
  known := fun pathID => (not_congr (same.known pathID)).trans (counted.known pathID)
  remoteIDs := by
    intro pathID member
    rw [Session.refusesPathID_congr same.perspective]
    exact counted.remoteIDs pathID member
  replaces := by
    rw [same.perspective]
    exact counted.replaces

/-- The next ID of the counter is taken if and only if the counter has gone around. -/
theorem Counted.taken_iff :
    (run.session.paths.lookup run.pm.nxtPathID).isSome = true ↔
      maxLocalPaths run.session.perspective ≤ run.localIDs.length := by
  rw [Option.isSome_iff_ne_none, counted.known, ← localPathID_taken_iff, ← counted.counter,
    ← counted.localIDs]
  constructor
  · rintro (initial | before | byPeer)
    · exact .inl initial
    · exact .inr before
    · have accepted := counted.remoteIDs _ byPeer
      rw [counted.counter] at accepted
      exact absurd accepted (localPathID_refused _ _)
  · rintro (initial | before)
    · exact .inl initial
    · exact .inr (.inl before)

/-- A new path with the ID of the counter. -/
theorem Counted.createLocal {pth : Path} (next : pth.pathID = run.pm.nxtPathID)
    (counter : pm.nxtPathID = run.pm.nxtPathID + 2) (same : (run.session.setPath pth).SameIDs s) :
    ({ pm, session := s, created := run.created ++ [run.creation run.pm.nxtPathID false] } :
      PathRun).Counted := by
  let run' : PathRun :=
    { pm, session := s, created := run.created ++ [run.creation run.pm.nxtPathID false] }
  have localIDs : run'.localIDs = run.localIDs ++ [run.pm.nxtPathID] := by
    simp [run', PathRun.localIDs, creation]
  have remoteIDs : run'.remoteIDs = run.remoteIDs := by
    simp [run', PathRun.remoteIDs, creation]
  have perspective : s.perspective = run.session.perspective := same.perspective
  have count : run'.localIDs.length = run.localIDs.length + 1 := by simp [localIDs]
  show run'.Counted
  refine ⟨?_, ?_, ?_, ?_, ?_⟩
  · show run'.localIDs = (List.range run'.localIDs.length).map (localPathID s.perspective)
    rw [count, perspective, range_succ, map_append, ← counted.localIDs, localIDs,
      counted.counter]
    rfl
  · show pm.nxtPathID = localPathID s.perspective run'.localIDs.length
    rw [counter, counted.counter, localPathID_succ, count, perspective]
  · intro pathID
    show s.paths.lookup pathID ≠ none ↔ _
    rw [Ne, same.known pathID, ← Ne, Session.lookup_setPath_ne_none_iff, counted.known, next,
      localIDs, remoteIDs, mem_append, mem_singleton]
    tauto
  · intro pathID member
    rw [remoteIDs] at member
    rw [Session.refusesPathID_congr perspective]
    exact counted.remoteIDs pathID member
  · show (∃ c ∈ run.created ++ [run.creation run.pm.nxtPathID false], c.replaces = true) ↔
      maxLocalPaths s.perspective < run'.localIDs.length
    simp only [mem_append, mem_singleton, or_and_right, exists_or, exists_eq_left,
      counted.replaces, creation, counted.taken_iff, count, perspective]
    omega

/-- A new path of the peer has an ID that the counter does not come to, and that is not taken. -/
theorem Counted.createRemote {p : ReceivedPacket} {now : Int} {pth : Path}
    (called : run.session.createPathFromRemote p now = .ok (s, pth)) :
    ({ run with
        session := s
        created := run.created ++ [run.creation p.publicHeader.pathID true] } :
      PathRun).Counted := by
  obtain ⟨unknown, accepted, session⟩ :
      run.session.paths.lookup p.publicHeader.pathID = none ∧
        run.session.refusesPathID p.publicHeader.pathID = none ∧
        s = run.session.setPath
          (newPath p.publicHeader.pathID p.localAddr p.remoteAddr run.session.version now) := by
    unfold Session.createPathFromRemote at called
    simp only at called
    split at called
    · cases called
    · rename_i unknown
      split at called
      · cases called
      · rename_i accepted
        cases called
        exact ⟨unknown, accepted, rfl⟩
  let run' : PathRun :=
    { run with
      session := s
      created := run.created ++ [run.creation p.publicHeader.pathID true] }
  have localIDs : run'.localIDs = run.localIDs := by
    simp [run', PathRun.localIDs, creation]
  have remoteIDs : run'.remoteIDs = run.remoteIDs ++ [p.publicHeader.pathID] := by
    simp [run', PathRun.remoteIDs, creation]
  have perspective : s.perspective = run.session.perspective := by
    rw [session]
    rfl
  show run'.Counted
  refine ⟨?_, ?_, ?_, ?_, ?_⟩
  · show run'.localIDs = (List.range run'.localIDs.length).map (localPathID s.perspective)
    rw [localIDs, perspective]
    exact counted.localIDs
  · show run.pm.nxtPathID = localPathID s.perspective run'.localIDs.length
    rw [localIDs, perspective]
    exact counted.counter
  · intro pathID
    show s.paths.lookup pathID ≠ none ↔ _
    rw [session, Session.lookup_setPath_ne_none_iff, counted.known, localIDs, remoteIDs,
      mem_append, mem_singleton]
    show pathID = p.publicHeader.pathID ∨ _ ↔ _
    tauto
  · intro pathID member
    rw [remoteIDs, mem_append, mem_singleton] at member
    rw [Session.refusesPathID_congr perspective]
    rcases member with before | new
    · exact counted.remoteIDs pathID before
    · rw [new]
      exact accepted
  · show (∃ c ∈ run.created ++ [run.creation p.publicHeader.pathID true], c.replaces = true) ↔
      maxLocalPaths s.perspective < run'.localIDs.length
    simp only [mem_append, mem_singleton, or_and_right, exists_or, exists_eq_left,
      counted.replaces, creation, unknown, localIDs, perspective, Option.isSome_none,
      Bool.false_eq_true, or_false]

end

theorem counted_step {run run' : PathRun} (step : Step run run') (counted : run.Counted) :
    run'.Counted := by
  cases step with
  | locally step =>
    cases step with
    | createPath locAddr remAddr env called =>
      rcases createPath_cases called with
        ⟨_, rfl⟩ | ⟨pth, pm, s, identity, counter, same, rfl⟩
      · exact counted
      · exact counted.createLocal (congrArg Prod.fst identity) counter same.sameIDs
    | addresses counter => exact counted.elsewhere counter (.refl run.session)
    | elsewhere same => exact counted.elsewhere rfl same
  | createPathFromRemote p now called => exact counted.createRemote called
  | closePath pathID =>
    exact counted.elsewhere rfl (run.session.sameIdentities_closePath pathID).sameIDs
  | pathClosed pathID =>
    have same : run.session.SameIdentities (run.session.modifyPath pathID Path.close) :=
      run.session.sameIdentities_modifyPath pathID fun _ => rfl
    exact counted.elsewhere rfl same.sameIDs

theorem counted_of_reachable (reachable : run.Reachable) : run.Counted := by
  obtain ⟨s, localAddr, remoteAddr, now, steps⟩ := reachable
  induction steps with
  | refl => exact counted_start s localAddr remoteAddr now
  | tail _ step counted => exact counted_step step counted

/-- With few enough paths the counter has not gone around. -/
theorem Counted.identity_iff (counted : run.Counted) :
    run.Identity ↔ run.localIDs.length ≤ maxLocalPaths run.session.perspective := by
  constructor
  · intro identity
    by_contra many
    obtain ⟨c, member, replaced⟩ := counted.replaces.mpr (Nat.lt_of_not_le many)
    have kept := identity.replaces c member
    rw [kept] at replaced
    cases replaced
  · intro few
    refine ⟨?_, ?_, ?_⟩
    · intro c member
      by_contra replaced
      have many := counted.replaces.mp ⟨c, member, by simpa using replaced⟩
      omega
    · rw [counted.localIDs]
      exact localPathID_nodup few
    · intro pathID byCounter byPeer
      have accepted := counted.remoteIDs pathID byPeer
      rw [counted.localIDs, mem_map] at byCounter
      obtain ⟨i, _, rfl⟩ := byCounter
      exact localPathID_refused _ _ accepted

/-! ## A client with many paths -/

def clientAddr : UDPAddr := { ip := [198, 51, 100, 1], port := 50000 }

def serverAddr (index : Nat) : UDPAddr := { ip := [192, 0, 2, 1], port := 443 + index }

/-- A client after the handshake, without anything to send. -/
def idleClient : Session where
  perspective := .client
  version := versionMP
  createPaths := true
  streamsMap := ((newStreamsMap .client).openStream
    (newFlowControlManager (clientParameters 0 0))).map
  flowControlManager := ((newStreamsMap .client).openStream
    (newFlowControlManager (clientParameters 0 0))).flow
  handshakeComplete := true
  packer :=
    { connectionID := 1
      perspective := .client
      version := versionMP
      cryptoSetup := { forwardSecureAEAD := some zeroKeys } }

def pingEnv : CreateEnv where
  send _ := { now := 0, ack := default }
  now := 0

/-- The client is told a second port of the server. -/
theorem handleAddAddressFrame_steps_secondPort :
    let run := start idleClient clientAddr (serverAddr 0) 0
    ∃ managed, run.pm.handleAddAddressFrame run.session
        { ipVersion := 4, addr := serverAddr 1 } pingEnv = .ok managed ∧
      ∃ created, LocalSteps run { pm := managed.pm, session := managed.session, created } := by
  intro run
  obtain ⟨managed, called⟩ : ∃ managed, run.pm.handleAddAddressFrame run.session
      { ipVersion := 4, addr := serverAddr 1 } pingEnv = .ok managed := ⟨_, rfl⟩
  exact ⟨managed, called, handleAddAddressFrame_steps run called⟩

/-- The client has created a path to each of `count` ports of the server after that of the initial
path. -/
structure PathsToPorts (run : PathRun) (count : Nat) : Prop where
  steps : Steps (start idleClient clientAddr (serverAddr 0) 0) run
  perspective : run.session.perspective = .client
  quiet : run.session.Quiet
  ports : ∀ pth ∈ run.session.paths.visited [], pth.remoteAddr.port ≤ 443 + count
  created : run.localIDs.length = count

theorem pathsToPorts_start : PathsToPorts (start idleClient clientAddr (serverAddr 0) 0) 0 where
  steps := .refl
  perspective := rfl
  quiet := ⟨_, rfl, rfl⟩
  ports := by decide
  created := rfl

/-- The client creates a path to one more port. -/
theorem PathsToPorts.next (paths : PathsToPorts run count) :
    ∃ run', PathsToPorts run' (count + 1) := by
  let remAddr := serverAddr (count + 1)
  let pth := newPath run.pm.nxtPathID clientAddr remAddr run.session.version
    (pingEnv.send run.pm.nxtPathID).now
  have before : (run.session.setPath pth).Quiet := paths.quiet
  obtain ⟨sending, sent, quiet⟩ :=
    Session.sendPing_quiet before pth (pingEnv.send run.pm.nxtPathID)
  have noPath : (run.session.paths.visited []).any (fun old =>
      sameAddr clientAddr old.localAddr && sameAddr remAddr old.remoteAddr) = false := by
    rw [any_eq_false]
    intro old visited
    have before := paths.ports old visited
    have differ : 443 + (count + 1) ≠ old.remoteAddr.port := by omega
    simp [sameAddr, remAddr, serverAddr, differ]
  have called := createPath_of_sent rfl noPath sent
  have same := Session.sameIdentities_sendPing (run.session.knows_setPath pth) sent
  have perspective := same.perspective.trans paths.perspective
  refine ⟨_, paths.steps.tail (.locally (.createPath _ _ _ called)), perspective, quiet, ?_, ?_⟩
  · intro new visited
    obtain ⟨old, found, identity⟩ := same.exists_lookup (mem_visited.mp visited)
    have sameAddr : old.remoteAddr = new.remoteAddr := congrArg (·.2.2) identity
    rw [← sameAddr]
    by_cases created : new.pathID = pth.pathID
    · rw [created] at found
      cases (lookup_set_self run.session.paths pth).symm.trans found
      exact le_refl _
    · have before : run.session.paths.lookup new.pathID = some old :=
        (lookup_set_of_ne created).symm.trans found
      exact Nat.le_succ_of_le
        (paths.ports old (mem_visited.mpr (lookup_pathID_of_lookup before)))
  · have length := paths.created
    simpa [localIDs, creation] using length

theorem exists_pathsToPorts (count : Nat) : ∃ run, PathsToPorts run count := by
  induction count with
  | zero => exact ⟨_, pathsToPorts_start⟩
  | succ count ih =>
    obtain ⟨run, paths⟩ := ih
    exact paths.next

theorem PathsToPorts.reachable (paths : PathsToPorts run count) : run.Reachable :=
  ⟨_, _, _, _, paths.steps⟩

/-! ## Uniqueness -/

/-- In every run of the path manager, no path was replaced and the IDs are unique if and only if
no more paths were created locally than there are IDs for. -/
theorem pathIdentity_iff {run : PathRun} (reachable : run.Reachable) :
    run.Identity ↔ run.localIDs.length ≤ maxLocalPaths run.session.perspective :=
  (counted_of_reachable reachable).identity_iff

/-- The client with paths to four more ports of the server. -/
theorem pathIdentity_fourPaths : ∃ run : PathRun, run.Reachable ∧ run.localIDs.length = 4 ∧
    4 ≤ maxLocalPaths run.session.perspective ∧ run.Identity := by
  obtain ⟨run, paths⟩ := exists_pathsToPorts 4
  have few : 4 ≤ maxLocalPaths run.session.perspective := by
    rw [paths.perspective]
    decide
  refine ⟨run, paths.reachable, paths.created, few, ?_⟩
  apply (pathIdentity_iff paths.reachable).mpr
  rw [paths.created]
  exact few

/-- The client with paths to 129 more ports of the server: the last path has replaced another. -/
theorem counter_goes_around : ∃ run : PathRun,
    Steps (start idleClient clientAddr (serverAddr 0) 0) run ∧ run.localIDs.length = 129 ∧
      (∃ c ∈ run.created, c.replaces = true) ∧ ¬ run.Identity := by
  obtain ⟨run, paths⟩ := exists_pathsToPorts 129
  have counted := counted_of_reachable paths.reachable
  have many : maxLocalPaths run.session.perspective < run.localIDs.length := by
    rw [paths.perspective, paths.created]
    decide
  refine ⟨run, paths.steps, paths.created, counted.replaces.mpr many, ?_⟩
  intro identity
  exact absurd (counted.identity_iff.mp identity) (not_le.mpr many)

end PathRun

end MPQuic
