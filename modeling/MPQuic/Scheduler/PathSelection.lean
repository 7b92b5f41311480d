import MPQuic.Scheduler.SelectedPath

/-!
# Rounds without a path

A round of `sendPacket` selects a path, and when there is none but an unreliable stream has data,
it selects once more by another rule and goes on with the result. The second selection can come
back empty as well: it passes over the paths that have potentially failed, and with a single path
it applies the very test that failed before.

* `choosePath_nilPath_iff`: in which states a round uses a nil path.
* `round_nilPath_iff_begins`: the same for the session before the round.
* `sendPacket_nilPath_iff`: `sendPacket` uses a nil path exactly if one of its rounds begins in
  such a state.
-/

namespace MPQuic

namespace Retransmission

variable (r : Retransmission)

/-- Frames of a path without an RTT estimate wait to be sent again, and another path has sent
fewer packets than that one. -/
def UsesOtherPath : Prop :=
  ∃ fromPth, r.fromPth = some fromPth ∧ r.hasStreamRetransmission = true ∧
    fromPth.smoothedRTT = 0 ∧
    ∃ pathID pth, r.session.paths.lookup pathID = some pth ∧ pth.pathID ≠ initialPathID ∧
      pth.pathID ≠ fromPth.pathID ∧
      r.session.scheduler.quotas pth.pathID < r.session.scheduler.quotas fromPth.pathID

/-- Both selections pass over the path, if it is not the only one. -/
def PassesOver (pth : Path) : Prop :=
  pth.pathID = initialPathID ∨ pth.potentiallyFailed = true ∨
    (r.hasRetransmission = false ∧ pth.sendingAllowed = false ∧
      Session.maxQuota ≤ r.session.scheduler.quotas2 pth.pathID)

/-- There is no path for the next packet, and `sendPacket` does not notice. -/
def NoPath : Prop :=
  if r.session.paths.length ≤ 1 then
    match r.session.paths.lookup initialPathID with
    | none => r.hasRetransmission = false ∨ r.session.hasUnreliableData = true
    | some pth =>
      r.session.hasUnreliableData = true ∧ r.hasRetransmission = false ∧
        pth.sendingAllowed = false
  else
    r.session.hasUnreliableData = true ∧ ¬ r.UsesOtherPath ∧
      ∀ pathID pth, r.session.paths.lookup pathID = some pth → r.PassesOver pth

end Retransmission

namespace Session

/-! ## The two selections -/

variable (r : Retransmission) (pth : Path) (windowUpdateFrames : List WindowUpdateFrame)
  (result : Except RuntimePanic (Session × Option SessionError))

theorem passesOver_iff :
    r.PassesOver pth ↔
      ¬ EligibleLowLatency r.hasRetransmission pth ∧ ¬ r.session.EligibleUnreliable pth := by
  unfold Retransmission.PassesOver EligibleLowLatency EligibleUnreliable
  cases r.hasRetransmission <;> cases pth.sendingAllowed <;> cases pth.potentiallyFailed <;>
    by_cases pth.pathID = initialPathID <;> simp_all

/-- Behind `getRetransmission` there is a path of the last packet dequeued if the flag is set. -/
theorem selectForUnprobed_cases (order : List PathID) :
    ∃ selected, r.session.selectForUnprobed r.hasRetransmission r.hasStreamRetransmission r.fromPth
        order = .ok selected ∧ (selected = none ↔ ¬ r.UsesOtherPath) := by
  unfold selectForUnprobed Retransmission.UsesOtherPath Retransmission.hasRetransmission
  cases r.fromPth with
  | none => exact ⟨none, rfl, by simp⟩
  | some fromPth =>
    cases queued : r.hasStreamRetransmission with
    | false => exact ⟨none, rfl, by simp⟩
    | true =>
      refine ⟨_, rfl, ?_⟩
      split
      · rename_i unprobed
        unfold selectLessUsed
        rw [List.find?_eq_none, PathTable.forall_visited_iff]
        simp [unprobed]
      · rename_i probed
        simp [probed]

/-! ## One round -/

theorem choosePath_nilPath_iff (env : SelectEnv) :
    choosePath r env = .error .nilPath ↔ r.NoPath := by
  unfold choosePath selectPath selectPathLowLatency selectPathUnreliable Retransmission.NoPath
  by_cases few : r.session.paths.length ≤ 1
  · simp only [if_pos few, selectInitialPath]
    cases r.session.paths.lookup initialPathID with
    | none => cases r.hasRetransmission <;> cases r.session.hasUnreliableData <;> simp
    | some pth =>
      cases r.hasRetransmission <;> cases r.session.hasUnreliableData <;>
        cases allowed : pth.sendingAllowed <;> simp [allowed]
  · simp only [if_neg few]
    obtain ⟨selected, steered, unprobed⟩ := selectForUnprobed_cases r env.lessUsed
    have lowLatency := (considers_lowLatency r.session r.hasRetransmission).foldl_eq_none_iff
      (r.session.paths.visited env.lowLatency)
    have unreliable := (considers_unreliable r.session).foldl_eq_none_iff
      (r.session.paths.visited env.unreliable)
    rw [PathTable.forall_visited_iff] at lowLatency unreliable
    simp only [passesOver_iff, forall_and]
    rw [steered, ← unprobed, ← lowLatency, ← unreliable]
    cases selected with
    | some pth => simp
    | none =>
      simp only
      cases (r.session.paths.visited env.lowLatency).foldl
          (r.session.considerLowLatency r.hasRetransmission) none with
      | some pth => simp
      | none =>
        cases (r.session.paths.visited env.unreliable).foldl r.session.considerUnreliable
            none with
        | some pth => cases r.session.hasUnreliableData <;> simp
        | none => cases r.session.hasUnreliableData <;> simp

theorem endRound_ne_nilPath : endRound result ≠ .error .nilPath := by
  unfold endRound
  split <;> simp

theorem nextRound_ne_nilPath : nextRound windowUpdateFrames result ≠ .error .nilPath := by
  unfold nextRound
  split <;> simp

theorem sendOnPath_ne_nilPath (env : RoundEnv) :
    sendOnPath r pth windowUpdateFrames env ≠ .error .nilPath := by
  unfold sendOnPath
  split
  · simp
  · split
    · simp
    · simp
    · exact endRound_ne_nilPath _
    · exact nextRound_ne_nilPath [] _

/-- Once a path is selected nothing else in the round uses a nil path. -/
theorem round_nilPath_iff (st : Session × List WindowUpdateFrame) (env : RoundEnv) :
    round st env = .error .nilPath ↔ (st.1.getRetransmission env.retransmission).NoPath := by
  rw [← choosePath_nilPath_iff _ env.select]
  unfold round sendRound
  generalize st.1.getRetransmission env.retransmission = r
  cases choosePath r env.select with
  | error abort => simp
  | ok selected =>
    cases selected with
    | none => simp [endRound_ne_nilPath]
    | some pth =>
      cases r.retransmitPacket with
      | some packet => simp [nextRound_ne_nilPath]
      | none => simp [sendOnPath_ne_nilPath]

/-! ## The state before a round -/

/-- A packet waits to be sent again. -/
def HasLost (s : Session) : Prop := ∃ packet, s.Waiting packet

/-- The condition on the session as a round finds it. `getRetransmission` comes in only where
frames of a path without an RTT estimate have to be sent again. -/
def BeginsWithoutPath (s : Session) (env : Nat → RetransmissionEnv) : Prop :=
  if s.paths.length ≤ 1 then
    match s.paths.lookup initialPathID with
    | none => ¬ s.HasLost ∨ s.hasUnreliableData = true
    | some pth => s.hasUnreliableData = true ∧ ¬ s.HasLost ∧ pth.sendingAllowed = false
  else
    s.hasUnreliableData = true ∧ ¬ (s.getRetransmission env).UsesOtherPath ∧
      ∀ pathID pth, s.paths.lookup pathID = some pth →
        pth.pathID = initialPathID ∨ pth.potentiallyFailed = true ∨
          (¬ s.HasLost ∧ pth.sendingAllowed = false ∧
            maxQuota ≤ s.scheduler.quotas2 pth.pathID)

theorem SameButSent.hasUnreliableData_eq {s s' : Session} (same : s.SameButSent s') :
    s'.hasUnreliableData = s.hasUnreliableData := by
  unfold hasUnreliableData
  rw [same.streamsMap]

/-- What does not depend on the record of sent packets holds for all paths of both sessions. -/
theorem SameButSent.forall_iff {s s' : Session} (same : s.SameButSent s') {P : Path → Prop}
    (blind : ∀ pth, P (withoutSent pth) ↔ P pth) :
    (∀ pathID pth, s'.paths.lookup pathID = some pth → P pth) ↔
      ∀ pathID pth, s.paths.lookup pathID = some pth → P pth := by
  have seen : ∀ t : Session, (∀ pathID pth, t.paths.lookup pathID = some pth → P pth) ↔
      ∀ pathID pth, (t.paths.lookup pathID).map withoutSent = some pth → P pth := by
    intro t
    constructor
    · intro all pathID pth found
      obtain ⟨old, foundOld, rfl⟩ := Option.map_eq_some_iff.mp found
      exact (blind old).mpr (all pathID old foundOld)
    · intro all pathID pth found
      refine (blind pth).mp (all pathID (withoutSent pth) ?_)
      rw [found, Option.map_some]
  rw [seen s', seen s]
  simp only [same.lookup]

theorem round_nilPath_iff_begins (st : Session × List WindowUpdateFrame) (round : RoundEnv) :
    Session.round st round = .error .nilPath ↔ st.1.BeginsWithoutPath round.retransmission := by
  rw [round_nilPath_iff]
  generalize st.1 = s, round.retransmission = env
  have lost := hasRetransmission_iff s env
  by_cases waiting : s.HasLost
  · have same := s.getRetransmission_sameButSent env
    have started := lost.mpr waiting
    have blind : ∀ pth, (withoutSent pth).pathID = initialPathID ∨
        (withoutSent pth).potentiallyFailed = true ↔
          pth.pathID = initialPathID ∨ pth.potentiallyFailed = true := fun _ => Iff.rfl
    have initial := same.lookup initialPathID
    unfold Retransmission.NoPath BeginsWithoutPath Retransmission.PassesOver
    rw [same.length, same.hasUnreliableData_eq]
    simp only [started, waiting, not_true_eq_false, Bool.true_eq_false, false_and, and_false,
      false_or, or_false]
    split
    · cases before : s.paths.lookup initialPathID with
      | none =>
        rw [before, Option.map_none, Option.map_eq_none_iff] at initial
        simp only [initial]
      | some pth =>
        rw [before, Option.map_some] at initial
        obtain ⟨after, found, -⟩ := Option.map_eq_some_iff.mp initial
        simp only [found]
    · rw [same.forall_iff blind]
  · have started : (s.getRetransmission env).hasRetransmission = false :=
      Bool.eq_false_iff.mpr (mt lost.mp waiting)
    unfold Retransmission.NoPath BeginsWithoutPath Retransmission.PassesOver
    rw [started]
    simp only [waiting, not_false_eq_true, true_and, true_or]
    rw [getRetransmission_of_not_waiting (not_exists.mp waiting) env]

/-! ## All rounds -/

/-- `sendPacket` uses a nil path exactly if it comes to a round without a path. -/
theorem sendPacket_nilPath_iff (s : Session) (flow : FlowEnv) (flowOrder : List Nat)
    (rounds : List RoundEnv) :
    s.sendPacket flow flowOrder rounds = .error .nilPath ↔
      ∃ front env back st, rounds = front ++ env :: back ∧
        s.sendPacket flow flowOrder front = .ok (.goesOn st) ∧
        (st.1.getRetransmission env.retransmission).NoPath := by
  refine (Loop.run_eq_error_iff rounds _).trans ?_
  simp only [round_nilPath_iff]
  rfl

/-! ## Two sessions without a path -/

/-- The streams of a server to which a client has opened the unreliable stream 5. -/
def unreliableStreams : Option StreamsMap.OpenResult :=
  StreamsMap.getOrOpenStream
    { newStreamsMap .server with
      unreliableStreamMark := (∅ : AList fun _ : Nat => Bool).insert 5 true }
    (newFlowControlManager (serverParameters 0 0)) 5 4

/-- The server after the handshake, with one byte to send on that stream. -/
def unreliableServer (opened : StreamsMap.OpenResult) (paths : PathTable) : Session where
  perspective := .server
  version := versionMP
  paths
  streamsMap := opened.map.modifyStream 5 fun stream => (stream.write [7]).1
  flowControlManager := opened.flow
  handshakeComplete := true
  packer :=
    { connectionID := 1
      perspective := .server
      version := versionMP
      cryptoSetup := { forwardSecureAEAD := some zeroKeys } }

/-- A path whose congestion window is taken up by the packet in flight. -/
def fullPath : Path :=
  { firstPath with
    congestionWindow := 1000
    sentPacketHandler :=
      { lastSentPacketNumber := 1
        packetHistory := [{ packetNumber := 1, frames := [.ping], length := 1001 }]
        bytesInFlight := 1001 } }

def failedPath : Path := { firstPath with pathID := 1, potentiallyFailed := true }

def flowAtTimeZero : FlowEnv := { now := 0, smoothedRTT := 0 }

def roundAtTimeZero : RoundEnv where
  send := atTimeZero
  ping := atTimeZero
  flow := flowAtTimeZero
  ackRemaining := { flow := flowAtTimeZero, send := fun _ => atTimeZero }

/-- The only path is full, or the only path besides the initial one has potentially failed. -/
theorem sendPacket_uses_nilPath :
    ∃ opened, unreliableStreams = some opened ∧
      (unreliableServer opened (PathTable.empty.set fullPath)).sendPacket flowAtTimeZero []
        [roundAtTimeZero] = .error .nilPath ∧
      (unreliableServer opened ((PathTable.empty.set firstPath).set failedPath)).sendPacket
        flowAtTimeZero [] [roundAtTimeZero] = .error .nilPath :=
  ⟨_, rfl, rfl, rfl⟩

end Session

end MPQuic
