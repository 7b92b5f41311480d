import MPQuic.StreamsMap.PeerStreams

/-!
# Accepting the streams of the peer

`AcceptStream` hands out the streams of the peer by a cursor: it waits for the very stream that
the cursor names, and goes on to the next ID. The peer leaves out no ID, so the streams are handed
out in the order of their IDs and none of them twice (`AcceptQueue`).

The session removes a stream as soon as it is finished, whether it was accepted or not. If the
peer resets a stream before it is accepted, the cursor stays at a stream that does not come back,
and all later streams of the peer wait behind it (`acceptStream_blocked`). As long as no such
stream is removed, an open stream that was not accepted yet can be accepted at once
(`acceptStream_prompt`).
-/

namespace MPQuic

open List

/-! ## Runs -/

variable (pers : Perspective)

/-- The IDs that a call of `AcceptStream` hands out. -/
def StreamsMap.AcceptOutcome.ids : AcceptOutcome → List Nat
  | .returned s => [s.streamID]
  | .failed _ => []
  | .waits => []

/-- A session whose streams are accepted. -/
structure Acceptor where
  session : Sender
  /-- the IDs of the accepted streams; the source keeps no such record -/
  accepted : List Nat

/-- The calls of a session with `AcceptStream`. -/
inductive AcceptOp where
  | session (op : SenderOp)
  /-- the session looks at one stream and removes it if it is finished -/
  | removeStream (id : Nat)
  | acceptStream

namespace Acceptor

variable (state : Acceptor)

def streamsMap : StreamsMap := state.session.streamsMap

def step : AcceptOp → Acceptor
  | .session op => { state with session := state.session.step op }
  | .removeStream id =>
    let collected := collectStream (state.streamsMap, state.session.flow) id
    { state with session := state.session.after collected.1 collected.2 [] }
  | .acceptStream =>
    let call := state.streamsMap.acceptStream
    { session := { state.session with streamsMap := call.1 }
      accepted := state.accepted ++ call.2.ids }

/-- Nobody waits for the stream: it is not finished, it was opened on this side, or it was
accepted. -/
def Removable (id : Nat) : Prop :=
  ∀ s ∈ state.streamsMap.streams.lookup id, s.finished = true →
    id % 2 = state.streamsMap.localParity ∨ id ∈ state.accepted

/-- A stream of the peer is open and was not accepted yet. -/
def Pending : Prop :=
  ∃ id ∈ state.streamsMap.openStreams,
    id % 2 = 1 - state.streamsMap.localParity ∧ id ∉ state.accepted

instance (state : Acceptor) (id : Nat) : Decidable (state.Removable id) :=
  inferInstanceAs (Decidable (∀ s ∈ state.streamsMap.streams.lookup id, _))

instance (state : Acceptor) : Decidable state.Pending :=
  inferInstanceAs (Decidable (∃ id ∈ state.streamsMap.openStreams, _))

end Acceptor

/-- The streams that the call removes if they are finished. -/
def AcceptOp.collected (m : StreamsMap) : AcceptOp → List Nat
  | .session .garbageCollectStreams => m.openStreams
  | .removeStream id => [id]
  | _ => []

/-- The call removes no stream of the peer that was not accepted. -/
def AcceptOp.Safe (state : Acceptor) (op : AcceptOp) : Prop :=
  ∀ id ∈ op.collected state.streamsMap, state.Removable id

instance AcceptOp.decidableSafe (state : Acceptor) (op : AcceptOp) : Decidable (op.Safe state) :=
  inferInstanceAs (Decidable (∀ id ∈ op.collected state.streamsMap, _))

variable (pers : Perspective)

def newAcceptor (flow : FlowControlManager) : Acceptor where
  session := newSender pers flow
  accepted := []

def Acceptor.run (flow : FlowControlManager) (ops : List AcceptOp) : Acceptor :=
  ops.foldl Acceptor.step (newAcceptor pers flow)

namespace StreamsMap

/-! ## The cursor -/

/-- The accepted streams are those of the peer below the cursor. -/
structure AcceptQueue (m : StreamsMap) (accepted : List Nat) : Prop where
  order : m.PeerOrder
  parity : m.nextStreamToAccept % 2 = 1 - m.localParity
  positive : 0 < m.nextStreamToAccept
  cursor : m.nextStreamToAccept ≤ m.highestStreamOpenedByPeer + 2
  accepted_iff : ∀ id, id ∈ accepted ↔
    id % 2 = 1 - m.localParity ∧ 0 < id ∧ id < m.nextStreamToAccept
  increasing : accepted.Pairwise (· < ·)

/-- The streams of the peer from the cursor on are all there. -/
def NoneMissing (m : StreamsMap) : Prop :=
  ∀ id, id % 2 = 1 - m.localParity → m.nextStreamToAccept ≤ id →
    id ≤ m.highestStreamOpenedByPeer → id ∈ m.streams

variable {m m' : StreamsMap} {ids accepted : List Nat}

theorem acceptQueue_new : AcceptQueue (newStreamsMap pers) [] where
  order := {
    named := fun _ _ found => (by cases found)
    nextStream := by cases pers <;> rfl
    highest := Or.inl rfl
    inRange := by cases pers <;> decide
    opened := fun _ mem => absurd mem (AList.notMem_empty _) }
  parity := by cases pers <;> rfl
  positive := by cases pers <;> decide
  cursor := by cases pers <;> decide
  accepted_iff id := by
    constructor
    · exact fun mem => absurd mem not_mem_nil
    · rintro ⟨parity, positive, below⟩
      -- the first ID of the peer is the smallest one of its parity
      cases pers
      · have odd : id % 2 = 1 := parity
        have small : id < 1 := below
        omega
      · have even : id % 2 = 0 := parity
        have small : id < 2 := below
        omega
  increasing := List.Pairwise.nil

theorem noneMissing_new : (newStreamsMap pers).NoneMissing := by
  intro id _ above below
  have first : 0 < (newStreamsMap pers).nextStreamToAccept := (acceptQueue_new pers).positive
  have zero : id ≤ 0 := below
  omega

/-- The cursor and the accepted streams stay, and the peer may open further streams. -/
theorem AcceptQueue.of_same (queue : AcceptQueue m accepted) (order : m'.PeerOrder)
    (perspective : m'.perspective = m.perspective)
    (nextStreamToAccept : m'.nextStreamToAccept = m.nextStreamToAccept)
    (highest : m.highestStreamOpenedByPeer ≤ m'.highestStreamOpenedByPeer) :
    AcceptQueue m' accepted := by
  have sameParity := localParity_eq perspective
  refine ⟨order, ?_, ?_, ?_, ?_, queue.increasing⟩
  · rw [nextStreamToAccept, sameParity]
    exact queue.parity
  · rw [nextStreamToAccept]
    exact queue.positive
  · rw [nextStreamToAccept]
    exact queue.cursor.trans (Nat.add_le_add_right highest 2)
  · rw [nextStreamToAccept, sameParity]
    exact queue.accepted_iff

theorem AcceptQueue.extend (queue : AcceptQueue m accepted) (extended : m.Extends m') :
    AcceptQueue m' accepted :=
  queue.of_same extended.order extended.perspective extended.nextStreamToAccept extended.highest

theorem NoneMissing.extend (missing : m.NoneMissing) (extended : m.Extends m') :
    m'.NoneMissing := by
  intro id parity above below
  rw [localParity_eq extended.perspective] at parity
  rw [extended.nextStreamToAccept] at above
  by_cases early : id ≤ m.highestStreamOpenedByPeer
  · exact extended.kept id (missing id parity above early)
  · exact extended.opened id parity (Nat.lt_of_not_le early) below

theorem AcceptQueue.collect (queue : AcceptQueue m accepted) (collects : m.Collects ids m') :
    AcceptQueue m' accepted :=
  queue.of_same (queue.order.collects collects) collects.perspective collects.nextStreamToAccept
    collects.highest.ge

/-- A stream behind the cursor was accepted, and one of this side is not waited for. -/
theorem NoneMissing.collect (missing : m.NoneMissing) (queue : AcceptQueue m accepted)
    (collects : m.Collects ids m')
    (removable : ∀ id ∈ ids, ∀ s ∈ m.streams.lookup id, s.finished = true →
      id % 2 = m.localParity ∨ id ∈ accepted) : m'.NoneMissing := by
  intro id parity above below
  rw [localParity_eq collects.perspective] at parity
  rw [collects.nextStreamToAccept] at above
  rw [collects.highest] at below
  have mem := missing id parity above below
  rcases collects.streams id with same | ⟨-, listed, s, found, finished⟩
  · rw [← AList.lookup_isSome] at mem ⊢
    rw [same]
    exact mem
  · rcases removable id listed s found finished with own | behind
    · have := m.localParity_le
      omega
    · have := ((queue.accepted_iff id).mp behind).2.2
      omega

/-- The call returns the stream at the cursor, or changes nothing. -/
theorem acceptStream_cases (m : StreamsMap) :
    m.acceptStream.1 = m ∧ m.acceptStream.2.ids = [] ∨
      ∃ s, m.streams.lookup m.nextStreamToAccept = some s ∧
        m.acceptStream.1 =
          { m with nextStreamToAccept := addUint32 m.nextStreamToAccept 2 } ∧
        m.acceptStream.2.ids = [s.streamID] := by
  unfold acceptStream
  split
  · exact Or.inl ⟨rfl, rfl⟩
  · split
    · rename_i s found
      exact Or.inr ⟨s, found, rfl, rfl⟩
    · exact Or.inl ⟨rfl, rfl⟩

/-- The cursor never gets past the streams of the peer, so that it does not wrap around. -/
theorem AcceptQueue.next (queue : AcceptQueue m accepted) {s : Stream}
    (found : m.streams.lookup m.nextStreamToAccept = some s) :
    m.nextStreamToAccept ≤ m.highestStreamOpenedByPeer ∧
      addUint32 m.nextStreamToAccept 2 = m.nextStreamToAccept + 2 := by
  have mem : m.nextStreamToAccept ∈ m.streams := MapSum.mem_of_lookup found
  have below := (queue.order.opened _ mem queue.parity).2
  have inRange := queue.order.inRange
  refine ⟨below, Nat.mod_eq_of_lt ?_⟩
  have delta : maxNewStreamIDDelta = 400 := rfl
  omega

theorem AcceptQueue.accept (queue : AcceptQueue m accepted) :
    AcceptQueue m.acceptStream.1 (accepted ++ m.acceptStream.2.ids) := by
  rcases m.acceptStream_cases with ⟨same, empty⟩ | ⟨s, found, moved, returned⟩
  · rw [same, empty, append_nil]
    exact queue
  · obtain ⟨below, next⟩ := queue.next found
    have parity := queue.parity
    have lp := m.localParity_le
    rw [moved, returned, queue.order.named _ s found, next]
    exact {
      order := { queue.order with }
      parity := by
        change (m.nextStreamToAccept + 2) % 2 = 1 - m.localParity
        omega
      positive := Nat.succ_pos _
      cursor := Nat.add_le_add_right below 2
      accepted_iff := fun id => by
        rw [mem_append, mem_singleton, queue.accepted_iff]
        change _ ↔ id % 2 = 1 - m.localParity ∧ 0 < id ∧ id < m.nextStreamToAccept + 2
        have positive := queue.positive
        omega
      increasing := by
        rw [pairwise_append]
        refine ⟨queue.increasing, pairwise_singleton _ _, fun id mem other last => ?_⟩
        rw [mem_singleton.mp last]
        exact ((queue.accepted_iff id).mp mem).2.2 }

theorem NoneMissing.accept (missing : m.NoneMissing) (queue : AcceptQueue m accepted) :
    m.acceptStream.1.NoneMissing := by
  rcases m.acceptStream_cases with ⟨same, -⟩ | ⟨s, found, moved, -⟩
  · rw [same]
    exact missing
  · obtain ⟨-, next⟩ := queue.next found
    rw [moved, next]
    intro id parity above below
    have beyond : m.nextStreamToAccept + 2 ≤ id := above
    exact missing id parity (by omega) below

/-- If none is missing, a stream of the peer that was not accepted yet is not waited for: the
one at the cursor is there, too. -/
theorem NoneMissing.acceptStream_ne_waits (missing : m.NoneMissing)
    (queue : AcceptQueue m accepted) {id : Nat} (mem : id ∈ m.streams)
    (parity : id % 2 = 1 - m.localParity) (open' : id ∉ accepted) : m.acceptStream.2 ≠ .waits := by
  obtain ⟨positive, below⟩ := queue.order.opened id mem parity
  have ahead : m.nextStreamToAccept ≤ id := by
    by_contra behind
    exact open' ((queue.accepted_iff id).mpr ⟨parity, positive, Nat.lt_of_not_le behind⟩)
  have present := missing _ queue.parity (le_refl _) (ahead.trans below)
  obtain ⟨s, found⟩ := MapSum.exists_lookup present
  unfold acceptStream
  rw [found]
  split <;> exact fun waits => (by cases waits)

end StreamsMap

/-! ## Whole runs -/

namespace Acceptor

open StreamsMap

variable {state : Acceptor} (flow : FlowControlManager)

theorem acceptQueue_step (queue : AcceptQueue state.streamsMap state.accepted) (op : AcceptOp) :
    AcceptQueue (state.step op).streamsMap (state.step op).accepted := by
  cases op with
  | session op =>
    rcases queue.order.step op with extended | ⟨-, collects⟩
    · exact queue.extend extended
    · exact queue.collect collects
  | removeStream id =>
    exact queue.collect (collects_collectStream (state.streamsMap, state.session.flow) id)
  | acceptStream => exact queue.accept

theorem noneMissing_step (missing : state.streamsMap.NoneMissing)
    (queue : AcceptQueue state.streamsMap state.accepted) {op : AcceptOp} (safe : op.Safe state) :
    (state.step op).streamsMap.NoneMissing := by
  cases op with
  | session op =>
    rcases queue.order.step op with extended | ⟨rfl, collects⟩
    · exact missing.extend extended
    · exact missing.collect queue collects safe
  | removeStream id =>
    have collects := collects_collectStream (state.streamsMap, state.session.flow) id
    exact missing.collect queue collects safe
  | acceptStream => exact missing.accept queue

theorem acceptQueue_run (ops : List AcceptOp) :
    AcceptQueue (run pers flow ops).streamsMap (run pers flow ops).accepted := by
  refine List.foldlRecOn ops step
    (motive := fun state : Acceptor => AcceptQueue state.streamsMap state.accepted) ?_ ?_
  · exact acceptQueue_new pers
  · exact fun state queue op _ => acceptQueue_step queue op

theorem noneMissing_run {ops : List AcceptOp}
    (safe : Runs.EachStep step (fun state op => op.Safe state) (newAcceptor pers flow) ops) :
    (run pers flow ops).streamsMap.NoneMissing := by
  have both := safe.invariant
    (fun state => AcceptQueue state.streamsMap state.accepted ∧ state.streamsMap.NoneMissing)
    ⟨acceptQueue_new pers, noneMissing_new pers⟩
    fun state op ⟨queue, missing⟩ safe =>
      ⟨acceptQueue_step queue op, noneMissing_step missing queue safe⟩
  exact both.2

end Acceptor

/-- `AcceptStream` has handed out all streams of the peer up to one that it has opened, in order and
once each. -/
theorem acceptStream_leavesOutNone (flow : FlowControlManager) (ops : List AcceptOp) :
    let state := Acceptor.run pers flow ops
    state.streamsMap.PeerOrder ∧
      state.accepted = (List.range state.streamsMap.nextStreamToAccept).filter
        (fun id => 0 < id ∧ id % 2 = 1 - state.streamsMap.localParity) ∧
      state.streamsMap.nextStreamToAccept ≤ state.streamsMap.highestStreamOpenedByPeer + 2 := by
  have queue := Acceptor.acceptQueue_run pers flow ops
  refine ⟨queue.order, queue.increasing.eq_of_mem_iff (pairwise_lt_range.filter _) ?_,
    queue.cursor⟩
  intro id
  rw [queue.accepted_iff, mem_filter, mem_range, decide_eq_true_iff]
  tauto

/-- The streams of the peer are accepted in the order of their IDs. If no call removes one before
it is accepted, `AcceptStream` does not wait while one is open that was not accepted yet. -/
theorem acceptStream_prompt (flow : FlowControlManager) (ops : List AcceptOp) :
    (Acceptor.run pers flow ops).accepted.Pairwise (· < ·) ∧
      (Runs.EachStep Acceptor.step (fun state op => op.Safe state) (newAcceptor pers flow) ops →
        (Acceptor.run pers flow ops).Pending →
        (Acceptor.run pers flow ops).streamsMap.acceptStream.2 ≠ .waits) := by
  have queue := Acceptor.acceptQueue_run pers flow ops
  refine ⟨queue.increasing, ?_⟩
  rintro safe ⟨id, mem, parity, open'⟩
  exact (Acceptor.noneMissing_run pers flow safe).acceptStream_ne_waits queue
    (StreamsMap.mem_openStreams.mp mem) parity open'

/-- A server accepts the crypto stream, and the peer opens and resets stream 3. -/
def resetThird : List AcceptOp :=
  [.session (.getOrOpenStream 1 2), .acceptStream, .session (.getOrOpenStream 3 2),
    .session (.registerRemoteError 3 (.closed "reset"))]

/-- Stream 3 is accepted before it is collected, and the call for stream 5 does not wait. -/
theorem acceptStream_prompt_afterReset :
    let ops := resetThird ++
      [.acceptStream, .session .garbageCollectStreams, .session (.getOrOpenStream 5 2)]
    let run := Acceptor.run .server (newFlowControlManager (serverParameters 0 0)) ops
    run.accepted = [1, 3] ∧ run.streamsMap.openStreams = [1, 5] ∧
      run.streamsMap.acceptStream.2 ≠ .waits := by
  refine ⟨by decide, by decide, ?_⟩
  exact (acceptStream_prompt .server (newFlowControlManager (serverParameters 0 0)) _).2
    (by decide) (by decide)

/-- Stream 3 is collected before it is accepted, and the call waits for it although stream 5 is
open. -/
theorem acceptStream_blocked :
    let ops := resetThird ++ [.session .garbageCollectStreams, .session (.getOrOpenStream 5 2)]
    let run := Acceptor.run .server (newFlowControlManager (serverParameters 0 0)) ops
    run.accepted = [1] ∧ run.streamsMap.openStreams = [1, 5] ∧ run.Pending ∧
      run.streamsMap.acceptStream.2 = .waits := by
  exact ⟨by decide, by decide, by decide, rfl⟩

end MPQuic
