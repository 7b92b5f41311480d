import MPQuic.StreamsMap.Rules

/-!
# The limits on open streams

A streams map counts the streams of both directions and refuses to open one when the counter
has reached its limit. The four functions that open a stream pick the counter to raise by
perspective, `RemoveStream` picks the one to lower by the parity of the ID, and the limits are
compared by direction.

On a server the three agree, and both limits hold in every run (`ServerCounts`). On a client
the stream of the peer raises the counter of outgoing streams while the test reads the one of
incoming streams, and the other way round for its own streams; so a client opens as many
streams as the peer names (`openUpTo_client`).
-/

namespace MPQuic

open List

namespace StreamsMap

/-! ## Open streams of each side -/

variable {id : Nat}

variable (m : StreamsMap)

/-- The parity of the IDs of the streams that this side opens. -/
def localParity : Nat :=
  match m.perspective with
  | .server => 0
  | .client => 1

/-- The number of open streams whose ID has the given parity. -/
def openWith (parity : Nat) : Nat :=
  m.openStreams.countP fun id => id % 2 = parity

def openedLocally : Nat := m.openWith m.localParity

def openedByPeer : Nat := m.openWith (1 - m.localParity)

/-- The limits of both directions. -/
def WithinLimits (params : ConnectionParametersManager) : Prop :=
  m.openedByPeer ≤ getMaxIncomingStreams ∧ m.openedLocally ≤ params.getMaxOutgoingStreams

instance (m : StreamsMap) (params : ConnectionParametersManager) :
    Decidable (m.WithinLimits params) :=
  inferInstanceAs (Decidable (_ ∧ _))

/-! ## Runs -/

/-- The calls that open or remove streams. -/
inductive LimitOp where
  | openStream
  | openUnreliableStream
  | getOrOpenStream (id : Nat)
  | removeStream (id : Nat)

/-- More rounds than there are stream IDs. -/
def callRounds : Nat := 2 ^ 32

/-- The map and the flow control manager after a call; `none` if the call does not return. -/
def LimitOp.apply (state : StreamsMap × FlowControlManager) :
    LimitOp → Option (StreamsMap × FlowControlManager)
  | .openStream =>
    let opened := state.1.openStream state.2
    some (opened.map, opened.flow)
  | .openUnreliableStream =>
    let opened := state.1.openUnreliableStream state.2
    some (opened.map, opened.flow)
  | .getOrOpenStream id =>
    (state.1.getOrOpenStream state.2 id callRounds).map fun opened =>
      (opened.map, opened.flow)
  | .removeStream id => some ((state.1.removeStream id).1, state.2)

variable (m : StreamsMap) (flow : FlowControlManager)

/-- A run from a new map, under limits that stay the same. -/
def limitRun (pers : Perspective) (params : ConnectionParametersManager) (ops : List LimitOp) :
    Option (StreamsMap × FlowControlManager) :=
  ops.foldlM LimitOp.apply (newStreamsMap pers, newFlowControlManager params)

/-! ## What opening does to the counters -/

theorem openWith_putStream_le (s : Stream) (parity : Nat) :
    (m.putStream s).openWith parity ≤
      m.openWith parity + if s.streamID % 2 = parity then 1 else 0 := by
  unfold putStream
  split
  · exact Nat.le_add_right _ _
  · simp only [openWith, enterStream, countP_append, countP_singleton,
      decide_eq_true_eq]
    exact le_refl _

theorem openWith_removeStream {m : StreamsMap} (opened : id ∈ m.streams) (parity : Nat) :
    (m.removeStream id).1.openWith parity + (if id % 2 = parity then 1 else 0) =
      m.openWith parity := by
  have mem : id ∈ m.openStreams := mem_openStreams.mpr opened
  have split := (perm_cons_erase mem).countP_eq fun id => decide (id % 2 = parity)
  rw [countP_cons] at split
  simp only [openWith, removeStream, if_pos opened, split, decide_eq_true_eq]

/-- The counter of the streams with a parity. -/
def counter (parity : Nat) : Nat :=
  if parity = 0 then m.numOutgoingStreams else m.numIncomingStreams

theorem counter_removeStream {m : StreamsMap} (opened : id ∈ m.streams) {parity : Nat}
    (bit : parity < 2) :
    (m.removeStream id).1.counter parity =
      if id % 2 = parity then subUint32 (m.counter parity) 1 else m.counter parity := by
  unfold counter removeStream
  rw [if_pos opened]
  obtain rfl | rfl : parity = 0 ∨ parity = 1 := by omega
  · simp only [if_true]
  · rcases Nat.mod_two_eq_zero_or_one id with even | odd
    · simp only [even, Nat.one_ne_zero, Nat.zero_ne_one, if_true, if_false]
    · simp only [odd, Nat.one_ne_zero, if_true, if_false]

theorem connectionParameters_newStream (id : Nat) (contributes : Bool) :
    (flow.newStream id contributes).connectionParameters = flow.connectionParameters := by
  unfold FlowControlManager.newStream
  split <;> rfl

theorem connectionParameters_openLocal (unreliable : Bool) :
    (m.openLocal flow unreliable).flow.connectionParameters = flow.connectionParameters :=
  openLocal_rule (motive := fun _ flow' => flow'.connectionParameters = flow.connectionParameters)
    rfl fun _ => connectionParameters_newStream flow m.nextStream _

theorem numStreams_putStream_le (s : Stream) : (m.putStream s).numStreams ≤ m.numStreams + 1 := by
  rw [← length_openStreams, ← length_openStreams]
  unfold putStream
  split
  · exact Nat.le_succ _
  · simp only [enterStream, length_append, length_singleton]
    exact le_refl _

theorem openWith_countedRemote (id parity : Nat) :
    (m.countedRemote id).openWith parity = m.openWith parity := by
  unfold countedRemote countRemoteStream
  split <;> rfl

theorem openWith_countedLocal (parity : Nat) :
    m.countedLocal.openWith parity = m.openWith parity := by
  unfold countedLocal countLocalStream
  split <;> rfl

/-- An open stream is counted. -/
theorem openWith_pos {m : StreamsMap} (opened : id ∈ m.streams) : 0 < m.openWith (id % 2) := by
  unfold openWith
  rw [countP_pos_iff]
  exact ⟨id, mem_openStreams.mpr opened, by simp⟩

/-! ## The server -/

/-- On a server the counters bound the streams of each parity, and stay below the limits. -/
structure ServerCounts (params : ConnectionParametersManager) (m : StreamsMap) : Prop where
  server : m.perspective = .server
  incoming : m.openWith 1 ≤ m.numIncomingStreams
  incomingLimit : m.numIncomingStreams ≤ getMaxIncomingStreams
  outgoing : m.openWith 0 ≤ m.numOutgoingStreams
  outgoingLimit : m.numOutgoingStreams ≤ params.getMaxOutgoingStreams
  nextStream : m.nextStream % 2 = 0
  highest : m.highestStreamOpenedByPeer = 0 ∨ m.highestStreamOpenedByPeer % 2 = 1

namespace ServerCounts

variable {params : ConnectionParametersManager} {m : StreamsMap} {flow : FlowControlManager}
  {s : Stream}

theorem withinLimits (counts : ServerCounts params m) : m.WithinLimits params := by
  unfold WithinLimits openedByPeer openedLocally localParity
  rw [counts.server]
  exact ⟨counts.incoming.trans counts.incomingLimit,
    counts.outgoing.trans counts.outgoingLimit⟩

theorem new (params : ConnectionParametersManager) :
    ServerCounts params (newStreamsMap .server) where
  server := rfl
  incoming := Nat.zero_le _
  incomingLimit := Nat.zero_le _
  outgoing := Nat.zero_le _
  outgoingLimit := Nat.zero_le _
  nextStream := rfl
  highest := Or.inl rfl

/-- A stream is entered after its counter was raised. -/
theorem putStream (counts : ServerCounts params m) (counted : m.openWith (s.streamID % 2) + 1 ≤
      if s.streamID % 2 = 1 then m.numIncomingStreams else m.numOutgoingStreams) :
    ServerCounts params (m.putStream s) := by
  have incoming := m.openWith_putStream_le s 1
  have outgoing := m.openWith_putStream_le s 0
  have before := counts.incoming
  have before' := counts.outgoing
  rcases Nat.mod_two_eq_zero_or_one s.streamID with parity | parity
  all_goals
    rw [parity] at counted incoming outgoing
    simp only [StreamsMap.putStream] at incoming outgoing ⊢
    split
    · exact counts
    · rename_i unused
      simp only [dif_neg unused] at incoming outgoing
      simp at counted incoming outgoing
      exact {
        server := counts.server
        incoming := by simp only [enterStream] at incoming ⊢; omega
        incomingLimit := counts.incomingLimit
        outgoing := by simp only [enterStream] at outgoing ⊢; omega
        outgoingLimit := counts.outgoingLimit
        nextStream := counts.nextStream
        highest := counts.highest }

/-- The counters of the map into which a stream of the peer is entered. -/
theorem countRemote (counts : ServerCounts params m) (odd : id % 2 = 1)
    (room : m.numIncomingStreams < getMaxIncomingStreams) :
    ServerCounts params (m.countedRemote id) ∧
      (m.countedRemote id).numIncomingStreams = m.numIncomingStreams + 1 := by
  have noWrap : addUint32 m.numIncomingStreams 1 = m.numIncomingStreams + 1 := by
    have limit : getMaxIncomingStreams = 110 := rfl
    apply Nat.mod_eq_of_lt
    omega
  have highest := counts.highest
  unfold countedRemote countRemoteStream
  rw [counts.server]
  refine ⟨?_, noWrap⟩
  exact {
    server := rfl
    incoming := by
      rw [noWrap]
      exact counts.incoming.trans (Nat.le_succ _)
    incomingLimit := by
      rw [noWrap]
      exact room
    outgoing := counts.outgoing
    outgoingLimit := counts.outgoingLimit
    nextStream := counts.nextStream
    highest := by
      dsimp only
      omega }

/-- The counters are right under the limits of the flow control manager. -/
def Limited (params : ConnectionParametersManager) (m : StreamsMap) (flow : FlowControlManager) :
    Prop :=
  ServerCounts params m ∧ flow.connectionParameters = params

/-- A stream of the peer raises the counter that the test read. -/
theorem Limited.openRemoteStream (limited : Limited params m flow) (odd : id % 2 = 1) :
    Limited params (m.openRemoteStream flow id).map (m.openRemoteStream flow id).flow := by
  refine openRemote_rule (motive := Limited params) limited fun room _ => ?_
  obtain ⟨counts, constant⟩ := limited
  obtain ⟨counted, raised⟩ := counts.countRemote odd room
  refine ⟨counted.putStream ?_, (connectionParameters_newStream flow id _).trans constant⟩
  change (m.countedRemote id).openWith (id % 2) + 1 ≤
    if id % 2 = 1 then (m.countedRemote id).numIncomingStreams else _
  rw [if_pos odd, odd, raised, openWith_countedRemote]
  exact Nat.succ_le_succ counts.incoming

/-- The counters of the map into which an own stream is entered. -/
theorem countLocal (counts : ServerCounts params m)
    (room : m.numOutgoingStreams < params.getMaxOutgoingStreams)
    (word : params.getMaxOutgoingStreams < 2 ^ 32) :
    ServerCounts params m.countedLocal ∧
      m.countedLocal.numOutgoingStreams = m.numOutgoingStreams + 1 := by
  have noWrap : addUint32 m.numOutgoingStreams 1 = m.numOutgoingStreams + 1 := by
    apply Nat.mod_eq_of_lt
    omega
  have even := counts.nextStream
  unfold countedLocal countLocalStream
  rw [counts.server]
  refine ⟨?_, noWrap⟩
  exact {
    server := rfl
    incoming := counts.incoming
    incomingLimit := counts.incomingLimit
    outgoing := by
      rw [noWrap]
      exact counts.outgoing.trans (Nat.le_succ _)
    outgoingLimit := by
      rw [noWrap]
      exact room
    nextStream := by
      simp only [addUint32]
      omega
    highest := counts.highest }

/-- A mark leaves the counters alone. -/
theorem putStreamType (counts : ServerCounts params (m.putStream s)) (marker : Bool) :
    ServerCounts params (m.putStreamType s marker) := by
  unfold StreamsMap.putStream at counts
  unfold StreamsMap.putStreamType
  split
  · rename_i used
    rw [dif_pos used] at counts
    exact counts
  · rename_i unused
    rw [dif_neg unused] at counts
    exact { counts with }

theorem Limited.openLocal (limited : Limited params m flow)
    (word : params.getMaxOutgoingStreams < 2 ^ 32) (unreliable : Bool) :
    Limited params (m.unlessClosed flow (m.openLocal flow unreliable)).map
      (m.unlessClosed flow (m.openLocal flow unreliable)).flow := by
  refine unlessClosed_rule (motive := Limited params) limited ?_
  obtain ⟨counts, constant⟩ := limited
  refine ⟨?_, (m.connectionParameters_openLocal flow unreliable).trans constant⟩
  refine openLocal_rule (motive := fun m _ => ServerCounts params m) counts fun room => ?_
  rw [constant] at room
  obtain ⟨counted, raised⟩ := counts.countLocal room word
  have even := counts.nextStream
  apply putStreamType
  apply counted.putStream
  change m.countedLocal.openWith (m.nextStream % 2) + 1 ≤
    if m.nextStream % 2 = 1 then _ else m.countedLocal.numOutgoingStreams
  rw [even, if_neg (by decide), raised, openWith_countedLocal]
  exact Nat.succ_le_succ counts.outgoing

/-- A counter that bounds its streams is lowered with them. -/
theorem lowered (parity : Nat) (bit : parity < 2) (opened : id ∈ m.streams)
    (bound : m.openWith parity ≤ m.counter parity) (word : m.counter parity < 2 ^ 32) :
    (m.removeStream id).1.openWith parity ≤ (m.removeStream id).1.counter parity ∧
      (m.removeStream id).1.counter parity ≤ m.counter parity := by
  have positive := openWith_pos opened
  have removed := openWith_removeStream opened parity
  rw [counter_removeStream opened bit]
  split
  · rename_i same
    rw [same] at positive
    rw [if_pos same] at removed
    unfold subUint32
    omega
  · rename_i other
    rw [if_neg other] at removed
    omega

theorem removeStream (counts : ServerCounts params m) (id : Nat)
    (word : params.getMaxOutgoingStreams < 2 ^ 32) : ServerCounts params (m.removeStream id).1 := by
  by_cases opened : id ∈ m.streams
  · have limit : getMaxIncomingStreams < 2 ^ 32 := by decide
    have counted (m : StreamsMap) : m.counter 1 = m.numIncomingStreams ∧
        m.counter 0 = m.numOutgoingStreams := ⟨rfl, rfl⟩
    have incoming := lowered 1 (by decide) opened counts.incoming (by
      rw [(counted m).1]
      exact counts.incomingLimit.trans_lt limit)
    have outgoing := lowered 0 (by decide) opened counts.outgoing (by
      rw [(counted m).2]
      exact counts.outgoingLimit.trans_lt word)
    rw [(counted _).1, (counted _).1] at incoming
    rw [(counted _).2, (counted _).2] at outgoing
    unfold StreamsMap.removeStream at incoming outgoing ⊢
    rw [if_pos opened] at incoming outgoing ⊢
    exact ⟨counts.server, incoming.1, incoming.2.trans counts.incomingLimit, outgoing.1,
      outgoing.2.trans counts.outgoingLimit, counts.nextStream, counts.highest⟩
  · unfold StreamsMap.removeStream
    rw [if_neg opened]
    exact counts

/-- A round of the loop is refused, or it raises the counter for at most one more stream. -/
theorem openRemoteStream_cases (counts : ServerCounts params m) (flow : FlowControlManager)
    (odd : id % 2 = 1) :
    (∃ err, (m.openRemoteStream flow id).outcome = .error err ∧
      (m.openRemoteStream flow id).map = m ∧ (m.openRemoteStream flow id).flow = flow) ∨
    (∃ s, (m.openRemoteStream flow id).outcome = .ok s ∧
      (m.openRemoteStream flow id).map.numIncomingStreams = m.numIncomingStreams + 1 ∧
      (m.openRemoteStream flow id).map.numStreams ≤ m.numStreams + 1) := by
  unfold StreamsMap.openRemoteStream openRemote
  split
  · exact Or.inl ⟨_, rfl, rfl, rfl⟩
  · rename_i room
    split
    · exact Or.inl ⟨_, rfl, rfl, rfl⟩
    · obtain ⟨_, raised⟩ := counts.countRemote odd (Nat.lt_of_not_le room)
      refine Or.inr ⟨_, rfl, ?_, ?_⟩
      · rw [← raised]
        dsimp only
        unfold StreamsMap.putStream
        split <;> rfl
      · refine (numStreams_putStream_le _ _).trans (Nat.succ_le_succ (le_of_eq ?_))
        exact congrArg (·.keys.length) (m.streams_countedRemote id)

/-- The loop of `GetOrOpenStream` returns, since every round raises the counter or is refused,
and opens no more streams than the counter counts. -/
theorem Limited.openUpTo (limited : Limited params m flow) (id : Nat) {fuel sid : Nat}
    (odd : sid % 2 = 1) (enough : getMaxIncomingStreams < fuel + m.numIncomingStreams) :
    ∃ opened, StreamsMap.openUpTo id fuel sid m flow = some opened ∧
      Limited params opened.map opened.flow ∧
      opened.map.numStreams + m.numIncomingStreams ≤
        m.numStreams + opened.map.numIncomingStreams := by
  induction fuel generalizing sid m flow with
  | zero =>
    have limit := limited.1.incomingLimit
    omega
  | succ fuel ih =>
    by_cases more : sid ≤ id
    · simp only [StreamsMap.openUpTo, if_pos more]
      rcases limited.1.openRemoteStream_cases flow odd with
        ⟨err, refused, sameMap, sameFlow⟩ | ⟨s, accepted, raised, grown⟩
      · rw [refused]
        refine ⟨_, rfl, ?_⟩
        dsimp only
        rw [sameMap, sameFlow]
        exact ⟨limited, le_refl _⟩
      · rw [accepted]
        have oddNext : addUint32 sid 2 % 2 = 1 := by
          unfold addUint32
          omega
        obtain ⟨opened, returned, limited', grown'⟩ :=
          ih (limited.openRemoteStream odd) oddNext (by omega)
        exact ⟨opened, returned, limited', by omega⟩
    · simp only [StreamsMap.openUpTo, if_neg more]
      exact ⟨_, rfl, limited, le_refl _⟩

theorem nextRemoteStream_odd (counts : ServerCounts params m) : m.nextRemoteStream % 2 = 1 := by
  have highest := counts.highest
  simp only [nextRemoteStream, counts.server, and_true, addUint32]
  split
  · rfl
  · omega

/-- One call returns and opens no more streams than the limit. -/
theorem Limited.getOrOpenStream (limited : Limited params m flow) (id : Nat) :
    ∃ opened, m.getOrOpenStream flow id callRounds = some opened ∧
      Limited params opened.map opened.flow ∧
      opened.map.numStreams ≤ m.numStreams + getMaxIncomingStreams := by
  have unchanged : m.numStreams ≤ m.numStreams + getMaxIncomingStreams := Nat.le_add_right _ _
  unfold StreamsMap.getOrOpenStream
  split
  · exact ⟨_, rfl, limited, unchanged⟩
  · split
    · exact ⟨_, rfl, limited, unchanged⟩
    · have enough : getMaxIncomingStreams < callRounds + m.numIncomingStreams :=
        Nat.lt_of_lt_of_le (by decide) (Nat.le_add_right _ _)
      obtain ⟨opened, returned, limited', grown⟩ :=
        limited.openUpTo id limited.1.nextRemoteStream_odd enough
      have limit := limited'.1.incomingLimit
      exact ⟨opened, returned, limited', by omega⟩

/-- Every call of a run returns and keeps the counters right. -/
theorem Limited.apply (limited : Limited params m flow)
    (word : params.getMaxOutgoingStreams < 2 ^ 32) (op : LimitOp) :
    ∃ state, op.apply (m, flow) = some state ∧ Limited params state.1 state.2 := by
  cases op with
  | openStream => exact ⟨_, rfl, limited.openLocal word false⟩
  | openUnreliableStream => exact ⟨_, rfl, limited.openLocal word true⟩
  | getOrOpenStream id =>
    obtain ⟨opened, returned, limited', _⟩ := limited.getOrOpenStream id
    exact ⟨(opened.map, opened.flow), by rw [LimitOp.apply, returned]; rfl, limited'⟩
  | removeStream id => exact ⟨_, rfl, limited.1.removeStream id word, limited.2⟩

theorem Limited.run (limited : Limited params m flow)
    (word : params.getMaxOutgoingStreams < 2 ^ 32) (ops : List LimitOp) :
    ∃ state, ops.foldlM LimitOp.apply (m, flow) = some state ∧ Limited params state.1 state.2 := by
  induction ops generalizing m flow with
  | nil => exact ⟨(m, flow), rfl, limited⟩
  | cons op ops ih =>
    obtain ⟨state, applied, limited'⟩ := limited.apply word op
    obtain ⟨final, rest, done⟩ := ih limited'
    refine ⟨final, ?_, done⟩
    rw [foldlM_cons, applied]
    exact rest

end ServerCounts

/-! ## The client -/

/-- What a new stream of the peer changes on a client. -/
structure ClientOpens (m : StreamsMap) (sid : Nat) (opened : OpenResult) : Prop where
  accepted : ∃ s, opened.outcome = .ok s
  client : opened.map.perspective = .client
  /-- the counter that the test reads stays as it is -/
  incoming : opened.map.numIncomingStreams = m.numIncomingStreams
  highest : opened.map.highestStreamOpenedByPeer = max m.highestStreamOpenedByPeer sid
  streams : ∀ other, other ∈ opened.map.streams ↔ other = sid ∨ other ∈ m.streams
  grown : opened.map.openWith 0 = m.openWith 0 + 1

theorem openRemoteStream_client {m : StreamsMap} {sid : Nat}
    (client : m.perspective = .client) (room : m.numIncomingStreams < getMaxIncomingStreams)
    (near : m.highestStreamOpenedByPeer ≤ addUint32 sid maxNewStreamIDDelta)
    (unused : sid ∉ m.streams) (even : sid % 2 = 0) :
    ClientOpens m sid (m.openRemoteStream flow sid) := by
  have counted : m.countRemoteStream =
      { m with numOutgoingStreams := addUint32 m.numOutgoingStreams 1 } := by
    unfold countRemoteStream
    rw [client]
  unfold openRemoteStream openRemote
  rw [if_neg (Nat.not_le_of_lt room), if_neg (Nat.not_lt_of_le near)]
  simp only [counted, putStream]
  rw [dif_neg (show ¬(StreamsMap.newStream _ flow sid).2.streamID ∈ _ from unused)]
  exact {
    accepted := ⟨_, rfl⟩
    client
    incoming := rfl
    highest := rfl
    streams := fun other => AList.mem_insert _
    grown := by
      simp only [openWith, enterStream, countP_append, countP_singleton]
      exact congrArg (_ + ·) (if_pos (decide_eq_true even)) }

/-- A client with few streams of its own opens every stream that the peer names. -/
theorem openUpTo_client (even : id % 2 = 0) (small : id + maxNewStreamIDDelta < 2 ^ 32)
    (count : Nat) :
    ∀ (fuel sid : Nat) (m : StreamsMap) (flow : FlowControlManager), m.perspective = .client →
      m.numIncomingStreams < getMaxIncomingStreams → (∀ other ∈ m.streams, other < sid) →
      m.highestStreamOpenedByPeer ≤ sid → sid + 2 * count = id + 2 → count < fuel →
      ∃ opened, StreamsMap.openUpTo id fuel sid m flow = some opened ∧
        opened.map.perspective = .client ∧ opened.map.openWith 0 = m.openWith 0 + count := by
  induction count with
  | zero =>
    intro fuel sid m flow client room below highest last enough
    obtain ⟨fuel, rfl⟩ := Nat.exists_eq_succ_of_ne_zero (ne_of_gt enough)
    have finished : ¬sid ≤ id := by omega
    exact ⟨_, by rw [StreamsMap.openUpTo, if_neg finished], client, rfl⟩
  | succ count ih =>
    intro fuel sid m flow client room below highest last enough
    obtain ⟨fuel, rfl⟩ := Nat.exists_eq_succ_of_ne_zero (ne_of_gt (Nat.zero_lt_of_lt enough))
    have noWrap : addUint32 sid maxNewStreamIDDelta = sid + maxNewStreamIDDelta :=
      Nat.mod_eq_of_lt (by omega)
    have next : addUint32 sid 2 = sid + 2 := by
      have delta : maxNewStreamIDDelta = 400 := rfl
      exact Nat.mod_eq_of_lt (by omega)
    have opens := openRemoteStream_client flow client room (by omega)
      (fun used => lt_irrefl _ (below sid used)) (show sid % 2 = 0 by omega)
    obtain ⟨s, accepted⟩ := opens.accepted
    have below' : ∀ other ∈ (m.openRemoteStream flow sid).map.streams, other < sid + 2 := by
      intro other used
      rcases (opens.streams other).mp used with rfl | old
      · omega
      · exact Nat.lt_add_right 2 (below other old)
    obtain ⟨opened, returned, client', grown⟩ :=
      ih fuel (sid + 2) _ (m.openRemoteStream flow sid).flow opens.client
        (opens.incoming ▸ room) below' (by rw [opens.highest]; omega) (by omega) (by omega)
    refine ⟨opened, ?_, client', ?_⟩
    · simp only [StreamsMap.openUpTo]
      rw [if_pos (by omega), accepted, next]
      exact returned
    · rw [grown, opens.grown]
      omega

theorem limitRun_client_exceeds (params : ConnectionParametersManager) :
    ∃ state, limitRun .client params [.getOrOpenStream 222] = some state ∧
      ¬state.1.WithinLimits params := by
  have few : (newStreamsMap .client).numIncomingStreams < getMaxIncomingStreams := by decide
  obtain ⟨opened, returned, client, grown⟩ :=
    openUpTo_client (show 222 % 2 = 0 from rfl) (by decide) 111 callRounds 2
      (newStreamsMap .client) (newFlowControlManager params) rfl few
      (fun other used => absurd used (AList.notMem_empty other)) (by decide) rfl (by decide)
  refine ⟨(opened.map, opened.flow), ?_, ?_⟩
  · have call : (newStreamsMap .client).getOrOpenStream (newFlowControlManager params) 222
        callRounds = some opened := returned
    simp only [limitRun, foldlM_cons, foldlM_nil, LimitOp.apply, call]
    rfl
  · rintro ⟨peer, _⟩
    unfold openedByPeer localParity at peer
    rw [client] at peer
    have exceeded : opened.map.openWith 0 ≤ getMaxIncomingStreams := peer
    rw [grown] at exceeded
    exact absurd exceeded (by decide)

/-- Both limits hold in every run, and one call opens no more streams than the limit, exactly
on a server. -/
theorem streamLimits_iff_server (pers : Perspective) (params : ConnectionParametersManager)
    (word : params.maxIncomingDynamicStreamsPerConnection < 2 ^ 32) :
    (∀ ops, ∃ state, limitRun pers params ops = some state ∧ state.1.WithinLimits params ∧
      ∀ id, ∃ opened, state.1.getOrOpenStream state.2 id callRounds = some opened ∧
        opened.map.numStreams ≤ state.1.numStreams + getMaxIncomingStreams) ↔
      pers = .server := by
  constructor
  · intro holds
    cases pers with
    | server => rfl
    | client =>
      obtain ⟨state, reached, exceeds⟩ := limitRun_client_exceeds params
      obtain ⟨state', reached', within, _⟩ := holds [.getOrOpenStream 222]
      rw [reached] at reached'
      cases reached'
      exact absurd within exceeds
  · rintro rfl ops
    have start : ServerCounts.Limited params (newStreamsMap .server)
      (newFlowControlManager params) := ⟨.new params, rfl⟩
    obtain ⟨state, reached, limited⟩ := start.run word ops
    refine ⟨state, reached, limited.1.withinLimits, fun id => ?_⟩
    obtain ⟨opened, returned, -, grown⟩ := limited.getOrOpenStream id
    exact ⟨opened, returned, grown⟩

theorem streamLimits_server :
    (serverParameters 0 0).maxIncomingDynamicStreamsPerConnection < 2 ^ 32 ∧
      ∀ ops, ∃ state, limitRun .server (serverParameters 0 0) ops = some state ∧
        state.1.WithinLimits (serverParameters 0 0) := by
  refine ⟨by decide, fun ops => ?_⟩
  obtain ⟨state, reached, within, _⟩ :=
    (streamLimits_iff_server .server (serverParameters 0 0) (by decide)).mpr rfl ops
  exact ⟨state, reached, within⟩

/-- A STREAM frame for stream 222 makes a client open 111 streams, where 110 are allowed. -/
theorem streamLimits_client_exceeded :
    ∃ state, limitRun .client (clientParameters 0 0) [.getOrOpenStream 222] = some state ∧
      state.1.openedByPeer = 111 ∧ getMaxIncomingStreams = 110 := by
  have opened : (limitRun .client (clientParameters 0 0) [.getOrOpenStream 222]).map
      (fun state => state.1.openedByPeer) = some 111 := by decide +kernel
  obtain ⟨state, reached, count⟩ := Option.map_eq_some_iff.mp opened
  exact ⟨state, reached, count, rfl⟩

end StreamsMap

end MPQuic
