import MPQuic.StreamFramer.SendingCalls
import MPQuic.StreamsMap.Limits

/-!
# The IDs of the streams of the peer

The peer opens its streams without leaving out an ID, however a STREAM frame names them: a stream
is opened together with all streams of the peer before it that are not open yet. So a call of a
session that removes nothing only adds the IDs after the highest one (`Extends`), and the removal
of finished streams leaves the IDs that the peer has used as they are (`Collects`). Which of the
two happens in a call is said by `PeerOrder.step`.

The IDs do not wrap around, since a stream near the end of the range is refused.
-/

namespace MPQuic

open StreamFramer

namespace StreamsMap

/-! ## The streams of the peer -/

theorem localParity_le (m : StreamsMap) : m.localParity ≤ 1 := by
  unfold localParity
  split <;> decide

/-- The IDs of the streams: those of the peer go up to the highest one, which stays away from
the end of the range. -/
structure PeerOrder (m : StreamsMap) : Prop where
  named : ∀ id s, m.streams.lookup id = some s → s.streamID = id
  nextStream : m.nextStream % 2 = m.localParity
  highest : m.highestStreamOpenedByPeer = 0 ∨
    m.highestStreamOpenedByPeer % 2 = 1 - m.localParity
  inRange : m.highestStreamOpenedByPeer + maxNewStreamIDDelta < 2 ^ 32
  opened : ∀ id ∈ m.streams, id % 2 = 1 - m.localParity →
    0 < id ∧ id ≤ m.highestStreamOpenedByPeer

/-- A call that removes no stream: the peer may have opened the streams after its highest. -/
structure Extends (m m' : StreamsMap) : Prop where
  order : m'.PeerOrder
  perspective : m'.perspective = m.perspective
  nextStreamToAccept : m'.nextStreamToAccept = m.nextStreamToAccept
  highest : m.highestStreamOpenedByPeer ≤ m'.highestStreamOpenedByPeer
  kept : ∀ id ∈ m.streams, id ∈ m'.streams
  opened : ∀ id, id % 2 = 1 - m.localParity → m.highestStreamOpenedByPeer < id →
    id ≤ m'.highestStreamOpenedByPeer → id ∈ m'.streams

variable {m m' m'' counted : StreamsMap} {flow : FlowControlManager} {id : Nat}

theorem localParity_eq (same : m'.perspective = m.perspective) :
    m'.localParity = m.localParity := by
  unfold localParity
  rw [same]

theorem PeerOrder.extends (order : m.PeerOrder) : m.Extends m :=
  ⟨order, rfl, rfl, le_refl _, fun _ mem => mem,
    fun _ _ above below => absurd below (not_le.mpr above)⟩

theorem Extends.trans (first : m.Extends m') (second : m'.Extends m'') : m.Extends m'' where
  order := second.order
  perspective := second.perspective.trans first.perspective
  nextStreamToAccept := second.nextStreamToAccept.trans first.nextStreamToAccept
  highest := first.highest.trans second.highest
  kept id mem := second.kept id (first.kept id mem)
  opened id parity above below := by
    by_cases early : id ≤ m'.highestStreamOpenedByPeer
    · exact second.kept id (first.opened id parity above early)
    · refine second.opened id ?_ (Nat.lt_of_not_le early) below
      rw [localParity_eq first.perspective]
      exact parity

section

variable (order : m.PeerOrder)

include order

/-- Streams were changed or removed, but none was opened. -/
theorem PeerOrder.of_named (perspective : m'.perspective = m.perspective)
    (nextStream : m'.nextStream = m.nextStream)
    (highest : m'.highestStreamOpenedByPeer = m.highestStreamOpenedByPeer)
    (named : ∀ id s, m'.streams.lookup id = some s →
      ∃ old, m.streams.lookup id = some old ∧ s.streamID = old.streamID) :
    m'.PeerOrder := by
  have sameParity := localParity_eq perspective
  refine ⟨fun id s found => ?_, ?_, ?_, ?_, fun id mem => ?_⟩
  · obtain ⟨old, foundOld, sameID⟩ := named id s found
    rw [sameID]
    exact order.named id old foundOld
  · rw [nextStream, sameParity]
    exact order.nextStream
  · rw [highest, sameParity]
    exact order.highest
  · rw [highest]
    exact order.inRange
  · obtain ⟨s, found⟩ := MapSum.exists_lookup mem
    obtain ⟨old, foundOld, -⟩ := named id s found
    rw [highest, sameParity]
    exact order.opened id (MapSum.mem_of_lookup foundOld)

/-- No stream was removed either. -/
theorem PeerOrder.of_names (perspective : m'.perspective = m.perspective)
    (nextStream : m'.nextStream = m.nextStream)
    (highest : m'.highestStreamOpenedByPeer = m.highestStreamOpenedByPeer)
    (nextStreamToAccept : m'.nextStreamToAccept = m.nextStreamToAccept)
    (names : ∀ id,
      (m'.streams.lookup id).map Stream.streamID = (m.streams.lookup id).map Stream.streamID) :
    m.Extends m' where
  order := order.of_named perspective nextStream highest fun id s found => by
    have name := names id
    rw [found, Option.map_some] at name
    obtain ⟨old, foundOld, sameID⟩ := Option.map_eq_some_iff.mp name.symm
    exact ⟨old, foundOld, sameID.symm⟩
  perspective := perspective
  nextStreamToAccept := nextStreamToAccept
  highest := highest.ge
  kept id old := by
    have same := congrArg Option.isSome (names id)
    rw [Option.isSome_map, Option.isSome_map] at same
    rwa [← AList.lookup_isSome, same, AList.lookup_isSome]
  opened id _ above below := by
    rw [highest] at below
    exact absurd below (not_le.mpr above)

theorem PeerOrder.setStream {s s' : Stream} (found : m.streams.lookup id = some s)
    (sameID : s'.streamID = s.streamID) : m.Extends (m.setStream id s') := by
  have mem : id ∈ m.streams := MapSum.mem_of_lookup found
  have names (other : Nat) : ((m.setStream id s').streams.lookup other).map Stream.streamID =
      (m.streams.lookup other).map Stream.streamID := by
    by_cases same : other = id
    · rw [same, lookup_setStream_self found, found, Option.map_some, Option.map_some, sameID]
    · rw [lookup_setStream_of_ne same]
  unfold StreamsMap.setStream at names ⊢
  rw [dif_pos mem] at names ⊢
  exact order.of_names rfl rfl rfl rfl names

theorem PeerOrder.modifyStream {change : Stream → Stream}
    (sameID : ∀ s, (change s).streamID = s.streamID) : m.Extends (m.modifyStream id change) :=
  modifyStream_rule order.extends fun s found => order.setStream found (sameID s)

theorem PeerOrder.closeWithError (err : StreamError) : m.Extends (m.closeWithError err) :=
  closeWithError_rule (order.of_names rfl rfl rfl rfl fun _ => rfl) fun {_ _ s} extended found =>
    extended.trans (extended.order.setStream found (s.keepsSending_cancel err).streamID)

end

/-! ## Opening streams -/

/-- A stream was entered under its ID, unless there was one. -/
structure Enters (m : StreamsMap) (id : Nat) (m' : StreamsMap) : Prop where
  perspective : m'.perspective = m.perspective
  nextStream : m'.nextStream = m.nextStream
  highest : m'.highestStreamOpenedByPeer = m.highestStreamOpenedByPeer
  nextStreamToAccept : m'.nextStreamToAccept = m.nextStreamToAccept
  entered : id ∈ m'.streams
  kept : ∀ other ∈ m.streams, other ∈ m'.streams
  new : ∀ other s, m'.streams.lookup other = some s →
    m.streams.lookup other = some s ∨ other = id ∧ s.streamID = id

theorem Enters.eq_or_mem (enters : m.Enters id m') {other : Nat}
    (mem : other ∈ m'.streams) : other = id ∨ other ∈ m.streams := by
  obtain ⟨s, found⟩ := MapSum.exists_lookup mem
  rcases enters.new other s found with old | ⟨same, -⟩
  · exact Or.inr (MapSum.mem_of_lookup old)
  · exact Or.inl same

theorem enters_enterStream (m : StreamsMap) (s : Stream) (unused : s.streamID ∉ m.streams) :
    m.Enters s.streamID (m.enterStream s unused) where
  perspective := rfl
  nextStream := rfl
  highest := rfl
  nextStreamToAccept := rfl
  entered := (AList.mem_insert _).mpr (Or.inl rfl)
  kept _ old := (AList.mem_insert _).mpr (Or.inr old)
  new other s' found := by
    rcases MapSum.lookup_of_insert found with ⟨rfl, rfl⟩ | ⟨-, old⟩
    · exact Or.inr ⟨rfl, rfl⟩
    · exact Or.inl old

theorem enters_of_used (used : id ∈ m.streams) : m.Enters id m :=
  ⟨rfl, rfl, rfl, rfl, used, fun _ old => old, fun _ _ found => Or.inl found⟩

theorem enters_putStream (m : StreamsMap) (id : Nat) (mark : Bool) :
    m.Enters id (m.putStream (newStreamType id mark)) := by
  unfold putStream
  split
  · rename_i used
    exact enters_of_used used
  · rename_i unused
    exact m.enters_enterStream _ unused

theorem enters_putStreamType (m : StreamsMap) (id : Nat) (mark marker : Bool) :
    m.Enters id (m.putStreamType (newStreamType id mark) marker) := by
  unfold putStreamType
  split
  · rename_i used
    exact enters_of_used used
  · rename_i unused
    exact { m.enters_enterStream _ unused with }

/-- The peer opens the ID after its highest one. -/
theorem PeerOrder.nextRemoteStream (order : m.PeerOrder) :
    m.nextRemoteStream % 2 = 1 - m.localParity ∧
      m.highestStreamOpenedByPeer < m.nextRemoteStream ∧
      m.nextRemoteStream ≤ m.highestStreamOpenedByPeer + 2 := by
  have highest := order.highest
  have inRange := order.inRange
  have noWrap : addUint32 m.highestStreamOpenedByPeer 2 = m.highestStreamOpenedByPeer + 2 :=
    Nat.mod_eq_of_lt (by
      have delta : maxNewStreamIDDelta = 400 := rfl
      omega)
  simp only [StreamsMap.nextRemoteStream, noWrap]
  cases pers : m.perspective with
  | server =>
    simp only [localParity, pers, and_true] at highest ⊢
    split <;> omega
  | client =>
    simp only [localParity, pers, reduceCtorEq, and_false, if_false] at highest ⊢
    omega

theorem exists_countRemoteStream (m : StreamsMap) : ∃ incoming outgoing, m.countRemoteStream =
    { m with numIncomingStreams := incoming, numOutgoingStreams := outgoing } := by
  unfold countRemoteStream
  split
  · exact ⟨_, m.numOutgoingStreams, rfl⟩
  · exact ⟨m.numIncomingStreams, _, rfl⟩

theorem exists_countLocalStream (m : StreamsMap) : ∃ incoming outgoing, m.countLocalStream =
    { m with numIncomingStreams := incoming, numOutgoingStreams := outgoing } := by
  unfold countLocalStream
  split
  · exact ⟨m.numIncomingStreams, _, rfl⟩
  · exact ⟨_, m.numOutgoingStreams, rfl⟩

/-- Only the counters and the IDs that are opened next differ. -/
structure SameStreams (m m' : StreamsMap) : Prop where
  perspective : m'.perspective = m.perspective
  nextStreamToAccept : m'.nextStreamToAccept = m.nextStreamToAccept
  streams : m'.streams = m.streams

section

variable (order : m.PeerOrder)

include order

/-- A stream was entered after the counters were raised. If it is one of the peer, it is the only
one after the highest. -/
theorem PeerOrder.enter (enters : counted.Enters id m') (same : m.SameStreams counted)
    (nextStream : counted.nextStream % 2 = m.localParity)
    (highest : counted.highestStreamOpenedByPeer = 0 ∨
      counted.highestStreamOpenedByPeer % 2 = 1 - m.localParity)
    (inRange : counted.highestStreamOpenedByPeer + maxNewStreamIDDelta < 2 ^ 32)
    (le : m.highestStreamOpenedByPeer ≤ counted.highestStreamOpenedByPeer)
    (peer : id % 2 = 1 - m.localParity → 0 < id ∧ id ≤ counted.highestStreamOpenedByPeer)
    (only : ∀ other, other % 2 = 1 - m.localParity → m.highestStreamOpenedByPeer < other →
      other ≤ counted.highestStreamOpenedByPeer → other = id) : m.Extends m' := by
  have samePerspective := enters.perspective.trans same.perspective
  have sameParity := localParity_eq samePerspective
  rw [← sameParity] at nextStream highest peer
  rw [← enters.nextStream] at nextStream
  rw [← enters.highest] at highest inRange le peer only
  refine ⟨⟨?_, nextStream, highest, inRange, ?_⟩, samePerspective,
    enters.nextStreamToAccept.trans same.nextStreamToAccept, le, ?_, ?_⟩
  · intro id s found
    rcases enters.new id s found with old | ⟨rfl, sameID⟩
    · exact order.named id s (same.streams ▸ old)
    · exact sameID
  · intro other mem parity
    rcases enters.eq_or_mem mem with rfl | old
    · exact peer parity
    · rw [sameParity] at parity
      have before := order.opened other (same.streams ▸ old) parity
      exact ⟨before.1, before.2.trans le⟩
  · intro id old
    exact enters.kept id (same.streams.symm ▸ old)
  · intro other parity above below
    rw [only other parity above below]
    exact enters.entered

/-- Far from the end of the range the IDs do not wrap around, and near it the stream is
refused. -/
theorem PeerOrder.openRemote (flow : FlowControlManager) {put : StreamsMap → Stream → StreamsMap}
    (puts : ∀ (m : StreamsMap) (id : Nat) (mark : Bool),
      m.Enters id (put m (newStreamType id mark))) :
    m.Extends (m.openRemote flow m.nextRemoteStream put).map := by
  obtain ⟨parity, above, near⟩ := order.nextRemoteStream
  have inRange := order.inRange
  refine openRemote_rule (motive := fun m' _ => m.Extends m') order.extends fun _ notSmaller => ?_
  have room : m.nextRemoteStream + maxNewStreamIDDelta < 2 ^ 32 := by
    have delta : maxNewStreamIDDelta = 400 := rfl
    unfold addUint32 at notSmaller
    omega
  obtain ⟨incoming, outgoing, counted⟩ := m.exists_countRemoteStream
  unfold countedRemote
  rw [counted]
  have highest : max m.highestStreamOpenedByPeer m.nextRemoteStream = m.nextRemoteStream :=
    max_eq_right (le_of_lt above)
  rw [highest]
  refine order.enter (puts _ _ _) ⟨rfl, rfl, rfl⟩ order.nextStream (Or.inr parity) room
    (le_of_lt above) (fun _ => ⟨Nat.zero_lt_of_lt above, le_refl _⟩)
    fun other peer higher below => ?_
  change other ≤ m.nextRemoteStream at below
  omega

theorem PeerOrder.openLocal (flow : FlowControlManager)
    (unreliable : Bool) : m.Extends (m.openLocal flow unreliable).map := by
  refine openLocal_rule (motive := fun m' _ => m.Extends m') order.extends fun _ => ?_
  obtain ⟨incoming, outgoing, counted⟩ := m.exists_countLocalStream
  unfold countedLocal
  rw [counted]
  have own := order.nextStream
  have parity := m.localParity_le
  refine order.enter (enters_putStreamType _ _ _ unreliable) ⟨rfl, rfl, rfl⟩ ?_ order.highest
    order.inRange le_rfl (fun peer => by omega)
    fun other _ above below => absurd below (not_le.mpr above)
  change addUint32 m.nextStream 2 % 2 = m.localParity
  unfold addUint32
  omega

theorem PeerOrder.unlessClosed (flow : FlowControlManager) (unreliable : Bool) :
    m.Extends (m.unlessClosed flow (m.openLocal flow unreliable)).map :=
  unlessClosed_rule (motive := fun m' _ => m.Extends m') order.extends
    (order.openLocal flow unreliable)

/-- After a stream was opened, the loop goes on with the next one. -/
theorem nextRemoteStream_of_opened {s : Option Stream}
    (opened : (m.openRemoteStream flow m.nextRemoteStream).outcome = .ok s) :
    addUint32 m.nextRemoteStream 2 =
      (m.openRemoteStream flow m.nextRemoteStream).map.nextRemoteStream := by
  obtain ⟨-, above, -⟩ := order.nextRemoteStream
  have after := order.openRemote flow enters_putStream
  have highest : (m.openRemoteStream flow m.nextRemoteStream).map.highestStreamOpenedByPeer =
      m.nextRemoteStream := by
    unfold openRemoteStream StreamsMap.openRemote at opened ⊢
    split at opened
    · cases opened
    · split at opened
      · cases opened
      · rename_i room notSmaller
        rw [if_neg room, if_neg notSmaller]
        exact (enters_putStream _ _ _).highest.trans (max_eq_right (le_of_lt above))
  have inRange := after.order.inRange
  change (m.openRemoteStream flow m.nextRemoteStream).map.highestStreamOpenedByPeer +
    maxNewStreamIDDelta < 2 ^ 32 at inRange
  rw [highest] at inRange
  have noWrap : addUint32 m.nextRemoteStream 2 = m.nextRemoteStream + 2 :=
    Nat.mod_eq_of_lt (by
      have delta : maxNewStreamIDDelta = 400 := rfl
      omega)
  rw [StreamsMap.nextRemoteStream.eq_def (m.openRemoteStream flow m.nextRemoteStream).map,
    highest, noWrap]
  dsimp only
  rw [if_neg (by omega)]

theorem PeerOrder.getOrOpenStream {id fuel : Nat} {opened : OpenResult}
    (call : m.getOrOpenStream flow id fuel = some opened) : m.Extends opened.map := by
  obtain ⟨-, extended, -⟩ := getOrOpenStream_rule
    (motive := fun sid m' _ => m.Extends m' ∧ sid = m'.nextRemoteStream) (fun round accepted => by
      obtain ⟨extended, rfl⟩ := round
      exact ⟨extended.trans (extended.order.openRemote _ enters_putStream),
        nextRemoteStream_of_opened extended.order accepted⟩) ⟨order.extends, rfl⟩ call
  exact extended

theorem PeerOrder.getOrOpenStreamType (flow : FlowControlManager)
    (id : Nat) (marker : Bool) : m.Extends (m.getOrOpenStreamType flow id marker).map :=
  getOrOpenStreamType_rule (motive := fun m' _ => m.Extends m') order.extends
    (order.openRemote flow fun m id mark => m.enters_putStreamType id mark marker)

end

theorem sendingOnly_extends (m : StreamsMap) : SendingOnly fun m' _ => m.Extends m' where
  opened extended call := extended.trans (extended.order.getOrOpenStream call)
  moved _ _ extended := extended.trans (extended.order.of_names rfl rfl rfl rfl fun _ => rfl)
  sent extended found same := extended.trans (extended.order.setStream found same.streamID)
  counted extended _ := extended

/-! ## Removing streams -/

/-- Finished streams among the given ones were removed, and nothing else happened to the
streams. -/
structure Collects (m : StreamsMap) (ids : List Nat) (m' : StreamsMap) : Prop where
  perspective : m'.perspective = m.perspective
  nextStream : m'.nextStream = m.nextStream
  highest : m'.highestStreamOpenedByPeer = m.highestStreamOpenedByPeer
  nextStreamToAccept : m'.nextStreamToAccept = m.nextStreamToAccept
  streams : ∀ id, m'.streams.lookup id = m.streams.lookup id ∨
    m'.streams.lookup id = none ∧ id ∈ ids ∧
      ∃ s, m.streams.lookup id = some s ∧ s.finished = true

variable {ids ids' : List Nat}

theorem collects_refl (m : StreamsMap) (ids : List Nat) : m.Collects ids m :=
  ⟨rfl, rfl, rfl, rfl, fun _ => Or.inl rfl⟩

theorem Collects.append (first : m.Collects ids m') (second : m'.Collects ids' m'') :
    m.Collects (ids ++ ids') m'' where
  perspective := second.perspective.trans first.perspective
  nextStream := second.nextStream.trans first.nextStream
  highest := second.highest.trans first.highest
  nextStreamToAccept := second.nextStreamToAccept.trans first.nextStreamToAccept
  streams id := by
    rcases second.streams id with same | ⟨gone, mem, s, found, finished⟩
    · rw [same]
      exact (first.streams id).imp_right fun ⟨gone, mem, collected⟩ =>
        ⟨gone, List.mem_append_left _ mem, collected⟩
    · rcases first.streams id with same | ⟨goneBefore, -⟩
      · exact Or.inr ⟨gone, List.mem_append_right _ mem, s, same ▸ found, finished⟩
      · rw [goneBefore] at found
        cases found

theorem collects_collectStream (state : StreamsMap × FlowControlManager) (id : Nat) :
    state.1.Collects [id] (collectStream state id).1 := by
  unfold collectStream
  cases found : state.1.streams.lookup id with
  | none => exact collects_refl _ _
  | some s =>
    dsimp only
    split
    · rename_i finished
      have mem : id ∈ state.1.streams := MapSum.mem_of_lookup found
      unfold removeStream
      rw [if_pos mem]
      refine ⟨rfl, rfl, rfl, rfl, fun other => ?_⟩
      by_cases same : other = id
      · subst same
        exact Or.inr ⟨AList.lookup_erase _ _, List.mem_singleton.mpr rfl, s, found, finished⟩
      · exact Or.inl (AList.lookup_erase_ne same)
    · exact collects_refl _ _

theorem collects_collectStreams (ids : List Nat) (state : StreamsMap × FlowControlManager) :
    state.1.Collects ids (ids.foldl collectStream state).1 := by
  induction ids generalizing state with
  | nil => exact collects_refl _ _
  | cons id ids ih => exact (collects_collectStream state id).append (ih (collectStream state id))

theorem PeerOrder.collects (order : m.PeerOrder) (collects : m.Collects ids m') : m'.PeerOrder :=
  order.of_named collects.perspective collects.nextStream collects.highest fun id s found => by
    rcases collects.streams id with same | ⟨gone, -⟩
    · exact ⟨s, same ▸ found, rfl⟩
    · rw [gone] at found
      cases found

/-! ## The calls of a session -/

/-- A call of the session collects finished streams, or removes none. -/
theorem PeerOrder.step {sender : Sender} (order : sender.streamsMap.PeerOrder) (op : SenderOp) :
    sender.streamsMap.Extends (sender.step op).streamsMap ∨
      op = .garbageCollectStreams ∧
        sender.streamsMap.Collects sender.streamsMap.openStreams
          (sender.step op).streamsMap := by
  cases op with
  | garbageCollectStreams =>
    exact Or.inr ⟨rfl, collects_collectStreams _ (sender.streamsMap, sender.flow)⟩
  | openStream => exact Or.inl (order.unlessClosed sender.flow false)
  | openUnreliableStream => exact Or.inl (order.unlessClosed sender.flow true)
  | getOrOpenStreamType id marker =>
    exact Or.inl (order.getOrOpenStreamType sender.flow id marker)
  | markUnreliable id => exact Or.inl (order.of_names rfl rfl rfl rfl fun _ => rfl)
  | registerRemoteError id err =>
    exact Or.inl (order.modifyStream fun s => (s.keepsSending_registerRemoteError err).streamID)
  | addStreamFrame id frame timeStamp =>
    left
    simp only [Sender.step]
    split
    · exact order.extends
    · rename_i s found
      exact order.setStream found
        (s.keepsSending_addStreamFrame sender.flow frame timeStamp).streamID
  | read id clock length =>
    left
    simp only [Sender.step]
    split
    · exact order.extends
    · rename_i s found
      split
      · exact order.extends
      · rename_i r read
        exact order.setStream found (Stream.keepsSending_read read).streamID
  | closeWithError err => exact Or.inl (order.closeWithError err)
  | _ => exact Or.inl ((sendingOnly_extends _).step rfl order.extends)

end StreamsMap

end MPQuic
