import MPQuic.StreamsMap

/-!
# Rules for the calls of a streams map

A call that opens streams raises a counter and enters a stream, once for a stream of this side
and round by round for those of the peer; a call that changes streams writes them back one at a
time. What each of these steps keeps is kept by the call, whatever the property is about: the
streams, their marks, the counters or the flow controllers.
-/

namespace MPQuic

namespace StreamsMap

section Opening

variable {motive : StreamsMap → FlowControlManager → Prop} {m : StreamsMap}
  {flow : FlowControlManager} {id fuel : Nat} {put : StreamsMap → Stream → StreamsMap}
  {opened : OpenResult}

variable (m)

/-- The map into which a stream of the peer is entered. -/
def countedRemote (id : Nat) : StreamsMap :=
  { m.countRemoteStream with
    highestStreamOpenedByPeer := max m.highestStreamOpenedByPeer id }

/-- The map into which a stream of this side is entered. -/
def countedLocal : StreamsMap :=
  { m.countLocalStream with nextStream := addUint32 m.nextStream 2 }

theorem streams_countedRemote (id : Nat) : (m.countedRemote id).streams = m.streams := by
  unfold countedRemote countRemoteStream
  split <;> rfl

theorem streams_countedLocal : m.countedLocal.streams = m.streams := by
  unfold countedLocal countLocalStream
  split <;> rfl

/-- The mark does not matter for which streams there are. -/
theorem streams_putStreamType (s : Stream) (marker : Bool) :
    (m.putStreamType s marker).streams = (m.putStream s).streams := by
  unfold putStreamType putStream
  split <;> rfl

variable {m}

theorem openRemote_rule (refused : motive m flow)
    (entered : m.numIncomingStreams < getMaxIncomingStreams →
      m.highestStreamOpenedByPeer ≤ addUint32 id maxNewStreamIDDelta →
      motive (put (m.countedRemote id) ((m.countedRemote id).newStream flow id).2)
        ((m.countedRemote id).newStream flow id).1) :
    motive (m.openRemote flow id put).map (m.openRemote flow id put).flow := by
  unfold openRemote
  split
  · exact refused
  · rename_i room
    split
    · exact refused
    · rename_i near
      exact entered (not_le.mp room) (not_lt.mp near)

theorem openLocal_rule {unreliable : Bool} (refused : motive m flow)
    (entered : m.numOutgoingStreams < flow.connectionParameters.getMaxOutgoingStreams →
      motive
        (m.countedLocal.putStreamType (m.countedLocal.newStream flow m.nextStream).2 unreliable)
        (m.countedLocal.newStream flow m.nextStream).1) :
    motive (m.openLocal flow unreliable).map (m.openLocal flow unreliable).flow := by
  unfold openLocal
  split
  · exact refused
  · rename_i room
    exact entered (not_le.mp room)

theorem unlessClosed_rule (closed : motive m flow) (after : motive opened.map opened.flow) :
    motive (m.unlessClosed flow opened).map (m.unlessClosed flow opened).flow := by
  unfold unlessClosed
  split
  · exact closed
  · exact after

/-- A stream that is refused changes nothing. -/
theorem openRemote_error {err : StreamsMapError}
    (refused : (m.openRemote flow id put).outcome = .error err) :
    (m.openRemote flow id put).map = m ∧ (m.openRemote flow id put).flow = flow := by
  unfold openRemote at refused ⊢
  split at refused
  · rename_i full
    rw [if_pos full]
    exact ⟨rfl, rfl⟩
  · rename_i room
    split at refused
    · rename_i small
      rw [if_neg room, if_pos small]
      exact ⟨rfl, rfl⟩
    · cases refused

section Rounds

variable {motive : Nat → StreamsMap → FlowControlManager → Prop}
  (round : ∀ {sid : Nat} {m : StreamsMap} {flow : FlowControlManager} {s : Option Stream},
    motive sid m flow → (m.openRemoteStream flow sid).outcome = .ok s →
    motive (addUint32 sid 2) (m.openRemoteStream flow sid).map (m.openRemoteStream flow sid).flow)

include round

/-- The loop of `GetOrOpenStream` keeps what each of its rounds keeps. The property may speak of
the ID that comes next. -/
theorem openUpTo_rule (fuel : Nat) :
    ∀ {sid : Nat} {m : StreamsMap} {flow : FlowControlManager} {opened : OpenResult},
      motive sid m flow → openUpTo id fuel sid m flow = some opened →
      ∃ sid', motive sid' opened.map opened.flow := by
  induction fuel with
  | zero =>
    intro sid m flow opened _ loop
    cases loop
  | succ fuel ih =>
    intro sid m flow opened start loop
    simp only [openUpTo] at loop
    split at loop
    · split at loop
      · rename_i err refused
        obtain ⟨sameMap, sameFlow⟩ := openRemote_error refused
        cases loop
        refine ⟨sid, ?_⟩
        rw [openRemoteStream, sameMap, sameFlow]
        exact start
      · rename_i s accepted
        exact ih (round start accepted) loop
    · cases loop
      exact ⟨sid, start⟩

theorem getOrOpenStream_rule {opened : OpenResult} (start : motive m.nextRemoteStream m flow)
    (call : m.getOrOpenStream flow id fuel = some opened) :
    ∃ sid, motive sid opened.map opened.flow := by
  unfold getOrOpenStream at call
  split at call
  · cases call
    exact ⟨_, start⟩
  · split at call
    · cases call
      exact ⟨_, start⟩
    · exact openUpTo_rule round fuel start call

end Rounds

theorem getOrOpenStreamType_rule {marker : Bool} (settled : motive m flow)
    (entered : motive (m.openRemoteStreamType flow m.nextRemoteStream marker).map
      (m.openRemoteStreamType flow m.nextRemoteStream marker).flow) :
    motive (m.getOrOpenStreamType flow id marker).map
      (m.getOrOpenStreamType flow id marker).flow := by
  simp only [getOrOpenStreamType]
  split
  · exact settled
  · split
    · exact settled
    · split <;> exact entered

/-- The property is kept when a counter is raised and when a stream is entered as the peer opens
it. -/
structure OpeningKeeps (motive : StreamsMap → FlowControlManager → Prop) : Prop where
  counted : ∀ {m m' : StreamsMap} {flow : FlowControlManager}, motive m flow →
    m'.streams = m.streams → m'.unreliableStreamMark = m.unreliableStreamMark → motive m' flow
  entered : ∀ {m : StreamsMap} {flow : FlowControlManager} (id : Nat), motive m flow →
    motive (m.putStream (m.newStream flow id).2) (m.newStream flow id).1

/-- And when it is entered with a mark. -/
structure TypedKeeps (motive : StreamsMap → FlowControlManager → Prop) : Prop
    extends OpeningKeeps motive where
  typed : ∀ {m : StreamsMap} {flow : FlowControlManager} (id : Nat) (marker : Bool),
    motive m flow → motive (m.putStreamType (m.newStream flow id).2 marker) (m.newStream flow id).1

theorem OpeningKeeps.countedRemote (keeps : OpeningKeeps motive) (start : motive m flow)
    (id : Nat) : motive (m.countedRemote id) flow := by
  refine keeps.counted start (m.streams_countedRemote id) ?_
  unfold StreamsMap.countedRemote countRemoteStream
  split <;> rfl

theorem OpeningKeeps.countedLocal (keeps : OpeningKeeps motive) (start : motive m flow) :
    motive m.countedLocal flow := by
  refine keeps.counted start m.streams_countedLocal ?_
  unfold StreamsMap.countedLocal countLocalStream
  split <;> rfl

theorem OpeningKeeps.getOrOpenStream (keeps : OpeningKeeps motive) (start : motive m flow)
    (call : m.getOrOpenStream flow id fuel = some opened) : motive opened.map opened.flow := by
  obtain ⟨-, kept⟩ := getOrOpenStream_rule (motive := fun _ => motive) (fun {sid} _ _ _ kept _ =>
    openRemote_rule kept fun _ _ => keeps.entered sid (keeps.countedRemote kept sid)) start call
  exact kept

theorem TypedKeeps.getOrOpenStreamType (keeps : TypedKeeps motive) (start : motive m flow)
    (id : Nat) (marker : Bool) :
    motive (m.getOrOpenStreamType flow id marker).map
      (m.getOrOpenStreamType flow id marker).flow :=
  getOrOpenStreamType_rule start
    (openRemote_rule start fun _ _ => keeps.typed _ marker (keeps.countedRemote start _))

theorem TypedKeeps.openLocal (keeps : TypedKeeps motive) (start : motive m flow)
    (unreliable : Bool) :
    motive (m.unlessClosed flow (m.openLocal flow unreliable)).map
      (m.unlessClosed flow (m.openLocal flow unreliable)).flow :=
  unlessClosed_rule start
    (openLocal_rule start fun _ => keeps.typed _ unreliable (keeps.countedLocal start))

/-- For a property of the streams and the flow controllers the mark does not matter. -/
theorem typedKeeps (same : ∀ {m m' : StreamsMap} {flow : FlowControlManager}, motive m flow →
      m'.streams = m.streams → motive m' flow)
    (entered : ∀ {m : StreamsMap} {flow : FlowControlManager} (id : Nat), motive m flow →
      motive (m.putStream (m.newStream flow id).2) (m.newStream flow id).1) :
    TypedKeeps motive where
  counted start streams _ := same start streams
  entered := entered
  typed id marker start := same (entered id start) (streams_putStreamType _ _ marker)

end Opening

section Changing

variable {motive : StreamsMap → Prop} {m : StreamsMap} {id : Nat} {change : Stream → Stream}

theorem modifyStream_rule (absent : motive m)
    (written : ∀ s, m.streams.lookup id = some s → motive (m.setStream id (change s))) :
    motive (m.modifyStream id change) := by
  unfold modifyStream
  split
  · exact absent
  · rename_i s opened
    exact written s opened

theorem closeWithError_rule {err : StreamError} (closed : motive { m with closeErr := some err })
    (cancelled : ∀ {m : StreamsMap} {id : Nat} {s : Stream}, motive m →
      m.streams.lookup id = some s → motive (m.setStream id (s.cancel err))) :
    motive (m.closeWithError err) := by
  unfold closeWithError
  refine List.foldlRecOn m.openStreams _ closed fun m' keeps id _ => ?_
  exact modifyStream_rule keeps fun s opened => cancelled keeps opened

end Changing

end StreamsMap

end MPQuic
