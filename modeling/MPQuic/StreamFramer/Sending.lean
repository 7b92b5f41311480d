import MPQuic.Lib.Runs
import MPQuic.StreamFramer.ExactFill
import MPQuic.StreamsMap.Rules
import MPQuic.Stream.Writing

/-!
# What a session sends on its streams

A session opens streams, writes to them and packs their data, in any order. `Sender` is the
part of the session that takes part in this, with a record of the new STREAM frames of every
stream since it was opened. In every run in which no call overwrites a frame, the frames of each
stream are contiguous, and only the last one has the fin bit (`Sender.valid_run`).

The record starts again when an ID is opened. A frame that waits for its retransmission is not
a new frame and is not recorded.
-/

namespace MPQuic

open StreamFramer Segments List StreamsMap

/-! ## The session -/

variable {change : Stream → Stream}

/-- The parts of a session that send stream data. -/
structure Sender where
  streamsMap : StreamsMap
  flow : FlowControlManager
  framer : StreamFramer
  /-- the new frames of each stream; the source keeps no such record -/
  sent : Nat → List StreamFrame

/-- The calls of a session on its streams. -/
inductive SenderOp where
  | openStream
  | openUnreliableStream
  | getOrOpenStream (id fuel : Nat)
  | getOrOpenStreamType (id : Nat) (marker : Bool)
  /-- the unpacker saw the marker of a STREAM frame -/
  | markUnreliable (id : Nat)
  | write (id : Nat) (p : List UInt8)
  | close (id : Nat)
  | reset (id : Nat) (err : StreamError)
  | registerRemoteError (id : Nat) (err : StreamError)
  | addStreamFrame (id : Nat) (frame : StreamFrame) (timeStamp : Int)
  | read (id : Nat) (clock : Nat → FlowEnv) (length : Nat)
  | closeWithError (err : StreamError)
  | garbageCollectStreams
  | updateWindow (id offset : Nat)
  /-- the handshake changed the connection parameters -/
  | negotiate (params : ConnectionParametersManager)
  | addFrameForRetransmission (frame : StreamFrame)
  | popBlockedFrame
  | popFramesForRetransmission (maxLen : Nat)
  | popNormalFrames (maxBytes : Nat) (sendingAllowed : Bool)
  | popStreamFrames2 (maxLen : Nat) (sendingAllowed : Bool)
  | popCryptoStreamFrame (maxLen : Nat)

/-- `garbageCollectStreams` of the session, for one stream. -/
def collectStream (state : StreamsMap × FlowControlManager) (id : Nat) :
    StreamsMap × FlowControlManager :=
  match state.1.streams.lookup id with
  | none => state
  | some s =>
    if s.finished then ((state.1.removeStream id).1, state.2.removeStream id) else state

namespace Sender

variable (sender : Sender)

/-- The record after a call that left the streams map `m` and returned new frames. -/
def record (m : StreamsMap) (frames : List StreamFrame) (id : Nat) : List StreamFrame :=
  (if id ∈ sender.streamsMap.streams ∨ id ∉ m.streams then sender.sent id else []) ++
    frames.filter fun frame => frame.streamID = id

/-- The session after a call. -/
def after (m : StreamsMap) (flow : FlowControlManager) (frames : List StreamFrame) : Sender :=
  { sender with streamsMap := m, flow, sent := sender.record m frames }

/-- The session after new frames were popped. -/
def afterPop (popped : NormalPop) : Sender :=
  { sender.after popped.map popped.flow popped.res with framer := popped.framer }

/-- A call on one stream. -/
def onStream (id : Nat) (change : Stream → Stream) : Sender :=
  sender.after (sender.streamsMap.modifyStream id change) sender.flow []

/-- The session after a call. -/
def step : SenderOp → Sender
  | .openStream =>
    let opened := sender.streamsMap.openStream sender.flow
    sender.after opened.map opened.flow []
  | .openUnreliableStream =>
    let opened := sender.streamsMap.openUnreliableStream sender.flow
    sender.after opened.map opened.flow []
  | .getOrOpenStream id fuel =>
    match sender.streamsMap.getOrOpenStream sender.flow id fuel with
    | none => sender
    | some opened => sender.after opened.map opened.flow []
  | .getOrOpenStreamType id marker =>
    let opened := sender.streamsMap.getOrOpenStreamType sender.flow id marker
    sender.after opened.map opened.flow []
  | .markUnreliable id =>
    sender.after
      { sender.streamsMap with
        unreliableStreamMark := sender.streamsMap.unreliableStreamMark.insert id true }
      sender.flow []
  | .write id p => sender.onStream id fun s => (s.write p).1
  | .close id => sender.onStream id Stream.close
  | .reset id err => sender.onStream id fun s => (s.reset err).1
  | .registerRemoteError id err => sender.onStream id fun s => (s.registerRemoteError err).1
  | .addStreamFrame id frame timeStamp =>
    match sender.streamsMap.streams.lookup id with
    | none => sender
    | some s =>
      let added := s.addStreamFrame sender.flow frame timeStamp
      sender.after (sender.streamsMap.setStream id added.1) added.2.1 []
  | .read id clock length =>
    match sender.streamsMap.streams.lookup id with
    | none => sender
    | some s =>
      match s.read sender.flow clock length with
      | .error _ => sender
      | .ok r => sender.after (sender.streamsMap.setStream id r.stream) r.flow []
  | .closeWithError err => sender.after (sender.streamsMap.closeWithError err) sender.flow []
  | .garbageCollectStreams =>
    let collected := sender.streamsMap.openStreams.foldl collectStream
      (sender.streamsMap, sender.flow)
    sender.after collected.1 collected.2 []
  | .updateWindow id offset => { sender with flow := sender.flow.updateWindow id offset }
  | .negotiate params =>
    { sender with flow := { sender.flow with connectionParameters := params } }
  | .addFrameForRetransmission frame =>
    { sender with framer := sender.framer.addFrameForRetransmission frame }
  | .popBlockedFrame => { sender with framer := sender.framer.popBlockedFrame.1 }
  | .popFramesForRetransmission maxLen =>
    let popped := sender.framer.maybePopFramesForRetransmission sender.flow maxLen
    { sender with framer := popped.1, flow := popped.2.flow }
  | .popNormalFrames maxBytes sendingAllowed =>
    let popped := sender.framer.maybePopNormalFrames sender.streamsMap sender.flow maxBytes
      sendingAllowed
    sender.afterPop popped
  | .popStreamFrames2 maxLen sendingAllowed =>
    let popped := sender.framer.popStreamFrames2 sender.streamsMap sender.flow maxLen
      sendingAllowed
    sender.afterPop popped.1
  | .popCryptoStreamFrame maxLen =>
    match popCryptoStreamFrame sender.streamsMap sender.flow maxLen with
    | .error _ => sender
    | .ok popped => sender.after popped.map popped.flow popped.frame.toList

end Sender

/-- A session before its first stream. -/
def newSender (pers : Perspective) (flow : FlowControlManager) : Sender where
  streamsMap := newStreamsMap pers
  flow
  framer := {}
  sent := fun _ => []

def Sender.run (pers : Perspective) (flow : FlowControlManager) (ops : List SenderOp) : Sender :=
  ops.foldl Sender.step (newSender pers flow)

/-- No frame of the call is overwritten. -/
def SenderOp.Safe (sender : Sender) : SenderOp → Prop
  | .popNormalFrames maxBytes sendingAllowed =>
    ¬Overwrites sender.streamsMap sender.flow maxBytes sendingAllowed
  | .popStreamFrames2 maxLen sendingAllowed =>
    let retransmissions := sender.framer.maybePopFramesForRetransmission sender.flow maxLen
    ¬Overwrites sender.streamsMap retransmissions.2.flow
      (maxLen - retransmissions.2.currentLen) sendingAllowed
  | _ => True

/-- The new frames of a stream follow one another without a gap, and only the last frame of all
has the fin bit. -/
structure FramesInOrder (frames : List StreamFrame) : Prop where
  contiguous : Contiguous (2 ^ 64) (frames.map StreamFrame.segment)
  endsOnce : EndsOnce (frames.map StreamFrame.segment)

/-- Then they do not overlap, on a stream within the range of the offsets. -/
theorem FramesInOrder.pairwise {frames : List StreamFrame} (order : FramesInOrder frames)
    (short : (content (frames.map StreamFrame.segment)).length < 2 ^ 64) :
    frames.Pairwise fun a b => a.offset + a.data.length ≤ b.offset :=
  pairwise_map.mp (order.contiguous.pairwise short)

/-! ## Calls that send nothing -/

section Quiet

variable {streams streams' streams'' : AList fun _ : Nat => Stream} {m : StreamsMap} {id : Nat}
  {s : Stream}
  {flow : FlowControlManager} {fuel : Nat} {opened : OpenResult}

/-- Streams are changed without sending, or removed. -/
def Keeps (streams streams' : AList fun _ : Nat => Stream) : Prop :=
  ∀ id s', streams'.lookup id = some s' →
    ∃ s : Stream, streams.lookup id = some s ∧ s.KeepsSending s'

theorem Keeps.refl (streams : AList fun _ : Nat => Stream) : Keeps streams streams :=
  fun _ s opened => ⟨s, opened, .refl s⟩

theorem Keeps.trans (first : Keeps streams streams') (second : Keeps streams' streams'') :
    Keeps streams streams'' := by
  intro id s'' opened
  obtain ⟨s', opened', keeps'⟩ := second id s'' opened
  obtain ⟨s, opened, keeps⟩ := first id s' opened'
  exact ⟨s, opened, keeps.trans keeps'⟩

theorem keeps_setStream {s' : Stream} (opened : m.streams.lookup id = some s)
    (keeps : s.KeepsSending s') : Keeps m.streams (m.setStream id s').streams := by
  intro other after openedAfter
  rcases lookup_of_setStream openedAfter with ⟨rfl, rfl⟩ | ⟨-, old⟩
  · exact ⟨s, opened, keeps⟩
  · exact ⟨after, old, .refl after⟩

theorem keeps_modifyStream (keeps : ∀ s : Stream, s.KeepsSending (change s)) (m : StreamsMap)
    (id : Nat) : Keeps m.streams (m.modifyStream id change).streams :=
  modifyStream_rule (motive := fun m' => Keeps m.streams m'.streams) (.refl _)
    fun s opened => keeps_setStream opened (keeps s)

variable (m)

theorem keeps_closeWithError (err : StreamError) : Keeps m.streams (m.closeWithError err).streams :=
  closeWithError_rule (motive := fun m' => Keeps m.streams m'.streams) (.refl _)
    fun {_ _ s} keeps opened => keeps.trans (keeps_setStream opened (s.keepsSending_cancel err))

theorem keeps_removeStream (id : Nat) : Keeps m.streams (m.removeStream id).1.streams := by
  unfold removeStream
  split
  · exact fun other s opened => ⟨s, (MapSum.lookup_of_erase opened).2, .refl s⟩
  · exact .refl _

/-- Collecting streams keeps what removing one keeps. -/
theorem collectStreams_rule {motive : StreamsMap → FlowControlManager → Prop}
    (removed : ∀ {m : StreamsMap} {flow : FlowControlManager} (id : Nat), motive m flow →
      motive (m.removeStream id).1 (flow.removeStream id)) (ids : List Nat) :
    ∀ {state : StreamsMap × FlowControlManager}, motive state.1 state.2 →
      motive (ids.foldl collectStream state).1 (ids.foldl collectStream state).2 := by
  induction ids with
  | nil => exact fun keeps => keeps
  | cons id ids ih =>
    intro state keeps
    apply ih
    unfold collectStream
    split
    · exact keeps
    · split
      · exact removed id keeps
      · exact keeps

theorem keeps_collectStreams (ids : List Nat) (state : StreamsMap × FlowControlManager) :
    Keeps state.1.streams (ids.foldl collectStream state).1.streams :=
  collectStreams_rule (motive := fun m _ => Keeps state.1.streams m.streams)
    (fun id keeps => keeps.trans (keeps_removeStream _ id)) ids (.refl _)

/-- Streams are opened, and the others stay as they are. -/
structure Opens (streams streams' : AList fun _ : Nat => Stream) : Prop where
  kept : ∀ id s, streams.lookup id = some s → streams'.lookup id = some s
  opened : ∀ id s, streams'.lookup id = some s → streams.lookup id = some s ∨
    streams.lookup id = none ∧ s.streamID = id ∧ s.writeOffset = 0 ∧ s.finSent = false

theorem Opens.refl (streams : AList fun _ : Nat => Stream) : Opens streams streams :=
  ⟨fun _ _ opened => opened, fun _ _ opened => Or.inl opened⟩

theorem Opens.trans (first : Opens streams streams') (second : Opens streams' streams'') :
    Opens streams streams'' := by
  constructor
  · exact fun id s opened => second.kept id s (first.kept id s opened)
  · intro id s opened
    rcases second.opened id s opened with old | ⟨missing, new⟩
    · exact first.opened id s old
    · cases before : streams.lookup id with
      | none => exact Or.inr ⟨rfl, new⟩
      | some old =>
        rw [first.kept id old before] at missing
        cases missing

theorem opens_putStream (id : Nat) (unreliable : Bool) :
    Opens m.streams (m.putStream (newStreamType id unreliable)).streams := by
  unfold putStream
  split
  · exact .refl _
  · rename_i unused
    have missing : m.streams.lookup id = none := AList.lookup_eq_none.mpr unused
    constructor
    · intro other s opened
      have differ : other ≠ id := by
        rintro rfl
        rw [missing] at opened
        cases opened
      exact (AList.lookup_insert_ne differ).trans opened
    · intro other s opened
      rcases MapSum.lookup_of_insert opened with ⟨rfl, rfl⟩ | ⟨-, old⟩
      · exact Or.inr ⟨missing, rfl, rfl, rfl⟩
      · exact Or.inl old

variable {m}

theorem opens_typedKeeps (streams : AList fun _ : Nat => Stream) :
    TypedKeeps fun m _ => Opens streams m.streams :=
  typedKeeps (fun opens same => same ▸ opens) fun id opens =>
    opens.trans (opens_putStream _ id _)

theorem opens_getOrOpenStream (call : m.getOrOpenStream flow id fuel = some opened) :
    Opens m.streams opened.map.streams :=
  (opens_typedKeeps m.streams).getOrOpenStream (.refl _) call

theorem lookup_of_openUpTo {id : Nat} :
    ∀ (fuel sid : Nat) (m : StreamsMap) (flow : FlowControlManager)
      (opened : OpenResult) (stream : Option Stream),
      openUpTo id fuel sid m flow = some opened → opened.outcome = .ok stream →
      opened.map.streams.lookup id = stream := by
  intro fuel
  induction fuel with
  | zero =>
    intro sid m flow opened stream loop
    cases loop
  | succ fuel ih =>
    intro sid m flow opened stream loop outcome
    simp only [openUpTo] at loop
    split at loop
    · split at loop
      · cases loop
        cases outcome
      · exact ih _ _ _ _ _ loop outcome
    · cases loop
      cases outcome
      rfl

/-- A stream that `GetOrOpenStream` returns is in the map. -/
theorem lookup_of_getOrOpenStream (call : m.getOrOpenStream flow id fuel = some opened)
    (outcome : opened.outcome = .ok (some s)) : opened.map.streams.lookup id = some s := by
  unfold getOrOpenStream at call
  split at call
  · rename_i found
    cases call
    cases outcome
    exact found
  · split at call
    · rename_i answer settled
      cases call
      have answered : answer = .ok (some s) := outcome
      rw [answered] at settled
      simp only [alreadySettled] at settled
      split_ifs at settled <;> cases settled
    · exact lookup_of_openUpTo fuel _ m flow opened _ call outcome

end Quiet

/-! ## The invariant -/

namespace Sender

variable {flow' : FlowControlManager} (pers : Perspective)

/-- What holds after every call. -/
structure Valid (sender : Sender) : Prop where
  named : ∀ id s, sender.streamsMap.streams.lookup id = some s → s.streamID = id
  inOrder : ∀ id s, sender.streamsMap.streams.lookup id = some s → s.InOrder (sender.sent id)
  recorded : ∀ id, FramesInOrder (sender.sent id)

variable {sender : Sender} {m : StreamsMap} {flow : FlowControlManager}
  {frames : List StreamFrame}

theorem Valid.proper (valid : sender.Valid) : sender.streamsMap.Proper := by
  intro id s opened
  refine ⟨valid.named id s opened, ?_⟩
  rw [(valid.inOrder id s opened).writeOffset]
  exact Nat.mod_lt _ (by decide)

theorem record_of_open {id : Nat} {s : Stream}
    (opened : sender.streamsMap.streams.lookup id = some s) :
    sender.record m frames id =
      sender.sent id ++ frames.filter fun frame => frame.streamID = id := by
  have mem : id ∈ sender.streamsMap.streams := MapSum.mem_of_lookup opened
  rw [record, if_pos (Or.inl mem)]

section

variable (valid : sender.Valid)

include valid

/-- A stream that is open afterwards decides what is recorded of it. -/
theorem Valid.of_streams (known : ∀ frame ∈ frames, frame.streamID ∈ sender.streamsMap.streams)
    (still : frames ≠ [] → ∀ id ∈ sender.streamsMap.streams, id ∈ m.streams)
    (streams : ∀ id s, m.streams.lookup id = some s →
      s.streamID = id ∧ s.InOrder (sender.record m frames id)) :
    (sender.after m flow frames).Valid := by
  refine ⟨fun id s opened => (streams id s opened).1, fun id s opened => (streams id s opened).2,
    ?_⟩
  intro id
  cases opened : m.streams.lookup id with
  | some s => exact ⟨(streams id s opened).2.contiguous, (streams id s opened).2.endsOnce⟩
  | none =>
    -- the record of a closed stream stays as it is
    have closed : id ∉ m.streams := AList.lookup_eq_none.mp opened
    have silent : (frames.filter fun frame => frame.streamID = id) = [] := by
      rw [filter_eq_nil_iff]
      intro frame mem named
      refine closed (still (ne_nil_of_mem mem) id ?_)
      rw [← of_decide_eq_true named]
      exact known frame mem
    have same : sender.record m frames id = sender.sent id := by
      rw [record, if_pos (Or.inr closed), silent, append_nil]
    change FramesInOrder (sender.record m frames id)
    rw [same]
    exact valid.recorded id

theorem Valid.keeps (keeps : Keeps sender.streamsMap.streams m.streams) :
    (sender.after m flow []).Valid := by
  refine valid.of_streams (forall_mem_nil _) (fun ne => absurd rfl ne) ?_
  intro id s' opened
  obtain ⟨s, before, keepsSending⟩ := keeps id s' opened
  rw [record_of_open before, filter_nil, append_nil]
  exact ⟨keepsSending.streamID.trans (valid.named id s before),
    (valid.inOrder id s before).keeps keepsSending⟩

theorem Valid.opens (opens : Opens sender.streamsMap.streams m.streams) :
    (sender.after m flow []).Valid := by
  refine valid.of_streams (forall_mem_nil _) (fun ne => absurd rfl ne) ?_
  intro id s opened
  rcases opens.opened id s opened with before | ⟨missing, named, writeOffset, finSent⟩
  · rw [record_of_open before, filter_nil, append_nil]
    exact ⟨valid.named id s before, valid.inOrder id s before⟩
  · have notBefore : id ∉ sender.streamsMap.streams := AList.lookup_eq_none.mp missing
    have now : id ∈ m.streams := MapSum.mem_of_lookup opened
    have empty : sender.record m [] id = [] := by
      rw [record, if_neg (not_or.mpr ⟨notBefore, not_not_intro now⟩)]
      rfl
    rw [empty]
    exact ⟨named, .of_new writeOffset finSent⟩

/-- Faithful frames continue the streams. -/
theorem Valid.faithful (flow : FlowControlManager)
    (faithful : Faithful sender.streamsMap frames m) : (sender.after m flow frames).Valid := by
  refine valid.of_streams faithful.known ?_ ?_
  · intro _ id mem
    obtain ⟨s, opened⟩ := MapSum.exists_lookup mem
    obtain ⟨s', after, -⟩ := faithful.streams id s opened
    exact MapSum.mem_of_lookup after
  · intro id s' opened
    cases before : sender.streamsMap.streams.lookup id with
    | none =>
      rw [faithful.missing id before] at opened
      cases opened
    | some s =>
      obtain ⟨after, openedAfter, takes⟩ := faithful.streams id s before
      obtain rfl : s' = after := Option.some.inj (opened.symm.trans openedAfter)
      rw [record_of_open before]
      exact ⟨takes.streamID_eq.trans (valid.named id s before),
        (valid.inOrder id s before).takesAll takes⟩

end

/-! ### The crypto stream -/

/-- The record of a call that opens streams first and then sends on them. -/
theorem after_after (m : StreamsMap) (flow : FlowControlManager) {m' : StreamsMap}
    (same : ∀ id, id ∈ m'.streams ↔ id ∈ m.streams) :
    (sender.after m flow []).after m' flow' frames = sender.after m' flow' frames := by
  have sent : (sender.after m flow []).record m' frames = sender.record m' frames := by
    funext id
    have open' : id ∈ m.streams ∨ id ∉ m'.streams := by
      rw [same]
      exact em _
    have inner : (sender.after m flow []).sent id =
        if id ∈ sender.streamsMap.streams ∨ id ∉ m'.streams then sender.sent id else [] := by
      simp only [same]
      exact append_nil _
    rw [record, record, ← inner]
    exact congrArg (· ++ _) (if_pos open')
  rw [after, sent]
  rfl

/-- A frame that takes buffered data of one stream, even if it takes none. -/
theorem Valid.getDataForWriting {id n : Nat} {s : Stream} {frame : StreamFrame}
    (valid : sender.Valid) (opened : sender.streamsMap.streams.lookup id = some s)
    (buffered : s.lenOfDataForWriting ≠ 0) (streamID : frame.streamID = id)
    (offset : frame.offset = s.writeOffset) (finBit : frame.finBit = false)
    (data : frame.data = (s.getDataForWriting n).2.getD []) :
    (sender.after (sender.streamsMap.setStream id (s.getDataForWriting n).1) flow [frame]).Valid
    := by
  have known : id ∈ sender.streamsMap.streams :=
    MapSum.mem_of_lookup opened
  obtain ⟨buffer, waiting, -⟩ := Stream.exists_data_of_lenOfDataForWriting buffered
  obtain ⟨rest, -, popped⟩ :=
    Stream.getDataForWriting_eq (Stream.err_of_lenOfDataForWriting buffered) waiting n
  have order := valid.inOrder id s opened
  have unfinished : s.finSent = false := by
    by_contra ended
    have empty := (order.closed (Bool.not_eq_false _ ▸ ended)).2
    rw [waiting] at empty
    cases empty
  refine valid.of_streams ?_ ?_ ?_
  · intro f mem
    rw [mem_singleton.mp mem, streamID]
    exact known
  · exact fun _ other mem => mem_setStream.mpr mem
  · intro other s' openedAfter
    by_cases same : other = id
    · subst same
      rw [lookup_setStream_self opened, popped] at openedAfter
      have listed : ([frame].filter fun f => f.streamID = other) = [frame] := by simp [streamID]
      rw [record_of_open opened, listed]
      cases openedAfter
      refine ⟨valid.named _ s opened, order.snoc offset unfinished ?_ ?_ ?_⟩
      · rw [data, popped]
        rfl
      · intro ended
        rw [finBit] at ended
        cases ended
      · intro ended
        exact absurd (unfinished.symm.trans ended) Bool.false_ne_true
    · rw [lookup_setStream_of_ne same] at openedAfter
      have skipped : ([frame].filter fun f => f.streamID = other) = [] := by
        simp [streamID, Ne.symm same]
      rw [record_of_open openedAfter, skipped, append_nil]
      exact ⟨valid.named other s' openedAfter, valid.inOrder other s' openedAfter⟩

theorem lookup_of_cryptoStream {cs : Stream}
    (call : cryptoStream sender.streamsMap sender.flow = .ok (m, flow', cs)) :
    m.streams.lookup 1 = some cs ∧ Opens sender.streamsMap.streams m.streams := by
  have found := getOrOpenStream_of_cryptoStream call
  exact ⟨lookup_of_getOrOpenStream found rfl, opens_getOrOpenStream found⟩

section

variable (valid : sender.Valid)

include valid

theorem Valid.popCryptoStreamFrame {maxLen : Nat} {popped : CryptoPop}
    (call : StreamFramer.popCryptoStreamFrame sender.streamsMap sender.flow maxLen = .ok popped) :
    (sender.after popped.map popped.flow popped.frame.toList).Valid := by
  obtain ⟨m, flow, cs, crypto, taken⟩ := popCryptoStreamFrame_cases call
  obtain ⟨opened, opens⟩ := lookup_of_cryptoStream crypto
  have valid' : (sender.after m flow []).Valid := valid.opens opens
  rcases taken with rfl | ⟨_, _, rfl, rfl, buffered, rfl⟩
  · exact valid'
  · simp only [Option.toList_some]
    rw [← after_after m flow fun id => mem_setStream]
    exact valid'.getDataForWriting opened buffered rfl rfl rfl rfl

/-! ### Steps and runs -/

theorem Valid.onStream (id : Nat) (keeps : ∀ s : Stream, s.KeepsSending (change s)) :
    (sender.onStream id change).Valid :=
  valid.keeps (keeps_modifyStream keeps sender.streamsMap id)

/-- Nothing about the streams changes. -/
theorem Valid.of_same {sender' : Sender} (streamsMap : sender'.streamsMap = sender.streamsMap)
    (sent : sender'.sent = sender.sent) : sender'.Valid := by
  obtain ⟨named, inOrder, recorded⟩ := valid
  refine ⟨?_, ?_, ?_⟩
  · rw [streamsMap]
    exact named
  · rw [streamsMap, sent]
    exact inOrder
  · rw [sent]
    exact recorded

theorem Valid.afterPop {popped : NormalPop} (faithful : FaithfulPop sender.streamsMap popped) :
    (sender.afterPop popped).Valid :=
  Valid.of_same (valid.faithful popped.flow faithful.1) rfl rfl

theorem Valid.step {op : SenderOp} (safe : op.Safe sender) : (sender.step op).Valid := by
  cases op with
  | openStream => exact valid.opens ((opens_typedKeeps _).openLocal (.refl _) false)
  | openUnreliableStream => exact valid.opens ((opens_typedKeeps _).openLocal (.refl _) true)
  | getOrOpenStream id fuel =>
    simp only [Sender.step]
    split
    · exact valid
    · rename_i opened call
      exact valid.opens (opens_getOrOpenStream call)
  | getOrOpenStreamType id marker =>
    exact valid.opens ((opens_typedKeeps _).getOrOpenStreamType (.refl _) id marker)
  | markUnreliable id => exact valid.keeps (.refl _)
  | write id p => exact valid.onStream id fun s => s.keepsSending_write p
  | close id => exact valid.onStream id fun s => s.keepsSending_close
  | reset id err => exact valid.onStream id fun s => s.keepsSending_reset err
  | registerRemoteError id err =>
    exact valid.onStream id fun s => s.keepsSending_registerRemoteError err
  | addStreamFrame id frame timeStamp =>
    simp only [Sender.step]
    split
    · exact valid
    · rename_i s opened
      exact valid.keeps (keeps_setStream opened (s.keepsSending_addStreamFrame _ frame timeStamp))
  | read id clock length =>
    simp only [Sender.step]
    split
    · exact valid
    · rename_i s opened
      split
      · exact valid
      · rename_i r read
        exact valid.keeps (keeps_setStream opened (Stream.keepsSending_read read))
  | closeWithError err => exact valid.keeps (keeps_closeWithError _ err)
  | garbageCollectStreams =>
    exact valid.keeps (keeps_collectStreams sender.streamsMap.openStreams _)
  | popNormalFrames maxBytes sendingAllowed =>
    exact valid.afterPop
      ((maybePopNormalFrames_faithful_iff _ _ _ _ valid.proper).mpr safe)
  | popStreamFrames2 maxLen sendingAllowed =>
    exact valid.afterPop
      ((maybePopNormalFrames_faithful_iff _ _ _ _ valid.proper).mpr safe)
  | popCryptoStreamFrame maxLen =>
    simp only [Sender.step]
    split
    · exact valid
    · rename_i popped call
      exact valid.popCryptoStreamFrame call
  | _ => exact valid.of_same rfl rfl

end

theorem valid_newSender (flow : FlowControlManager) : (newSender pers flow).Valid := by
  refine ⟨?_, ?_, fun _ => ⟨contiguous_nil _, endsOnce_nil⟩⟩
  · intro id s opened
    cases opened
  · intro id s opened
    cases opened

theorem valid_run (flow : FlowControlManager) (ops : List SenderOp)
    (safe : ∀ front op back, ops = front ++ op :: back → op.Safe (run pers flow front)) :
    (run pers flow ops).Valid := by
  have each : Runs.EachStep step (fun sender op => op.Safe sender) (newSender pers flow) ops := safe
  exact each.invariant Valid (valid_newSender pers flow) fun _ _ valid safe => valid.step safe

end Sender

/-! ## Faithful frames -/

/-- One call returns faithful frames exactly if it does not overwrite one, from any state of the
streams and the windows. In a run of calls that do not overwrite a frame the frames of each stream
are in order and do not overlap. -/
theorem popNormalFrames_faithful (m : StreamsMap) (flow : FlowControlManager)
    (f : StreamFramer) (maxBytes : Nat) (sendingAllowed : Bool) (proper : m.Proper)
    (pers : Perspective) (start : FlowControlManager) (ops : List SenderOp) :
    (FaithfulPop m (f.maybePopNormalFrames m flow maxBytes sendingAllowed) ↔
      ¬Overwrites m flow maxBytes sendingAllowed) ∧
    ((∀ front op back, ops = front ++ op :: back → op.Safe (Sender.run pers start front)) →
      ∀ id, FramesInOrder ((Sender.run pers start ops).sent id) ∧
        ((content (((Sender.run pers start ops).sent id).map StreamFrame.segment)).length <
            2 ^ 64 →
          ((Sender.run pers start ops).sent id).Pairwise
            fun a b => a.offset + a.data.length ≤ b.offset)) := by
  refine ⟨maybePopNormalFrames_faithful_iff f flow maxBytes sendingAllowed proper, ?_⟩
  intro safe id
  have order := (Sender.valid_run pers start ops safe).recorded id
  exact ⟨order, order.pairwise⟩

/-- A server gets the client's streams 1, 3 and 5, opens its own stream 2, and has six bytes to
send on stream 5. -/
def exactFillOps : List SenderOp :=
  [.getOrOpenStream 5 4, .openStream, .write 5 [1, 2, 3, 4, 5, 6]]

def exactFillSession : Sender :=
  Sender.run .server (newFlowControlManager (serverParameters 0 0)) exactFillOps

/-- With room for ten bytes, the frame of stream 5 goes out as a frame of stream 2. -/
theorem popNormalFrames_overwritesFrame :
    (exactFillSession.framer.maybePopNormalFrames exactFillSession.streamsMap
      exactFillSession.flow 10 true).res =
        [{ streamID := 2, dataLenPresent := true, data := [1, 2, 3, 4, 5, 6] }] ∧
      ¬FaithfulPop exactFillSession.streamsMap
        (exactFillSession.framer.maybePopNormalFrames exactFillSession.streamsMap
          exactFillSession.flow 10 true) := by
  have res : (exactFillSession.framer.maybePopNormalFrames exactFillSession.streamsMap
      exactFillSession.flow 10 true).res =
        [{ streamID := 2, dataLenPresent := true, data := [1, 2, 3, 4, 5, 6] }] := by decide
  have opened : exactFillSession.streamsMap.streams.lookup 2 = some (newStreamType 2 false) := rfl
  have kept : (exactFillSession.framer.maybePopNormalFrames exactFillSession.streamsMap
      exactFillSession.flow 10 true).map.streams.lookup 2 = some (newStreamType 2 false) := rfl
  have mem : ({ streamID := 2, dataLenPresent := true, data := [1, 2, 3, 4, 5, 6] } : StreamFrame) ∈
      (exactFillSession.framer.maybePopNormalFrames exactFillSession.streamsMap
        exactFillSession.flow 10 true).res := by
    rw [res]
    exact mem_singleton_self _
  refine ⟨res, fun faithful => ?_⟩
  exact not_faithful_of_mem opened kept mem rfl (cons_ne_nil _ _) faithful.1

/-- With room for one byte more nothing is overwritten. -/
theorem exactFillSession_roomy :
    ¬Overwrites exactFillSession.streamsMap exactFillSession.flow 11 true := by
  rintro ⟨-, -, flow', room, left, full⟩
  have first : fill exactFillSession.streamsMap.streams.lookup [3] exactFillSession.flow 11 =
      .room exactFillSession.flow 11 := rfl
  obtain ⟨rfl, rfl⟩ := Filling.room.inj (first.symm.trans left)
  have second : fill exactFillSession.streamsMap.streams.lookup
      exactFillSession.streamsMap.unmarkedOrder exactFillSession.flow 11 =
      .room (exactFillSession.flow.addBytesSent 5 6) 1 := rfl
  cases second.symm.trans full

theorem exactFillOps_safe : Runs.EachStep Sender.step (fun sender op => op.Safe sender)
    (newSender .server (newFlowControlManager (serverParameters 0 0))) exactFillOps := by
  refine Runs.EachStep.of_mem fun op mem sender => ?_
  simp only [exactFillOps, mem_cons, not_mem_nil, or_false] at mem
  rcases mem with rfl | rfl | rfl <;> exact trivial

theorem popNormalFrames_faithful_roomy :
    FaithfulPop exactFillSession.streamsMap
      (exactFillSession.framer.maybePopNormalFrames exactFillSession.streamsMap
        exactFillSession.flow 11 true) ∧
      FramesInOrder ((Sender.run .server (newFlowControlManager (serverParameters 0 0))
        (exactFillOps ++ [.popNormalFrames 11 true])).sent 5) := by
  have proper : exactFillSession.streamsMap.Proper :=
    (Sender.valid_run _ _ _ exactFillOps_safe).proper
  have both := popNormalFrames_faithful exactFillSession.streamsMap exactFillSession.flow
    exactFillSession.framer 11 true proper .server
    (newFlowControlManager (serverParameters 0 0)) (exactFillOps ++ [.popNormalFrames 11 true])
  refine ⟨both.1.mpr exactFillSession_roomy, (both.2 ?_ 5).1⟩
  intro front op back split
  rcases snoc_eq_append_cons split with ⟨rfl, rfl, rfl⟩ | ⟨rest, -, old⟩
  · exact exactFillSession_roomy
  · exact exactFillOps_safe front op rest old

end MPQuic
