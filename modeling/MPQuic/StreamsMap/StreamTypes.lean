import MPQuic.PacketUnpacker
import MPQuic.Stream.SorterContent
import MPQuic.StreamFramer.SendingCalls
import MPQuic.StreamsMap.Limits

/-!
# Reliable and unreliable streams at both ends

Whether a stream is unreliable is written down in three places at each end of a connection:
in the stream, in its frame queue, and in the marks of the streams map. The first two are
copied from the marks when the stream is made and are never changed (`Stream.KeepsType`). The
side that opens a stream enters the mark after that; the other side enters it when it unpacks a
STREAM frame, which may be after the stream was made.

`Link` is a connection with its two ends, and a record of how each stream was opened. In runs
that only open reliable streams and deliver frames whose type byte can be read back, the three
places agree with the record (`streamTypes_agree`). A stream that is opened as unreliable does
not agree at the side that opened it.
-/

namespace MPQuic

open StreamFramer StreamsMap

/-! ## The type of a stream does not change -/

variable {flow : FlowControlManager} {frame : StreamFrame}

namespace Stream

/-- The type of a stream stays. -/
structure KeepsType (s s' : Stream) : Prop where
  marker : s'.unreliableMarker = s.unreliableMarker
  queue : s'.frameQueue.unreliableMarker = s.frameQueue.unreliableMarker

variable {s s' s'' : Stream}

theorem KeepsType.refl (s : Stream) : s.KeepsType s := ⟨rfl, rfl⟩

theorem KeepsType.trans (first : s.KeepsType s') (second : s'.KeepsType s'') : s.KeepsType s'' :=
  ⟨second.marker.trans first.marker, second.queue.trans first.queue⟩

/-- The type belongs to the receiving half. -/
theorem SameReceiving.keepsType (same : s.SameReceiving s') : s.KeepsType s' := by
  have queue : s'.frameQueue = s.frameQueue := same.seen fun _ => rfl
  exact ⟨same.seen fun _ => rfl, by rw [queue]⟩

theorem keepsType_registerRemoteError (s : Stream) (err : StreamError) :
    s.KeepsType (s.registerRemoteError err).1 := by
  unfold registerRemoteError
  split
  · exact .refl s
  · refine KeepsType.trans ?_ (sameReceiving_sendReset _).keepsType
    exact ⟨rfl, rfl⟩

end Stream

namespace StreamFrameSorter

variable {q q' : StreamFrameSorter} {now : Int}

theorem unreliableMarker_push (q : StreamFrameSorter) (frame : StreamFrame) (flag : Bool)
    (timeStamp : Int) : (q.push frame flag timeStamp).1.unreliableMarker = q.unreliableMarker := by
  unfold push
  split
  · split <;> rfl
  · split
    · rfl
    · split
      · rfl
      · rfl
      · simp only [pushIntoGap]
        split_ifs
        all_goals first | rfl | exact (enqueue_rest _ _ _ _).2.2

theorem unreliableMarker_padFirstGap
    (padded : q.padFirstGap now = .ok q') : q'.unreliableMarker = q.unreliableMarker := by
  unfold padFirstGap at padded
  split at padded
  · cases padded
  · simp only at padded
    split at padded
    · cases padded
    · cases padded
      exact unreliableMarker_push _ _ _ _

theorem unreliableMarker_head {frame : Option StreamFrame} (head : q.head now = .ok (q', frame)) :
    q'.unreliableMarker = q.unreliableMarker := by
  obtain ⟨rfl | padded, -⟩ := head_cases head
  · rfl
  · exact unreliableMarker_padFirstGap padded

theorem unreliableMarker_pop
    {popped : StreamFrameSorter × Option StreamFrame} (pop : q.pop now = .ok popped) :
    popped.1.unreliableMarker = q.unreliableMarker := by
  unfold StreamFrameSorter.pop at pop
  cases head : q.head now with
  | error panic =>
    rw [head] at pop
    cases pop
  | ok headed =>
    have same := unreliableMarker_head head
    rw [head] at pop
    cases pop
    dsimp only
    split
    · exact same
    · exact (dequeue_rest headed.1 _).2.2.2.trans same

end StreamFrameSorter

namespace Stream

variable {s s' : Stream}

theorem keepsType_addStreamFrame (s : Stream) (flow : FlowControlManager) (frame : StreamFrame)
    (timeStamp : Int) : s.KeepsType (s.addStreamFrame flow frame timeStamp).1 := by
  have pushed : s.KeepsType
      { s with frameQueue := (s.frameQueue.push frame true timeStamp).1 } :=
    ⟨rfl, StreamFrameSorter.unreliableMarker_push _ _ _ _⟩
  simp only [addStreamFrame]
  split
  · exact .refl s
  · split
    · exact pushed
    · split <;> exact pushed

theorem keepsType_readFrame {flow' : FlowControlManager} {env : FlowEnv} {room : Nat}
    {copied : List UInt8} (read : s.readFrame flow env frame room = .ok (s', flow', copied)) :
    s.KeepsType s' := by
  obtain ⟨-, -, rfl | ⟨-, popped, pop, rfl⟩⟩ := readFrame_cases read
  · exact ⟨rfl, rfl⟩
  · exact ⟨rfl, StreamFrameSorter.unreliableMarker_pop pop⟩

theorem keepsType_read {clock : Nat → FlowEnv} {length : Nat} {r : ReadResult}
    (read : s.read flow clock length = .ok r) : s.KeepsType r.stream := by
  have rounds : ReadKeeps fun s' _ => s.KeepsType s' :=
    { headed := fun keeps head =>
        keeps.trans ⟨rfl, StreamFrameSorter.unreliableMarker_head head⟩
      placed := fun _ keeps => keeps.trans ⟨rfl, rfl⟩
      copied := fun keeps _ _ _ _ read => keeps.trans (keepsType_readFrame read) }
  exact rounds.read (.refl s) read

end Stream

/-! ## Maps of reliable streams -/

namespace StreamsMap

/-- The type of a stream, as the marks give it. -/
def markOf (m : StreamsMap) (id : Nat) : Bool := (m.unreliableStreamMark.lookup id).getD false

/-- All three places say that a stream is reliable, for every stream. -/
structure AllReliable (m : StreamsMap) : Prop where
  marks : ∀ id, m.markOf id = false
  markers : ∀ id s, m.streams.lookup id = some s →
    s.unreliableMarker = false ∧ s.frameQueue.unreliableMarker = false

variable {m m' : StreamsMap}

theorem AllReliable.of_streams (reliable : m.AllReliable)
    (marks : m'.unreliableStreamMark = m.unreliableStreamMark)
    (streams : ∀ id s', m'.streams.lookup id = some s' →
      ∃ s : Stream, m.streams.lookup id = some s ∧ s.KeepsType s') : m'.AllReliable := by
  constructor
  · intro id
    rw [markOf, marks]
    exact reliable.marks id
  · intro id s' opened
    obtain ⟨s, before, keeps⟩ := streams id s' opened
    rw [keeps.marker, keeps.queue]
    exact reliable.markers id s before

theorem marks_setStream (m : StreamsMap) (id : Nat) (s : Stream) :
    (m.setStream id s).unreliableStreamMark = m.unreliableStreamMark := by
  unfold setStream
  split <;> rfl

section

variable (reliable : m.AllReliable) {id : Nat} {unreliable : Bool}

include reliable

theorem AllReliable.setStream {s s' : Stream} (opened : m.streams.lookup id = some s)
    (keeps : s.KeepsType s') : (m.setStream id s').AllReliable := by
  refine reliable.of_streams (m.marks_setStream id s') ?_
  intro other after openedAfter
  rcases lookup_of_setStream openedAfter with ⟨rfl, rfl⟩ | ⟨-, old⟩
  · exact ⟨s, opened, keeps⟩
  · exact ⟨after, old, .refl after⟩

theorem AllReliable.modifyStream (id : Nat)
    {change : Stream → Stream} (keeps : ∀ s : Stream, s.KeepsType (change s)) :
    (m.modifyStream id change).AllReliable :=
  modifyStream_rule reliable fun s opened => reliable.setStream opened (keeps s)

theorem AllReliable.closeWithError (err : StreamError) : (m.closeWithError err).AllReliable :=
  closeWithError_rule ⟨reliable.marks, reliable.markers⟩ fun reliable' opened =>
    reliable'.setStream opened ⟨rfl, rfl⟩

theorem AllReliable.removeStream (id : Nat) : (m.removeStream id).1.AllReliable := by
  have marks : (m.removeStream id).1.unreliableStreamMark = m.unreliableStreamMark := by
    unfold StreamsMap.removeStream
    split <;> rfl
  refine reliable.of_streams marks ?_
  unfold StreamsMap.removeStream
  split
  · exact fun other s opened => ⟨s, (MapSum.lookup_of_erase opened).2, .refl s⟩
  · exact fun _ s opened => ⟨s, opened, .refl s⟩

/-! ### Opening -/

/-- A new stream takes over the mark, which says reliable. -/
theorem AllReliable.putStream (isReliable : unreliable = false) :
    (m.putStream (newStreamType id unreliable)).AllReliable := by
  unfold StreamsMap.putStream
  split
  · exact reliable
  · refine ⟨reliable.marks, fun other s opened => ?_⟩
    rcases MapSum.lookup_of_insert opened with ⟨rfl, rfl⟩ | ⟨-, old⟩
    · exact ⟨isReliable, isReliable⟩
    · exact reliable.markers other s old

theorem AllReliable.putStreamType (isReliable : unreliable = false) :
    (m.putStreamType (newStreamType id unreliable) false).AllReliable := by
  refine ⟨fun other => ?_, ?_⟩
  · unfold StreamsMap.putStreamType
    split
    · exact reliable.marks other
    · change ((m.unreliableStreamMark.insert id false).lookup other).getD false = false
      by_cases same : other = id
      · rw [same, AList.lookup_insert]
        rfl
      · rw [AList.lookup_insert_ne same]
        exact reliable.marks other
  · rw [streams_putStreamType]
    exact (reliable.putStream isReliable).markers

end

theorem openingKeeps_allReliable : OpeningKeeps fun m _ => m.AllReliable where
  counted reliable streams marks :=
    reliable.of_streams marks fun _ s opened => ⟨s, streams ▸ opened, .refl s⟩
  entered id reliable := reliable.putStream (reliable.marks id)

theorem AllReliable.openStream (reliable : m.AllReliable) (flow : FlowControlManager) :
    (m.openStream flow).map.AllReliable := by
  have counted : m.countedLocal.AllReliable := by
    unfold countedLocal countLocalStream
    split <;> exact ⟨reliable.marks, reliable.markers⟩
  have opened : (m.openLocal flow false).map.AllReliable :=
    openLocal_rule (motive := fun m _ => m.AllReliable) reliable fun _ =>
      counted.putStreamType (counted.marks m.nextStream)
  exact unlessClosed_rule (motive := fun m _ => m.AllReliable) reliable opened

theorem sendingOnly_allReliable : SendingOnly fun m _ => m.AllReliable where
  opened := openingKeeps_allReliable.getOrOpenStream
  moved _ _ reliable := ⟨reliable.marks, reliable.markers⟩
  sent reliable opened same := reliable.setStream opened same.keepsType
  counted reliable _ := reliable

end StreamsMap

/-! ## The two ends of a connection -/

/-- Calls that neither open a stream of a given type nor enter a mark. -/
def SenderOp.Untyped : SenderOp → Prop
  | .openStream => False
  | .openUnreliableStream => False
  | .getOrOpenStreamType _ _ => False
  | .markUnreliable _ => False
  | _ => True

namespace Sender

variable (sender : Sender)

/-- `GetOrOpenStream` of the session. -/
def openFor (id : Nat) : Sender :=
  sender.step (.getOrOpenStream id callRounds)

/-- A STREAM frame that was unpacked, with the mark that the unpacker took from its type byte. -/
def handleStreamFrame (frame : StreamFrame) (mark : Bool) (timeStamp : Int) : Sender :=
  let sender := if mark then sender.step (.markUnreliable frame.streamID) else sender
  (sender.openFor frame.streamID).step (.addStreamFrame frame.streamID frame timeStamp)

def handleRstStreamFrame (id : Nat) (err : StreamError) (byteOffset : Nat) : Sender :=
  let sender := sender.openFor id
  if id ∈ sender.streamsMap.streams then
    let sender := sender.step (.registerRemoteError id err)
    { sender with flow := (sender.flow.resetStream id byteOffset).1 }
  else sender

def handleWindowUpdateFrame (id offset : Nat) : Sender :=
  if id = 0 then sender.step (.updateWindow 0 offset)
  else
    let sender := sender.openFor id
    if id ∈ sender.streamsMap.streams then sender.step (.updateWindow id offset) else sender

end Sender

/-- The ends, and what the run did with each stream. -/
structure Link where
  endpoint : Perspective → Sender
  /-- the type that a stream was opened with -/
  opened : Nat → Option Bool
  /-- whether a STREAM frame of a stream arrived at a side -/
  received : Perspective → Nat → Bool

/-- What both sides do. -/
inductive LinkOp where
  /-- `OpenStream`, or `OpenUnreliableStream` -/
  | openStream (side : Perspective) (unreliable : Bool)
  | call (side : Perspective) (op : SenderOp) (untyped : op.Untyped)
  /-- a STREAM frame of the other side arrives, in front of the rest of its packet -/
  | streamFrame (side : Perspective) (version : VersionNumber) (frame : StreamFrame)
      (rest : List UInt8) (timeStamp : Int) (ok : frame.Encodable)
      (tail : frame.dataLenPresent = false → rest = [])
  | rstStream (side : Perspective) (id : Nat) (err : StreamError) (byteOffset : Nat)
  | windowUpdate (side : Perspective) (id offset : Nat)

namespace Link

def onEndpoint (link : Link) (side : Perspective) (change : Sender → Sender) : Link :=
  { link with endpoint := Function.update link.endpoint side (change (link.endpoint side)) }

/-- The bytes of a frame arrive. -/
def deliver (link : Link) (side : Perspective) (version : VersionNumber) (frame : StreamFrame)
    (rest : List UInt8) (timeStamp : Int) : Link :=
  match frame.write version with
  | .error _ => link
  | .ok bytes =>
    match (unpackStreamFrame version).run (bytes ++ rest) with
    | .ok (some (unpacked, mark), _) =>
      { link.onEndpoint side fun sender =>
          sender.handleStreamFrame unpacked mark timeStamp with
        received := fun other id =>
          link.received other id || other = side && id = frame.streamID }
    | _ => link

/-- The network carries STREAM frames of streams that were opened, with their type. -/
def step (link : Link) : LinkOp → Link
  | .openStream side unreliable =>
    let sender := link.endpoint side
    let result := if unreliable then sender.streamsMap.openUnreliableStream sender.flow
      else sender.streamsMap.openStream sender.flow
    let link := link.onEndpoint side fun sender => sender.after result.map result.flow []
    match result.outcome with
    | .ok (some s) =>
      { link with opened := Function.update link.opened s.streamID (some unreliable) }
    | _ => link
  | .call side op _ => link.onEndpoint side fun sender => sender.step op
  | .streamFrame side version frame rest timeStamp _ _ =>
    if link.opened frame.streamID = some frame.unreliableMarker then
      link.deliver side version frame rest timeStamp
    else link
  | .rstStream side id err byteOffset =>
    link.onEndpoint side fun sender => sender.handleRstStreamFrame id err byteOffset
  | .windowUpdate side id offset =>
    link.onEndpoint side fun sender => sender.handleWindowUpdateFrame id offset

end Link

variable (params : Perspective → ConnectionParametersManager)

def newLink : Link where
  endpoint := fun side => newSender side (newFlowControlManager (params side))
  opened := fun _ => none
  received := fun _ _ => false

def Link.run (ops : List LinkOp) : Link :=
  ops.foldl Link.step (newLink params)

/-- At both ends, the three places agree with the type that a stream was opened with, once the
stream exists there and one of its STREAM frames was sent or received. -/
def Link.TypesAgree (link : Link) : Prop :=
  ∀ side id type s, link.opened id = some type →
    (link.endpoint side).streamsMap.streams.lookup id = some s →
    (link.endpoint side).sent id ≠ [] ∨ link.received side id = true →
    s.unreliableMarker = type ∧ s.frameQueue.unreliableMarker = type ∧
      (link.endpoint side).streamsMap.markOf id = type

/-- Streams are opened as reliable, and the type byte of a frame that arrives can be read back:
the ID takes one byte or three. -/
def LinkOp.Plain : LinkOp → Prop
  | .openStream _ unreliable => unreliable = false
  | .streamFrame _ _ frame _ _ _ _ =>
    frame.streamID < 2 ^ 8 ∨ 2 ^ 16 ≤ frame.streamID ∧ frame.streamID < 2 ^ 24
  | _ => True

/-! ## Runs with reliable streams -/

namespace Sender

variable {sender : Sender}

section

variable (reliable : sender.streamsMap.AllReliable)

include reliable

theorem allReliable_step {op : SenderOp}
    (untyped : op.Untyped) : (sender.step op).streamsMap.AllReliable := by
  cases op with
  | openStream => exact untyped.elim
  | openUnreliableStream => exact untyped.elim
  | getOrOpenStreamType id marker => exact untyped.elim
  | markUnreliable id => exact untyped.elim
  | registerRemoteError id err =>
    exact reliable.modifyStream id fun s => s.keepsType_registerRemoteError err
  | addStreamFrame id frame timeStamp =>
    simp only [Sender.step]
    split
    · exact reliable
    · rename_i s opened
      exact reliable.setStream opened (s.keepsType_addStreamFrame _ frame timeStamp)
  | read id clock length =>
    simp only [Sender.step]
    split
    · exact reliable
    · rename_i s opened
      split
      · exact reliable
      · rename_i r read
        exact reliable.setStream opened (Stream.keepsType_read read)
  | closeWithError err => exact reliable.closeWithError err
  | garbageCollectStreams =>
    exact collectStreams_rule (motive := fun m _ => m.AllReliable)
      (fun id reliable' => reliable'.removeStream id) _ reliable
  | _ => exact sendingOnly_allReliable.step rfl reliable

theorem allReliable_openFor (id : Nat) : (sender.openFor id).streamsMap.AllReliable :=
  allReliable_step reliable trivial

theorem allReliable_handleStreamFrame (frame : StreamFrame) (timeStamp : Int) :
    (sender.handleStreamFrame frame false timeStamp).streamsMap.AllReliable :=
  allReliable_step (allReliable_openFor reliable frame.streamID) trivial

theorem allReliable_handleRstStreamFrame (id : Nat) (err : StreamError) (byteOffset : Nat) :
    (sender.handleRstStreamFrame id err byteOffset).streamsMap.AllReliable := by
  have opened := allReliable_openFor reliable id
  unfold handleRstStreamFrame
  simp only
  split
  · exact allReliable_step opened trivial
  · exact opened

theorem allReliable_handleWindowUpdateFrame
    (id offset : Nat) : (sender.handleWindowUpdateFrame id offset).streamsMap.AllReliable := by
  have opened := allReliable_openFor reliable id
  unfold handleWindowUpdateFrame
  split
  · exact reliable
  · simp only
    split
    · exact opened
    · exact opened

end

end Sender

namespace Link

variable {link : Link}

/-- Nothing at either end or in the record says unreliable. -/
structure AllReliable (link : Link) : Prop where
  endpoints : ∀ side, (link.endpoint side).streamsMap.AllReliable
  opened : ∀ id, link.opened id ≠ some true

section

variable (reliable : link.AllReliable)

include reliable

theorem AllReliable.typesAgree : link.TypesAgree := by
  intro side id type s opened found _
  have isFalse : type = false := by
    cases type with
    | false => rfl
    | true => exact absurd opened (reliable.opened id)
  obtain ⟨marker, queue⟩ := (reliable.endpoints side).markers id s found
  rw [isFalse]
  exact ⟨marker, queue, (reliable.endpoints side).marks id⟩

theorem AllReliable.onEndpoint (side : Perspective) (change : Sender → Sender)
    (changed : (change (link.endpoint side)).streamsMap.AllReliable) :
    (link.onEndpoint side change).AllReliable := by
  refine ⟨?_, reliable.opened⟩
  intro other
  by_cases same : other = side
  · subst same
    simp only [Link.onEndpoint, Function.update_self]
    exact changed
  · simp only [Link.onEndpoint, Function.update_of_ne same]
    exact reliable.endpoints other

theorem AllReliable.deliver (side : Perspective) (version : VersionNumber) {rest : List UInt8}
    (timeStamp : Int) (ok : frame.Encodable) (tail : frame.dataLenPresent = false → rest = [])
    (short : frame.streamID < 2 ^ 8 ∨ 2 ^ 16 ≤ frame.streamID ∧ frame.streamID < 2 ^ 24)
    (isReliable : frame.unreliableMarker = false) :
    (link.deliver side version frame rest timeStamp).AllReliable := by
  unfold Link.deliver
  split
  · exact reliable
  · rename_i bytes written
    obtain ⟨unpacked, run, -⟩ :=
      ok.survives version tail (frame.calculateStreamIDLength_odd_iff.mpr short) bytes written
    rw [isReliable] at run
    have unpacks : (unpackStreamFrame version).run (bytes ++ rest) =
        .ok (some (unpacked, false), rest) := run
    rw [unpacks]
    have handled := reliable.onEndpoint side
      (fun sender => sender.handleStreamFrame unpacked false timeStamp)
      (Sender.allReliable_handleStreamFrame (reliable.endpoints side) unpacked timeStamp)
    exact ⟨handled.endpoints, handled.opened⟩

theorem AllReliable.step {op : LinkOp} (plain : op.Plain) : (link.step op).AllReliable := by
  cases op with
  | openStream side unreliable =>
    have isReliable : unreliable = false := plain
    subst isReliable
    have after := reliable.onEndpoint side
      (fun sender => sender.after
        ((link.endpoint side).streamsMap.openStream (link.endpoint side).flow).map
        ((link.endpoint side).streamsMap.openStream (link.endpoint side).flow).flow [])
      ((reliable.endpoints side).openStream (link.endpoint side).flow)
    simp only [Link.step, Bool.false_eq_true, if_false]
    split
    · rename_i s _
      refine ⟨after.endpoints, ?_⟩
      intro id
      by_cases same : id = s.streamID
      · subst same
        simp [Function.update_self]
      · simp only [Function.update_of_ne same]
        exact after.opened id
    · exact after
  | call side op untyped =>
    simp only [Link.step]
    apply reliable.onEndpoint
    exact Sender.allReliable_step (reliable.endpoints side) untyped
  | streamFrame side version frame rest timeStamp ok tail =>
    simp only [Link.step]
    split
    · rename_i typed
      have isReliable : frame.unreliableMarker = false := by
        cases marker : frame.unreliableMarker with
        | false => rfl
        | true =>
          rw [marker] at typed
          exact absurd typed (reliable.opened frame.streamID)
      exact reliable.deliver side version timeStamp ok tail plain isReliable
    · exact reliable
  | rstStream side id err byteOffset =>
    simp only [Link.step]
    apply reliable.onEndpoint
    exact Sender.allReliable_handleRstStreamFrame (reliable.endpoints side) id err byteOffset
  | windowUpdate side id offset =>
    simp only [Link.step]
    apply reliable.onEndpoint
    exact Sender.allReliable_handleWindowUpdateFrame (reliable.endpoints side) id offset

end

theorem allReliable_new : (newLink params).AllReliable := by
  refine ⟨fun side => ⟨fun _ => rfl, ?_⟩, fun _ opened => by cases opened⟩
  intro id s opened
  cases opened

end Link

open Link

/-- In every run that opens reliable streams only, and in which the STREAM frames that arrive have
IDs of one or three bytes, the streams at both ends agree with the type they were opened with. -/
theorem streamTypes_agree
    (ops : List LinkOp) (plain : ∀ op ∈ ops, op.Plain) : (run params ops).TypesAgree := by
  suffices reliable : (run params ops).AllReliable from reliable.typesAgree
  refine List.foldlRecOn ops Link.step (motive := Link.AllReliable)
    (allReliable_new params) ?_
  intro link reliable op mem
  exact reliable.step (plain op mem)

/-- A client with the defaults, and a server with the defaults. -/
def defaultParameters : Perspective → ConnectionParametersManager
  | .client => clientParameters 0 0
  | .server => serverParameters 0 0

/-- A client opens three reliable streams, and a frame of the third one reaches the server. -/
def reliableLinkOps : List LinkOp :=
  [.openStream .client false, .openStream .client false, .openStream .client false,
    .streamFrame .server version39 { streamID := 5, data := [7] } [] 0
      ⟨by decide, by decide, by decide, Or.inl (by decide)⟩ (fun _ => rfl)]

theorem streamTypes_agree_reliable :
    (run defaultParameters reliableLinkOps).received .server 5 = true ∧
      (run defaultParameters reliableLinkOps).TypesAgree := by
  refine ⟨by decide, streamTypes_agree defaultParameters reliableLinkOps ?_⟩
  intro op mem
  simp only [reliableLinkOps, List.mem_cons, List.not_mem_nil, or_false] at mem
  rcases mem with rfl | rfl | rfl | rfl
  · rfl
  · rfl
  · rfl
  · exact Or.inl (by decide)

/-! ## Unreliable streams -/

/-- A client opens the streams 1, 3 and 5, the last one as unreliable, and sends a byte on it. -/
def unreliableLinkOps : List LinkOp :=
  [.openStream .client false, .openStream .client false, .openStream .client true,
    .call .client (.write 5 [7]) trivial, .call .client (.popNormalFrames 100 true) trivial]

/-- Stream 5 was opened as unreliable and says that it is reliable. -/
theorem streamTypes_disagree_unreliable :
    (run defaultParameters unreliableLinkOps).opened 5 = some true ∧
      (((run defaultParameters unreliableLinkOps).endpoint .client).sent 5).map
        StreamFrame.unreliableMarker = [true] ∧
      ¬(run defaultParameters unreliableLinkOps).TypesAgree := by
  have opened : (run defaultParameters unreliableLinkOps).opened 5 = some true := by decide
  have sent : (((run defaultParameters unreliableLinkOps).endpoint .client).sent 5).map
      StreamFrame.unreliableMarker = [true] := by decide
  refine ⟨opened, sent, ?_⟩
  intro agree
  have marker : (((run defaultParameters unreliableLinkOps).endpoint
      .client).streamsMap.streams.lookup 5).map Stream.unreliableMarker = some false := by decide
  obtain ⟨s, found, isFalse⟩ := Option.map_eq_some_iff.mp marker
  have nonempty :
      ((run defaultParameters unreliableLinkOps).endpoint .client).sent 5 ≠ [] := by
    intro empty
    rw [empty] at sent
    cases sent
  have isTrue := (agree .client 5 true s opened found (Or.inl nonempty)).1
  rw [isFalse] at isTrue
  cases isTrue

end MPQuic
