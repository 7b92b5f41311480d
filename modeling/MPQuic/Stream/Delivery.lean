import MPQuic.Stream.Reading

/-!
# Delivery of a reliable stream

Runs of the receiving half of a reliable stream: frames arrive in any order, cut and
repeated in any way, and are read with buffers of any size. All frames carry parts of one
content.

The reader gets the content in order, learns of its end exactly there, and never waits once
everything has arrived, provided that no frame with the fin bit arrives after its last byte
did (`FinTimely`). The sorter drops or misplaces the fin bit of such a frame.
-/

namespace MPQuic

open Reassembly StreamFrameSorter List

/-! ## Runs -/

/-- The calls on the receiving half of a stream. -/
inductive ReceiveOp where
  | addStreamFrame (frame : StreamFrame) (timeStamp : Int)
  /-- the frame is pushed without the check of flow control -/
  | push (frame : StreamFrame) (timeStamp : Int)
  | read (length : Nat) (clock : Nat → FlowEnv)

/-- The frame that arrives. -/
def ReceiveOp.frame? : ReceiveOp → Option StreamFrame
  | .addStreamFrame frame _ => some frame
  | .push frame _ => some frame
  | .read _ _ => none

/-- The receiving half of a stream, and what happened so far. -/
structure Receiver where
  stream : Stream
  flow : FlowControlManager
  /-- the bytes that `Read` returned -/
  delivered : List UInt8 := []
  /-- `Read` returned `io.EOF` -/
  eof : Bool := false
  panicked : Bool := false
  /-- the frames that reached the sorter -/
  pushed : List StreamFrame := []
  /-- the sorter returned `errTooManyGapsInReceivedStreamData` -/
  tooManyGaps : Bool := false

namespace Stream.ReadOutcome

/-- The bytes that were returned. -/
def data : ReadOutcome → List UInt8
  | .returned data _ => data
  | _ => []

/-- Whether the end of the stream was reported. -/
def isEOF : ReadOutcome → Bool
  | .returned _ (some .eof) => true
  | _ => false

end Stream.ReadOutcome

namespace Receiver

/-- A reliable stream to which nothing was sent yet. -/
def start (streamID : Nat) (flow : FlowControlManager) : Receiver where
  stream := newStreamType streamID false
  flow

variable (r : Receiver)

/-- The frame reached the sorter, which answered with `err`. -/
def recordPush (frame : StreamFrame) (err : Option SorterError) : Receiver :=
  { r with
    pushed := r.pushed ++ [frame]
    tooManyGaps := r.tooManyGaps || err = some .errTooManyGapsInReceivedStreamData }

/-- The receiver after a call, and the record. -/
def step : ReceiveOp → Receiver
  | .addStreamFrame frame timeStamp =>
    let added := r.stream.addStreamFrame r.flow frame timeStamp
    let r' := { r with stream := added.1, flow := added.2.1 }
    match (r.flow.updateHighestReceived r.stream.streamID
        (addUint64 frame.offset frame.dataLen)).2 with
    | some _ => r'
    | none => r'.recordPush frame (r.stream.frameQueue.push frame true timeStamp).2
  | .push frame timeStamp =>
    let pushed := r.stream.frameQueue.push frame true timeStamp
    { r with stream := { r.stream with frameQueue := pushed.1 } }.recordPush frame pushed.2
  | .read length clock =>
    match r.stream.read r.flow clock length with
    | .error _ => { r with panicked := true }
    | .ok result =>
      { r with
        stream := result.stream
        flow := result.flow
        delivered := r.delivered ++ result.outcome.data
        eof := r.eof || result.outcome.isEOF }

/-- A run on a new stream. -/
def run (streamID : Nat) (flow : FlowControlManager) (ops : List ReceiveOp) : Receiver :=
  ops.foldl step (start streamID flow)

/-- The fin bit was received. -/
def FinReceived : Prop :=
  r.stream.finishedReading = true ∨
    ∃ k f, r.stream.frameQueue.queuedFrames.lookup k = some f ∧ f.finBit = true

/-- If the frame has the fin bit, then its last byte is new, or it is a duplicate of frames
among which the fin bit was received. -/
def FinTimely (frame : StreamFrame) : Prop :=
  frame.finBit = true → r.stream.frameQueue.LastByteNew frame ∨
    r.stream.frameQueue.AllReceived frame ∧ r.FinReceived

/-! ## One step -/

/-- The content is being delivered in order, or was delivered as a whole. -/
structure InOrder (content : List UInt8) (r : Receiver) : Prop where
  panicked : r.panicked = false
  delivery :
    Stream.AtEnd content r.stream ∧ r.delivered = content ∧ r.eof = true ∨
      Stream.Reader content r.stream ∧ r.delivered = content.take r.stream.readOffset ∧
        r.eof = false ∧ (∀ f ∈ r.pushed, r.stream.frameQueue.AllReceived f) ∧
        ((∃ f ∈ r.pushed, f.finBit = true) → r.stream.frameQueue.EndKnown content)

section Step

variable {content : List UInt8} {r : Receiver} {frame : StreamFrame}
  {timeStamp : Int} {s : Stream} {flow : FlowControlManager} {op : ReceiveOp}

theorem inOrder_start (content : List UInt8) (streamID : Nat) (flow : FlowControlManager) :
    InOrder content (start streamID flow) := by
  refine ⟨rfl, Or.inr ⟨⟨holds_new content, le_refl _, Or.inl rfl, rfl, rfl, rfl, rfl, rfl⟩, rfl,
    rfl, fun f member => (by cases member), ?_⟩⟩
  rintro ⟨f, member, -⟩
  cases member

theorem recordPush_tooManyGaps {err : Option SorterError}
    (few : (r.recordPush frame err).tooManyGaps = false) :
    r.tooManyGaps = false ∧ err ≠ some .errTooManyGapsInReceivedStreamData := by
  unfold recordPush at few
  rw [Bool.or_eq_false_iff] at few
  exact ⟨few.1, of_decide_eq_false few.2⟩

/-- A frame reaches the sorter. -/
theorem InOrder.push (inOrder : InOrder content r) (small : content.length < 2 ^ 63)
    (frameOf : FrameOf content frame) (timely : r.FinTimely frame) (flow : FlowControlManager)
    (few : (r.stream.frameQueue.push frame true timeStamp).2 ≠
      some .errTooManyGapsInReceivedStreamData) :
    InOrder content ({ r with
      stream := { r.stream with
        frameQueue := (r.stream.frameQueue.push frame true timeStamp).1 }
      flow }.recordPush frame (r.stream.frameQueue.push frame true timeStamp).2) := by
  refine ⟨inOrder.panicked, ?_⟩
  rcases inOrder.delivery with ⟨atEnd, delivered, eof⟩ | ⟨reader, delivered, noEOF, received, known⟩
  · exact Or.inl ⟨⟨atEnd.readOffset, atEnd.cancelled, atEnd.resetLocally, atEnd.finishedReading⟩,
      delivered, eof⟩
  · have pushed := (reader.holds.push (by unfold maxByteCount; omega) frameOf true timeStamp
      fun fin => (timely fin).imp id And.left).resolve_left few
    refine Or.inr ⟨reader.pushed pushed, delivered, noEOF, fun f member p inFrame => ?_, ?_⟩
    · simp only [recordPush]
      rw [pushed.missing]
      rintro ⟨isMissing, outside⟩
      rcases mem_append.mp member with old | new
      · exact received f old p inFrame isMissing
      · obtain rfl := mem_singleton.mp new
        exact outside inFrame
    · rintro ⟨f, member, fin⟩
      rcases mem_append.mp member with old | new
      · exact pushed.endKept (known ⟨f, old, fin⟩)
      · obtain rfl := mem_singleton.mp new
        rcases timely fin with last | ⟨-, finished | ⟨k, queued, found, isFin⟩⟩
        · exact pushed.endSeen fin last
        · rw [reader.finishedReading] at finished
          cases finished
        · exact pushed.endKept (reader.holds.endKnown found isFin)

/-- A call of `Read`. -/
theorem InOrder.read (inOrder : InOrder content r) (small : content.length < 2 ^ 63)
    (length : Nat) (clock : Nat → FlowEnv) : InOrder content (r.step (.read length clock)) := by
  simp only [step]
  rcases inOrder.delivery with ⟨atEnd, delivered, -⟩ | ⟨reader, delivered, noEOF, received, known⟩
  · rw [atEnd.read]
    refine ⟨inOrder.panicked, Or.inl ⟨atEnd, ?_, Bool.or_true _⟩⟩
    simp only [Stream.ReadOutcome.data, append_nil]
    exact delivered
  · obtain ⟨result, copied, eq, reads⟩ := reader.read small r.flow clock length
    have more : r.delivered ++ copied = content.take result.stream.readOffset := by
      rw [delivered, reads.slice, take_append_slice, ← reads.readOffset]
    have received' : ∀ f ∈ r.pushed, result.stream.frameQueue.AllReceived f := by
      intro f member
      unfold AllReceived
      rw [reads.missing]
      exact received f member
    rw [eq]
    refine ⟨inOrder.panicked, ?_⟩
    rcases reads.outcome with ⟨waits, empty, reader', kept, -⟩ | ⟨returned, reader', kept, -⟩ |
      ⟨returned, atEnd⟩
    · rw [nil_append] at empty
      rw [empty, append_nil] at more
      simp only [waits, Stream.ReadOutcome.data, append_nil]
      exact Or.inr ⟨reader', more, by rw [noEOF]; rfl, received', kept ∘ known⟩
    · simp only [returned, Stream.ReadOutcome.data, nil_append]
      exact Or.inr ⟨reader', more, by rw [noEOF]; rfl, received', kept ∘ known⟩
    · simp only [returned, Stream.ReadOutcome.data, nil_append]
      refine Or.inl ⟨atEnd, ?_, Bool.or_true _⟩
      rw [more, atEnd.readOffset, take_length]

theorem addStreamFrame_pushes
    (allowed : (flow.updateHighestReceived s.streamID (addUint64 frame.offset frame.dataLen)).2 =
      none) :
    (s.addStreamFrame flow frame timeStamp).1 =
      { s with frameQueue := (s.frameQueue.push frame true timeStamp).1 } := by
  simp only [Stream.addStreamFrame, allowed]
  split
  · rfl
  · split <;> rfl

theorem addStreamFrame_refuses {err : FlowError}
    (refused : (flow.updateHighestReceived s.streamID (addUint64 frame.offset frame.dataLen)).2 =
      some err) : (s.addStreamFrame flow frame timeStamp).1 = s := by
  simp only [Stream.addStreamFrame, refused]

/-- Any call, as long as the sorter does not complain about too many gaps. -/
theorem InOrder.step (inOrder : InOrder content r) (small : content.length < 2 ^ 63)
    (frames : ∀ frame, op.frame? = some frame → FrameOf content frame ∧ r.FinTimely frame)
    (few : (r.step op).tooManyGaps = false) : InOrder content (r.step op) := by
  cases op with
  | addStreamFrame frame timeStamp =>
    obtain ⟨frameOf, timely⟩ := frames frame rfl
    simp only [Receiver.step] at few ⊢
    cases checked : (r.flow.updateHighestReceived r.stream.streamID
      (addUint64 frame.offset frame.dataLen)).2 with
    | some err =>
      simp only [addStreamFrame_refuses checked]
      exact ⟨inOrder.panicked, inOrder.delivery⟩
    | none =>
      simp only [checked, addStreamFrame_pushes checked] at few ⊢
      exact inOrder.push small frameOf timely _ (recordPush_tooManyGaps few).2
  | push frame timeStamp =>
    obtain ⟨frameOf, timely⟩ := frames frame rfl
    exact inOrder.push small frameOf timely r.flow (recordPush_tooManyGaps few).2
  | read length clock => exact inOrder.read small length clock

theorem step_tooManyGaps (few : (r.step op).tooManyGaps = false) : r.tooManyGaps = false := by
  cases op with
  | addStreamFrame frame timeStamp =>
    simp only [Receiver.step] at few
    split at few
    · exact few
    · exact (recordPush_tooManyGaps few).1
  | push frame timeStamp => exact (recordPush_tooManyGaps few).1
  | read length clock =>
    simp only [Receiver.step] at few
    split at few
    · exact few
    · exact few

end Step

/-! ## Whole runs -/

section Run

variable {content : List UInt8} {streamID : Nat} {flow : FlowControlManager}

theorem run_concat (ops : List ReceiveOp) (op : ReceiveOp) :
    run streamID flow (ops ++ [op]) = (run streamID flow ops).step op :=
  foldl_concat _ _ _ _

/-- All frames carry parts of the content, and the fin bit is timely. -/
def Orderly (content : List UInt8) (streamID : Nat) (flow : FlowControlManager)
    (ops : List ReceiveOp) : Prop :=
  ∀ before op after, ops = before ++ op :: after → ∀ frame, op.frame? = some frame →
    FrameOf content frame ∧ (run streamID flow before).FinTimely frame

theorem orderly_concat (ops : List ReceiveOp) (op : ReceiveOp) :
    Orderly content streamID flow (ops ++ [op]) ↔
      Orderly content streamID flow ops ∧ ∀ frame, op.frame? = some frame →
        FrameOf content frame ∧ (run streamID flow ops).FinTimely frame := by
  constructor
  · intro orderly
    refine ⟨fun before call after split => ?_, orderly ops op [] rfl⟩
    refine orderly before call (after ++ [op]) ?_
    rw [split, append_assoc, cons_append]
  · rintro ⟨earlier, last⟩ before call after split
    rcases eq_nil_or_concat' after with rfl | ⟨after, final, rfl⟩
    · obtain ⟨rfl, same⟩ := append_inj' split rfl
      obtain ⟨rfl, -⟩ := List.cons.inj same
      exact last
    · rw [← cons_append, ← append_assoc] at split
      exact earlier before call after (append_inj' split rfl).1

theorem inOrder_run (small : content.length < 2 ^ 63) (ops : List ReceiveOp)
    (orderly : Orderly content streamID flow ops)
    (few : (run streamID flow ops).tooManyGaps = false) :
    InOrder content (run streamID flow ops) := by
  induction ops using List.reverseRecOn with
  | nil => exact inOrder_start content streamID flow
  | append_singleton ops op ih =>
    obtain ⟨earlier, last⟩ := (orderly_concat ops op).mp orderly
    rw [run_concat] at few ⊢
    exact (ih earlier (step_tooManyGaps few)).step small last few

/-- The frames that reached the sorter cover the content, and one of them has the fin bit. -/
def AllPushed (content : List UInt8) (r : Receiver) : Prop :=
  (∀ p < content.length, ∃ f ∈ r.pushed, p ∈ f.bytes) ∧ ∃ f ∈ r.pushed, f.finBit = true

theorem read_pushed (length : Nat) (clock : Nat → FlowEnv) :
    (r.step (.read length clock)).pushed = r.pushed := by
  simp only [step]
  split <;> rfl

theorem read_eof {r : Receiver} (eof : r.eof = true) (length : Nat) (clock : Nat → FlowEnv) :
    (r.step (.read length clock)).eof = true := by
  simp only [step]
  split
  · exact eof
  · rw [eof, Bool.true_or]

/-- Once everything has arrived, a call of `Read` fills its buffer or meets the end. -/
theorem InOrder.read_progress {r : Receiver} (inOrder : InOrder content r)
    (small : content.length < 2 ^ 63) (all : AllPushed content r) (length : Nat)
    (clock : Nat → FlowEnv) :
    (r.step (.read length clock)).eof = true ∨
      r.delivered.length + length ≤ (r.step (.read length clock)).delivered.length := by
  rcases inOrder.delivery with ⟨-, -, eof⟩ | ⟨reader, -, -, received, known⟩
  · exact Or.inl (read_eof eof length clock)
  · have complete : Stream.Complete content r.stream := by
      refine ⟨fun p within => ?_, known all.2⟩
      obtain ⟨f, member, inFrame⟩ := all.1 p within
      exact received f member p inFrame
    obtain ⟨result, copied, eq, reads⟩ := reader.read small r.flow clock length
    simp only [Receiver.step, eq]
    rcases reads.outcome with ⟨-, -, -, -, incomplete⟩ | ⟨returned, -, -, filled⟩ | ⟨returned, -⟩
    · exact absurd complete incomplete
    · right
      simp only [returned, Stream.ReadOutcome.data, length_append]
      exact length_append ▸ Nat.add_le_add_left (filled complete) _
    · left
      simp only [returned, Stream.ReadOutcome.isEOF, Bool.or_true]

/-- Calls of `Read` with the given buffer sizes. -/
def readOps (reads : List (Nat × (Nat → FlowEnv))) : List ReceiveOp :=
  reads.map fun call => .read call.1 call.2

/-- Enough calls of `Read` return the rest of the content and the end of the stream. -/
theorem InOrder.readToEnd (small : content.length < 2 ^ 63)
    (reads : List (Nat × (Nat → FlowEnv))) : ∀ r : Receiver, InOrder content r →
      AllPushed content r →
      (r.eof = true ∨ content.length < r.delivered.length + (reads.map Prod.fst).sum) →
        ((readOps reads).foldl Receiver.step r).delivered = content ∧
          ((readOps reads).foldl Receiver.step r).eof = true := by
  induction reads with
  | nil =>
    intro r inOrder all enough
    rcases inOrder.delivery with ⟨-, delivered, eof⟩ | ⟨-, delivered, noEOF, -⟩
    · exact ⟨delivered, eof⟩
    · rcases enough with eof | enough
      · rw [noEOF] at eof
        cases eof
      · have few : r.delivered.length ≤ content.length := by
          rw [delivered, length_take]
          exact min_le_right _ _
        simp only [map_nil, sum_nil] at enough
        omega
  | cons call reads ih =>
    intro r inOrder all enough
    have all' : AllPushed content (r.step (.read call.1 call.2)) := by
      unfold AllPushed
      rw [read_pushed]
      exact all
    refine ih (r.step (.read call.1 call.2)) (inOrder.read small call.1 call.2) all' ?_
    rcases enough with eof | enough
    · exact Or.inl (read_eof eof call.1 call.2)
    · refine (inOrder.read_progress small all call.1 call.2).imp id fun progress => ?_
      simp only [map_cons, sum_cons] at enough
      omega

end Run

end Receiver

/-! ## The result -/

open Receiver

/-- Reading a reliable stream delivers its content in order, the end of the stream is
reported only behind all of it, and once the content and the fin bit have arrived it can be
read to the end. -/
theorem reliableStream_delivers (streamID : Nat) (flow : FlowControlManager)
    (content : List UInt8) (small : content.length < 2 ^ 63) (ops : List ReceiveOp)
    (orderly : Orderly content streamID flow ops)
    (few : (run streamID flow ops).tooManyGaps = false) :
    (run streamID flow ops).panicked = false ∧
      (run streamID flow ops).delivered <+: content ∧
      ((run streamID flow ops).eof = true →
        (run streamID flow ops).delivered = content) ∧
      (AllPushed content (run streamID flow ops) →
        ∀ reads : List (Nat × (Nat → FlowEnv)),
          content.length < (run streamID flow ops).delivered.length +
              (reads.map Prod.fst).sum →
            (run streamID flow (ops ++ readOps reads)).delivered = content ∧
              (run streamID flow (ops ++ readOps reads)).eof = true) := by
  have inOrder := inOrder_run small ops orderly few
  refine ⟨inOrder.panicked, ?_, fun eof => ?_, fun all reads enough => ?_⟩
  · rcases inOrder.delivery with ⟨-, delivered, -⟩ | ⟨-, delivered, -⟩
    · exact ⟨[], by rw [delivered, append_nil]⟩
    · rw [delivered]
      exact take_prefix _ _
  · rcases inOrder.delivery with ⟨-, delivered, -⟩ | ⟨-, -, noEOF, -⟩
    · exact delivered
    · rw [noEOF] at eof
      cases eof
  · have finished := InOrder.readToEnd small reads _ inOrder all (Or.inr enough)
    unfold run at finished ⊢
    rw [foldl_append]
    exact finished

/-- A clock that stands still. -/
def still : Nat → FlowEnv := fun _ => { now := 0, smoothedRTT := 0 }

/-- The end of a content of four bytes, with the fin bit. -/
def lastTwo : StreamFrame := { streamID := 5, finBit := true, offset := 2, data := [3, 4] }

/-- The end of the content arrives before its beginning, which overlaps with it, and then
once more. -/
def overlapping : List ReceiveOp :=
  [.push lastTwo 0, .push { streamID := 5, data := [1, 2, 3] } 0, .push lastTwo 0, .read 10 still]

theorem orderly_overlapping (flow : FlowControlManager) :
    Orderly [1, 2, 3, 4] 5 flow overlapping := by
  have lastTwo_of : FrameOf [1, 2, 3, 4] lastTwo := ⟨rfl, by decide, fun _ => rfl⟩
  refine (orderly_concat [_, _, _] _).mpr ⟨?_, fun frame isFrame => by cases isFrame⟩
  refine (orderly_concat [_, _] _).mpr ⟨?_, fun frame isFrame => ?_⟩
  · refine (orderly_concat [_] _).mpr ⟨?_, fun frame isFrame => ?_⟩
    · refine (orderly_concat [] _).mpr ⟨fun before op after split => ?_, ?_⟩
      · simp at split
      · rintro frame ⟨rfl⟩
        exact ⟨lastTwo_of, fun _ => Or.inl (Or.inr (Or.inl ⟨_, mem_cons_self, by decide,
          by decide⟩))⟩
    · obtain rfl := Option.some.inj isFrame
      exact ⟨⟨rfl, by decide, fun fin => by cases fin⟩, fun fin => by cases fin⟩
  · -- nothing of the frame is missing any more, and its first copy is queued
    obtain rfl := Option.some.inj isFrame
    refine ⟨lastTwo_of, fun _ => Or.inr ⟨fun p inFrame missing => ?_, Or.inr ⟨2, _, rfl, rfl⟩⟩⟩
    have below : p < 4 := inFrame.2
    rcases missing with ⟨gap, member, start, -⟩ | beyond
    · obtain rfl := mem_singleton.mp member
      have beyond : 4 ≤ p := start
      omega
    · exact absurd (beyond.trans_lt below) (by decide)

theorem reliableStream_delivers_overlapping :
    (run 5 (newFlowControlManager (serverParameters 0 0)) overlapping).delivered <+:
        [1, 2, 3, 4] ∧
      (run 5 (newFlowControlManager (serverParameters 0 0)) overlapping).delivered =
        [1, 2, 3, 4] ∧
      (run 5 (newFlowControlManager (serverParameters 0 0)) overlapping).eof = true :=
  ⟨(reliableStream_delivers 5 _ [1, 2, 3, 4] (by decide) _ (orderly_overlapping _)
    (by decide)).2.1, by decide, by decide⟩

/-- The last two bytes of a content of four bytes, then all of it with the fin bit. -/
def cutShort : List ReceiveOp :=
  [.push { streamID := 5, offset := 2, data := [3, 4] } 0,
    .push { streamID := 5, finBit := true, data := [1, 2, 3, 4] } 0, .read 10 still]

/-- The second frame is cut to its first two bytes and keeps its fin bit. The reader is told
that the stream ends after two of its four bytes. -/
theorem reliableStream_cutShort :
    (∀ op ∈ cutShort, ∀ frame, op.frame? = some frame → FrameOf [1, 2, 3, 4] frame) ∧
      (run 5 (newFlowControlManager (serverParameters 0 0)) cutShort).tooManyGaps = false ∧
      (run 5 (newFlowControlManager (serverParameters 0 0)) cutShort).eof = true ∧
      (run 5 (newFlowControlManager (serverParameters 0 0)) cutShort).delivered =
        [1, 2] := by
  refine ⟨fun op member frame isFrame => ?_, by decide, by decide, by decide⟩
  rcases mem_cons.mp member with rfl | member
  · obtain rfl := Option.some.inj isFrame
    exact ⟨rfl, by decide, fun fin => by cases fin⟩
  · rcases mem_cons.mp member with rfl | member
    · obtain rfl := Option.some.inj isFrame
      exact ⟨rfl, by decide, fun _ => rfl⟩
    · obtain rfl := mem_singleton.mp member
      cases isFrame

end MPQuic
