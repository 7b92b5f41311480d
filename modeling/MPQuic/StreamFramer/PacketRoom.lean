import MPQuic.StreamFramer.ExactFill

/-!
# The room that STREAM frames take

The packer tells the framer how much room a packet has for STREAM frames. Every frame is counted
with its header, and with the two bytes for the length of its data.

* `popRetransmissionLoop_measured`: the frames that are retransmitted take the room that is counted
  for them, also when one of them is split.
* `maybePopNormalFrames_sizes_iff`: the new frames take more than their room exactly if the last one
  is overwritten and gets a longer header by it.
-/

namespace MPQuic

open StreamsMap List StreamFrame

/-- The bytes that the frame takes in a packet. -/
def StreamFrame.size (f : StreamFrame) : Nat := f.minLength + f.dataLen

namespace Stream

variable {s s' : Stream} {frame : StreamFrame}

/-- A stream that takes a frame still counts in a 64-bit word. -/
theorem Takes.writeOffset_lt (takes : s.Takes frame s') : s'.writeOffset < 2 ^ 64 := by
  rw [takes.rest]
  exact Nat.mod_lt _ (by decide)

theorem Takes.size_eq (takes : s.Takes frame s') (length : frame.dataLenPresent = true) :
    frame.size = s.headerLength + frame.data.length := by
  simp only [StreamFrame.size, headerLength, minLength,
    calculateStreamIDLength, getOffsetLength, takes.streamID, takes.offset,
    length, dataLen]

end Stream

namespace StreamFramer

def sizes (frames : List StreamFrame) : Nat := (frames.map StreamFrame.size).sum

theorem sizes_append (front back : List StreamFrame) :
    sizes (front ++ back) = sizes front + sizes back := by
  simp [sizes]

theorem sizes_singleton (frame : StreamFrame) : sizes [frame] = frame.size := by
  simp [sizes]

/-- The frames take `currentLen` of `maxLen` bytes, each with the length of its data. -/
structure Measured (maxLen : Nat) (frames : List StreamFrame) (currentLen : Nat) : Prop where
  sizes : sizes frames = currentLen
  within : currentLen ≤ maxLen
  lengths : ∀ frame ∈ frames, frame.dataLenPresent = true

variable {maxLen maxBytes currentLen : Nat} {frames : List StreamFrame} {frame : StreamFrame}
  {s : Stream} {m : StreamsMap} {flow : FlowControlManager}

theorem measured_nil (maxLen : Nat) : Measured maxLen [] 0 :=
  ⟨rfl, Nat.zero_le maxLen, forall_mem_nil _⟩

theorem Measured.snoc {newLen : Nat}
    (measured : Measured maxLen frames currentLen) (length : frame.dataLenPresent = true)
    (counted : newLen = currentLen + frame.size) (fits : newLen ≤ maxLen) :
    Measured maxLen (frames ++ [frame]) newLen := by
  refine ⟨?_, fits, ?_⟩
  · rw [sizes_append, measured.sizes, sizes_singleton, counted]
  · exact forall_mem_append.mpr ⟨measured.lengths, forall_mem_singleton.mpr length⟩

/-! ## Retransmissions -/

/-- A frame that is split off has the header of the whole frame and as much data as asked for. -/
theorem size_of_split {frame first rest : StreamFrame} {n : Nat}
    (split : maybeSplitOffFrame frame n = some (first, rest)) :
    first.dataLenPresent = frame.dataLenPresent ∧ first.dataLen = n ∧
      first.size = frame.minLength + n := by
  unfold maybeSplitOffFrame at split
  split at split
  · cases split
  · rename_i longer
    cases split
    have taken : (frame.data.take n).length = n := by
      rw [length_take]
      exact min_eq_left (Nat.le_of_not_le longer)
    exact ⟨rfl, taken, congrArg (frame.minLength + ·) taken⟩

theorem le_of_not_split {n : Nat}
    (whole : maybeSplitOffFrame frame n = none) : frame.dataLen ≤ n := by
  unfold maybeSplitOffFrame at whole
  split at whole
  · assumption
  · cases whole

/-- A frame that is split takes all the room that is left. -/
theorem popRetransmissionLoop_measured (maxLen : Nat) :
    ∀ (queue : List StreamFrame) (flow : FlowControlManager) (res : List StreamFrame)
      (currentLen : Nat), Measured maxLen res currentLen →
      Measured maxLen (popRetransmissionLoop maxLen queue flow res currentLen).res
        (popRetransmissionLoop maxLen queue flow res currentLen).currentLen := by
  intro queue
  induction queue with
  | nil => exact fun _ _ _ measured => measured
  | cons frame queue ih =>
    intro flow res currentLen measured
    rw [popRetransmissionLoop]
    generalize marked : ({ frame with dataLenPresent := true } : StreamFrame) = whole
    have length : whole.dataLenPresent = true := by rw [← marked]
    simp only
    split
    · exact measured
    · rename_i fits
      split
      · rename_i first rest split
        obtain ⟨sameLength, dataLen, size⟩ := size_of_split split
        refine measured.snoc (sameLength.trans length) ?_ ?_
        · rw [size, dataLen, add_assoc]
        · show currentLen + whole.minLength + first.dataLen ≤ maxLen
          omega
      · rename_i notSplit
        have data := le_of_not_split notSplit
        apply ih
        refine measured.snoc length ?_ ?_
        · rw [StreamFrame.size, add_assoc]
        · omega

/-! ## New frames -/

/-- Every frame that the closure has made, or is about to, has the length of its data. -/
structure LengthsPresent (st : PopState) : Prop where
  res : ∀ frame ∈ st.res, frame.dataLenPresent = true
  appended : ∀ frame ∈ st.appended, frame.dataLenPresent = true
  fresh : ∀ frame, st.frame = .fresh frame → frame.dataLenPresent = true

namespace LengthsPresent

variable {st : PopState}

section

variable (present : LengthsPresent st)

include present

theorem current : st.current.dataLenPresent = true := by
  unfold PopState.current
  cases pointer : st.frame with
  | fresh frame => exact present.fresh frame pointer
  | lastOfResult =>
    cases last : st.res.getLast? with
    | none => rfl
    | some frame => exact present.res frame (mem_of_getLast? last)

theorem of_frames {st' : PopState} (res : st'.res = st.res)
    (appended : st'.appended = st.appended) (frame : st'.frame = st.frame) : LengthsPresent st' :=
  ⟨res ▸ present.res, appended ▸ present.appended, frame ▸ present.fresh⟩

theorem updateFrame (change : StreamFrame → StreamFrame)
    (keeps : ∀ frame, (change frame).dataLenPresent = frame.dataLenPresent) :
    LengthsPresent (st.updateFrame change) := by
  unfold PopState.updateFrame
  cases pointer : st.frame with
  | fresh frame =>
    refine ⟨present.res, present.appended, ?_⟩
    rintro _ ⟨⟩
    rw [keeps]
    exact present.fresh frame pointer
  | lastOfResult =>
    refine ⟨?_, present.appended, ?_⟩
    · intro frame mem
      rcases mem_append.mp mem with front | changed
      · exact present.res frame (mem_of_mem_dropLast front)
      · rw [Option.mem_toList, Option.map_eq_some_iff] at changed
        obtain ⟨last, found, rfl⟩ := changed
        rw [keeps]
        exact present.res last (mem_of_getLast? found)
    · rintro _ ⟨⟩

theorem appendFrame (maxBytes frameHeaderBytes : Nat) :
    LengthsPresent (st.appendFrame maxBytes frameHeaderBytes) := by
  have more : ∀ frames : List StreamFrame, (∀ frame ∈ frames, frame.dataLenPresent = true) →
      ∀ frame ∈ frames ++ [st.current], frame.dataLenPresent = true := fun _ before =>
    forall_mem_append.mpr ⟨before, forall_mem_singleton.mpr present.current⟩
  refine ⟨more _ present.res, more _ present.appended, ?_⟩
  intro frame fresh
  unfold PopState.appendFrame at fresh
  simp only at fresh
  split at fresh
  · cases fresh
  · cases fresh
    rfl

theorem sendFrame (mark : Option Bool)
    (maxBytes frameHeaderBytes sendWindowSize : Nat) (s : Stream) (data : Option (List UInt8)) :
    LengthsPresent
      (st.sendFrame mark maxBytes frameHeaderBytes sendWindowSize s data).state := by
  have filled := present.updateFrame (fun frame =>
    { frame with finBit := frame.finBit || s.shouldSendFin, data := data.getD [] }) fun _ => rfl
  unfold PopState.sendFrame
  simp only
  generalize (if s.shouldSendFin then s.sentFin else s) = s'
  apply appendFrame
  apply updateFrame
  · obtain ⟨blocked, queued⟩ := PopState.queueBlocked_eq _ s'.streamID sendWindowSize
    rw [queued]
    exact filled.of_frames rfl rfl rfl
  · exact fun _ => rfl

theorem popFromStream (marks : AList fun _ : Nat => Bool) (maxBytes : Nat) (s : Stream) :
    LengthsPresent (popFromStream marks maxBytes st s).state := by
  have named := present.updateFrame (fun frame =>
    { frame with streamID := s.streamID, offset := s.writeOffset }) fun _ => rfl
  unfold StreamFramer.popFromStream
  split
  · exact present
  · simp only
    generalize (st.updateFrame fun frame =>
      { frame with streamID := s.streamID, offset := s.writeOffset }) = st' at named ⊢
    split
    · exact named
    · unfold PopState.fillFrame
      simp only
      split_ifs <;> first | exact named | exact named.sendFrame _ _ _ _ _ _

end

end LengthsPresent

/-- What holds between two calls of the closure, wherever its pointer stands. -/
structure Collected (maxBytes : Nat) (st : PopState) : Prop where
  present : LengthsPresent st
  measured : Measured maxBytes st.appended st.currentLen
  carries : ∀ frame ∈ st.res, frame.data ≠ [] ∨ frame.finBit = true
  pointer : Fresh st ∨ st.frame = .lastOfResult ∧ st.currentLen = maxBytes ∧ st.res ≠ []

theorem collected_initial (f : StreamFramer) (flow : FlowControlManager) (maxBytes : Nat) :
    Collected maxBytes (initialPopState f flow) where
  present := by
    refine ⟨forall_mem_nil _, forall_mem_nil _, ?_⟩
    rintro _ ⟨⟩
    rfl
  measured := measured_nil maxBytes
  carries := forall_mem_nil _
  pointer := .inl ⟨newFrame, rfl, unused_newFrame⟩

theorem Collected.carries_snoc {st : PopState} {s s' : Stream}
    (collected : Collected maxBytes st) (takes : s.Takes frame s') :
    ∀ other ∈ st.res ++ [frame], other.data ≠ [] ∨ other.finBit = true :=
  forall_mem_append.mpr ⟨collected.carries, forall_mem_singleton.mpr takes.carries⟩

/-- One call of the closure. -/
theorem Collected.popFromStream {st : PopState} (collected : Collected maxBytes st)
    (marks : AList fun _ : Nat => Bool) (small : s.writeOffset < 2 ^ 64) :
    Collected maxBytes (popFromStream marks maxBytes st s).state ∧
      (popFromStream marks maxBytes st s).stream.writeOffset < 2 ^ 64 := by
  have present := collected.present.popFromStream marks maxBytes s
  by_cases crypto : s.streamID = 1
  · have passes : StreamFramer.popFromStream marks maxBytes st s =
        { state := st, stream := s, cont := true } := by
      unfold StreamFramer.popFromStream
      rw [if_pos crypto]
    rw [passes]
    exact ⟨collected, small⟩
  rcases collected.pointer with ⟨frame, pointer, unused⟩ | ⟨pointer, full, nonempty⟩
  · have offered := popFromStream_offered marks pointer unused collected.measured.within crypto
      small
    have within := collected.measured.within
    generalize StreamFramer.popFromStream marks maxBytes st s = result at present offered
    cases offered with
    | tooSmall _ unused =>
      exact ⟨⟨present, collected.measured, collected.carries, .inl ⟨_, rfl, unused⟩⟩, small⟩
    | nothing _ _ unused =>
      exact ⟨⟨present, collected.measured, collected.carries, .inl ⟨_, rfl, unused⟩⟩, small⟩
    | @sent frame _ n _ fits _ takes length =>
      have lengthPresent := present.appended frame
        (mem_append_right _ (mem_singleton_self _))
      have size := takes.size_eq lengthPresent
      refine ⟨⟨present, ?_, collected.carries_snoc takes, ?_⟩, takes.writeOffset_lt⟩
      · refine collected.measured.snoc lengthPresent ?_ ?_
        · rw [size, length]
        · show st.currentLen + (s.headerLength + n) ≤ maxBytes
          omega
      · exact .inl ⟨_, rfl, unused_newFrame⟩
    | @filled frame _ n _ used _ takes length =>
      have lengthPresent := present.appended frame
        (mem_append_right _ (mem_singleton_self _))
      have size := takes.size_eq lengthPresent
      refine ⟨⟨present, ?_, collected.carries_snoc takes, ?_⟩, takes.writeOffset_lt⟩
      · refine collected.measured.snoc lengthPresent ?_ (le_refl maxBytes)
        show maxBytes = st.currentLen + frame.size
        omega
      · exact .inr ⟨rfl, rfl, by simp⟩
  · obtain ⟨front, frame, res⟩ := (eq_nil_or_concat' st.res).resolve_left nonempty
    have overwrites := popFromStream_overwrites marks pointer full res crypto
    rw [overwrites] at present ⊢
    refine ⟨⟨present, collected.measured, ?_, .inr ⟨pointer, full, by simp⟩⟩, small⟩
    have carries := collected.carries
    rw [res] at carries
    obtain ⟨before, last⟩ := forall_mem_append.mp carries
    exact forall_mem_append.mpr ⟨before, forall_mem_singleton.mpr (last frame mem_cons_self)⟩

/-- All three loops. -/
theorem collected_roundRobinIterate2 (proper : m.Proper)
    (marks : AList fun _ : Nat => Bool) (f : StreamFramer) (flow : FlowControlManager)
    (maxBytes : Nat) (sendingAllowed : Bool) :
    Collected maxBytes (m.roundRobinIterate2 (popFromStream marks maxBytes) sendingAllowed
      (initialPopState f flow)).state := by
  let Keeps : StreamsMap → PopState → Prop := fun m st =>
    (∀ id s, m.streams.lookup id = some s → s.writeOffset < 2 ^ 64) ∧ Collected maxBytes st
  have call : CallKeeps (popFromStream marks maxBytes) Keeps := by
    rintro m st id s ⟨small, collected⟩ opened
    obtain ⟨next, smallNext⟩ := collected.popFromStream marks (small id s opened)
    refine ⟨?_, next⟩
    intro other s' openedNext
    rcases lookup_of_setStream openedNext with ⟨rfl, rfl⟩ | ⟨-, old⟩
    · exact smallNext
    · exact small other s' old
  have start : Keeps m (initialPopState f flow) :=
    ⟨fun id s opened => (proper id s opened).2, collected_initial f flow maxBytes⟩
  exact (roundRobinIterate2_invariant call (fun _ _ keeps => keeps) (fun _ _ keeps => keeps) start
    sendingAllowed).2

/-! ## The overwritten frame -/

/-- The room is used up by a stream without a mark, and the first stream with a mark, which is
offered the same frame, needs a longer header. -/
def HeaderGrows (m : StreamsMap) (flow : FlowControlManager) (maxBytes : Nat)
    (sendingAllowed : Bool) : Prop :=
  sendingAllowed = true ∧ ∃ filling marked, FillsRoom m flow maxBytes filling ∧
    firstMarked m = some marked ∧ filling.headerLength < marked.headerLength

theorem full_of_filler {streams : Nat → Option Stream} :
    ∀ {ids : List Nat} {flow : FlowControlManager} {room : Nat},
      filler streams ids flow room = some s → fill streams ids flow room = .full := by
  intro ids
  induction ids with
  | nil =>
    intro flow room fills
    cases fills
  | cons id ids ih =>
    intro flow room fills
    rw [filler] at fills
    rw [fill]
    cases opened : streams id with
    | none =>
      simp only [opened] at fills
      exact ih fills
    | some other =>
      simp only [opened] at fills ⊢
      cases one : fillOne other flow room with
      | tooSmall =>
        rw [one] at fills
        cases fills
      | full => rfl
      | room flow' room' =>
        simp only [one] at fills
        exact ih fills

theorem FillsRoom.unique {s s' : Stream}
    (fills : FillsRoom m flow maxBytes s) (fills' : FillsRoom m flow maxBytes s') : s = s' := by
  obtain ⟨flow1, room1, left, filler⟩ := fills
  obtain ⟨flow2, room2, left', filler'⟩ := fills'
  obtain ⟨rfl, rfl⟩ := Filling.room.inj (left.symm.trans left')
  exact Option.some.inj (filler.symm.trans filler')

theorem HeaderGrows.overwrites
    {sendingAllowed : Bool} (grows : HeaderGrows m flow maxBytes sendingAllowed) :
    Overwrites m flow maxBytes sendingAllowed := by
  obtain ⟨allowed, filling, marked, ⟨flow', room, left, fills⟩, first, -⟩ := grows
  refine ⟨allowed, exists_marked_iff.mpr ?_, flow', room, left, full_of_filler fills⟩
  intro empty
  rw [firstMarked, empty] at first
  cases first

/-- The header is replaced, the data stays. -/
theorem Overwritten.sizes_eq
    {visit : Visit PopState} {filling marked : Stream} {front : List StreamFrame}
    (overwritten : Overwritten m flow maxBytes visit filling marked front frame)
    (collected : Collected maxBytes visit.state) :
    sizes visit.state.res + filling.headerLength = maxBytes + marked.headerLength := by
  have length : frame.dataLenPresent = true :=
    collected.present.appended frame (by rw [overwritten.appended]; simp)
  have before : sizes front + frame.size = maxBytes := by
    rw [← overwritten.full, ← collected.measured.sizes, overwritten.appended, sizes_append,
      sizes_singleton]
  have header : frame.size = filling.headerLength + frame.dataLen := by
    simp only [StreamFrame.size, Stream.headerLength, minLength,
      calculateStreamIDLength, getOffsetLength, overwritten.streamID,
      overwritten.offset, length]
  have newHeader : ({ frame with
      streamID := marked.streamID, offset := marked.writeOffset } : StreamFrame).size =
        marked.headerLength + frame.dataLen := by
    simp only [StreamFrame.size, Stream.headerLength, minLength,
      calculateStreamIDLength, getOffsetLength, length,
      dataLen]
  rw [overwritten.res, sizes_append, sizes_singleton, newHeader]
  omega

/-- The new frames take more than their room exactly if the last one gets a longer header after
it was counted. -/
theorem maybePopNormalFrames_sizes_iff (f : StreamFramer)
    (flow : FlowControlManager) (maxBytes : Nat) (sendingAllowed : Bool) (proper : m.Proper) :
    maxBytes < sizes (f.maybePopNormalFrames m flow maxBytes sendingAllowed).res ↔
      HeaderGrows m flow maxBytes sendingAllowed := by
  have collected := collected_roundRobinIterate2 proper m.unreliableStreamMark f flow maxBytes
    sendingAllowed
  unfold maybePopNormalFrames
  simp only
  rcases roundRobinIterate2_cases f flow sendingAllowed proper rfl with
    ⟨kept, popping⟩ | ⟨⟨allowed, -⟩, filling, marked, front, frame, overwritten⟩
  · refine iff_of_false ?_ fun grows => kept grows.overwrites
    rw [popping.unaltered, collected.measured.sizes]
    exact not_lt.mpr collected.measured.within
  · have sizes := overwritten.sizes_eq collected
    constructor
    · intro longer
      exact ⟨allowed, filling, marked, overwritten.fills, overwritten.first, by omega⟩
    · rintro ⟨-, filling', marked', fills, first, grows⟩
      cases overwritten.fills.unique fills
      cases overwritten.first.symm.trans first
      omega

/-! ## All STREAM frames of a packet -/

section

variable (f : StreamFramer) {m : StreamsMap} (flow : FlowControlManager) (maxLen : Nat)
  (sendingAllowed : Bool)

/-- The frames that are retransmitted take no more than the room. -/
theorem maybePopFramesForRetransmission_measured :
    Measured maxLen (f.maybePopFramesForRetransmission flow maxLen).2.res
      (f.maybePopFramesForRetransmission flow maxLen).2.currentLen :=
  popRetransmissionLoop_measured maxLen f.retransmissionQueue flow [] 0 (measured_nil maxLen)

theorem maybePopNormalFrames_res (proper : m.Proper) :
    ∀ frame ∈ (f.maybePopNormalFrames m flow maxLen sendingAllowed).res,
      frame.dataLenPresent = true ∧ (frame.data ≠ [] ∨ frame.finBit = true) := by
  have collected := collected_roundRobinIterate2 proper m.unreliableStreamMark f flow maxLen
    sendingAllowed
  exact fun frame mem => ⟨collected.present.res frame mem, collected.carries frame mem⟩

/-- The room that retransmissions leave is overdrawn. -/
def OverdrawsRoom (m : StreamsMap) : Prop :=
  HeaderGrows m (f.maybePopFramesForRetransmission flow maxLen).2.flow
    (maxLen - (f.maybePopFramesForRetransmission flow maxLen).2.currentLen) sendingAllowed

theorem popStreamFrames2_sizes_iff (proper : m.Proper) :
    maxLen < sizes (f.popStreamFrames2 m flow maxLen sendingAllowed).2 ↔
      f.OverdrawsRoom flow maxLen sendingAllowed m := by
  have retransmitted := f.maybePopFramesForRetransmission_measured flow maxLen
  have new := maybePopNormalFrames_sizes_iff (f.maybePopFramesForRetransmission flow maxLen).1
    (f.maybePopFramesForRetransmission flow maxLen).2.flow
    (maxLen - (f.maybePopFramesForRetransmission flow maxLen).2.currentLen) sendingAllowed proper
  have within := retransmitted.within
  rw [OverdrawsRoom, ← new, popStreamFrames2]
  simp only
  rw [sizes_append, retransmitted.sizes]
  omega

theorem popStreamFrames2_lengths (proper : m.Proper) :
    ∀ frame ∈ (f.popStreamFrames2 m flow maxLen sendingAllowed).2,
      frame.dataLenPresent = true := by
  intro frame mem
  rcases mem_append.mp mem with retransmitted | new
  · exact (f.maybePopFramesForRetransmission_measured flow maxLen).lengths frame retransmitted
  · exact (maybePopNormalFrames_res _ _ _ sendingAllowed proper frame new).1

end

end StreamFramer

end MPQuic
