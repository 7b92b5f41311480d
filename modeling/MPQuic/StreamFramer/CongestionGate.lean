import MPQuic.StreamFramer.Sending
import MPQuic.StreamsMap.RoundRobinCalls

/-!
# Streams on a congestion-limited path

While a path may not send, `RoundRobinIterate2` skips the loop over the reliable streams. It tells
them from the unreliable ones by looking whether `unreliableStreamMark` has an entry, but the map
enters a mark for every stream that is opened on this side, with the value false if the stream is
reliable. So a reliable stream of this side is offered room all the same.

* `roundRobinIterate2_recording`: the calls of the lambda are recorded without changing them.
* `congestionGate_iff`: only streams 1 and 3 and streams with a true mark are called, and only they
  have frames, exactly if no open stream has a false mark.
-/

namespace MPQuic

open StreamsMap StreamFramer List

namespace StreamsMap

/-! ## The calls of an iteration -/

section Recording

variable {σ : Type} (fn : σ → Stream → LambdaResult σ)

/-- The lambda, which also keeps a list of the streams that it was called with. -/
def recording (state : σ × List Stream) (s : Stream) : LambdaResult (σ × List Stream) :=
  let r := fn state.1 s
  { state := (r.state, state.2 ++ [s]), stream := r.stream, cont := r.cont, err := r.err }

/-- A visit without the list. -/
def Visit.forget (visit : Visit (σ × List Stream)) : Visit σ :=
  { map := visit.map, state := visit.state.1, cont := visit.cont, err := visit.err }

/-- Keeping the list changes nothing else. -/
theorem roundRobinIterate2_recording (m : StreamsMap) (sendingAllowed : Bool)
    (state : σ × List Stream) :
    m.roundRobinIterate2 fn sendingAllowed state.1 =
      (m.roundRobinIterate2 (recording fn) sendingAllowed state).forget :=
  roundRobinIterate2_through (fun _ _ => rfl) m sendingAllowed state

/-- The streams that the lambda is called with. -/
def calls (m : StreamsMap) (sendingAllowed : Bool) (state : σ) : List Stream :=
  (m.roundRobinIterate2 (recording fn) sendingAllowed (state, [])).state.2

/-- A lambda that never stops the iteration. -/
def passing (state : Unit) (s : Stream) : LambdaResult Unit :=
  { state, stream := s, cont := true }

/-- The list is that of the calls without their answers. -/
theorem calls_eq_watched (m : StreamsMap) (sendingAllowed : Bool) (state : σ) :
    calls fn m sendingAllowed state = (watched fn m sendingAllowed state).map Call.stream := by
  let view (noted : σ × List (Call σ)) : σ × List Stream := (noted.1, noted.2.map Call.stream)
  have same (noted : σ × List (Call σ)) (s : Stream) :
      (watching fn noted s).through view = recording fn (view noted) s := by
    simp [view, recording, watching, LambdaResult.through]
  exact congrArg (fun visit => visit.state.2)
    (roundRobinIterate2_through same m sendingAllowed (state, []))

section Named

variable {m : StreamsMap} (named : ∀ id s, m.streams.lookup id = some s → s.streamID = id)
  {sendingAllowed : Bool}

include named

theorem mem_order_of_mem_calls {state : σ} {s : Stream}
    (called : s ∈ calls fn m sendingAllowed state) : s.streamID ∈ m.order sendingAllowed := by
  rw [calls_eq_watched] at called
  obtain ⟨call, mem, rfl⟩ := mem_map.mp called
  exact mem_order_of_mem_watched named mem

/-- Every stream in the order is called, if the lambda does not stop. -/
theorem exists_call_passing {id : Nat} (mem : id ∈ m.order sendingAllowed) :
    ∃ s ∈ calls passing m sendingAllowed (), s.streamID = id := by
  have all : allGoOn LambdaResult.goesOn (watched passing m sendingAllowed ()) = true := by
    refine allGoOn_iff.mpr fun call mem => ?_
    obtain ⟨before, answer⟩ := answer_of_mem_watched passing m sendingAllowed () mem
    rw [answer]
    rfl
  obtain ⟨call, called, isID⟩ := mem_map.mp (watched_complete named all mem)
  rw [calls_eq_watched]
  exact ⟨call.stream, mem_map_of_mem called, isID⟩

end Named

end Recording

end StreamsMap

/-! ## Frames of the streams that are called -/

namespace StreamFramer

section Frames

variable {st st' : PopState} {before : List StreamFrame} {id : Nat}

/-- The result has frames from before and frames of one stream. -/
structure Adds (before : List StreamFrame) (id : Nat) (st : PopState) : Prop where
  pointer : st.frame = .lastOfResult → st.res ≠ []
  res : ∀ frame ∈ st.res, frame ∈ before ∨ frame.streamID = id

/-- And the pointer stands at a frame of that stream. -/
structure Names (before : List StreamFrame) (id : Nat) (st : PopState) : Prop
    extends Adds before id st where
  current : st.current.streamID = id

/-- Writing through the pointer changes the frame at the pointer, in the result or not. -/
theorem PopState.updateFrame_cases (pointer : st.frame = .lastOfResult → st.res ≠ [])
    (change : StreamFrame → StreamFrame) :
    ((st.updateFrame change).frame = .lastOfResult → (st.updateFrame change).res ≠ []) ∧
      (st.updateFrame change).current = change st.current ∧
      ∀ frame ∈ (st.updateFrame change).res, frame ∈ st.res ∨ frame = change st.current := by
  unfold PopState.updateFrame PopState.current
  cases atFrame : st.frame with
  | fresh frame => exact ⟨fun stands => (by cases stands), rfl, fun _ mem => Or.inl mem⟩
  | lastOfResult =>
    obtain ⟨front, last, res⟩ := (eq_nil_or_concat st.res).resolve_left (pointer atFrame)
    rw [concat_eq_append] at res
    simp only [res, dropLast_concat, getLast?_concat, Option.map_some,
      Option.toList_some, Option.getD_some]
    refine ⟨fun _ => by simp, trivial, fun frame mem => ?_⟩
    refine (mem_append.mp mem).imp (fun old => mem_append_left _ old) fun new => ?_
    exact mem_singleton.mp new

section

variable (names : Names before id st)

include names

theorem Names.updateFrame (change : StreamFrame → StreamFrame)
    (keeps : ∀ frame, (change frame).streamID = frame.streamID) :
    Names before id (st.updateFrame change) := by
  obtain ⟨pointer, current, res⟩ := PopState.updateFrame_cases names.pointer change
  refine ⟨⟨pointer, fun frame mem => ?_⟩, ?_⟩
  · rcases res frame mem with old | rfl
    · exact names.res frame old
    · exact Or.inr ((keeps _).trans names.current)
  · rw [current, keeps, names.current]

theorem Names.of_frames (res : st'.res = st.res) (frame : st'.frame = st.frame) :
    Names before id st' := by
  have current : st'.current = st.current := by
    unfold PopState.current
    rw [frame, res]
  exact ⟨⟨by rw [res, frame]; exact names.pointer, by rw [res]; exact names.res⟩,
    by rw [current]; exact names.current⟩

theorem Names.appendFrame (maxBytes frameHeaderBytes : Nat) :
    Adds before id (st.appendFrame maxBytes frameHeaderBytes) := by
  refine ⟨fun _ => by simp [PopState.appendFrame], ?_⟩
  exact forall_mem_append.mpr ⟨names.res, forall_mem_singleton.mpr (Or.inr names.current)⟩

theorem Names.sendFrame (mark : Option Bool) (maxBytes frameHeaderBytes sendWindowSize : Nat)
    (s : Stream) (data : Option (List UInt8)) :
    Adds before id
      (st.sendFrame mark maxBytes frameHeaderBytes sendWindowSize s data).state := by
  have filled := names.updateFrame (fun frame =>
    { frame with finBit := frame.finBit || s.shouldSendFin, data := data.getD [] }) fun _ => rfl
  unfold PopState.sendFrame
  simp only
  generalize (if s.shouldSendFin then s.sentFin else s) = s'
  apply Names.appendFrame
  apply Names.updateFrame
  · obtain ⟨blocked, queued⟩ := PopState.queueBlocked_eq _ s'.streamID sendWindowSize
    rw [queued]
    exact filled.of_frames rfl rfl
  · exact fun _ => rfl

end

/-- A call of the closure adds frames of its stream, or writes the ID of its stream into the last
frame. -/
theorem adds_popFromStream (marks : AList fun _ : Nat => Bool) (maxBytes : Nat)
    (pointer : st.frame = .lastOfResult → st.res ≠ []) (s : Stream) :
    Adds st.res s.streamID (popFromStream marks maxBytes st s).state := by
  have named : Names st.res s.streamID (st.updateFrame fun frame =>
      { frame with streamID := s.streamID, offset := s.writeOffset }) := by
    obtain ⟨pointer, current, res⟩ := PopState.updateFrame_cases pointer fun frame =>
      { frame with streamID := s.streamID, offset := s.writeOffset }
    refine ⟨⟨pointer, fun frame mem => ?_⟩, by rw [current]⟩
    exact (res frame mem).imp_right fun same => by rw [same]
  unfold popFromStream
  split
  · exact ⟨pointer, fun _ mem => Or.inl mem⟩
  · simp only
    generalize (st.updateFrame fun frame =>
      { frame with streamID := s.streamID, offset := s.writeOffset }) = st' at named ⊢
    split
    · exact named.toAdds
    · unfold PopState.fillFrame
      simp only
      split_ifs <;> first | exact named.toAdds | exact named.sendFrame _ _ _ _ _ _

/-- Every frame so far has the ID of a stream in the list. -/
structure Attributed (state : PopState × List Stream) : Prop where
  pointer : state.1.frame = .lastOfResult → state.1.res ≠ []
  res : ∀ frame ∈ state.1.res, ∃ s ∈ state.2, s.streamID = frame.streamID

theorem Attributed.call {state : PopState × List Stream} (attributed : Attributed state)
    (marks : AList fun _ : Nat => Bool) (maxBytes : Nat) (s : Stream) :
    Attributed (recording (popFromStream marks maxBytes) state s).state := by
  have adds := adds_popFromStream marks maxBytes attributed.pointer s
  refine ⟨adds.pointer, fun frame mem => ?_⟩
  rcases adds.res frame mem with old | new
  · obtain ⟨earlier, logged, same⟩ := attributed.res frame old
    exact ⟨earlier, mem_append_left _ logged, same⟩
  · exact ⟨s, mem_append_right _ (mem_singleton_self s), new.symm⟩

/-- Every frame belongs to a stream that the closure was called with. -/
theorem exists_call_of_frame (m : StreamsMap) (f : StreamFramer) (flow : FlowControlManager)
    (maxBytes : Nat) (sendingAllowed : Bool) :
    ∀ frame ∈ (f.maybePopNormalFrames m flow maxBytes sendingAllowed).res,
      ∃ s ∈ calls (popFromStream m.unreliableStreamMark maxBytes) m sendingAllowed
        (initialPopState f flow), s.streamID = frame.streamID := by
  have call : CallKeeps (recording (popFromStream m.unreliableStreamMark maxBytes))
      fun _ state => Attributed state :=
    fun _ _ _ s attributed _ => attributed.call _ _ s
  have start : Attributed (initialPopState f flow, []) :=
    ⟨fun stands => (by cases stands), forall_mem_nil _⟩
  have final : Attributed (m.roundRobinIterate2
      (recording (popFromStream m.unreliableStreamMark maxBytes)) sendingAllowed
      (initialPopState f flow, [])).state :=
    roundRobinIterate2_invariant call (fun _ _ attributed => attributed)
      (fun _ _ attributed => attributed) start sendingAllowed
  unfold maybePopNormalFrames
  rw [roundRobinIterate2_recording _ m sendingAllowed (initialPopState f flow, [])]
  exact final.res

end Frames

end StreamFramer

/-! ## The gate -/

/-- The streams that a congestion-limited path may serve. -/
def StreamsMap.PassesGate (m : StreamsMap) (id : Nat) : Prop :=
  id = 1 ∨ id = 3 ∨ m.unreliableStreamMark.lookup id = some true

/-- A congestion-limited path serves only the crypto stream, the header stream and streams with a
true mark, exactly if no other open stream has a false mark. -/
theorem congestionGate_iff (m : StreamsMap)
    (named : ∀ id s, m.streams.lookup id = some s → s.streamID = id) :
    ((∀ (σ : Type) (fn : σ → Stream → LambdaResult σ) (state : σ),
        ∀ s ∈ calls fn m false state, m.PassesGate s.streamID) ∧
      ∀ (f : StreamFramer) (flow : FlowControlManager) (maxBytes : Nat),
        ∀ frame ∈ (f.maybePopNormalFrames m flow maxBytes false).res,
          m.PassesGate frame.streamID) ↔
      ∀ id ∈ m.streams, id ≠ 1 → id ≠ 3 → m.unreliableStreamMark.lookup id ≠ some false := by
  constructor
  · rintro ⟨gate, -⟩ id opened notCrypto notHeader marked
    have mem : id ∈ m.order false :=
      mem_order.mpr ⟨opened, Or.inr (Or.inr (Or.inr (MapSum.mem_of_lookup marked)))⟩
    obtain ⟨s, called, rfl⟩ := exists_call_passing named mem
    have passes := gate Unit passing () s called
    rw [PassesGate, marked] at passes
    simp [notCrypto, notHeader] at passes
  · intro unmarked
    have gate : ∀ (σ : Type) (fn : σ → Stream → LambdaResult σ) (state : σ),
        ∀ s ∈ calls fn m false state, m.PassesGate s.streamID := by
      intro σ fn state s called
      by_cases notCrypto : s.streamID = 1
      · exact Or.inl notCrypto
      by_cases notHeader : s.streamID = 3
      · exact Or.inr (Or.inl notHeader)
      obtain ⟨opened, allowed⟩ := mem_order.mp (mem_order_of_mem_calls fn named called)
      obtain ⟨mark, entry⟩ := MapSum.exists_lookup
        (show s.streamID ∈ m.unreliableStreamMark by simpa [notCrypto, notHeader] using allowed)
      cases mark with
      | false => exact absurd entry (unmarked s.streamID opened notCrypto notHeader)
      | true => exact Or.inr (Or.inr entry)
    refine ⟨gate, fun f flow maxBytes frame mem => ?_⟩
    obtain ⟨s, called, same⟩ := exists_call_of_frame m f flow maxBytes false frame mem
    exact same ▸ gate _ _ _ s called

/-- A client opens its crypto and header streams and a third stream, and writes to that one. -/
def threeStreamClient (third : SenderOp) : Sender :=
  Sender.run .client (newFlowControlManager (clientParameters 0 0))
    [.openStream, .openStream, third, .write 5 [1, 2, 3]]

theorem threeStreamClient_named (third : SenderOp) (quiet : ∀ sender, third.Safe sender) :
    ∀ id s, (threeStreamClient third).streamsMap.streams.lookup id = some s → s.streamID = id := by
  have safe := Sender.valid_run .client (newFlowControlManager (clientParameters 0 0))
    [.openStream, .openStream, third, .write 5 [1, 2, 3]] (Runs.EachStep.of_mem ?_)
  · exact fun id s opened => (safe.proper id s opened).1
  · intro op mem sender
    simp only [mem_cons, not_mem_nil, or_false] at mem
    rcases mem with rfl | rfl | rfl | rfl
    · exact trivial
    · exact trivial
    · exact quiet sender
    · exact trivial

theorem congestionGate_unreliable :
    let m := (threeStreamClient .openUnreliableStream).streamsMap
    (∀ id ∈ m.streams, id ≠ 1 → id ≠ 3 → m.unreliableStreamMark.lookup id ≠ some false) ∧
      ∀ (f : StreamFramer) (flow : FlowControlManager) (maxBytes : Nat),
        ∀ frame ∈ (f.maybePopNormalFrames m flow maxBytes false).res,
          m.PassesGate frame.streamID := by
  intro m
  have unmarked : ∀ id ∈ m.streams, id ≠ 1 → id ≠ 3 →
      m.unreliableStreamMark.lookup id ≠ some false := by
    intro id opened notCrypto notHeader
    have keys : m.streams.keys = [5, 3, 1] := rfl
    rw [AList.mem_keys, keys] at opened
    simp only [mem_cons, not_mem_nil, or_false, notCrypto, notHeader] at opened
    rw [opened]
    decide
  have named := threeStreamClient_named .openUnreliableStream fun _ => trivial
  exact ⟨unmarked, ((congestionGate_iff m named).mpr unmarked).2⟩

/-- The third stream is reliable, and its data goes out on the limited path. -/
theorem congestionGate_reliable :
    let sender := threeStreamClient .openStream
    sender.streamsMap.unreliableStreamMark.lookup 5 = some false ∧
      (calls passing sender.streamsMap false ()).map Stream.streamID = [1, 3, 5] ∧
      (sender.framer.maybePopNormalFrames sender.streamsMap sender.flow 100 false).res =
        [{ streamID := 5, dataLenPresent := true, data := [1, 2, 3] }] ∧
      ¬ sender.streamsMap.PassesGate 5 := by
  refine ⟨by decide, by decide, by decide, ?_⟩
  rintro (crypto | header | marked)
  · cases crypto
  · cases header
  · cases marked

end MPQuic
