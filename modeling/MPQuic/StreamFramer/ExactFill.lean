import MPQuic.StreamFramer.Taking
import MPQuic.StreamsMap.RoundRobin

/-!
# When the frames are faithful

A call of `maybePopNormalFrames` runs the closure over three loops: the header stream, the
streams without a mark, the streams with a mark. How far each loop gets is a matter of sizes,
and `fill` computes it from the buffered bytes, the windows and the headers before the call.
A loop either leaves room, or stops at a header that does not fit, or fills the room exactly.

If the second loop fills the room exactly, the closure's pointer stays at the frame that was
appended last. Only that loop ends then, not the call. The third loop goes on to the first
stream with a mark and writes its ID and its offset into the frame (`popFromStream_overwrites`).
In every other case the frames are faithful (`maybePopNormalFrames_faithful_iff`).
-/

namespace MPQuic

open StreamsMap List

/-- Every stream stands under its own ID, and its offset is a 64-bit word. -/
def StreamsMap.Proper (m : StreamsMap) : Prop :=
  ∀ id s, m.streams.lookup id = some s → s.streamID = id ∧ s.writeOffset < 2 ^ 64

namespace StreamFramer

/-! ## Faithful frames -/

variable {ids : List Nat} {front : List StreamFrame} {flow : FlowControlManager} (f : StreamFramer)

/-- The frames of each stream take it from its state in `before` to its state in `after`. -/
structure Faithful (before : StreamsMap) (frames : List StreamFrame) (after : StreamsMap) :
    Prop where
  streams : ∀ id s, before.streams.lookup id = some s → ∃ s',
    after.streams.lookup id = some s' ∧ s.TakesAll (frames.filter fun f => f.streamID = id) s'
  known : ∀ frame ∈ frames, frame.streamID ∈ before.streams
  missing : ∀ id, before.streams.lookup id = none → after.streams.lookup id = none

variable {before m : StreamsMap} {frames : List StreamFrame} {frame : StreamFrame}
  {st : PopState} {s s' : Stream} {id maxBytes : Nat} {marks : AList fun _ : Nat => Bool}
  {m' : StreamsMap} {result : LambdaResult PopState} {visit : Visit PopState}

theorem Faithful.refl (before : StreamsMap) : Faithful before [] before :=
  ⟨fun _ s opened => ⟨s, opened, .nil⟩, forall_mem_nil _,
    fun _ missing => missing⟩

/-- Only the streams of the map count. -/
theorem Faithful.congr (faithful : Faithful before frames m)
    (same : ∀ id, m'.streams.lookup id = m.streams.lookup id) : Faithful before frames m' := by
  refine ⟨?_, faithful.known, fun id missing => (same id).trans (faithful.missing id missing)⟩
  intro id s opened
  obtain ⟨s', after, takes⟩ := faithful.streams id s opened
  exact ⟨s', (same id).trans after, takes⟩

/-- One more frame. -/
theorem Faithful.snoc (faithful : Faithful before frames m)
    (opened : m.streams.lookup id = some s) (named : s.streamID = id)
    (known : id ∈ before.streams) (takes : s.Takes frame s') :
    Faithful before (frames ++ [frame]) (m.setStream id s') := by
  have frameID : frame.streamID = id := takes.streamID.trans named
  refine ⟨?_, ?_, ?_⟩
  · intro other old oldOpened
    obtain ⟨mid, midOpened, midTakes⟩ := faithful.streams other old oldOpened
    by_cases same : other = id
    · subst same
      obtain rfl : mid = s := Option.some.inj (midOpened.symm.trans opened)
      refine ⟨s', lookup_setStream_self opened s', ?_⟩
      rw [filter_append, filter_singleton, frameID]
      simpa using midTakes.snoc takes
    · refine ⟨mid, (lookup_setStream_of_ne same s').trans midOpened, ?_⟩
      have skipped : decide (frame.streamID = other) = false := by
        rw [frameID]
        exact decide_eq_false (Ne.symm same)
      rw [filter_append, filter_singleton, skipped]
      simpa using midTakes
  · exact forall_mem_append.mpr ⟨faithful.known, forall_mem_singleton.mpr (frameID ▸ known)⟩
  · intro other missing
    have missingNow := faithful.missing other missing
    have differ : other ≠ id := by
      rintro rfl
      rw [opened] at missingNow
      cases missingNow
    exact (lookup_setStream_of_ne differ s').trans missingNow

/-! ## Sizes -/

/-- How a loop over streams ends: at a header that does not fit, with no room left, or with
the remaining room and the windows after it. -/
inductive Filling where
  | tooSmall
  | full
  | room (flow : FlowControlManager) (room : Nat)

/-- What the next frame of one stream makes of the room. -/
def fillOne (s : Stream) (flow : FlowControlManager) (room : Nat) : Filling :=
  if room < s.headerLength then .tooSmall
  else
    match s.sends flow room with
    | none => .room flow room
    | some n =>
      if s.headerLength + n = room then .full
      else .room (flow.addBytesSent s.streamID n) (room - (s.headerLength + n))

/-- What a loop over streams makes of the room. -/
def fill (streams : Nat → Option Stream) : List Nat → FlowControlManager → Nat → Filling
  | [], flow, room => .room flow room
  | id :: ids, flow, room =>
    match streams id with
    | none => fill streams ids flow room
    | some s =>
      match fillOne s flow room with
      | .room flow room => fill streams ids flow room
      | stopped => stopped

/-- The stream whose frame uses the room up, in a loop over streams. -/
def filler (streams : Nat → Option Stream) :
    List Nat → FlowControlManager → Nat → Option Stream
  | [], _, _ => none
  | id :: ids, flow, room =>
    match streams id with
    | none => filler streams ids flow room
    | some s =>
      match fillOne s flow room with
      | .room flow room => filler streams ids flow room
      | .full => some s
      | .tooSmall => none

/-- A loop that uses the room up goes over some streams that leave room and then comes to one that
does not. -/
theorem exists_filler_of_full {streams : Nat → Option Stream} :
    ∀ {ids : List Nat} {flow : FlowControlManager} {room : Nat},
      fill streams ids flow room = .full →
        ∃ (front : List Nat) (id : Nat) (back : List Nat) (flow' : FlowControlManager)
          (room' : Nat) (s : Stream),
          ids = front ++ id :: back ∧ fill streams front flow room = .room flow' room' ∧
            streams id = some s ∧ fillOne s flow' room' = .full ∧
            filler streams ids flow room = some s := by
  intro ids
  induction ids with
  | nil =>
    intro flow room full
    cases full
  | cons id ids ih =>
    intro flow room full
    rw [fill] at full
    cases opened : streams id with
    | none =>
      simp only [opened] at full
      obtain ⟨front, other, back, flow', room', s, split, before, rest⟩ := ih full
      refine ⟨id :: front, other, back, flow', room', s, congrArg (id :: ·) split, ?_, ?_⟩
      · simp only [fill, opened, before]
      · simpa only [filler, opened] using rest
    | some s =>
      simp only [opened] at full
      cases one : fillOne s flow room with
      | tooSmall =>
        rw [one] at full
        cases full
      | full =>
        refine ⟨[], id, ids, flow, room, s, rfl, rfl, opened, one, ?_⟩
        simp only [filler, opened, one]
      | room flow1 room1 =>
        simp only [one] at full
        obtain ⟨front, other, back, flow', room', s', split, before, rest⟩ := ih full
        refine ⟨id :: front, other, back, flow', room', s', congrArg (id :: ·) split, ?_, ?_⟩
        · simp only [fill, opened, one, before]
        · simpa only [filler, opened, one] using rest

/-! ## The state of a loop -/

/-- What holds between two calls of the closure. -/
structure Popping (maxBytes : Nat) (before m : StreamsMap) (st : PopState) : Prop where
  faithful : Faithful before st.res m
  unaltered : st.res = st.appended
  within : st.currentLen ≤ maxBytes

/-- The pointer stands at a frame of its own. -/
def Fresh (st : PopState) : Prop := ∃ frame, st.frame = .fresh frame ∧ Unused frame

/-- The pointer stands at the last frame, which filled the room. -/
structure Filled (maxBytes : Nat) (st : PopState) : Prop where
  pointer : st.frame = .lastOfResult
  full : st.currentLen = maxBytes
  last : ∃ front frame, st.res = front ++ [frame] ∧ frame.data ≠ []

/-- The variables of the closure agree with what the sizes say. -/
def Agrees (maxBytes : Nat) (st : PopState) (cont : Bool) : Filling → Prop
  | .tooSmall => cont = false ∧ Fresh st
  | .full => cont = false ∧ Filled maxBytes st
  | .room flow room =>
    cont = true ∧ Fresh st ∧ st.flow = flow ∧ maxBytes - st.currentLen = room

theorem Popping.of_same_streams (popping : Popping maxBytes before m st)
    (same : ∀ id, m'.streams.lookup id = m.streams.lookup id) : Popping maxBytes before m' st :=
  ⟨popping.faithful.congr same, popping.unaltered, popping.within⟩

/-- One call of the closure keeps what holds, and does what the sizes say. If it uses the room up,
the last frame is one of the stream. -/
theorem Offered.popping
    (offered : Offered maxBytes st s result) (popping : Popping maxBytes before m st)
    (opened : m.streams.lookup id = some s) (named : s.streamID = id)
    (known : id ∈ before.streams) :
    Popping maxBytes before (m.setStream id result.stream) result.state ∧
      Agrees maxBytes result.state result.cont
        (fillOne s st.flow (maxBytes - st.currentLen)) ∧
      (fillOne s st.flow (maxBytes - st.currentLen) = .full →
        ∃ frame, result.state.res = st.res ++ [frame] ∧ frame.streamID = s.streamID ∧
          frame.offset = s.writeOffset ∧ frame.data ≠ []) := by
  have same := lookup_setStream_same opened
  unfold fillOne
  cases offered with
  | tooSmall small unused =>
    rw [if_pos small]
    exact ⟨⟨popping.faithful.congr same, popping.unaltered, popping.within⟩,
      ⟨rfl, _, rfl, unused⟩, nofun⟩
  | nothing fits sends unused =>
    rw [if_neg (not_lt.mpr fits), sends]
    exact ⟨⟨popping.faithful.congr same, popping.unaltered, popping.within⟩,
      ⟨rfl, ⟨_, rfl, unused⟩, rfl, rfl⟩, nofun⟩
  | sent fits sends takes length =>
    rw [if_neg (by omega), sends]
    simp only [ne_of_lt fits, if_false]
    refine ⟨⟨popping.faithful.snoc opened named known takes, ?_, ?_⟩,
      ⟨rfl, ⟨_, rfl, unused_newFrame⟩, rfl, ?_⟩, nofun⟩
    · exact congrArg (· ++ _) popping.unaltered
    · change _ + _ ≤ _
      omega
    · change _ - (_ + _) = _
      omega
  | @filled frame _ _ _ full sends takes length =>
    rw [if_neg (by omega), sends]
    simp only [full, if_true]
    have data : frame.data ≠ [] := by
      intro empty
      have positive := Stream.sends_pos_of_full sends full
      rw [← length, empty] at positive
      exact lt_irrefl 0 positive
    refine ⟨⟨popping.faithful.snoc opened named known takes, ?_, le_rfl⟩,
      ⟨rfl, rfl, rfl, _, _, rfl, data⟩, fun _ => ⟨frame, rfl, takes.streamID, takes.offset, data⟩⟩
    exact congrArg (· ++ _) popping.unaltered

theorem Offered.err_eq (offered : Offered maxBytes st s result) : result.err = none := by
  cases offered <;> rfl

/-- One visit of an open stream. -/
theorem iterateFunc_popping (proper : before.Proper) (opened : before.streams.lookup id = some s)
    (openedNow : m.streams.lookup id = some s) (notCrypto : id ≠ 1)
    (popping : Popping maxBytes before m st) (fresh : Fresh st)
    (call : m.iterateFunc (popFromStream marks maxBytes) id st = visit) :
    visit.err = none ∧ Popping maxBytes before visit.map visit.state ∧
      Agrees maxBytes visit.state visit.cont (fillOne s st.flow (maxBytes - st.currentLen)) ∧
      (fillOne s st.flow (maxBytes - st.currentLen) = .full →
        ∃ frame, visit.state.res = st.res ++ [frame] ∧ frame.streamID = s.streamID ∧
          frame.offset = s.writeOffset ∧ frame.data ≠ []) ∧
      ∀ other ≠ id, visit.map.streams.lookup other = m.streams.lookup other := by
  obtain ⟨frame, pointer, unused⟩ := fresh
  obtain ⟨named, small⟩ := proper id s opened
  have offered := popFromStream_offered marks pointer unused popping.within
    (named.trans_ne notCrypto) small
  obtain ⟨popping', agrees, fills⟩ := offered.popping popping openedNow named
    (MapSum.mem_of_lookup opened)
  rw [iterateFunc, openedNow] at call
  subst call
  exact ⟨offered.err_eq, popping', agrees, fills, fun other differ =>
    lookup_setStream_of_ne differ _⟩

/-- What a loop over the streams `ids` leaves behind. -/
structure LoopResult (maxBytes : Nat) (before m : StreamsMap) (ids : List Nat) (st : PopState)
    (visit : Visit PopState) : Prop where
  err : visit.err = none
  popping : Popping maxBytes before visit.map visit.state
  agrees : Agrees maxBytes visit.state visit.cont
    (fill before.streams.lookup ids st.flow (maxBytes - st.currentLen))
  others : ∀ id ∉ ids, visit.map.streams.lookup id = m.streams.lookup id

theorem LoopResult.nil (popping : Popping maxBytes before m st) (fresh : Fresh st) :
    LoopResult maxBytes before m [] st { map := m, state := st, cont := true, err := none } :=
  ⟨rfl, popping, ⟨rfl, fresh, rfl, rfl⟩, fun _ _ => rfl⟩

theorem Agrees.fresh {filling : Filling} (agrees : Agrees maxBytes st true filling) : Fresh st := by
  cases filling with
  | tooSmall => exact agrees.2
  | full => exact absurd agrees.1.symm Bool.false_ne_true
  | room flow room => exact agrees.2.1

/-- The loop goes on after its first stream if that left room. -/
theorem LoopResult.cons {next : Visit PopState} (visit : Visit PopState)
    (opened : before.streams.lookup id = some s) (err : visit.err = none)
    (popping : Popping maxBytes before visit.map visit.state)
    (agrees : Agrees maxBytes visit.state visit.cont (fillOne s st.flow (maxBytes - st.currentLen)))
    (others : ∀ other ≠ id, visit.map.streams.lookup other = m.streams.lookup other)
    (rest : Fresh visit.state → LoopResult maxBytes before visit.map ids visit.state next) :
    LoopResult maxBytes before m (id :: ids) st (if visit.cont then next else visit) := by
  cases cont : visit.cont with
  | false =>
    refine ⟨err, popping, ?_, fun other outside => others other (ne_of_not_mem_cons outside)⟩
    simp only [Bool.false_eq_true, if_false]
    cases one : fillOne s st.flow (maxBytes - st.currentLen) with
    | room flow room =>
      rw [one, cont] at agrees
      exact absurd agrees.1 Bool.false_ne_true
    | _ => simpa only [fill, opened, one] using agrees
  | true =>
    rw [cont] at agrees
    have rest := rest agrees.fresh
    simp only [if_true]
    refine ⟨rest.err, rest.popping, ?_, ?_⟩
    · cases one : fillOne s st.flow (maxBytes - st.currentLen) with
      | room flow room =>
        rw [one] at agrees
        obtain ⟨-, -, rfl, rfl⟩ := agrees
        simpa only [fill, opened, one] using rest.agrees
      | _ => rw [one] at agrees; exact absurd agrees.1.symm Bool.false_ne_true
    · intro other outside
      rw [mem_cons, not_or] at outside
      exact (rest.others other outside.2).trans (others other outside.1)

/-- The second or the third loop, entered with the pointer at a frame of its own. -/
theorem iteratePass_result (advance : StreamsMap → StreamsMap)
    (keeps : ∀ m, (advance m).streams = m.streams) (proper : before.Proper) :
    ∀ (ids : List Nat) (m : StreamsMap) (st : PopState), ids.Nodup →
      (∀ id ∈ ids, id ∈ before.streams ∧ id ≠ 1) →
      (∀ id ∈ ids, m.streams.lookup id = before.streams.lookup id) →
      Popping maxBytes before m st → Fresh st →
      LoopResult maxBytes before m ids st
        (iteratePass (popFromStream marks maxBytes) advance ids m st) := by
  intro ids
  induction ids with
  | nil => exact fun m st _ _ _ popping fresh => .nil popping fresh
  | cons id ids ih =>
    intro m st nodup known same popping fresh
    obtain ⟨inBefore, notCrypto⟩ := known id mem_cons_self
    obtain ⟨s, opened⟩ := MapSum.exists_lookup inBefore
    generalize call : m.iterateFunc (popFromStream marks maxBytes) id st = visit
    obtain ⟨err, popping', agrees, -, others⟩ := iterateFunc_popping proper opened
      ((same id mem_cons_self).trans opened) notCrypto popping fresh call
    have kept (other : Nat) :
        (advance visit.map).streams.lookup other = visit.map.streams.lookup other := by
      rw [keeps]
    have popping'' := popping'.of_same_streams kept
    have others' : ∀ other ≠ id,
        (advance visit.map).streams.lookup other = m.streams.lookup other :=
      fun other differ => (kept other).trans (others other differ)
    rw [iteratePass, call]
    simp only [err, ne_eq, not_true_eq_false, if_false]
    refine LoopResult.cons { visit with map := advance visit.map, err := none } opened rfl popping''
      agrees others' fun fresh' => ?_
    apply ih _ _ (nodup_cons.mp nodup).2
    · exact fun other mem => known other (mem_cons_of_mem id mem)
    · intro other mem
      have differ : other ≠ id := fun eq => (nodup_cons.mp nodup).1 (eq ▸ mem)
      exact (others' other differ).trans (same other (mem_cons_of_mem id mem))
    · exact popping''
    · exact fresh'

/-- The first loop at the header stream, which may be missing. -/
theorem iteratePriority_header (proper : before.Proper)
    (same : ∀ id, m.streams.lookup id = before.streams.lookup id)
    (popping : Popping maxBytes before m st) (fresh : Fresh st) :
    LoopResult maxBytes before m [3] st
      (iteratePriority (popFromStream marks maxBytes) [3] m st) := by
  cases opened : before.streams.lookup 3 with
  | none =>
    have missing := (same 3).trans opened
    simp only [iteratePriority, iterateFunc, missing, ne_eq, not_true_eq_false, and_false,
      if_false, if_true]
    refine ⟨rfl, popping, ?_, fun _ _ => rfl⟩
    simp only [fill, opened]
    exact ⟨rfl, fresh, rfl, rfl⟩
  | some s =>
    generalize call : m.iterateFunc (popFromStream marks maxBytes) 3 st = visit
    obtain ⟨err, popping', agrees, -, others⟩ := iterateFunc_popping proper opened
      ((same 3).trans opened) (by decide) popping fresh call
    rw [iteratePriority, call]
    simp only [err, ne_eq, not_true_eq_false, false_and, if_false]
    exact LoopResult.cons { visit with err := none } opened rfl popping' agrees others
      fun fresh' => .nil popping' fresh'

/-- The closure passes over the crypto stream. -/
theorem iterateFunc_crypto (marks : AList fun _ : Nat => Bool) (maxBytes : Nat)
    (proper : m.Proper) (st : PopState) :
    ∃ m' err, (∀ id, m'.streams.lookup id = m.streams.lookup id) ∧
      (err = none ∨ err = some StreamsMapError.errMapAccess) ∧
      m.iterateFunc (popFromStream marks maxBytes) 1 st =
        { map := m', state := st, cont := true, err } := by
  cases opened : m.streams.lookup 1 with
  | none =>
    refine ⟨m, _, fun _ => rfl, Or.inr rfl, ?_⟩
    simp only [iterateFunc, opened]
  | some s =>
    have crypto := (proper 1 s opened).1
    refine ⟨_, _, lookup_setStream_same opened, Or.inl rfl, ?_⟩
    simp only [iterateFunc, opened, popFromStream, crypto, if_true]

/-- The first loop. -/
theorem iteratePriority_result (proper : m.Proper) (popping : Popping maxBytes m m st)
    (fresh : Fresh st) :
    LoopResult maxBytes m m [3] st
      (iteratePriority (popFromStream marks maxBytes) [1, 3] m st) := by
  obtain ⟨m', err, same, harmless, visit⟩ := iterateFunc_crypto marks maxBytes proper st
  have goesOn : ¬(err ≠ none ∧ err ≠ some .errMapAccess) := by
    rintro ⟨notNone, notAccess⟩
    exact harmless.elim notNone notAccess
  rw [iteratePriority, visit]
  simp only [goesOn, if_false, if_true]
  have header : LoopResult maxBytes m m' [3] st
      (iteratePriority (popFromStream marks maxBytes) [3] m' st) :=
    iteratePriority_header proper same (popping.of_same_streams same) fresh
  exact ⟨header.err, header.popping, header.agrees,
    fun id outside => (header.others id outside).trans (same id)⟩

/-! ## The overwritten frame -/

theorem minLength_pos (frame : StreamFrame) : 0 < frame.minLength := by
  unfold StreamFrame.minLength
  omega

/-- The closure, called with its pointer at the last frame: no room is left, but the frame gets
the ID and the offset of the stream. -/
theorem popFromStream_overwrites (marks : AList fun _ : Nat => Bool)
    (pointer : st.frame = .lastOfResult) (full : st.currentLen = maxBytes)
    (res : st.res = front ++ [frame]) (notCrypto : s.streamID ≠ 1) :
    popFromStream marks maxBytes st s =
      { state := { st with
          res := front ++ [{ frame with streamID := s.streamID, offset := s.writeOffset }] }
        stream := s, cont := false } := by
  have updated : (st.updateFrame fun frame =>
      { frame with streamID := s.streamID, offset := s.writeOffset }) = { st with
        res := front ++ [{ frame with streamID := s.streamID, offset := s.writeOffset }] } := by
    simp [PopState.updateFrame, pointer, res]
  unfold popFromStream
  rw [if_neg notCrypto, updated]
  have tooLong : st.currentLen + (PopState.current { st with
      res := front ++ [{ frame with streamID := s.streamID, offset := s.writeOffset }]
      }).minLength > maxBytes := by
    have := minLength_pos (PopState.current { st with
      res := front ++ [{ frame with streamID := s.streamID, offset := s.writeOffset }] })
    omega
  exact if_pos tooLong

/-- Frames are not faithful if a frame with data names a stream that lost no data. -/
theorem not_faithful_of_mem (opened : before.streams.lookup id = some s)
    (kept : m'.streams.lookup id = some s) (mem : frame ∈ frames) (named : frame.streamID = id)
    (data : frame.data ≠ []) : ¬Faithful before frames m' := by
  intro faithful
  obtain ⟨s', after, takes⟩ := faithful.streams id s opened
  obtain rfl : s = s' := Option.some.inj (kept.symm.trans after)
  have total := takes.pending_eq
  have listed : frame ∈ frames.filter fun f => f.streamID = id :=
    mem_filter.mpr ⟨mem, decide_eq_true named⟩
  have empty : (frames.filter fun f => f.streamID = id).flatMap StreamFrame.data = [] :=
    eq_nil_of_length_eq_zero (by omega)
  exact data (flatMap_eq_nil_iff.mp empty frame listed)

/-! ## The whole call -/

/-- The first stream of the third loop. -/
def firstMarked (m : StreamsMap) : Option Stream := m.markedOrder.head?.bind m.streams.lookup

/-- The frames are faithful, and none was changed after it was appended. -/
def FaithfulPop (m : StreamsMap) (popped : NormalPop) : Prop :=
  Faithful m popped.res popped.map ∧ popped.res = popped.appended

/-- The header stream leaves room, the streams without a mark fill it exactly, and there is a
stream with a mark. -/
def Overwrites (m : StreamsMap) (flow : FlowControlManager) (maxBytes : Nat)
    (sendingAllowed : Bool) : Prop :=
  sendingAllowed = true ∧
    (∃ id ∈ m.openStreams, id ≠ 1 ∧ id ≠ 3 ∧ id ∈ m.unreliableStreamMark) ∧
    ∃ flow' room, fill m.streams.lookup [3] flow maxBytes = .room flow' room ∧
      fill m.streams.lookup m.unmarkedOrder flow' room = .full

theorem exists_marked_iff :
    (∃ id ∈ m.openStreams, id ≠ 1 ∧ id ≠ 3 ∧ id ∈ m.unreliableStreamMark) ↔
      m.markedOrder ≠ [] := by
  constructor
  · rintro ⟨id, mem, eligible⟩
    exact ne_nil_of_mem (mem_markedOrder.mpr ⟨mem_openStreams.mp mem, eligible⟩)
  · intro marked
    obtain ⟨id, mem⟩ := exists_mem_of_ne_nil _ marked
    obtain ⟨inMap, eligible⟩ := mem_markedOrder.mp mem
    exact ⟨id, mem_openStreams.mpr inMap, eligible⟩

/-- The second and the third loop go on from what the loop before left. -/
def nextLoop (marks : AList fun _ : Nat => Bool) (maxBytes : Nat)
    (advance : StreamsMap → StreamsMap) (ids : List Nat) (visit : Visit PopState) :
    Visit PopState :=
  iteratePass (popFromStream marks maxBytes) advance ids visit.map visit.state

section Loops

variable {second : Visit PopState} (proper : m.Proper)
  (popping : Popping maxBytes m visit.map visit.state)

section ThirdLoop

variable (same : ∀ id ∈ m.markedOrder, visit.map.streams.lookup id = m.streams.lookup id)
  (call : nextLoop marks maxBytes advanceRoundRobin m.markedOrder visit = second)

include proper same call

theorem thirdLoop_popping (popping : Popping maxBytes m visit.map visit.state)
    (fresh : Fresh visit.state) : Popping maxBytes m second.map second.state := by
  subst call
  refine (iteratePass_result advanceRoundRobin (fun _ => rfl) proper m.markedOrder visit.map
    visit.state m.nodup_markedOrder (fun id mem => ?_) same popping fresh).popping
  exact ⟨(mem_markedOrder.mp mem).1, (mem_markedOrder.mp mem).2.1⟩

/-- The first stream of the third loop gets the last frame. -/
theorem thirdLoop_overwrites (pointer : visit.state.frame = .lastOfResult)
    (full : visit.state.currentLen = maxBytes) (res : visit.state.res = front ++ [frame])
    (marked : m.markedOrder ≠ []) :
    ∃ s, firstMarked m = some s ∧ second.state = { visit.state with
        res := front ++ [{ frame with streamID := s.streamID, offset := s.writeOffset }] } ∧
      second.map.streams.lookup s.streamID = some s := by
  obtain ⟨id, ids, order⟩ := exists_cons_of_ne_nil marked
  have first : id ∈ m.markedOrder := by
    rw [order]
    exact mem_cons_self
  obtain ⟨inMap, notCrypto, -⟩ := mem_markedOrder.mp first
  obtain ⟨s, opened⟩ := MapSum.exists_lookup inMap
  have openedNow := (same id first).trans opened
  have named := (proper id s opened).1
  have overwritten := popFromStream_overwrites marks pointer full res (named.trans_ne notCrypto)
  simp only [nextLoop, order, iteratePass, iterateFunc, openedNow, overwritten, ne_eq,
    not_true_eq_false, if_false, Bool.false_eq_true] at call
  subst call
  refine ⟨s, ?_, rfl, ?_⟩
  · simp only [firstMarked, order, head?_cons, Option.bind_some, opened]
  · rw [named]
    exact (lookup_setStream_same openedNow id).trans openedNow

end ThirdLoop

theorem firstLoop_result (marks : AList fun _ : Nat => Bool) (f : StreamFramer)
    (flow : FlowControlManager) (proper : m.Proper) :
    LoopResult maxBytes m m [3] (initialPopState f flow)
      (iteratePriority (popFromStream marks maxBytes) [1, 3] m (initialPopState f flow)) :=
  iteratePriority_result proper ⟨Faithful.refl m, rfl, Nat.zero_le _⟩
    ⟨newFrame, rfl, unused_newFrame⟩

variable (fresh : Fresh visit.state)
  (others : ∀ id ∉ [3], visit.map.streams.lookup id = m.streams.lookup id)

include proper popping fresh others

/-- The second loop, up to any of its streams. -/
theorem secondLoop_result (marks : AList fun _ : Nat => Bool) {back : List Nat}
    (order : m.unmarkedOrder = ids ++ back) :
    LoopResult maxBytes m visit.map ids visit.state
      (nextLoop marks maxBytes advanceUnreliable ids visit) := by
  have listed {id : Nat} (mem : id ∈ ids) := mem_unmarkedOrder.mp (order ▸ mem_append_left _ mem)
  have nodup := m.nodup_unmarkedOrder
  rw [order] at nodup
  refine iteratePass_result advanceUnreliable (fun _ => rfl) proper ids visit.map visit.state
    nodup.of_append_left (fun id mem => ?_) (fun id mem => ?_) popping fresh
  · exact ⟨(listed mem).1, (listed mem).2.1⟩
  · exact others id (mt mem_singleton.mp (listed mem).2.2.1)

/-- A second loop that uses the room up ends with a frame of the stream that `filler` names, and
leaves the pointer at it. -/
theorem secondLoop_filled
    (full : fill m.streams.lookup m.unmarkedOrder visit.state.flow
      (maxBytes - visit.state.currentLen) = .full)
    (loop : nextLoop marks maxBytes advanceUnreliable m.unmarkedOrder visit = second) :
    ∃ (filling : Stream) (front : List StreamFrame) (frame : StreamFrame),
      filler m.streams.lookup m.unmarkedOrder visit.state.flow
        (maxBytes - visit.state.currentLen) = some filling ∧
      second.state.frame = .lastOfResult ∧ second.state.currentLen = maxBytes ∧
      second.state.res = front ++ [frame] ∧ frame.streamID = filling.streamID ∧
      frame.offset = filling.writeOffset ∧ frame.data ≠ [] := by
  obtain ⟨ids, id, back, flow, room, s, split, before, opened, one, fills⟩ :=
    exists_filler_of_full full
  -- the loop up to the stream that fills the room
  have start := secondLoop_result proper popping fresh others marks split
  have agrees := start.agrees
  rw [before] at agrees
  obtain ⟨cont, fresh', rfl, rfl⟩ := agrees
  unfold nextLoop at loop start cont fresh' one
  rw [split, iteratePass_append _ _ _ _ start.err cont] at loop
  generalize iteratePass (popFromStream marks maxBytes) advanceUnreliable ids visit.map
    visit.state = reached at start cont fresh' one loop
  have nodup := m.nodup_unmarkedOrder
  rw [split] at nodup
  have outside : id ∉ ids := fun mem => disjoint_of_nodup_append nodup mem mem_cons_self
  obtain ⟨-, notCrypto, notThree, -⟩ :=
    mem_unmarkedOrder.mp (split ▸ mem_append_right _ mem_cons_self : id ∈ m.unmarkedOrder)
  have openedNow : reached.map.streams.lookup id = some s :=
    (start.others id outside).trans ((others id (mt mem_singleton.mp notThree)).trans opened)
  generalize call : reached.map.iterateFunc (popFromStream marks maxBytes) id reached.state =
    last at loop
  obtain ⟨err, -, agrees, named, -⟩ := iterateFunc_popping proper opened openedNow notCrypto
    start.popping fresh' call
  rw [one] at agrees
  obtain ⟨stops, filled⟩ := agrees
  obtain ⟨frame, res, rest⟩ := named one
  simp only [iteratePass, call, err, stops, ne_eq, not_true_eq_false, Bool.false_eq_true,
    if_false] at loop
  subst loop
  exact ⟨s, reached.state.res, frame, fills, filled.pointer, filled.full, res, rest⟩

end Loops

/-- The room is used up by the frame of a stream without a mark. -/
def FillsRoom (m : StreamsMap) (flow : FlowControlManager) (maxBytes : Nat) (s : Stream) : Prop :=
  ∃ flow' room, fill m.streams.lookup [3] flow maxBytes = .room flow' room ∧
    filler m.streams.lookup m.unmarkedOrder flow' room = some s

/-- What the three loops leave if the frame that used the room up was overwritten: it has the ID
and the offset of the first stream with a mark, from which it took nothing. -/
structure Overwritten (m : StreamsMap) (flow : FlowControlManager) (maxBytes : Nat)
    (visit : Visit PopState) (filling marked : Stream) (front : List StreamFrame)
    (frame : StreamFrame) : Prop where
  fills : FillsRoom m flow maxBytes filling
  first : firstMarked m = some marked
  streamID : frame.streamID = filling.streamID
  offset : frame.offset = filling.writeOffset
  data : frame.data ≠ []
  appended : visit.state.appended = front ++ [frame]
  full : visit.state.currentLen = maxBytes
  res : visit.state.res =
    front ++ [{ frame with streamID := marked.streamID, offset := marked.writeOffset }]
  kept : visit.map.streams.lookup marked.streamID = some marked

/-- The second and the third loop, after a first loop that left room. -/
theorem secondLoop_cases {first second : Visit PopState} (proper : m.Proper)
    (popping : Popping maxBytes m first.map first.state) (fresh : Fresh first.state)
    (others : ∀ id ∉ [3], first.map.streams.lookup id = m.streams.lookup id)
    (left : fill m.streams.lookup [3] flow maxBytes =
      .room first.state.flow (maxBytes - first.state.currentLen))
    (loop : nextLoop marks maxBytes advanceUnreliable m.unmarkedOrder first = second)
    (result : LoopResult maxBytes m first.map m.unmarkedOrder first.state second)
    (call : nextLoop marks maxBytes advanceRoundRobin m.markedOrder second = visit) :
    (¬Overwrites m flow maxBytes true ∧ Popping maxBytes m visit.map visit.state) ∨
      (Overwrites m flow maxBytes true ∧
        ∃ filling marked front frame,
          Overwritten m flow maxBytes visit filling marked front frame) := by
  have markedSame : ∀ id ∈ m.markedOrder,
      second.map.streams.lookup id = m.streams.lookup id := by
    intro id mem
    obtain ⟨-, -, notThree, marked⟩ := mem_markedOrder.mp mem
    have notUnmarked : id ∉ m.unmarkedOrder := fun unmarked =>
      (mem_unmarkedOrder.mp unmarked).2.2.2 marked
    exact (result.others id notUnmarked).trans (others id (mt mem_singleton.mp notThree))
  by_cases overwrites : Overwrites m flow maxBytes true
  · obtain ⟨-, marked, flow2, room2, left2, full⟩ := id overwrites
    obtain ⟨rfl, rfl⟩ := Filling.room.inj (left.symm.trans left2)
    obtain ⟨filling, front, frame, fills, atLast, used, res, streamID, offset, data⟩ :=
      secondLoop_filled proper popping fresh others full loop
    obtain ⟨first, firstEq, state, kept⟩ := thirdLoop_overwrites proper
      markedSame call atLast used res (exists_marked_iff.mp marked)
    refine Or.inr ⟨overwrites, filling, first, front, frame, ⟨_, _, left, fills⟩, firstEq,
      streamID, offset, data, ?_, ?_, ?_, kept⟩
    · rw [state, ← res]
      exact result.popping.unaltered.symm
    · rw [state]
      exact used
    · rw [state]
  · refine Or.inl ⟨overwrites, ?_⟩
    have agrees := result.agrees
    cases filling : fill m.streams.lookup m.unmarkedOrder first.state.flow
        (maxBytes - first.state.currentLen) with
    | tooSmall =>
      rw [filling] at agrees
      exact thirdLoop_popping proper markedSame call result.popping agrees.2
    | room flow room =>
      rw [filling] at agrees
      exact thirdLoop_popping proper markedSame call result.popping agrees.2.1
    | full =>
      -- then there is no third loop
      have unmarked : m.markedOrder = [] := by
        by_contra marked
        exact overwrites ⟨rfl, exists_marked_iff.mpr marked, _, _, left, filling⟩
      rw [unmarked] at call
      subst call
      exact result.popping

/-- The three loops together. -/
theorem roundRobinIterate2_cases (flow : FlowControlManager) (sendingAllowed : Bool)
    (proper : m.Proper) (call : m.roundRobinIterate2 (popFromStream marks maxBytes) sendingAllowed
      (initialPopState f flow) = visit) :
    (¬Overwrites m flow maxBytes sendingAllowed ∧ Popping maxBytes m visit.map visit.state) ∨
      (Overwrites m flow maxBytes sendingAllowed ∧
        ∃ filling marked front frame,
          Overwritten m flow maxBytes visit filling marked front frame) := by
  have result : LoopResult maxBytes m m [3] (initialPopState f flow) _ :=
    firstLoop_result marks f flow proper
  unfold roundRobinIterate2 at call
  generalize iteratePriority (popFromStream marks maxBytes) [1, 3] m (initialPopState f flow) =
    first at call result
  have agrees : Agrees maxBytes first.state first.cont (fill m.streams.lookup [3] flow maxBytes) :=
    result.agrees
  simp only [result.err, ne_eq, not_true_eq_false, false_or] at call
  cases left : fill m.streams.lookup [3] flow maxBytes with
  | room flow' room =>
    rw [left] at agrees
    obtain ⟨cont, fresh, rfl, rfl⟩ := agrees
    rw [if_neg (by simp [cont])] at call
    cases sendingAllowed with
    | false =>
      simp only [Bool.false_eq_true, if_false, result.err, not_true_eq_false] at call
      refine Or.inl ⟨?_, thirdLoop_popping proper (fun id mem => ?_) call result.popping fresh⟩
      · rintro ⟨allowed, -⟩
        cases allowed
      · exact result.others id (mt mem_singleton.mp (mem_markedOrder.mp mem).2.2.1)
    | true =>
      have result2 := secondLoop_result proper result.popping fresh result.others marks
        (append_nil m.unmarkedOrder).symm
      simp only [if_true] at call
      generalize loop2 : nextLoop marks maxBytes advanceUnreliable m.unmarkedOrder first =
        second at result2
      rw [show iteratePass _ _ _ _ _ = second from loop2] at call
      simp only [result2.err, not_true_eq_false, if_false] at call
      exact secondLoop_cases proper result.popping fresh result.others left loop2 result2 call
  | _ =>
    rw [left] at agrees
    rw [if_pos agrees.1] at call
    subst call
    refine Or.inl ⟨?_, result.popping⟩
    rintro ⟨-, -, flow', room, other, -⟩
    cases left.symm.trans other

theorem Overwritten.not_faithful {filling marked : Stream}
    (overwritten : Overwritten m flow maxBytes visit filling marked front frame)
    (proper : m.Proper) : ¬Faithful m visit.state.res visit.map := by
  obtain ⟨id, -, opened⟩ := Option.bind_eq_some_iff.mp overwritten.first
  have named := (proper id marked opened).1
  rw [overwritten.res]
  refine not_faithful_of_mem (named.symm ▸ opened) overwritten.kept
    (mem_append_right _ mem_cons_self) rfl overwritten.data

/-- The frames of a call are faithful unless the streams without a mark fill the room exactly and a
stream with a mark comes after them. -/
theorem maybePopNormalFrames_faithful_iff (flow : FlowControlManager) (maxBytes : Nat)
    (sendingAllowed : Bool) (proper : m.Proper) :
    FaithfulPop m (f.maybePopNormalFrames m flow maxBytes sendingAllowed) ↔
      ¬Overwrites m flow maxBytes sendingAllowed := by
  rcases roundRobinIterate2_cases f flow sendingAllowed proper rfl with
    ⟨kept, popping⟩ | ⟨overwrites, filling, marked, front, frame, overwritten⟩
  · exact iff_of_true ⟨popping.faithful, popping.unaltered⟩ kept
  · refine iff_of_false (fun sound => ?_) (not_not_intro overwrites)
    exact overwritten.not_faithful proper sound.1

end StreamFramer

end MPQuic
