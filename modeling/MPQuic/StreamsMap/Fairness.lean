import MPQuic.Lib.Rotation
import MPQuic.StreamsMap.RoundRobinCalls

/-!
# Every stream gets its turn

The indices of the round robin move by the number of streams that were called, while the loops also
pass over the streams that are not theirs. So a loop does not go on where the last one stopped, but
it never starts behind a stream that was not called: an iteration that does not call a stream brings
the start of its loop closer to it (`called_or_closer`). With `n` open streams, every stream is
called in any `n` iterations (`roundRobin_everyStream_called`).
-/

namespace MPQuic

open List

namespace StreamsMap

open LambdaResult

variable {σ : Type}

/-- A lambda that goes on after streams 1 and 3 and never fails. A stream keeps its ID. -/
structure Steady (fn : σ → Stream → LambdaResult σ) : Prop where
  priority : ∀ state s, s.streamID = 1 ∨ s.streamID = 3 → (fn state s).cont = true
  noErr : ∀ state s, (fn state s).err = none
  sameID : ∀ state s, (fn state s).stream.streamID = s.streamID

/-- The calls of one iteration after the other, each with its lambda, on paths that may send. -/
def rounds : List (σ → Stream → LambdaResult σ) → StreamsMap → σ → List (Call σ)
  | [], _, _ => []
  | fn :: fns, m, state =>
    watched fn m true state ++
      rounds fns (m.roundRobinIterate2 fn true state).map
        (m.roundRobinIterate2 fn true state).state

/-- The number of streams before a stream, from the index of its loop on. -/
def waiting (m : StreamsMap) (id : Nat) : Nat :=
  Rotation.distance m.openStreams
    (if id ∈ m.unreliableStreamMark then m.roundRobinIndex else m.unreliableRobinIndex) id

/-! ## What stays -/

/-- The same streams are open, with the same marks, and they have their own IDs. -/
structure SameOrder (m m' : StreamsMap) : Prop where
  openStreams : m'.openStreams = m.openStreams
  marks : m'.unreliableStreamMark = m.unreliableStreamMark
  named : ∀ id s, m'.streams.lookup id = some s → s.streamID = id

section Stays

variable {m m' : StreamsMap} {fn : σ → Stream → LambdaResult σ}

theorem SameOrder.mem_iff (same : SameOrder m m') {id : Nat} :
    id ∈ m'.streams ↔ id ∈ m.streams := by
  rw [← mem_openStreams, same.openStreams, mem_openStreams]

theorem SameOrder.setStream (same : SameOrder m m') {id : Nat} {s s' : Stream}
    (opened : m'.streams.lookup id = some s) (sameID : s'.streamID = s.streamID) :
    SameOrder m (m'.setStream id s') := by
  have mem : id ∈ m'.streams := MapSum.mem_of_lookup opened
  have named : ∀ other after, (m'.setStream id s').streams.lookup other = some after →
      after.streamID = other := by
    intro other after found
    rcases lookup_of_setStream found with ⟨rfl, rfl⟩ | ⟨-, before⟩
    · rw [sameID, same.named other s opened]
    · exact same.named other after before
  refine ⟨?_, ?_, named⟩
  · rw [StreamsMap.setStream, dif_pos mem]
    exact same.openStreams
  · rw [StreamsMap.setStream, dif_pos mem]
    exact same.marks

end Stays

/-! ## How far the indices move -/

section Indices

variable {m : StreamsMap} {fn : σ → Stream → LambdaResult σ} {state : σ}
  {advance : StreamsMap → StreamsMap} {index : StreamsMap → Nat} {ids : List Nat}

theorem numStreams_setStream (m : StreamsMap) (id : Nat) (s : Stream) :
    (m.setStream id s).numStreams = m.numStreams := by
  rw [← length_openStreams, ← length_openStreams]
  unfold setStream
  split <;> rfl

/-- After the loop over streams 1 and 3. -/
def firstVisit (fn : σ → Stream → LambdaResult σ) (m : StreamsMap) (state : σ) :
    Visit (σ × List (Call σ)) :=
  iteratePriority (watching fn) [1, 3] m (state, [])

/-- After the loop over the streams without a mark. -/
def secondVisit (fn : σ → Stream → LambdaResult σ) (m : StreamsMap) (state : σ) :
    Visit (σ × List (Call σ)) :=
  iteratePass (watching fn) advanceUnreliable m.unmarkedOrder (firstVisit fn m state).map
    (firstVisit fn m state).state

/-- After the loop over the streams with a mark. -/
def thirdVisit (fn : σ → Stream → LambdaResult σ) (m : StreamsMap) (state : σ) :
    Visit (σ × List (Call σ)) :=
  iteratePass (watching fn) advanceRoundRobin m.markedOrder (secondVisit fn m state).map
    (secondVisit fn m state).state

theorem calls_firstVisit (fn : σ → Stream → LambdaResult σ) (m : StreamsMap) (state : σ) :
    (firstVisit fn m state).state.2 = firstCalls fn m state :=
  (asks_iteratePriority fn (by decide : [1, 3].Nodup) m (state, [])).1.calls.trans
    (nil_append _)

section Index

variable (steady : Steady fn) (advance : StreamsMap → StreamsMap)
  (sets : ∀ m id s, index (setStream m id s) = index m)

section Moves

variable (moves : ∀ m, index (advance m) = (index m + 1) % m.numStreams)
  (stays : ∀ m, (advance m).numStreams = m.numStreams)

include steady sets moves stays

/-- The index of a loop moves by the number of its calls. -/
theorem iteratePass_moves (ids : List Nat) :
    ∀ (m : StreamsMap) (state : σ × List (Call σ)),
      Nat.ModEq m.numStreams
        (index (iteratePass (watching fn) advance ids m state).map + state.2.length)
        (index m + (iteratePass (watching fn) advance ids m state).state.2.length) := by
  induction ids with
  | nil => exact fun _ _ => rfl
  | cons id ids ih =>
    intro m state
    cases opened : m.streams.lookup id with
    | none =>
      have missing : m.iterateFunc (watching fn) id state =
          { map := m, state, cont := true, err := some .errMapAccess } := by
        rw [iterateFunc, opened]
      simp only [iteratePass, missing, ne_eq, reduceCtorEq, not_false_eq_true, if_true]
      exact Nat.ModEq.refl _
    | some s =>
      have noErr := steady.noErr state.1 s
      simp only [iteratePass, iterateFunc_watching opened, noErr, ne_eq, not_true_eq_false,
        if_false]
      generalize put : m.setStream id (fn state.1 s).stream = after
      have sameNumber : (advance after).numStreams = m.numStreams := by
        rw [stays, ← put, numStreams_setStream]
      have moved : Nat.ModEq m.numStreams (index (advance after)) (index m + 1) := by
        rw [moves, ← put, numStreams_setStream, sets]
        exact Nat.mod_modEq _ _
      split
      · have later := ih (advance after)
          ((fn state.1 s).state, state.2 ++ [{ stream := s, answer := fn state.1 s }])
        rw [sameNumber, length_append, length_singleton, ← add_assoc] at later
        refine Nat.ModEq.add_right_cancel' 1 (later.trans ?_)
        rw [add_right_comm]
        exact moved.add_right _
      · rw [length_append, length_singleton, add_comm state.2.length,
          ← add_assoc]
        exact moved.add_right _

theorem iteratePass_moves_by {m : StreamsMap} {state : σ × List (Call σ)} {calls : List (Call σ)}
    (called : (iteratePass (watching fn) advance ids m state).state.2 = state.2 ++ calls) :
    Nat.ModEq m.numStreams (index (iteratePass (watching fn) advance ids m state).map)
      (index m + calls.length) := by
  have moved := iteratePass_moves steady advance sets moves stays ids m state
  rw [called, length_append, add_left_comm, add_comm] at moved
  exact Nat.ModEq.add_left_cancel' _ moved

end Moves

include sets

/-- What only a change of an index can change, the loop over streams 1 and 3 keeps. -/
theorem index_firstVisit (fn : σ → Stream → LambdaResult σ) (m : StreamsMap) (state : σ) :
    index (firstVisit fn m state).map = index m := by
  have call : CallKeeps (watching fn) fun m' _ => index m' = index m :=
    fun _ _ _ _ same _ => (sets _ _ _).trans same
  exact iteratePriority_invariant call [1, 3] rfl

/-- The other loops keep what they do not advance. -/
theorem index_iteratePass (stays : ∀ m, index (advance m) = index m)
    (fn : σ → Stream → LambdaResult σ) (ids : List Nat) (m : StreamsMap) (state : σ) :
    index (iteratePass fn advance ids m state).map = index m := by
  have call : CallKeeps fn fun m' _ => index m' = index m :=
    fun _ _ _ _ same _ => (sets _ _ _).trans same
  exact iteratePass_invariant call (fun m' _ same => (stays m').trans same) ids rfl

end Index

theorem unreliableRobinIndex_setStream (m : StreamsMap) (id : Nat) (s : Stream) :
    (m.setStream id s).unreliableRobinIndex = m.unreliableRobinIndex := by
  unfold setStream
  split <;> rfl

theorem roundRobinIndex_setStream (m : StreamsMap) (id : Nat) (s : Stream) :
    (m.setStream id s).roundRobinIndex = m.roundRobinIndex := by
  unfold setStream
  split <;> rfl

/-! ### One iteration, loop by loop -/

section Steady

variable (steady : Steady fn) (named : ∀ id s, m.streams.lookup id = some s → s.streamID = id)

include steady

theorem errAfter_steady {more : LambdaResult σ → Bool} :
    errAfter (asked fn more m ids state) = none := by
  unfold errAfter
  cases isLast : (asked fn more m ids state).getLast? with
  | none => rfl
  | some call =>
    obtain ⟨before, answer⟩ := answer_of_mem_asked (mem_of_getLast? isLast)
    have noErr := steady.noErr before call.stream
    rw [← answer] at noErr
    exact noErr

include named

theorem sameOrder_roundRobinIterate2 (state : σ) :
    SameOrder m (m.roundRobinIterate2 fn true state).map := by
  have call : CallKeeps fn fun m' _ => SameOrder m m' :=
    fun m' state id s same opened => same.setStream opened (steady.sameID state s)
  exact roundRobinIterate2_invariant call
    (fun _ _ same => ⟨same.openStreams, same.marks, same.named⟩)
    (fun _ _ same => ⟨same.openStreams, same.marks, same.named⟩) ⟨rfl, rfl, named⟩ true

theorem firstCalls_steady : allGoOn goesOnPriority (firstCalls fn m state) = true := by
  refine allGoOn_iff.mpr fun call mem => ?_
  obtain ⟨before, answer⟩ := answer_of_mem_asked mem
  have priority : call.stream.streamID = 1 ∨ call.stream.streamID = 3 := by
    simpa using (mem_of_mem_asked named mem).1
  rw [answer]
  exact goesOnPriority_iff.mpr
    ⟨steady.priority before _ priority, Or.inl (steady.noErr before _)⟩

theorem watched_steady :
    watched fn m true state = firstCalls fn m state ++
      (secondCalls fn m true state ++ thirdCalls fn m true state) := by
  have noErr : errAfter (secondCalls fn m true state) = none := errAfter_steady steady
  rw [watched_eq, if_pos (firstCalls_steady steady named), laterCalls, if_pos noErr]

theorem goesOn_firstVisit :
    ¬((firstVisit fn m state).err ≠ none ∨ (firstVisit fn m state).cont = false) := fun stops =>
  have ended := (asks_iteratePriority fn (by decide : [1, 3].Nodup) m (state, [])).2.mp stops
  Bool.false_ne_true (ended.symm.trans (firstCalls_steady steady named))

theorem secondVisit_steady :
    (secondVisit fn m state).err = none ∧
      (secondVisit fn m state).state.2 = firstCalls fn m state ++ secondCalls fn m true state := by
  have noErr : (firstVisit fn m state).err = none :=
    not_not.mp fun failed => goesOn_firstVisit steady named (Or.inl failed)
  obtain ⟨reached, err, -⟩ := asks_second fn m true state noErr
  exact ⟨err.trans (errAfter_steady steady), congrArg Prod.snd reached⟩

theorem roundRobinIterate2_steady :
    m.roundRobinIterate2 (watching fn) true (state, []) = thirdVisit fn m state := by
  have noErr : (secondVisit fn m state).err = none := (secondVisit_steady steady named).1
  exact (if_neg (goesOn_firstVisit steady named)).trans (if_neg (not_not.mpr noErr))

theorem calls_thirdVisit :
    (thirdVisit fn m state).state.2 = firstCalls fn m state ++
      (secondCalls fn m true state ++ thirdCalls fn m true state) := by
  rw [← roundRobinIterate2_steady steady named, ← watched_steady steady named]
  rfl

/-- The index of the second loop moves by the number of its calls. -/
theorem unreliableRobinIndex_moves :
    Nat.ModEq m.numStreams (m.roundRobinIterate2 fn true state).map.unreliableRobinIndex
      (m.unreliableRobinIndex + (secondCalls fn m true state).length) := by
  have called : (secondVisit fn m state).state.2 =
      (firstVisit fn m state).state.2 ++ secondCalls fn m true state := by
    rw [calls_firstVisit, (secondVisit_steady steady named).2]
  have second := iteratePass_moves_by steady advanceUnreliable unreliableRobinIndex_setStream
    (fun _ => rfl) (fun _ => rfl) called
  rw [index_firstVisit numStreams_setStream, index_firstVisit unreliableRobinIndex_setStream]
    at second
  have third : (thirdVisit fn m state).map.unreliableRobinIndex =
      (secondVisit fn m state).map.unreliableRobinIndex :=
    index_iteratePass advanceRoundRobin unreliableRobinIndex_setStream (fun _ => rfl) _ _ _ _
  rw [roundRobinIterate2_watching fn m true (state, []), roundRobinIterate2_steady steady named,
    Visit.through_map, third]
  exact second

/-- So does the index of the third. -/
theorem roundRobinIndex_moves :
    Nat.ModEq m.numStreams (m.roundRobinIterate2 fn true state).map.roundRobinIndex
      (m.roundRobinIndex + (thirdCalls fn m true state).length) := by
  have called : (thirdVisit fn m state).state.2 =
      (secondVisit fn m state).state.2 ++ thirdCalls fn m true state := by
    rw [(secondVisit_steady steady named).2, calls_thirdVisit steady named, append_assoc]
  have third := iteratePass_moves_by steady advanceRoundRobin roundRobinIndex_setStream
    (fun _ => rfl) (fun _ => rfl) called
  have second : (secondVisit fn m state).map.roundRobinIndex = m.roundRobinIndex :=
    (index_iteratePass advanceUnreliable roundRobinIndex_setStream (fun _ => rfl) _ _ _ _).trans
      (index_firstVisit roundRobinIndex_setStream _ _ _)
  have sameNumber : (secondVisit fn m state).map.numStreams = m.numStreams :=
    (index_iteratePass advanceUnreliable numStreams_setStream (fun _ => rfl) _ _ _ _).trans
      (index_firstVisit numStreams_setStream _ _ _)
  rw [sameNumber, second] at third
  rw [roundRobinIterate2_watching fn m true (state, []), roundRobinIterate2_steady steady named]
  exact third

end Steady

end Indices

/-! ## Closer and closer -/

section Closer

variable {m : StreamsMap} {fn : σ → Stream → LambdaResult σ} {id : Nat}

/-- A loop that does not call a stream of its own takes its start closer to it. -/
theorem closer_of_pass {index index' : Nat} {p : Nat → Bool} {state : σ} {calls : List (Call σ)}
    (named : ∀ id s, m.streams.lookup id = some s → s.streamID = id)
    (asks : asked fn goesOn m ((m.rotation index).filter p) state = calls)
    (moved : Nat.ModEq m.numStreams index' (index + calls.length))
    (isOpen : id ∈ m.streams) (own : p id = true)
    (notCalled : id ∉ calls.map fun call => call.stream.streamID) :
    Rotation.distance m.openStreams index' id < Rotation.distance m.openStreams index id := by
  have mem : id ∈ (m.rotation index).filter p :=
    mem_filter.mpr ⟨mem_rotation.mpr isOpen, own⟩
  have allOpen : ((m.rotation index).filter p).filter (· ∈ m.streams) =
      (m.rotation index).filter p := by
    refine filter_eq_self.mpr fun other inOrder => ?_
    simpa using mem_rotation.mp (mem_filter.mp inOrder).1
  have called : 0 < calls.length := by
    rw [← asks]
    exact length_pos_iff.mpr (mt (asked_eq_nil_of_open allOpen).mp (ne_nil_of_mem mem))
  obtain ⟨rest, split, -⟩ := streamIDs_asked named fn goesOn ((m.rotation index).filter p) state
  rw [allOpen, asks, rotation_eq_rotate] at split
  have before := Rotation.length_le_distance own split notCalled
  rw [length_map] at before
  have closer := Rotation.distance_add (mem_openStreams.mpr isOpen) before
  rw [← length_openStreams] at moved
  rw [← Rotation.distance_congr moved] at closer
  omega

theorem waiting_lt (isOpen : id ∈ m.streams) : m.waiting id < m.numStreams := by
  rw [← length_openStreams]
  exact Rotation.distance_lt (mem_openStreams.mpr isOpen) _

/-- An iteration calls a stream or takes the start of its loop closer to it. -/
theorem called_or_closer (steady : Steady fn)
    (named : ∀ id s, m.streams.lookup id = some s → s.streamID = id) (state : σ)
    (isOpen : id ∈ m.streams) :
    id ∈ (watched fn m true state).map (fun call => call.stream.streamID) ∨
      (m.roundRobinIterate2 fn true state).map.waiting id < m.waiting id := by
  have same := sameOrder_roundRobinIterate2 steady named state
  rw [watched_steady steady named, map_append, map_append, mem_append,
    mem_append, waiting, waiting, same.openStreams, same.marks]
  by_cases priority : id = 1 ∨ id = 3
  · have goesOn : allGoOn goesOnPriority (firstCalls fn m state) = true :=
      firstCalls_steady steady named
    have firstIDs : (firstCalls fn m state).map (fun call => call.stream.streamID) =
        [1, 3].filter (· ∈ m.streams) := streamIDs_of_allGoOn named goesOn
    refine Or.inl (Or.inl ?_)
    rw [firstIDs]
    simpa [isOpen] using priority
  rw [not_or] at priority
  by_cases marked : id ∈ m.unreliableStreamMark
  · rw [if_pos marked, if_pos marked]
    by_cases called : id ∈ (thirdCalls fn m true state).map fun call => call.stream.streamID
    · exact Or.inl (Or.inr (Or.inr called))
    · refine Or.inr (closer_of_pass named rfl (roundRobinIndex_moves steady named) isOpen ?_ called)
      simp [priority, marked]
  · rw [if_neg marked, if_neg marked]
    by_cases called : id ∈ (secondCalls fn m true state).map fun call => call.stream.streamID
    · exact Or.inl (Or.inr (Or.inl called))
    · refine Or.inr (closer_of_pass named rfl (unreliableRobinIndex_moves steady named) isOpen ?_
        called)
      simp [priority, marked]

/-- So it is called in more iterations than there are streams before it. -/
theorem mem_rounds (fns : List (σ → Stream → LambdaResult σ)) :
    ∀ (m : StreamsMap) (state : σ), (∀ fn ∈ fns, Steady fn) →
      (∀ id s, m.streams.lookup id = some s → s.streamID = id) →
      ∀ id ∈ m.streams, m.waiting id < fns.length →
        id ∈ (rounds fns m state).map fun call => call.stream.streamID := by
  induction fns with
  | nil => exact fun _ _ _ _ _ _ before => absurd before (Nat.not_lt_zero _)
  | cons fn fns ih =>
    intro m state steady named id isOpen before
    obtain ⟨steadyNow, steadyLater⟩ := forall_mem_cons.mp steady
    have same := sameOrder_roundRobinIterate2 steadyNow named state
    rw [rounds, map_append, mem_append]
    refine (called_or_closer steadyNow named state isOpen).imp_right fun closer => ?_
    refine ih _ _ steadyLater same.named id (same.mem_iff.mpr isOpen) ?_
    rw [length_cons] at before
    omega

end Closer

/-- With `n` open streams, every stream is called in any `n` iterations on paths that may send,
wherever the indices stand and however early the lambda stops the loops. -/
theorem roundRobin_everyStream_called (m : StreamsMap)
    (named : ∀ id s, m.streams.lookup id = some s → s.streamID = id)
    (fns : List (σ → Stream → LambdaResult σ)) (steady : ∀ fn ∈ fns, Steady fn)
    (often : fns.length = m.numStreams) (state : σ) :
    ∀ id ∈ m.streams, id ∈ (rounds fns m state).map fun call => call.stream.streamID :=
  fun id isOpen => mem_rounds fns m state steady named id isOpen (often ▸ waiting_lt isOpen)

/-- A lambda that stops each loop at its first stream. -/
def oneEach (_ : Unit) (s : Stream) : LambdaResult Unit :=
  { state := (), stream := s, cont := s.streamID = 1 ∨ s.streamID = 3 }

/-- Four streams with a mark next to streams 1, 3 and 5, and indices from a time when there were
more streams. -/
def sevenStreamServer : StreamsMap :=
  let opened := [4, 6, 8].foldl (fun m id => m.putStreamType (newStreamType id false) false)
    fourStreamServer
  { opened with roundRobinIndex := 12, unreliableRobinIndex := 8 }

theorem roundRobin_everyStream_called_oneEach :
    sevenStreamServer.openStreams = [1, 3, 5, 2, 4, 6, 8] ∧
      (watched oneEach sevenStreamServer true ()).map (fun call => call.stream.streamID) =
        [1, 3, 5, 6] ∧
      ∀ id ∈ sevenStreamServer.streams,
        id ∈ (rounds (List.replicate 7 oneEach) sevenStreamServer ()).map
          fun call => call.stream.streamID := by
  have named : ∀ id s, sevenStreamServer.streams.lookup id = some s → s.streamID = id := by
    intro id s opened
    have entries : ∀ entry ∈ sevenStreamServer.streams.entries, entry.2.streamID = entry.1 := by
      decide
    exact entries _ (AList.mem_lookup_iff.mp opened)
  have steady : ∀ fn ∈ List.replicate 7 oneEach, Steady fn := by
    intro fn mem
    rw [eq_of_mem_replicate mem]
    exact ⟨fun _ _ priority => decide_eq_true priority, fun _ _ => rfl, fun _ _ => rfl⟩
  refine ⟨by decide, by decide, ?_⟩
  exact roundRobin_everyStream_called sevenStreamServer named _ steady (by decide) ()

end StreamsMap

end MPQuic
