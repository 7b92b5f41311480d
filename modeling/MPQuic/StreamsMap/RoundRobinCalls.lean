import MPQuic.StreamsMap.RoundRobin

/-!
# The calls of a round robin

Which streams a round robin calls its lambda with, and what the lambda answers. The calls are
recorded by a lambda that does the same and keeps a list (`watching`). Each of the three loops asks
streams until an answer ends it (`asked`), and what a whole iteration records is put together from
the three (`watched_eq`).

A `false` or an error should end the whole iteration. It does, but for two answers: a `false` in
the second loop only ends that loop, and the loops over streams 1 and 3 take an `errMapAccess` of
the lambda for that of a stream that does not exist. Apart from these (`Overlooked`) the iteration
keeps its contract (`roundRobin_contract_iff`).
-/

namespace MPQuic

open List

namespace StreamsMap

variable {σ : Type} (fn : σ → Stream → LambdaResult σ) {r : LambdaResult σ}

/-! ## Watching the lambda -/

/-- A call of the lambda and its answer. -/
structure Call (σ : Type) where
  stream : Stream
  answer : LambdaResult σ

/-- The lambda, which also keeps a list of its calls. -/
def watching (state : σ × List (Call σ)) (s : Stream) : LambdaResult (σ × List (Call σ)) :=
  let r := fn state.1 s
  { state := (r.state, state.2 ++ [{ stream := s, answer := r }])
    stream := r.stream, cont := r.cont, err := r.err }

/-- Keeping the list changes nothing else. -/
theorem roundRobinIterate2_watching (m : StreamsMap) (sendingAllowed : Bool)
    (state : σ × List (Call σ)) :
    m.roundRobinIterate2 fn sendingAllowed state.1 =
      (m.roundRobinIterate2 (watching fn) sendingAllowed state).through Prod.fst :=
  roundRobinIterate2_through (fun _ _ => rfl) m sendingAllowed state

/-- The calls of one iteration. -/
def watched (m : StreamsMap) (sendingAllowed : Bool) (state : σ) : List (Call σ) :=
  (m.roundRobinIterate2 (watching fn) sendingAllowed (state, [])).state.2

/-- The lambda wants to go on. -/
def LambdaResult.goesOn (r : LambdaResult σ) : Bool := r.cont && r.err.isNone

/-- The loop over streams 1 and 3 goes on. -/
def LambdaResult.goesOnPriority (r : LambdaResult σ) : Bool :=
  r.cont && (r.err = none || r.err = some .errMapAccess)

open LambdaResult

/-! ## Asking one stream after the other -/

/-- The streams of a list are asked until an answer ends it. -/
def asked (more : LambdaResult σ → Bool) (m : StreamsMap) : List Nat → σ → List (Call σ)
  | [], _ => []
  | id :: ids, state =>
    match m.streams.lookup id with
    | none => asked more m ids state
    | some s =>
      let r := fn state s
      { stream := s, answer := r } :: if more r then asked more m ids r.state else []

/-- The state of the lambda after its calls. -/
def stateAfter (calls : List (Call σ)) (state : σ) : σ :=
  (calls.getLast?.map fun call => call.answer.state).getD state

/-- The error that ended the calls. -/
def errAfter (calls : List (Call σ)) : Option StreamsMapError :=
  calls.getLast?.bind fun call => call.answer.err

/-- No answer ended the calls. -/
def allGoOn (more : LambdaResult σ → Bool) (calls : List (Call σ)) : Bool :=
  calls.all fun call => more call.answer

/-- The open streams of a list. -/
def openOf (m : StreamsMap) (ids : List Nat) : List Stream := ids.filterMap m.streams.lookup

/-- Streams are asked until an answer ends it. -/
def askAll (more : LambdaResult σ → Bool) : List Stream → σ → List (Call σ)
  | [], _ => []
  | s :: streams, state =>
    { stream := s, answer := fn state s } ::
      if more (fn state s) then askAll more streams (fn state s).state else []

section Asked

variable {fn} {more : LambdaResult σ → Bool} {m m' : StreamsMap} {id : Nat} {ids : List Nat}
  {s : Stream} {streams back : List Stream} {state : σ} (call : Call σ)

theorem allGoOn_cons (calls : List (Call σ)) :
    allGoOn more (call :: calls) = (more call.answer && allGoOn more calls) := rfl

theorem allGoOn_iff {calls : List (Call σ)} :
    allGoOn more calls = true ↔ ∀ call ∈ calls, more call.answer = true :=
  all_eq_true

theorem stateAfter_cons (calls : List (Call σ)) (state : σ) :
    stateAfter (call :: calls) state = stateAfter calls call.answer.state := by
  unfold stateAfter
  rw [getLast?_cons]
  cases calls.getLast? <;> rfl

theorem errAfter_cons {call : Call σ} (noErr : call.answer.err = none) (calls : List (Call σ)) :
    errAfter (call :: calls) = errAfter calls := by
  unfold errAfter
  rw [getLast?_cons]
  cases calls.getLast? with
  | none => exact noErr
  | some last => rfl

theorem asked_missing (missing : m.streams.lookup id = none) :
    asked fn more m (id :: ids) state = asked fn more m ids state := by
  rw [asked, missing]

theorem asked_open (opened : m.streams.lookup id = some s) :
    asked fn more m (id :: ids) state =
      { stream := s, answer := fn state s } ::
        if more (fn state s) then asked fn more m ids (fn state s).state else [] := by
  rw [asked, opened]

theorem openOf_missing (missing : m.streams.lookup id = none) :
    m.openOf (id :: ids) = m.openOf ids :=
  filterMap_cons_none (f := (m.streams.lookup ·)) missing

theorem openOf_open (opened : m.streams.lookup id = some s) :
    m.openOf (id :: ids) = s :: m.openOf ids :=
  filterMap_cons_some (f := (m.streams.lookup ·)) opened

theorem asked_eq : asked fn more m ids state = askAll fn more (m.openOf ids) state := by
  induction ids generalizing state with
  | nil => rfl
  | cons id ids ih =>
    cases opened : m.streams.lookup id with
    | none => rw [asked_missing opened, ih, openOf_missing opened]
    | some s => rw [asked_open opened, ih, openOf_open opened, askAll]

theorem asked_congr (same : ∀ id ∈ ids, m'.streams.lookup id = m.streams.lookup id) :
    asked fn more m' ids state = asked fn more m ids state := by
  rw [asked_eq, asked_eq, openOf, filterMap_congr same, openOf]

theorem askAll_eq_nil_iff : askAll fn more streams state = [] ↔ streams = [] := by
  cases streams <;> simp [askAll]

/-- Asking goes on with the streams that follow. -/
theorem askAll_append :
    askAll fn more (streams ++ back) state =
      askAll fn more streams state ++
        if allGoOn more (askAll fn more streams state) then
          askAll fn more back (stateAfter (askAll fn more streams state) state)
        else [] := by
  induction streams generalizing state with
  | nil => rfl
  | cons s streams ih =>
    rw [cons_append, askAll, askAll]
    by_cases goesOn : more (fn state s) = true
    · rw [if_pos goesOn, if_pos goesOn, ih, stateAfter_cons, cons_append, allGoOn_cons, goesOn,
        Bool.true_and]
    · simp [goesOn, allGoOn_cons]

/-- Only the last answer may end the calls. -/
theorem dropLast_askAll :
    ∀ call ∈ (askAll fn more streams state).dropLast, more call.answer = true := by
  induction streams generalizing state with
  | nil => exact fun call mem => absurd mem not_mem_nil
  | cons s streams ih =>
    rw [askAll]
    by_cases goesOn : more (fn state s) = true
    · rw [if_pos goesOn]
      intro call mem
      cases later : askAll fn more streams (fn state s).state with
      | nil =>
        rw [later] at mem
        cases mem
      | cons next rest =>
        rw [later, dropLast_cons_cons] at mem
        rcases mem_cons.mp mem with rfl | mem
        · exact goesOn
        · exact ih call (later ▸ mem)
    · rw [if_neg goesOn]
      exact fun call mem => absurd mem not_mem_nil

/-- A weaker condition to go on has the same calls, and those of the streams that follow if it goes
on with the answer that ended the calls. -/
theorem askAll_weaker {weaker : LambdaResult σ → Bool}
    (weaken : ∀ r, more r = true → weaker r = true) (fn : σ → Stream → LambdaResult σ)
    (streams : List Stream) (state : σ) :
    ∃ rest, streams = (askAll fn more streams state).map Call.stream ++ rest ∧
      (allGoOn more (askAll fn more streams state) = true → rest = []) ∧
      askAll fn weaker streams state = askAll fn more streams state ++
        if allGoOn weaker (askAll fn more streams state) then
          askAll fn weaker rest (stateAfter (askAll fn more streams state) state)
        else [] := by
  induction streams generalizing state with
  | nil => exact ⟨[], rfl, fun _ => rfl, rfl⟩
  | cons s streams ih =>
    rw [askAll, askAll]
    by_cases goesOn : more (fn state s) = true
    · obtain ⟨rest, split, all, calls⟩ := @ih (fn state s).state
      rw [if_pos goesOn, if_pos (weaken _ goesOn), calls, stateAfter_cons, allGoOn_cons,
        allGoOn_cons, goesOn, weaken _ goesOn, Bool.true_and, Bool.true_and]
      refine ⟨rest, ?_, all, rfl⟩
      rw [map_cons, cons_append, ← split]
    · refine ⟨streams, by rw [if_neg goesOn]; rfl, by simp [goesOn, allGoOn_cons], ?_⟩
      rw [if_neg goesOn, allGoOn_cons]
      by_cases goesOn' : weaker (fn state s) = true
      · rw [if_pos goesOn', goesOn']
        rfl
      · simp [goesOn']

/-- The answers are those of the lambda. -/
theorem answer_of_mem_asked {call : Call σ}
    (mem : call ∈ asked fn more m ids state) : ∃ before, call.answer = fn before call.stream := by
  rw [asked_eq] at mem
  generalize m.openOf ids = streams at mem
  induction streams generalizing state with
  | nil => cases mem
  | cons s streams ih =>
    rw [askAll] at mem
    rcases mem_cons.mp mem with rfl | later
    · exact ⟨state, rfl⟩
    · split at later
      · exact ih later
      · cases later

theorem LambdaResult.goesOn_iff : r.goesOn = true ↔ r.cont = true ∧ r.err = none := by
  rw [goesOn, Bool.and_eq_true, Option.isNone_iff_eq_none]

theorem LambdaResult.goesOnPriority_iff :
    r.goesOnPriority = true ↔ r.cont = true ∧ (r.err = none ∨ r.err = some .errMapAccess) := by
  rw [goesOnPriority, Bool.and_eq_true, Bool.or_eq_true, decide_eq_true_eq, decide_eq_true_eq]

theorem goesOnPriority_of_goesOn (goesOn : r.goesOn = true) : r.goesOnPriority = true :=
  goesOnPriority_iff.mpr
    ⟨(goesOn_iff.mp goesOn).1, Or.inl (goesOn_iff.mp goesOn).2⟩

/-! ### The streams that are asked -/

theorem openOf_filter (ids : List Nat) : m.openOf (ids.filter (· ∈ m.streams)) = m.openOf ids := by
  rw [openOf, filterMap_filter, openOf]
  refine filterMap_congr fun id _ => ?_
  by_cases mem : id ∈ m.streams
  · simp [mem]
  · simp [mem, AList.lookup_eq_none.mpr mem]

section Named

variable (named : ∀ id s, m.streams.lookup id = some s → s.streamID = id)

include named

theorem streamIDs_openOf (ids : List Nat) :
    (m.openOf ids).map Stream.streamID = ids.filter (· ∈ m.streams) := by
  induction ids with
  | nil => rfl
  | cons id ids ih =>
    cases opened : m.streams.lookup id with
    | none =>
      rw [openOf_missing opened, filter_cons_of_neg]
      · exact ih
      · simpa using AList.lookup_eq_none.mp opened
    | some s =>
      have mem : id ∈ m.streams := MapSum.mem_of_lookup opened
      rw [openOf_open opened, filter_cons_of_pos (by simpa using mem), map_cons, ih,
        named id s opened]

/-- The streams of the list that are open, up to the one that ended the calls. -/
theorem streamIDs_asked (fn : σ → Stream → LambdaResult σ) (more : LambdaResult σ → Bool)
    (ids : List Nat) (state : σ) :
    ∃ rest, ids.filter (· ∈ m.streams) =
        (asked fn more m ids state).map (fun call => call.stream.streamID) ++ rest ∧
      (allGoOn more (asked fn more m ids state) = true → rest = []) := by
  obtain ⟨rest, split, all, -⟩ := askAll_weaker (fun (r : LambdaResult σ)
    (goesOn : more r = true) => goesOn) fn (m.openOf ids) state
  rw [asked_eq]
  refine ⟨rest.map Stream.streamID, ?_, fun goesOn => by rw [all goesOn]; rfl⟩
  rw [← streamIDs_openOf named, split, map_append, map_map, ← split]
  rfl

theorem streamIDs_of_allGoOn (all : allGoOn more (asked fn more m ids state) = true) :
    (asked fn more m ids state).map (fun call => call.stream.streamID) =
      ids.filter (· ∈ m.streams) := by
  obtain ⟨rest, split, noRest⟩ := streamIDs_asked named fn more ids state
  rw [split, noRest all, append_nil]

theorem streamIDs_sublist (fn : σ → Stream → LambdaResult σ) (more : LambdaResult σ → Bool)
    (ids : List Nat) (state : σ) :
    ((asked fn more m ids state).map fun call => call.stream.streamID).Sublist
      (ids.filter (· ∈ m.streams)) := by
  obtain ⟨rest, split, -⟩ := streamIDs_asked named fn more ids state
  rw [split]
  exact sublist_append_left _ _

/-- Every call is one of an open stream in the list. -/
theorem mem_of_mem_asked {call : Call σ} (mem : call ∈ asked fn more m ids state) :
    call.stream.streamID ∈ ids ∧ call.stream.streamID ∈ m.streams := by
  have inFilter := (streamIDs_sublist named fn more ids state).subset
    (mem_map_of_mem (f := fun call : Call σ => call.stream.streamID) mem)
  simpa using inFilter

end Named

end Asked

/-! ## The loops -/

/-- A loop asks the streams of a list, in the map as it was, and changes no others. -/
structure Asks (more : LambdaResult σ → Bool) (ids : List Nat) (m : StreamsMap)
    (state : σ × List (Call σ)) (visit : Visit (σ × List (Call σ))) : Prop where
  reached : visit.state.1 = stateAfter (asked fn more m ids state.1) state.1
  calls : visit.state.2 = state.2 ++ asked fn more m ids state.1
  others : ∀ id, id ∉ ids → visit.map.streams.lookup id = m.streams.lookup id

section Loops

variable {fn} {more : LambdaResult σ → Bool} {m m' : StreamsMap} {id : Nat} {ids : List Nat}
  {s : Stream} {state : σ × List (Call σ)} {visit : Visit (σ × List (Call σ))}

theorem asks_nil : Asks fn more [] m state { map := m, state, cont := true, err := none } :=
  ⟨rfl, (append_nil _).symm, fun _ _ => rfl⟩

theorem Asks.missing (asks : Asks fn more ids m state visit)
    (missing : m.streams.lookup id = none) : Asks fn more (id :: ids) m state visit := by
  refine ⟨?_, ?_, fun other notMem => asks.others other fun mem => notMem (.tail _ mem)⟩
  · rw [asked_missing missing]
    exact asks.reached
  · rw [asked_missing missing]
    exact asks.calls

section

variable (opened : m.streams.lookup id = some s)

include opened

/-- The streams after the first one are asked in a map where only the first one was changed. -/
theorem Asks.cons {state' : σ × List (Call σ)} (goesOn : more (fn state.1 s) = true)
    (notMem : id ∉ ids)
    (changed : ∀ other, other ≠ id → m'.streams.lookup other = m.streams.lookup other)
    (called : state' = ((fn state.1 s).state, state.2 ++ [{ stream := s, answer := fn state.1 s }]))
    (asks : Asks fn more ids m' state' visit) : Asks fn more (id :: ids) m state visit := by
  have same : asked fn more m' ids state'.1 = asked fn more m ids state'.1 :=
    asked_congr fun other mem => changed other fun isID => notMem (isID ▸ mem)
  obtain ⟨reached, calls, others⟩ := asks
  rw [same] at reached calls
  subst called
  refine ⟨?_, ?_, fun other differ => ?_⟩
  · rw [asked_open opened, if_pos goesOn, stateAfter_cons]
    exact reached
  · rw [asked_open opened, if_pos goesOn, calls, append_assoc]
    rfl
  · rw [mem_cons, not_or] at differ
    rw [others other differ.2, changed other differ.1]

/-- The answer of the first stream ends the loop. -/
theorem Asks.stopped (stops : ¬more (fn state.1 s) = true)
    (changed : ∀ other, other ≠ id → visit.map.streams.lookup other = m.streams.lookup other)
    (called : visit.state =
      ((fn state.1 s).state, state.2 ++ [{ stream := s, answer := fn state.1 s }])) :
    Asks fn more (id :: ids) m state visit := by
  refine ⟨?_, ?_, fun other differ => changed other fun same => differ (same ▸ .head _)⟩
  · rw [asked_open opened, if_neg stops, called]
    rfl
  · rw [asked_open opened, if_neg stops, called]

theorem iterateFunc_watching (state : σ × List (Call σ)) :
    m.iterateFunc (watching fn) id state =
      { map := m.setStream id (fn state.1 s).stream
        state := ((fn state.1 s).state, state.2 ++ [{ stream := s, answer := fn state.1 s }])
        cont := (fn state.1 s).cont, err := (fn state.1 s).err } := by
  rw [iterateFunc, opened]
  rfl

end

variable (fn) in
theorem asks_iteratePass (advance : StreamsMap → StreamsMap)
    (moves : ∀ m, (advance m).streams = m.streams) (nodup : ids.Nodup) :
    ∀ (m : StreamsMap) (state : σ × List (Call σ)), (∀ id ∈ ids, id ∈ m.streams) →
      Asks fn goesOn ids m state (iteratePass (watching fn) advance ids m state) ∧
        (iteratePass (watching fn) advance ids m state).err =
          errAfter (asked fn goesOn m ids state.1) := by
  induction ids with
  | nil => exact fun m state _ => ⟨asks_nil, rfl⟩
  | cons id ids ih =>
    intro m state present
    obtain ⟨notMem, nodup⟩ := nodup_cons.mp nodup
    obtain ⟨here, later⟩ := forall_mem_cons.mp present
    obtain ⟨s, opened⟩ := MapSum.exists_lookup here
    have changed (other : Nat) (differ : other ≠ id) :
        (m.setStream id (fn state.1 s).stream).streams.lookup other = m.streams.lookup other :=
      lookup_setStream_of_ne differ _
    simp only [iteratePass, iterateFunc_watching opened]
    split_ifs with failed cont
    · have stops : ¬(fn state.1 s).goesOn = true := fun goesOn =>
        failed (goesOn_iff.mp goesOn).2
      refine ⟨.stopped opened stops changed rfl, ?_⟩
      rw [asked_open opened, if_neg stops]
      rfl
    · have noErr : (fn state.1 s).err = none := not_not.mp failed
      have goesOn := goesOn_iff.mpr ⟨cont, noErr⟩
      have changed' (other : Nat) (differ : other ≠ id) :
          (advance (m.setStream id (fn state.1 s).stream)).streams.lookup other =
            m.streams.lookup other := by
        rw [moves]
        exact changed other differ
      have present' : ∀ other ∈ ids,
          other ∈ (advance (m.setStream id (fn state.1 s).stream)).streams := by
        intro other mem
        rw [moves, mem_setStream]
        exact later other mem
      obtain ⟨asks, err⟩ := ih nodup _ _ present'
      refine ⟨.cons opened goesOn notMem changed' rfl asks, ?_⟩
      rw [err, asked_open opened, if_pos goesOn, errAfter_cons noErr]
      exact congrArg errAfter
        (asked_congr fun other mem => changed' other fun same => notMem (same ▸ mem))
    · have stops : ¬(fn state.1 s).goesOn = true := fun goesOn =>
        cont (goesOn_iff.mp goesOn).1
      refine ⟨.stopped opened stops (fun other differ => ?_) rfl, ?_⟩
      · rw [moves]
        exact changed other differ
      · rw [asked_open opened, if_neg stops]
        rfl

variable (fn) in
theorem asks_iteratePriority (nodup : ids.Nodup) :
    ∀ (m : StreamsMap) (state : σ × List (Call σ)),
      Asks fn goesOnPriority ids m state
          (iteratePriority (watching fn) ids m state) ∧
        (((iteratePriority (watching fn) ids m state).err ≠ none ∨
            (iteratePriority (watching fn) ids m state).cont = false) ↔
          allGoOn goesOnPriority
            (asked fn goesOnPriority m ids state.1) = false) := by
  induction ids with
  | nil => exact fun m state => ⟨asks_nil, by simp [iteratePriority, allGoOn, asked]⟩
  | cons id ids ih =>
    intro m state
    obtain ⟨notMem, nodup⟩ := nodup_cons.mp nodup
    cases opened : m.streams.lookup id with
    | none =>
      have missing : m.iterateFunc (watching fn) id state =
          { map := m, state, cont := true, err := some .errMapAccess } := by
        rw [iterateFunc, opened]
      obtain ⟨asks, ended⟩ := ih nodup m state
      simp only [iteratePriority, missing, ne_eq, reduceCtorEq, not_false_eq_true,
        not_true_eq_false, and_false, if_false, if_true]
      exact ⟨asks.missing opened, by rw [asked_missing opened]; exact ended⟩
    | some s =>
      have changed (other : Nat) (differ : other ≠ id) :
          (m.setStream id (fn state.1 s).stream).streams.lookup other =
            m.streams.lookup other :=
        lookup_setStream_of_ne differ _
      simp only [iteratePriority, iterateFunc_watching opened]
      split_ifs with failed cont
      · have stops : ¬(fn state.1 s).goesOnPriority = true := fun goesOn =>
          (goesOnPriority_iff.mp goesOn).2.elim failed.1 failed.2
        refine ⟨.stopped opened stops changed rfl, ?_⟩
        rw [asked_open opened, if_neg stops, allGoOn_cons, Bool.eq_false_of_not_eq_true stops]
        exact ⟨fun _ => rfl, fun _ => Or.inl failed.1⟩
      · have err : (fn state.1 s).err = none ∨ (fn state.1 s).err = some .errMapAccess := by
          by_cases noErr : (fn state.1 s).err = none
          · exact Or.inl noErr
          · exact Or.inr (not_not.mp fun other => failed ⟨noErr, other⟩)
        have goesOn := goesOnPriority_iff.mpr ⟨cont, err⟩
        obtain ⟨asks, ended⟩ := ih nodup (m.setStream id (fn state.1 s).stream)
          ((fn state.1 s).state, state.2 ++ [{ stream := s, answer := fn state.1 s }])
        refine ⟨.cons opened goesOn notMem changed rfl asks, ?_⟩
        rw [ended, asked_open opened, if_pos goesOn, allGoOn_cons, goesOn, Bool.true_and,
          asked_congr fun other mem => changed other fun same => notMem (same ▸ mem)]
      · have stops : ¬(fn state.1 s).goesOnPriority = true := fun goesOn =>
          cont (goesOnPriority_iff.mp goesOn).1
        refine ⟨.stopped opened stops changed rfl, ?_⟩
        rw [asked_open opened, if_neg stops, allGoOn_cons, Bool.eq_false_of_not_eq_true stops]
        exact ⟨fun _ => rfl, fun _ => Or.inr (Bool.eq_false_of_not_eq_true cont)⟩

end Loops

/-! ## A whole iteration -/

section Iteration

variable (m : StreamsMap) (sendingAllowed : Bool) (state : σ)

/-- The streams of the second loop, in their order. -/
def middle : List Nat := if sendingAllowed then m.unmarkedOrder else []

/-- The calls of the loop over streams 1 and 3. -/
def firstCalls : List (Call σ) := asked fn goesOnPriority m [1, 3] state

/-- The calls of the second loop, if it is reached. -/
def secondCalls : List (Call σ) :=
  asked fn goesOn m (m.middle sendingAllowed)
    (stateAfter (firstCalls fn m state) state)

/-- The calls of the third loop, if it is reached. -/
def thirdCalls : List (Call σ) :=
  asked fn goesOn m m.markedOrder
    (stateAfter (secondCalls fn m sendingAllowed state) (stateAfter (firstCalls fn m state) state))

/-- The calls after the loop over streams 1 and 3. Only an error ends the iteration. -/
def laterCalls : List (Call σ) :=
  secondCalls fn m sendingAllowed state ++
    if errAfter (secondCalls fn m sendingAllowed state) = none then
      thirdCalls fn m sendingAllowed state
    else []

theorem middle_subset : m.middle sendingAllowed ⊆ m.unmarkedOrder := by
  unfold middle
  split
  · exact List.Subset.refl _
  · exact nil_subset _

theorem notMem_priority_of_mem_middle {id : Nat} (mem : id ∈ m.middle sendingAllowed) :
    id ∉ [1, 3] := by
  obtain ⟨-, notCrypto, notHeader, -⟩ := mem_unmarkedOrder.mp (m.middle_subset sendingAllowed mem)
  simp [notCrypto, notHeader]

theorem notMem_priority_of_mem_markedOrder {id : Nat} (mem : id ∈ m.markedOrder) : id ∉ [1, 3] := by
  obtain ⟨-, notCrypto, notHeader, -⟩ := mem_markedOrder.mp mem
  simp [notCrypto, notHeader]

theorem notMem_middle_of_mem_markedOrder {id : Nat} (mem : id ∈ m.markedOrder) :
    id ∉ m.middle sendingAllowed := fun inMiddle =>
  (mem_unmarkedOrder.mp (m.middle_subset sendingAllowed inMiddle)).2.2.2
    (mem_markedOrder.mp mem).2.2.2

variable {m} in
/-- A loop over open streams that are as they were at the start asks them in that map. -/
theorem asks_pass (advance : StreamsMap → StreamsMap)
    (moves : ∀ m, (advance m).streams = m.streams) {ids : List Nat} (nodup : ids.Nodup)
    (visit : Visit (σ × List (Call σ))) (isOpen : ∀ id ∈ ids, id ∈ m.streams)
    (same : ∀ id ∈ ids, visit.map.streams.lookup id = m.streams.lookup id) :
    let next := iteratePass (watching fn) advance ids visit.map visit.state
    let calls := asked fn goesOn m ids visit.state.1
    next.state = (stateAfter calls visit.state.1, visit.state.2 ++ calls) ∧
      next.err = errAfter calls ∧
      ∀ id, id ∉ ids → next.map.streams.lookup id = visit.map.streams.lookup id := by
  intro next calls
  have present : ∀ id ∈ ids, id ∈ visit.map.streams := by
    intro id mem
    rw [← AList.lookup_isSome, same id mem, AList.lookup_isSome]
    exact isOpen id mem
  obtain ⟨asks, err⟩ :=
    asks_iteratePass fn advance moves nodup visit.map visit.state present
  obtain ⟨reached, called, others⟩ := asks
  rw [asked_congr same] at err reached called
  exact ⟨Prod.ext reached called, err, others⟩

/-- The second loop asks the streams of the map as it was at the start. -/
theorem asks_second :
    let first := iteratePriority (watching fn) [1, 3] m (state, [])
    let second := if sendingAllowed then
        iteratePass (watching fn) advanceUnreliable m.unmarkedOrder first.map first.state
      else first
    first.err = none →
      second.state = (stateAfter (secondCalls fn m sendingAllowed state)
          (stateAfter (firstCalls fn m state) state),
        firstCalls fn m state ++ secondCalls fn m sendingAllowed state) ∧
      second.err = errAfter (secondCalls fn m sendingAllowed state) ∧
      ∀ id ∈ m.markedOrder, second.map.streams.lookup id = m.streams.lookup id := by
  intro first second noErr
  obtain ⟨reached, called, others⟩ :=
    (asks_iteratePriority fn (by decide : [1, 3].Nodup) m (state, [])).1
  have after : first.state = (stateAfter (firstCalls fn m state) state, firstCalls fn m state) :=
    Prod.ext reached (called.trans (nil_append _))
  have unchanged : ∀ id ∈ m.markedOrder, first.map.streams.lookup id = m.streams.lookup id :=
    fun id mem => others id (m.notMem_priority_of_mem_markedOrder mem)
  cases sendingAllowed with
  | false =>
    have empty : secondCalls fn m false state = [] := rfl
    rw [empty, append_nil]
    exact ⟨after, noErr, unchanged⟩
  | true =>
    obtain ⟨passed, err, kept⟩ := asks_pass fn advanceUnreliable (fun _ => rfl)
      m.nodup_unmarkedOrder first (fun id mem => (mem_unmarkedOrder.mp mem).1)
      fun id mem => others id (m.notMem_priority_of_mem_middle true mem)
    refine ⟨passed.trans (by rw [after]; rfl), err.trans (by rw [after]; rfl), fun id mem => ?_⟩
    exact (kept id (m.notMem_middle_of_mem_markedOrder true mem)).trans (unchanged id mem)

/-- What a whole iteration records. -/
theorem watched_eq :
    watched fn m sendingAllowed state = firstCalls fn m state ++
      if allGoOn goesOnPriority (firstCalls fn m state) then
        laterCalls fn m sendingAllowed state
      else [] := by
  obtain ⟨asks, ended⟩ := asks_iteratePriority fn (by decide : [1, 3].Nodup) m (state, [])
  have called : (iteratePriority (watching fn) [1, 3] m (state, [])).state.2 =
      firstCalls fn m state := asks.calls.trans (nil_append _)
  have second := asks_second fn m sendingAllowed state
  simp only [watched, roundRobinIterate2]
  by_cases stops : (iteratePriority (watching fn) [1, 3] m (state, [])).err ≠ none ∨
      (iteratePriority (watching fn) [1, 3] m (state, [])).cont = false
  · have notAll : allGoOn goesOnPriority (firstCalls fn m state) = false :=
      ended.mp stops
    rw [if_pos stops, notAll, called]
    exact (append_nil _).symm
  · have all : allGoOn goesOnPriority (firstCalls fn m state) = true :=
      Bool.eq_true_of_not_eq_false fun notAll => stops (ended.mpr notAll)
    obtain ⟨reached, err, others⟩ := second (not_not.mp fun err => stops (Or.inl err))
    have third := (asks_pass fn advanceRoundRobin (fun _ => rfl) m.nodup_markedOrder _
      (fun id mem => (mem_markedOrder.mp mem).1) others).1
    rw [if_neg stops, if_pos all, laterCalls, err]
    by_cases noErr : errAfter (secondCalls fn m sendingAllowed state) = none
    · rw [if_neg (not_not.mpr noErr), if_pos noErr, third, reached, append_assoc]
      rfl
    · rw [if_pos noErr, if_neg noErr, append_nil, reached]

theorem mem_watched {call : Call σ} (mem : call ∈ watched fn m sendingAllowed state) :
    call ∈ firstCalls fn m state ∨ call ∈ secondCalls fn m sendingAllowed state ∨
      call ∈ thirdCalls fn m sendingAllowed state := by
  rw [watched_eq] at mem
  refine (mem_append.mp mem).imp_right fun later => ?_
  split at later
  · refine (mem_append.mp later).imp_right fun third => ?_
    split at third
    · exact third
    · cases third
  · cases later

theorem answer_of_mem_watched {call : Call σ} (mem : call ∈ watched fn m sendingAllowed state) :
    ∃ before, call.answer = fn before call.stream := by
  rcases mem_watched fn m sendingAllowed state mem with first | second | third
  · exact answer_of_mem_asked first
  · exact answer_of_mem_asked second
  · exact answer_of_mem_asked third

/-! ## The contract -/

/-- The order in which streams are offered room. -/
def order : List Nat :=
  [1, 3].filter (· ∈ m.streams) ++ m.middle sendingAllowed ++ m.markedOrder

/-- What an iteration over the eligible streams promises. -/
structure Contract (m : StreamsMap) (eligible : Nat → Prop) (calls : List (Call σ)) : Prop where
  /-- at most once for every open stream -/
  once : (calls.map fun call => call.stream.streamID).Nodup
  isOpen : ∀ call ∈ calls, call.stream.streamID ∈ m.streams
  /-- for every eligible stream, if the lambda always goes on -/
  complete : allGoOn goesOn calls = true → ∀ id ∈ m.streams, eligible id →
    id ∈ calls.map fun call => call.stream.streamID
  /-- for no further stream after a `false` or an error -/
  stops : ∀ call ∈ calls.dropLast, call.answer.goesOn = true

/-- An answer that should end the iteration, and does not: an `errMapAccess` of stream 1 or 3 unless
there is no other stream to follow, and a `false` in the second loop unless the third is empty. -/
def PassedOver (call : Call σ) : Prop :=
  (call.stream.streamID ∈ [1, 3] ∧ call.answer.cont = true ∧
      call.answer.err = some .errMapAccess ∧
      (m.order sendingAllowed).getLast? ≠ some call.stream.streamID) ∨
    (call.stream.streamID ∈ m.middle sendingAllowed ∧ call.answer.cont = false ∧
      call.answer.err = none ∧ m.markedOrder ≠ [])

instance PassedOver.decidable (call : Call σ) : Decidable (m.PassedOver sendingAllowed call) :=
  inferInstanceAs (Decidable (_ ∨ _))

/-- The streams are asked in their order up to the first answer that should end it, and that one is
passed over. -/
def Overlooked : Prop :=
  ∃ call ∈ (asked fn goesOn m (m.order sendingAllowed) state).getLast?,
    m.PassedOver sendingAllowed call

instance Overlooked.decidable : Decidable (Overlooked fn m sendingAllowed state) :=
  inferInstanceAs (Decidable (∃ call ∈ _, _))

/-- The lambda is called as it should be, and further just if an answer is overlooked. -/
def Followed : Prop :=
  ∃ further, watched fn m sendingAllowed state =
      asked fn goesOn m (m.order sendingAllowed) state ++ further ∧
    (further = [] ↔ ¬Overlooked fn m sendingAllowed state)

end Iteration

section ContractProof

variable {fn} {m : StreamsMap} {sendingAllowed : Bool} {state : σ} {id : Nat}
  {ids back front : List Nat} {calls : List (Call σ)} {last : Call σ}

/-! ### The order -/

theorem filter_middle : (m.middle sendingAllowed).filter (· ∈ m.streams) =
    m.middle sendingAllowed := by
  refine filter_eq_self.mpr fun id mem => ?_
  simpa using (mem_unmarkedOrder.mp (m.middle_subset sendingAllowed mem)).1

theorem filter_markedOrder : m.markedOrder.filter (· ∈ m.streams) = m.markedOrder := by
  refine filter_eq_self.mpr fun id mem => ?_
  simpa using (mem_markedOrder.mp mem).1

theorem nodup_middle : (m.middle sendingAllowed).Nodup := by
  unfold middle
  split
  · exact m.nodup_unmarkedOrder
  · exact nodup_nil

theorem nodup_order (m : StreamsMap) (sendingAllowed : Bool) : (m.order sendingAllowed).Nodup := by
  have priority : ([1, 3].filter (· ∈ m.streams)).Nodup :=
    List.Nodup.filter _ (by decide)
  refine nodup_append'.mpr ⟨nodup_append'.mpr ⟨priority, nodup_middle, ?_⟩,
    m.nodup_markedOrder, ?_⟩
  · intro id inPriority inMiddle
    exact m.notMem_priority_of_mem_middle sendingAllowed inMiddle
      (mem_filter.mp inPriority).1
  · intro id inFront marked
    rcases mem_append.mp inFront with inPriority | inMiddle
    · exact m.notMem_priority_of_mem_markedOrder marked (mem_filter.mp inPriority).1
    · exact m.notMem_middle_of_mem_markedOrder sendingAllowed marked inMiddle

theorem mem_order : id ∈ m.order sendingAllowed ↔ id ∈ m.streams ∧
    (sendingAllowed = true ∨ id = 1 ∨ id = 3 ∨ id ∈ m.unreliableStreamMark) := by
  have inMiddle : id ∈ m.middle sendingAllowed ↔
      sendingAllowed = true ∧ id ∈ m.unmarkedOrder := by
    cases sendingAllowed <;> simp [middle]
  rw [order, mem_append, mem_append, mem_filter, inMiddle, mem_unmarkedOrder,
    mem_markedOrder]
  simp only [mem_cons, not_mem_nil, or_false, decide_eq_true_eq]
  tauto

theorem openOf_order : m.openOf (m.order sendingAllowed) =
    m.openOf [1, 3] ++ (m.openOf (m.middle sendingAllowed) ++ m.openOf m.markedOrder) := by
  have priority : m.openOf ([1, 3].filter (· ∈ m.streams)) = m.openOf [1, 3] := openOf_filter _
  rw [order, append_assoc, ← priority]
  simp only [openOf, filterMap_append]

/-- Streams 1 and 3 are asked at least as long as they should be. -/
theorem firstCalls_split (fn : σ → Stream → LambdaResult σ) (m : StreamsMap) (state : σ) :
    ∃ rest, m.openOf [1, 3] = (asked fn goesOn m [1, 3] state).map Call.stream ++ rest ∧
      (allGoOn goesOn (asked fn goesOn m [1, 3] state) = true → rest = []) ∧
      firstCalls fn m state = asked fn goesOn m [1, 3] state ++
        if allGoOn goesOnPriority (asked fn goesOn m [1, 3] state) then
          askAll fn goesOnPriority rest
            (stateAfter (asked fn goesOn m [1, 3] state) state)
        else [] := by
  rw [firstCalls, asked_eq, asked_eq]
  exact askAll_weaker (fun _ => goesOnPriority_of_goesOn) fn _ _

theorem asked_order : asked fn goesOn m (m.order sendingAllowed) state =
    asked fn goesOn m [1, 3] state ++
      if allGoOn goesOn (asked fn goesOn m [1, 3] state) then
        askAll fn goesOn
          (m.openOf (m.middle sendingAllowed) ++ m.openOf m.markedOrder)
          (stateAfter (asked fn goesOn m [1, 3] state) state)
      else [] := by
  rw [asked_eq, asked_eq, openOf_order]
  exact askAll_append

theorem asked_eq_nil_of_open {more : LambdaResult σ → Bool}
    (opened : ids.filter (· ∈ m.streams) = ids) : asked fn more m ids state = [] ↔ ids = [] := by
  rw [asked_eq, askAll_eq_nil_iff, openOf, filterMap_eq_nil_iff]
  conv_rhs => rw [← opened, filter_eq_nil_iff]
  simp [AList.lookup_eq_none]

theorem thirdCalls_eq_nil_iff : thirdCalls fn m sendingAllowed state = [] ↔ m.markedOrder = [] :=
  asked_eq_nil_of_open filter_markedOrder

theorem laterCalls_eq_nil_iff : laterCalls fn m sendingAllowed state = [] ↔
    m.middle sendingAllowed ++ m.markedOrder = [] := by
  have second : secondCalls fn m sendingAllowed state = [] ↔ m.middle sendingAllowed = [] :=
    asked_eq_nil_of_open filter_middle
  rw [laterCalls, append_eq_nil_iff, append_eq_nil_iff, second]
  refine and_congr_right fun empty => ?_
  rw [second.mpr empty]
  exact (Eq.congr_left (if_pos rfl)).trans thirdCalls_eq_nil_iff

/-! ### Answers that go on, and answers that do not -/

theorem errAfter_of_allGoOn (all : allGoOn goesOn calls = true) : errAfter calls = none := by
  unfold errAfter
  cases isLast : calls.getLast? with
  | none => rfl
  | some call =>
    have goesOn := allGoOn_iff.mp all call (mem_of_getLast? isLast)
    exact (goesOn_iff.mp goesOn).2

/-- Calls that were ended have a last one, which does not go on. -/
theorem exists_last {more : LambdaResult σ → Bool}
    (ended : ¬allGoOn more (asked fn more m ids state) = true) :
    ∃ before last, asked fn more m ids state = before ++ [last] ∧
      (∀ call ∈ before, more call.answer = true) ∧ ¬more last.answer = true := by
  have nonempty : asked fn more m ids state ≠ [] := by
    intro empty
    rw [empty] at ended
    exact ended rfl
  have split := dropLast_append_getLast nonempty
  have before : ∀ call ∈ (asked fn more m ids state).dropLast, more call.answer = true := by
    rw [asked_eq]
    exact dropLast_askAll
  refine ⟨_, _, split.symm, before, fun goesOn => ended (allGoOn_iff.mpr fun call mem => ?_)⟩
  rw [← split] at mem
  rcases mem_append.mp mem with inFront | isSame
  · exact before call inFront
  · rwa [mem_singleton.mp isSame]

/-- What an iteration passes over should end it. -/
theorem not_goesOn_of_passedOver (passed : m.PassedOver sendingAllowed last) :
    ¬last.answer.goesOn = true := by
  intro goesOn
  obtain ⟨cont, noErr⟩ := goesOn_iff.mp goesOn
  rcases passed with ⟨-, -, err, -⟩ | ⟨-, notCont, -⟩
  · exact absurd (noErr.symm.trans err) (by simp)
  · exact absurd (cont.symm.trans notCont) (by simp)

theorem overlooked_iff {before : List (Call σ)}
    (isLast : asked fn goesOn m (m.order sendingAllowed) state = before ++ [last]) :
    Overlooked fn m sendingAllowed state ↔ m.PassedOver sendingAllowed last := by
  rw [Overlooked, isLast, getLast?_concat]
  simp only [Option.mem_def, Option.some.injEq, exists_eq_left']

/-- A list without doubles ends with one of its elements just if nothing follows it. -/
theorem getLast?_eq_some_iff {front back : List Nat} (nodup : (front ++ id :: back).Nodup) :
    (front ++ id :: back).getLast? = some id ↔ back = [] := by
  rw [getLast?_append, getLast?_cons]
  constructor
  · intro isLast
    by_contra more
    obtain ⟨last, found⟩ := Option.isSome_iff_exists.mp (getLast?_isSome.mpr more)
    have isID : last = id := by
      rw [found] at isLast
      exact Option.some.inj isLast
    exact (nodup_cons.mp nodup.of_append_right).1 (isID ▸ mem_of_getLast? found)
  · rintro rfl
    rfl

section Named

variable (named : ∀ id s, m.streams.lookup id = some s → s.streamID = id)

include named

/-! ### Calls that should not be made -/

/-- Streams 1 and 3 went on. -/
theorem followed_of_reached (reached : allGoOn goesOn (asked fn goesOn m [1, 3] state) = true) :
    Followed fn m sendingAllowed state := by
  have first : firstCalls fn m state = asked fn goesOn m [1, 3] state := by
    obtain ⟨rest, -, empty, calls⟩ := firstCalls_split fn m state
    rw [calls, empty reached, askAll, ite_self, append_nil]
  have all : allGoOn goesOnPriority (firstCalls fn m state) = true :=
    allGoOn_iff.mpr fun call mem =>
      goesOnPriority_of_goesOn (allGoOn_iff.mp reached call (first ▸ mem))
  have strict : asked fn goesOn m (m.order sendingAllowed) state =
      firstCalls fn m state ++ (secondCalls fn m sendingAllowed state ++
        if allGoOn goesOn (secondCalls fn m sendingAllowed state) then
          thirdCalls fn m sendingAllowed state
        else []) := by
    rw [asked_order, if_pos reached, askAll_append, ← first]
    simp only [← asked_eq]
    rfl
  rw [Followed, watched_eq, if_pos all, strict, laterCalls]
  by_cases went : allGoOn goesOn (secondCalls fn m sendingAllowed state) = true
  · rw [if_pos went] at strict
    rw [if_pos went, if_pos (errAfter_of_allGoOn went)]
    refine ⟨[], (append_nil _).symm, iff_of_true rfl ?_⟩
    rintro ⟨call, isLast, passed⟩
    have ends := not_goesOn_of_passedOver passed
    have mem := mem_of_getLast? isLast
    rw [strict, first] at mem
    rcases mem_append.mp mem with priority | later
    · exact ends (allGoOn_iff.mp reached call priority)
    rcases mem_append.mp later with second | third
    · exact ends (allGoOn_iff.mp went call second)
    have marked := (mem_of_mem_asked named third).1
    rcases passed with ⟨priority, -⟩ | ⟨inMiddle, -⟩
    · exact m.notMem_priority_of_mem_markedOrder marked priority
    · exact m.notMem_middle_of_mem_markedOrder sendingAllowed marked inMiddle
  · obtain ⟨before, last, isLast, -, ends⟩ := exists_last went
    have inMiddle := (mem_of_mem_asked named (isLast ▸ mem_append_right _ (.head _))).1
    have whole : asked fn goesOn m (m.order sendingAllowed) state =
        (firstCalls fn m state ++ before) ++ [last] := by
      rw [strict, if_neg went, append_nil, append_assoc, ← isLast]
      rfl
    have err : errAfter (secondCalls fn m sendingAllowed state) = last.answer.err := by
      rw [secondCalls, isLast, errAfter, getLast?_concat]
      rfl
    rw [if_neg went, append_nil, ← append_assoc, overlooked_iff whole, err]
    refine ⟨_, rfl, ?_⟩
    by_cases noErr : last.answer.err = none
    · rw [if_pos noErr, thirdCalls_eq_nil_iff]
      constructor
      · rintro empty (⟨priority, -⟩ | ⟨-, -, -, marked⟩)
        · exact m.notMem_priority_of_mem_middle sendingAllowed inMiddle priority
        · exact marked empty
      · refine fun notPassed => not_not.mp fun marked => ?_
        refine notPassed (Or.inr ⟨inMiddle, ?_, noErr, marked⟩)
        exact Bool.eq_false_of_not_eq_true fun cont =>
          ends (goesOn_iff.mpr ⟨cont, noErr⟩)
    · rw [if_neg noErr]
      refine iff_of_true rfl ?_
      rintro (⟨priority, -⟩ | ⟨-, -, fine, -⟩)
      · exact m.notMem_priority_of_mem_middle sendingAllowed inMiddle priority
      · exact noErr fine

/-- An answer of stream 1 or 3 should have ended the iteration. -/
theorem followed_of_ended (ended : ¬allGoOn goesOn (asked fn goesOn m [1, 3] state) = true) :
    Followed fn m sendingAllowed state := by
  obtain ⟨before, last, isLast, goOn, ends⟩ := exists_last ended
  obtain ⟨rest, streams, -, first⟩ := firstCalls_split fn m state
  have inPriority := (mem_of_mem_asked named (isLast ▸ mem_append_right _ (.head _))).1
  have strict : asked fn goesOn m (m.order sendingAllowed) state =
      asked fn goesOn m [1, 3] state := by
    rw [asked_order, if_neg ended, append_nil]
  rw [Followed, overlooked_iff (strict.trans isLast), strict, watched_eq]
  by_cases passes : last.answer.goesOnPriority = true
  · -- the error of the lambda is taken for a missing stream, and all later streams are asked
    obtain ⟨cont, err⟩ := goesOnPriority_iff.mp passes
    have failed : last.answer.err = some .errMapAccess :=
      err.resolve_left fun noErr => ends (goesOn_iff.mpr ⟨cont, noErr⟩)
    have all : allGoOn goesOnPriority
        (asked fn goesOn m [1, 3] state) = true := by
      rw [isLast]
      refine allGoOn_iff.mpr (forall_mem_append.mpr ⟨fun call mem => ?_, by simpa using passes⟩)
      exact goesOnPriority_of_goesOn (goOn call mem)
    have order : m.order sendingAllowed = before.map (fun call => call.stream.streamID) ++
        last.stream.streamID :: (rest.map Stream.streamID ++
          (m.middle sendingAllowed ++ m.markedOrder)) := by
      rw [StreamsMap.order, ← streamIDs_openOf named, streams, isLast]
      simp
    have nodup := nodup_order m sendingAllowed
    rw [if_pos all] at first
    refine ⟨_, by rw [first, append_assoc], ?_⟩
    have ends : (m.order sendingAllowed).getLast? = some last.stream.streamID ↔
        rest = [] ∧ m.middle sendingAllowed ++ m.markedOrder = [] := by
      rw [order] at nodup ⊢
      rw [getLast?_eq_some_iff nodup, append_eq_nil_iff, map_eq_nil_iff]
    have passed : m.PassedOver sendingAllowed last ↔
        (m.order sendingAllowed).getLast? ≠ some last.stream.streamID := by
      refine ⟨?_, fun more => Or.inl ⟨inPriority, cont, failed, more⟩⟩
      rintro (⟨-, -, -, more⟩ | ⟨inMiddle, -⟩)
      · exact more
      · exact absurd inPriority (m.notMem_priority_of_mem_middle sendingAllowed inMiddle)
    rw [passed, not_not, ends, append_eq_nil_iff, askAll_eq_nil_iff]
    refine and_congr_right fun empty => ?_
    rw [empty, askAll, append_nil, if_pos all]
    exact laterCalls_eq_nil_iff
  · have notAll : ¬allGoOn goesOnPriority
        (asked fn goesOn m [1, 3] state) = true := fun all =>
      passes (allGoOn_iff.mp all last (isLast ▸ mem_append_right _ (.head _)))
    rw [if_neg notAll, append_nil] at first
    rw [first, if_neg notAll]
    refine ⟨[], rfl, iff_of_true rfl ?_⟩
    rintro (⟨-, cont, err, -⟩ | ⟨inMiddle, -⟩)
    · exact passes (goesOnPriority_iff.mpr ⟨cont, Or.inr err⟩)
    · exact m.notMem_priority_of_mem_middle sendingAllowed inMiddle inPriority

theorem followed : Followed fn m sendingAllowed state := by
  by_cases reached : allGoOn goesOn (asked fn goesOn m [1, 3] state) = true
  · exact followed_of_reached named reached
  · exact followed_of_ended named reached

theorem mem_order_of_mem_watched {call : Call σ} (mem : call ∈ watched fn m sendingAllowed state) :
    call.stream.streamID ∈ m.order sendingAllowed := by
  rw [order, mem_append, mem_append, mem_filter]
  rcases mem_watched fn m sendingAllowed state mem with first | second | third
  · obtain ⟨priority, isOpen⟩ := mem_of_mem_asked named first
    exact Or.inl (Or.inl ⟨priority, decide_eq_true isOpen⟩)
  · exact Or.inl (Or.inr (mem_of_mem_asked named second).1)
  · exact Or.inr (mem_of_mem_asked named third).1

theorem watched_complete (all : allGoOn goesOn (watched fn m sendingAllowed state) = true)
    (mem : id ∈ m.order sendingAllowed) :
    id ∈ (watched fn m sendingAllowed state).map fun call => call.stream.streamID := by
  obtain ⟨further, split, -⟩ : Followed fn m sendingAllowed state := followed named
  rw [split] at all ⊢
  have strict := allGoOn_iff.mpr fun call mem =>
    allGoOn_iff.mp all call (mem_append_left further mem)
  rw [map_append, streamIDs_of_allGoOn named strict]
  exact mem_append_left _ (mem_filter.mpr ⟨mem, decide_eq_true (mem_order.mp mem).1⟩)

theorem contract_watched :
    Contract m (fun id => sendingAllowed = true ∨ id = 1 ∨ id = 3 ∨ id ∈ m.unreliableStreamMark)
        (watched fn m sendingAllowed state) ↔
      ¬Overlooked fn m sendingAllowed state := by
  obtain ⟨further, split, ends⟩ : Followed fn m sendingAllowed state := followed named
  constructor
  · intro contract overlooked
    have more : further ≠ [] := fun empty => ends.mp empty overlooked
    obtain ⟨call, isLast, passed⟩ := overlooked
    refine not_goesOn_of_passedOver passed (contract.stops call ?_)
    rw [split, dropLast_append_of_ne_nil more]
    exact mem_append_left _ (mem_of_getLast? isLast)
  · intro notOverlooked
    have sublist := streamIDs_sublist named fn goesOn (m.order sendingAllowed) state
    rw [split, ends.mpr notOverlooked, append_nil]
    refine ⟨(sublist.trans filter_sublist).nodup (nodup_order m sendingAllowed), fun call mem => ?_,
      fun all id inStreams eligible => ?_, ?_⟩
    · exact (mem_of_mem_asked named mem).2
    · rw [streamIDs_of_allGoOn named all]
      exact mem_filter.mpr ⟨mem_order.mpr ⟨inStreams, eligible⟩, by simpa using inStreams⟩
    · rw [asked_eq]
      exact dropLast_askAll

end Named

end ContractProof

/-- The calls of one `RoundRobinIterate`. -/
def watchedAll (m : StreamsMap) (state : σ) : List (Call σ) :=
  (m.roundRobinIterate (watching fn) (state, [])).state.2

/-- An iteration keeps its contract exactly if it overlooks no answer. -/
theorem roundRobin_contract_iff {m : StreamsMap}
    (named : ∀ id s, m.streams.lookup id = some s → s.streamID = id) (sendingAllowed : Bool)
    (state : σ) :
    (Contract m (fun _ => True) (watchedAll fn m state) ↔ ¬Overlooked fn m true state) ∧
      (Contract m
          (fun id => sendingAllowed = true ∨ id = 1 ∨ id = 3 ∨ id ∈ m.unreliableStreamMark)
          (watched fn m sendingAllowed state) ↔
        ¬Overlooked fn m sendingAllowed state) := by
  refine ⟨?_, contract_watched named⟩
  rw [← contract_watched named]
  simp only [true_or]
  rfl

/-- A server whose client opened these streams, and its flow control. -/
def serverWith (ids : List Nat) : StreamsMap × FlowControlManager :=
  ids.foldl
    (fun opened id => let next := opened.1.openRemoteStream opened.2 id; (next.map, next.flow))
    (newStreamsMap .server, newFlowControlManager (serverParameters 0 0))

/-- A server that opened stream 2 after its client opened streams 1, 3 and 5. -/
def fourStreamServer : StreamsMap :=
  ((serverWith [1, 3, 5]).1.openStream (serverWith [1, 3, 5]).2).map

/-- A lambda that is content with one of the streams. -/
def contentWith (id : Nat) (_ : Unit) (s : Stream) : LambdaResult Unit :=
  { state := (), stream := s, cont := s.streamID ≠ id }

/-- A `false` in the last loop ends the iteration. -/
theorem roundRobin_contract_last :
    fourStreamServer.openStreams = [1, 3, 5, 2] ∧
      Contract fourStreamServer (fun _ => True) (watchedAll (contentWith 2) fourStreamServer ()) ∧
      (watchedAll (contentWith 2) fourStreamServer ()).map (fun call => call.stream.streamID) =
        [1, 3, 5, 2] := by
  have named : ∀ id s, fourStreamServer.streams.lookup id = some s → s.streamID = id := by
    intro id s opened
    have entries : ∀ entry ∈ fourStreamServer.streams.entries, entry.2.streamID = entry.1 := by
      decide
    exact entries _ (AList.mem_lookup_iff.mp opened)
  refine ⟨by decide, (roundRobin_contract_iff (contentWith 2) named true ()).1.mpr (by decide), ?_⟩
  decide

/-- A `false` of stream 5 does not: stream 2 is called as well. -/
theorem roundRobin_goes_on :
    (watchedAll (contentWith 5) fourStreamServer ()).map
        (fun call => (call.stream.streamID, call.answer.goesOn)) =
      [(1, true), (3, true), (5, false), (2, true)] ∧
    (watched (contentWith 5) fourStreamServer true ()).map
        (fun call => (call.stream.streamID, call.answer.goesOn)) =
      [(1, true), (3, true), (5, false), (2, true)] ∧
    ¬Contract fourStreamServer (fun _ => True)
      (watchedAll (contentWith 5) fourStreamServer ()) := by
  refine ⟨by decide, by decide, fun contract => ?_⟩
  have stops : ∀ call ∈ (watchedAll (contentWith 5) fourStreamServer ()).dropLast,
      call.answer.goesOn = true := contract.stops
  revert stops
  decide

end StreamsMap

end MPQuic
