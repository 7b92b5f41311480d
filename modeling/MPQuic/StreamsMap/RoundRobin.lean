import MPQuic.StreamsMap

/-!
# Invariants of the round robin

Whatever one call of the lambda on one open stream keeps, a whole iteration over the streams
keeps (`roundRobinIterate2_invariant`). A lambda that does the same as another one and keeps
further notes does not change the iteration (`roundRobinIterate2_through`).
-/

namespace MPQuic

namespace StreamsMap

variable {σ : Type} {fn : σ → Stream → LambdaResult σ} {Keeps : StreamsMap → σ → Prop}
  {m : StreamsMap} {advance : StreamsMap → StreamsMap} {state : σ}

/-- What the lambda does to one stream keeps the invariant. -/
def CallKeeps (fn : σ → Stream → LambdaResult σ) (Keeps : StreamsMap → σ → Prop) : Prop :=
  ∀ (m : StreamsMap) (state : σ) (id : Nat) (s : Stream), Keeps m state →
    m.streams.lookup id = some s →
    Keeps (m.setStream id (fn state s).stream) (fn state s).state

theorem iterateFunc_invariant (call : CallKeeps fn Keeps) (keeps : Keeps m state) (id : Nat) :
    Keeps (m.iterateFunc fn id state).map (m.iterateFunc fn id state).state := by
  unfold iterateFunc
  split
  · exact keeps
  · rename_i s opened
    exact call m state id s keeps opened

theorem iteratePriority_invariant (call : CallKeeps fn Keeps) (ids : List Nat) :
    ∀ {m : StreamsMap} {state : σ}, Keeps m state →
      Keeps (iteratePriority fn ids m state).map (iteratePriority fn ids m state).state := by
  induction ids with
  | nil => exact fun keeps => keeps
  | cons id ids ih =>
    intro m state keeps
    have visited := iterateFunc_invariant call keeps id
    simp only [iteratePriority]
    split
    · exact visited
    · split
      · exact ih visited
      · exact visited

theorem iteratePass_invariant (call : CallKeeps fn Keeps)
    (moves : ∀ m state, Keeps m state → Keeps (advance m) state) (ids : List Nat) :
    ∀ {m : StreamsMap} {state : σ}, Keeps m state →
      Keeps (iteratePass fn advance ids m state).map
        (iteratePass fn advance ids m state).state := by
  induction ids with
  | nil => exact fun keeps => keeps
  | cons id ids ih =>
    intro m state keeps
    have visited := iterateFunc_invariant call keeps id
    have moved := moves _ _ visited
    simp only [iteratePass]
    split
    · exact visited
    · split
      · exact ih moved
      · exact moved

/-- A loop that was not stopped goes on with the streams that follow. -/
theorem iteratePass_append (back : List Nat) :
    ∀ (front : List Nat) (m : StreamsMap) (state : σ),
      (iteratePass fn advance front m state).err = none →
      (iteratePass fn advance front m state).cont = true →
      iteratePass fn advance (front ++ back) m state =
        iteratePass fn advance back (iteratePass fn advance front m state).map
          (iteratePass fn advance front m state).state := by
  intro front
  induction front with
  | nil => exact fun _ _ _ _ => rfl
  | cons id front ih =>
    intro m state noErr cont
    simp only [List.cons_append, iteratePass] at noErr cont ⊢
    by_cases failed : (m.iterateFunc fn id state).err ≠ none
    · rw [if_pos failed] at noErr
      exact absurd noErr failed
    · rw [if_neg failed] at noErr cont ⊢
      by_cases goesOn : (m.iterateFunc fn id state).cont = true
      · rw [if_pos goesOn] at noErr cont ⊢
        rw [if_neg failed, if_pos goesOn]
        exact ih _ _ noErr cont
      · rw [if_neg goesOn] at cont
        exact absurd cont goesOn

/-- The invariant may not depend on the two indices. -/
theorem roundRobinIterate2_invariant (call : CallKeeps fn Keeps)
    (unreliable : ∀ m state, Keeps m state → Keeps m.advanceUnreliable state)
    (roundRobin : ∀ m state, Keeps m state → Keeps m.advanceRoundRobin state)
    (keeps : Keeps m state) (sendingAllowed : Bool) :
    Keeps (m.roundRobinIterate2 fn sendingAllowed state).map
      (m.roundRobinIterate2 fn sendingAllowed state).state := by
  have first := iteratePriority_invariant call [1, 3] keeps
  simp only [roundRobinIterate2]
  split
  · exact first
  · have second := iteratePass_invariant call unreliable m.unmarkedOrder first
    cases sendingAllowed with
    | false =>
      simp only [Bool.false_eq_true, if_false]
      split
      · exact first
      · exact iteratePass_invariant call roundRobin _ first
    | true =>
      simp only [if_true]
      split
      · exact second
      · exact iteratePass_invariant call roundRobin _ second

/-! ## Lambdas that keep notes -/

section Through

variable {τ : Type} (view : τ → σ) (visit : Visit τ)

/-- An answer, seen through a view of the state. -/
def LambdaResult.through (r : LambdaResult τ) : LambdaResult σ :=
  { state := view r.state, stream := r.stream, cont := r.cont, err := r.err }

/-- A visit, seen through a view of the state. -/
def Visit.through (visit : Visit τ) : Visit σ :=
  { map := visit.map, state := view visit.state, cont := visit.cont, err := visit.err }

@[simp] theorem Visit.through_map : (visit.through view).map = visit.map := rfl

@[simp] theorem Visit.through_state :
    (visit.through view).state = view visit.state := rfl

@[simp] theorem Visit.through_cont :
    (visit.through view).cont = visit.cont := rfl

@[simp] theorem Visit.through_err : (visit.through view).err = visit.err := rfl

variable {view} {noting : τ → Stream → LambdaResult τ}
  (same : ∀ state s, (noting state s).through view = fn (view state) s)

include same

theorem iterateFunc_through (m : StreamsMap) (id : Nat) (state : τ) :
    m.iterateFunc fn id (view state) = (m.iterateFunc noting id state).through view := by
  unfold iterateFunc
  cases m.streams.lookup id with
  | none => rfl
  | some s =>
    simp only [← same]
    rfl

theorem iteratePriority_through (ids : List Nat) :
    ∀ (m : StreamsMap) (state : τ),
      iteratePriority fn ids m (view state) =
        (iteratePriority noting ids m state).through view := by
  induction ids with
  | nil => exact fun _ _ => rfl
  | cons id ids ih =>
    intro m state
    simp only [iteratePriority, iterateFunc_through same, Visit.through_err, Visit.through_cont,
      Visit.through_map, Visit.through_state, ih]
    split_ifs <;> rfl

theorem iteratePass_through (advance : StreamsMap → StreamsMap) (ids : List Nat) :
    ∀ (m : StreamsMap) (state : τ),
      iteratePass fn advance ids m (view state) =
        (iteratePass noting advance ids m state).through view := by
  induction ids with
  | nil => exact fun _ _ => rfl
  | cons id ids ih =>
    intro m state
    simp only [iteratePass, iterateFunc_through same, Visit.through_err, Visit.through_cont,
      Visit.through_map, Visit.through_state, ih]
    split_ifs <;> rfl

theorem roundRobinIterate2_through (m : StreamsMap) (sendingAllowed : Bool) (state : τ) :
    m.roundRobinIterate2 fn sendingAllowed (view state) =
      (m.roundRobinIterate2 noting sendingAllowed state).through view := by
  cases sendingAllowed with
  | false =>
    simp only [roundRobinIterate2, iteratePriority_through same, Visit.through_err,
      Visit.through_cont, Visit.through_map, Visit.through_state, iteratePass_through same,
      Bool.false_eq_true, if_false]
    split_ifs <;> rfl
  | true =>
    simp only [roundRobinIterate2, iteratePriority_through same, Visit.through_err,
      Visit.through_cont, Visit.through_map, Visit.through_state, iteratePass_through same,
      if_true]
    split_ifs <;> rfl

end Through

end StreamsMap

end MPQuic
