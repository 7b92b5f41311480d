import MPQuic.Lib.Runs
import MPQuic.Stream

/-!
# What a call of `Write` reports

`Write` buffers its data and waits, without the mutex, until the data was taken, the stream
failed or the deadline expired. Meanwhile other calls take the data piece by piece, cancel or
reset the stream and move the deadline, in any order. `Writer` is a stream with the call that
waits, and a record of the bytes that were handed out for every call.

A call that leaves because the data was taken or the stream failed reports exactly the bytes
that were handed out, and no more of them will be. A call that leaves because the deadline
expired reports none: but some may have been handed out already, and the rest stays in the
buffer and is handed out afterwards (`write_exact_iff`, `write_exact_deadline`).
-/

namespace MPQuic

open List

/-! ## The call -/

variable {s : Stream}

/-- The data is buffered; otherwise the call returns at once. -/
def Stream.takesWrite (s : Stream) (p : List UInt8) : Bool :=
  !s.resetLocally && s.err = none && !s.finishedWriting && p ≠ []

/-- The deadline has expired; `none` is the zero time. -/
def deadlineExpired (deadline : Option Int) (now : Int) : Bool := deadline.any (· ≤ now)

/-- One round of the loop of `Write`: what the call returns, or `none` if it waits. -/
def Stream.writeRound (s : Stream) (writeDeadline : Option Int) (now : Int) (p : List UInt8) :
    Option (Nat × Option StreamError) :=
  if deadlineExpired writeDeadline now then some (0, some .errDeadline)
  else if s.dataForWriting = none ∨ s.err ≠ none then
    match s.err with
    | some err => some (p.length - (s.dataForWriting.getD []).length, some err)
    | none => some (p.length, none)
  else none

/-- Where a call waits. -/
inductive WritePhase where
  /-- in the `select`, with the deadline that the last round saw -/
  | blocked (deadline : Option Int)
  /-- out of the `select`, but without the mutex -/
  | awake
  deriving DecidableEq

/-- A call of `Write` that has not returned. -/
structure WriteCall where
  p : List UInt8
  phase : WritePhase
  deriving DecidableEq

/-- What a call of `Write` returned. -/
structure WriteReturn where
  /-- the calls are numbered from 1 -/
  call : Nat
  p : List UInt8
  n : Nat
  err : Option StreamError
  deriving DecidableEq

/-- A stream with the call of `Write` that waits. -/
structure Writer where
  stream : Stream
  writeDeadline : Option Int := none
  /-- there is a signal in the channel, which has room for one -/
  writeChan : Bool := false
  waiting : Option WriteCall := none
  /-- the number of calls of `Write` so far; the source keeps no such record, and none of the
  following ones -/
  calls : Nat := 0
  /-- the call whose data was buffered last -/
  owner : Nat := 0
  /-- the bytes that were handed out for each call -/
  handedOut : Nat → List UInt8 := fun _ => []
  returned : List WriteReturn := []

/-- What the call and the other goroutines do. -/
inductive WriteOp where
  /-- the calls of `Write` come one after another -/
  | write (p : List UInt8) (now : Int)
  /-- the waiting call takes the signal -/
  | receive
  /-- its timer fires -/
  | timer (now : Int)
  /-- it has the mutex again -/
  | resume (now : Int)
  | getDataForWriting (maxBytes : Nat)
  | setWriteDeadline (t : Option Int)
  | cancel (err : StreamError)
  | reset (err : StreamError)
  | registerRemoteError (err : StreamError)
  | close
  | sentFin

namespace Writer

variable (w : Writer)

/-- `signalWrite`, if there is a reason for it. -/
def signalWrite (reason : Bool) : Writer :=
  { w with writeChan := w.writeChan || reason }

/-- The call returns. -/
def leave (call : Nat) (p : List UInt8) (n : Nat) (err : Option StreamError) : Writer :=
  { w with waiting := none, returned := w.returned ++ [{ call, p, n, err }] }

/-- One round of the loop of `Write`. -/
def round (p : List UInt8) (now : Int) : Writer :=
  match w.stream.writeRound w.writeDeadline now p with
  | some (n, err) => w.leave w.owner p n err
  | none => { w with waiting := some { p, phase := .blocked w.writeDeadline } }

def write (p : List UInt8) (now : Int) : Writer :=
  let entered := w.stream.write p
  let call := w.calls + 1
  if w.stream.takesWrite p then
    { w with stream := entered.1, calls := call, owner := call }.round p now
  else { w with calls := call }.leave call p 0 entered.2

/-- The data that is taken belongs to the call that buffered it. -/
def getDataForWriting (maxBytes : Nat) : Writer :=
  let taken := w.stream.getDataForWriting maxBytes
  { w with
    stream := taken.1
    handedOut := Function.update w.handedOut w.owner
      (w.handedOut w.owner ++ taken.2.getD []) }.signalWrite
      (taken.2.isSome && taken.1.dataForWriting.isNone)

def setWriteDeadline (t : Option Int) : Writer :=
  { w with writeDeadline := t }.signalWrite
    (w.writeDeadline.any fun old => t.all (· < old))

/-- The writer after an event. -/
def step : WriteOp → Writer
  | .write p now => if w.waiting.isSome then w else w.write p now
  | .receive =>
    match w.waiting with
    | some { p, phase := .blocked _ } =>
      if w.writeChan then
        { w with writeChan := false, waiting := some { p, phase := .awake } }
      else w
    | _ => w
  | .timer now =>
    match w.waiting with
    | some { p, phase := .blocked deadline } =>
      if deadlineExpired deadline now then
        { w with waiting := some { p, phase := .awake } }
      else w
    | _ => w
  | .resume now =>
    match w.waiting with
    | some { p, phase := .awake } => w.round p now
    | _ => w
  | .getDataForWriting maxBytes => w.getDataForWriting maxBytes
  | .setWriteDeadline t => w.setWriteDeadline t
  | .cancel err =>
    { w with stream := w.stream.cancel err }.signalWrite w.stream.err.isNone
  | .reset err =>
    { w with stream := (w.stream.reset err).1 }.signalWrite
      (!w.stream.resetLocally && w.stream.err.isNone)
  | .registerRemoteError err =>
    { w with stream := (w.stream.registerRemoteError err).1 }.signalWrite
      (!w.stream.resetRemotely && w.stream.err.isNone)
  | .close => { w with stream := w.stream.close }
  | .sentFin => { w with stream := w.stream.sentFin }

/-- The data that was not taken yet. -/
def buffered : List UInt8 := w.stream.dataForWriting.getD []

/-- Every call that returned `n` had exactly the first `n` bytes of its data handed out. -/
def Exact : Prop :=
  ∀ r ∈ w.returned, w.handedOut r.call = r.p.take r.n

end Writer

variable (w : Writer)

/-- No call leaves at its deadline after bytes were taken. While no call waits, nothing can be
taken: the stream has failed, nothing is buffered or nothing is asked for. -/
def WriteOp.Safe : WriteOp → Prop
  | .resume now =>
    ∀ call ∈ w.waiting, call.phase = .awake → deadlineExpired w.writeDeadline now →
      w.buffered.length = call.p.length
  | .getDataForWriting maxBytes =>
    w.waiting = none → w.stream.err ≠ none ∨ w.buffered = [] ∨ maxBytes = 0
  | _ => True

instance WriteOp.decidableSafe (w : Writer) : (op : WriteOp) → Decidable (op.Safe w)
  | .resume now =>
    inferInstanceAs (Decidable (∀ call ∈ w.waiting, call.phase = .awake →
      deadlineExpired w.writeDeadline now → w.buffered.length = call.p.length))
  | .getDataForWriting maxBytes =>
    inferInstanceAs (Decidable
      (w.waiting = none → w.stream.err ≠ none ∨ w.buffered = [] ∨ maxBytes = 0))
  | .write _ _ | .receive | .timer _ | .setWriteDeadline _ | .cancel _ | .reset _
  | .registerRemoteError _ | .close | .sentFin => .isTrue trivial

/-! ## Single calls on the stream -/

namespace Stream

theorem write_of_takesWrite {p : List UInt8} (takes : s.takesWrite p = true) :
    s.write p = ({ s with dataForWriting := some p }, none) := by
  simp only [takesWrite, Bool.and_eq_true, Bool.not_eq_true', decide_eq_true_eq] at takes
  obtain ⟨⟨⟨notReset, noError⟩, notFinished⟩, notEmpty⟩ := takes
  simp [write, notReset, noError, notFinished, notEmpty]

/-- What is taken comes from the front of the buffer. -/
theorem getDataForWriting_append (s : Stream) (maxBytes : Nat) :
    (s.getDataForWriting maxBytes).2.getD [] ++
      (s.getDataForWriting maxBytes).1.dataForWriting.getD [] = s.dataForWriting.getD [] := by
  unfold getDataForWriting
  split
  · rename_i data _ isData
    rw [isData]
    split
    · exact take_append_drop maxBytes data
    · exact append_nil data
  · rfl

theorem getDataForWriting_eq_nil_iff (s : Stream) (maxBytes : Nat) :
    (s.getDataForWriting maxBytes).2.getD [] = [] ↔
      s.err ≠ none ∨ s.dataForWriting.getD [] = [] ∨ maxBytes = 0 := by
  unfold getDataForWriting
  split
  · rename_i data noError isData
    simp only [noError, isData, ne_eq, not_true_eq_false, false_or, Option.getD_some]
    split
    · rw [Option.getD_some, take_eq_nil_iff, or_comm]
    · rename_i fits
      refine (or_iff_left_of_imp fun nothing => ?_).symm
      exact length_eq_zero_iff.mp (Nat.le_zero.mp (nothing ▸ not_lt.mp fits))
  · rename_i notBoth
    refine iff_of_true rfl (or_iff_not_imp_left.mpr fun noError => Or.inl ?_)
    rw [Option.eq_none_iff_forall_not_mem.mpr (notBoth · (not_not.mp noError)), Option.getD_none]

theorem dataForWriting_sendReset (s : Stream) :
    s.sendReset.1.dataForWriting = s.dataForWriting := by
  unfold sendReset
  split <;> rfl

theorem dataForWriting_reset (s : Stream) (err : StreamError) :
    (s.reset err).1.dataForWriting = s.dataForWriting := by
  unfold reset
  split
  · rfl
  · exact dataForWriting_sendReset _

theorem dataForWriting_registerRemoteError (s : Stream) (err : StreamError) :
    (s.registerRemoteError err).1.dataForWriting = s.dataForWriting := by
  unfold registerRemoteError
  split
  · rfl
  · exact dataForWriting_sendReset _

end Stream

namespace Writer

variable {w w' : Writer} {p : List UInt8}

/-! ## The account -/

/-- The calls are numbered, and nothing was handed out for one that comes later. -/
structure Numbered (w : Writer) : Prop where
  returned : ∀ r ∈ w.returned, r.call ≤ w.calls
  owner : w.owner ≤ w.calls
  later : ∀ call, w.calls < call → w.handedOut call = []

/-- The data of the waiting call is what was handed out and what is still buffered. Data that is
buffered while no call waits belongs to one that returned. -/
structure Accounted (w : Writer) : Prop where
  numbered : w.Numbered
  parts : ∀ call ∈ w.waiting, w.handedOut w.owner ++ w.buffered = call.p
  waits : ∀ call ∈ w.waiting, ∀ r ∈ w.returned, r.call ≠ w.owner
  leftover : w.waiting = none → w.buffered ≠ [] → ∃ r ∈ w.returned, r.call = w.owner

/-- A stream before the first call. -/
theorem accounted_new (empty : s.dataForWriting = none) : Accounted { stream := s } where
  numbered := ⟨forall_mem_nil _, le_refl _, fun _ _ => rfl⟩
  parts _ mem := absurd mem (Option.not_mem_none _)
  waits _ mem := absurd mem (Option.not_mem_none _)
  leftover _ data := absurd (by simp [buffered, empty]) data

/-- Nothing that is accounted for has changed. -/
theorem Accounted.of_same (account : w.Accounted) (buffered : w'.buffered = w.buffered)
    (waiting : w'.waiting.map WriteCall.p = w.waiting.map WriteCall.p)
    (calls : w'.calls = w.calls) (owner : w'.owner = w.owner)
    (handedOut : w'.handedOut = w.handedOut) (returned : w'.returned = w.returned) :
    w'.Accounted := by
  have waitsBefore {call : WriteCall} (mem : call ∈ w'.waiting) :
      ∃ old ∈ w.waiting, old.p = call.p := by
    have found : w.waiting.map WriteCall.p = some call.p := by
      rw [← waiting, Option.mem_def.mp mem]
      rfl
    exact Option.map_eq_some_iff.mp found
  refine ⟨⟨?_, ?_, ?_⟩, ?_, ?_, ?_⟩
  · rw [returned, calls]
    exact account.numbered.returned
  · rw [owner, calls]
    exact account.numbered.owner
  · rw [calls, handedOut]
    exact account.numbered.later
  · intro call mem
    obtain ⟨old, memOld, same⟩ := waitsBefore mem
    rw [handedOut, owner, buffered, ← same]
    exact account.parts old memOld
  · intro call mem
    obtain ⟨old, memOld, -⟩ := waitsBefore mem
    rw [returned, owner]
    exact account.waits old memOld
  · intro none data
    rw [none, Option.map_none] at waiting
    rw [buffered] at data
    rw [returned, owner]
    exact account.leftover (Option.map_eq_none_iff.mp waiting.symm) data

theorem Numbered.leave (numbered : w.Numbered) {call n : Nat} (known : call ≤ w.calls)
    (err : Option StreamError) : (w.leave call p n err).Numbered := by
  refine ⟨?_, numbered.owner, numbered.later⟩
  exact forall_mem_append.mpr ⟨numbered.returned, forall_mem_singleton.mpr known⟩

theorem accounted_round (numbered : w.Numbered) (parts : w.handedOut w.owner ++ w.buffered = p)
    (waits : ∀ r ∈ w.returned, r.call ≠ w.owner) (now : Int) : (w.round p now).Accounted := by
  unfold round
  split
  · refine ⟨numbered.leave numbered.owner _, fun _ mem => absurd mem (Option.not_mem_none _),
      fun _ mem => absurd mem (Option.not_mem_none _), fun _ _ => ?_⟩
    exact ⟨_, mem_append_right _ (mem_singleton.mpr rfl), rfl⟩
  · refine ⟨{ numbered with }, fun call mem => ?_, fun _ _ => waits, fun ended => (by cases ended)⟩
    cases mem
    exact parts

/-- The state in which the first round of an accepted call begins. -/
theorem write_eq_round (takes : w.stream.takesWrite p = true) (now : Int) :
    w.write p now =
      { w with
        stream := { w.stream with dataForWriting := some p }
        calls := w.calls + 1
        owner := w.calls + 1 }.round p now := by
  unfold write
  rw [if_pos takes, Stream.write_of_takesWrite takes]

theorem Numbered.next (numbered : w.Numbered) {owner : Nat} (known : owner ≤ w.calls + 1) :
    Numbered { w with stream := s, calls := w.calls + 1, owner } :=
  ⟨fun r mem => (numbered.returned r mem).trans (Nat.le_succ _), known,
    fun call above => numbered.later call (Nat.lt_of_succ_lt above)⟩

theorem Accounted.write (account : w.Accounted) (idle : w.waiting = none) (p : List UInt8)
    (now : Int) : (w.write p now).Accounted := by
  have numbered := account.numbered
  have fresh : w.handedOut (w.calls + 1) = [] := numbered.later _ (Nat.lt_succ_self _)
  by_cases takes : w.stream.takesWrite p = true
  · rw [write_eq_round takes]
    refine accounted_round (numbered.next (le_refl _)) ?_ ?_ now
    · simp only [fresh, buffered, Option.getD_some, nil_append]
    · exact fun r mem => ne_of_lt (Nat.lt_succ_of_le (numbered.returned r mem))
  · unfold Writer.write
    rw [if_neg takes]
    refine ⟨(numbered.next (numbered.owner.trans (Nat.le_succ _))).leave (le_refl _) _,
      fun _ mem => absurd mem (Option.not_mem_none _),
      fun _ mem => absurd mem (Option.not_mem_none _), fun _ data => ?_⟩
    obtain ⟨r, mem, owns⟩ := account.leftover idle data
    exact ⟨r, mem_append_left _ mem, owns⟩

theorem buffered_getDataForWriting (maxBytes : Nat) :
    (w.stream.getDataForWriting maxBytes).2.getD [] ++ (w.getDataForWriting maxBytes).buffered =
      w.buffered :=
  w.stream.getDataForWriting_append maxBytes

theorem handedOut_getDataForWriting (maxBytes call : Nat) :
    (w.getDataForWriting maxBytes).handedOut call =
      if call = w.owner then
        w.handedOut w.owner ++ (w.stream.getDataForWriting maxBytes).2.getD []
      else w.handedOut call :=
  Function.update_apply _ _ _ _

theorem Accounted.getDataForWriting (account : w.Accounted) (maxBytes : Nat) :
    (w.getDataForWriting maxBytes).Accounted := by
  have front := w.buffered_getDataForWriting maxBytes
  refine ⟨⟨account.numbered.returned, account.numbered.owner, fun call above => ?_⟩,
    fun call mem => ?_, account.waits, fun idle data => ?_⟩
  · have other : call ≠ w.owner := by
      rintro rfl
      exact absurd account.numbered.owner (not_le.mpr above)
    rw [handedOut_getDataForWriting, if_neg other]
    exact account.numbered.later call above
  · change (w.getDataForWriting maxBytes).handedOut w.owner ++ _ = call.p
    rw [handedOut_getDataForWriting, if_pos rfl, append_assoc, front]
    exact account.parts call mem
  · refine account.leftover idle fun empty => data ?_
    rw [empty] at front
    exact (append_eq_nil_iff.mp front).2

theorem Accounted.step (account : w.Accounted) (op : WriteOp) : (w.step op).Accounted := by
  cases op with
  | write p now =>
    simp only [Writer.step]
    split
    · exact account
    · rename_i idle
      exact account.write (Option.not_isSome_iff_eq_none.mp idle) p now
  | receive =>
    simp only [Writer.step]
    split
    · rename_i call p deadline waiting
      split
      · exact account.of_same rfl (by rw [waiting]; rfl) rfl rfl rfl rfl
      · exact account
    · exact account
  | timer now =>
    simp only [Writer.step]
    split
    · rename_i call p deadline waiting
      split
      · exact account.of_same rfl (by rw [waiting]; rfl) rfl rfl rfl rfl
      · exact account
    · exact account
  | resume now =>
    simp only [Writer.step]
    split
    · rename_i call p waiting
      exact accounted_round account.numbered (account.parts _ waiting)
        (account.waits _ waiting) now
    · exact account
  | getDataForWriting maxBytes => exact account.getDataForWriting maxBytes
  | reset err =>
    refine account.of_same ?_ rfl rfl rfl rfl rfl
    exact congrArg (Option.getD · []) (w.stream.dataForWriting_reset err)
  | registerRemoteError err =>
    refine account.of_same ?_ rfl rfl rfl rfl rfl
    exact congrArg (Option.getD · []) (w.stream.dataForWriting_registerRemoteError err)
  | _ => exact account.of_same rfl rfl rfl rfl rfl rfl

/-! ## Exactness -/

theorem exact_leave_iff {call n : Nat} {err : Option StreamError} :
    (w.leave call p n err).Exact ↔ w.Exact ∧ w.handedOut call = p.take n := by
  constructor
  · intro exact
    exact ⟨fun r mem => exact r (mem_append_left _ mem),
      exact _ (mem_append_right _ (mem_singleton.mpr rfl))⟩
  · rintro ⟨exact, new⟩ r mem
    rcases mem_append.mp mem with old | isNew
    · exact exact r old
    · rw [mem_singleton.mp isNew]
      exact new

/-- Only at the deadline a round can report something else than what was handed out. -/
theorem exact_round_iff (exact : w.Exact) (parts : w.handedOut w.owner ++ w.buffered = p)
    (now : Int) :
    (w.round p now).Exact ↔
      (deadlineExpired w.writeDeadline now → w.buffered.length = p.length) := by
  unfold round Stream.writeRound
  by_cases expired : deadlineExpired w.writeDeadline now = true
  · simp only [expired, if_true, true_imp_iff]
    rw [exact_leave_iff, take_zero, ← parts, length_append]
    constructor
    · rintro ⟨-, empty⟩
      rw [empty, length_nil, zero_add]
    · intro same
      exact ⟨exact, length_eq_zero_iff.mp (by omega)⟩
  · simp only [expired, if_false, false_imp_iff, iff_true, Bool.false_eq_true]
    split
    · -- the data was taken, or the stream failed
      rename_i n err returns
      rw [exact_leave_iff]
      refine ⟨exact, ?_⟩
      split at returns
      · rename_i done
        split at returns
        · cases returns
          change w.handedOut w.owner = p.take (p.length - w.buffered.length)
          rw [← parts, length_append, Nat.add_sub_cancel, take_left]
        · rename_i noError
          cases returns
          have taken : w.stream.dataForWriting = none :=
            done.resolve_right (not_not_intro noError)
          have empty : w.buffered = [] := by rw [buffered, taken, Option.getD_none]
          rw [take_length, ← parts, empty, append_nil]
      · cases returns
    · exact exact

theorem exact_getDataForWriting_iff (account : w.Accounted) (exact : w.Exact) (maxBytes : Nat) :
    (w.getDataForWriting maxBytes).Exact ↔
      (w.waiting = none → (w.stream.getDataForWriting maxBytes).2.getD [] = []) := by
  constructor
  · intro after idle
    by_contra taken
    have data : w.buffered ≠ [] := by
      intro empty
      have front := w.buffered_getDataForWriting maxBytes
      rw [empty] at front
      exact taken (append_eq_nil_iff.mp front).1
    obtain ⟨r, mem, owns⟩ := account.leftover idle data
    have now := after r mem
    rw [handedOut_getDataForWriting, if_pos owns, ← exact r mem, owns] at now
    exact taken (append_right_eq_self.mp now)
  · intro safe r mem
    rw [handedOut_getDataForWriting]
    split
    · rename_i owns
      -- the call of the owner has returned, so that none waits
      have idle : w.waiting = none := by
        by_contra waits
        obtain ⟨call, waiting⟩ := Option.ne_none_iff_exists'.mp waits
        exact account.waits call waiting r mem owns
      rw [safe idle, append_nil, ← owns]
      exact exact r mem
    · exact exact r mem

theorem exact_step_iff (account : w.Accounted) (exact : w.Exact) (op : WriteOp) :
    (w.step op).Exact ↔ op.Safe w := by
  cases op with
  | write p now =>
    refine iff_of_true ?_ trivial
    have fresh : w.handedOut (w.calls + 1) = [] :=
      account.numbered.later _ (Nat.lt_succ_self _)
    simp only [Writer.step]
    split
    · exact exact
    · by_cases takes : w.stream.takesWrite p = true
      · rw [write_eq_round takes]
        refine (exact_round_iff ?_ ?_ now).mpr fun _ => rfl
        · exact exact
        · simp only [fresh, buffered, Option.getD_some, nil_append]
      · unfold Writer.write
        rw [if_neg takes]
        exact exact_leave_iff.mpr ⟨exact, fresh⟩
  | resume now =>
    simp only [Writer.step, WriteOp.Safe]
    split
    · rename_i call p waiting
      rw [exact_round_iff exact (account.parts _ waiting) now, waiting]
      simp
    · rename_i notAwake
      refine iff_of_true exact fun call mem awake => ?_
      obtain ⟨p, phase⟩ := call
      exact absurd (awake ▸ mem) (notAwake p)
  | getDataForWriting maxBytes =>
    exact (exact_getDataForWriting_iff account exact maxBytes).trans
      (imp_congr_right fun _ => w.stream.getDataForWriting_eq_nil_iff maxBytes)
  | receive =>
    refine iff_of_true ?_ trivial
    simp only [Writer.step]
    split
    · split <;> exact exact
    · exact exact
  | timer now =>
    refine iff_of_true ?_ trivial
    simp only [Writer.step]
    split
    · split <;> exact exact
    · exact exact
  | _ => exact iff_of_true exact trivial

end Writer

open Writer

/-- In every run, what `Write` reports is exactly what is handed out, now and later, if and only
if no call leaves at its deadline after bytes were taken and no bytes are taken after it left. -/
theorem write_exact_iff {s : Stream} (empty : s.dataForWriting = none) (ops : List WriteOp) :
    (∀ front, front <+: ops → (front.foldl step { stream := s }).Exact) ↔
      Runs.EachStep step (fun w op => op.Safe w) { stream := s } ops :=
  Runs.prefixes_iff_eachStep Accounted Exact (accounted_new empty)
    (forall_mem_nil _) (fun _ op account => account.step op)
    fun _ op account exact => exact_step_iff account exact op

/-- A call is cancelled after two of its three bytes were taken. -/
theorem write_exact_cancelled :
    let ops : List WriteOp :=
      [.write [1, 2, 3] 0, .getDataForWriting 2, .cancel (.closed "cancelled"), .receive,
        .resume 1, .getDataForWriting 10]
    let w := ops.foldl step { stream := newStreamType 5 false }
    w.returned = [{ call := 1, p := [1, 2, 3], n := 2, err := some (.closed "cancelled") }] ∧
      w.handedOut 1 = [1, 2] := by
  intro ops w
  have returned : w.returned =
      [{ call := 1, p := [1, 2, 3], n := 2, err := some (.closed "cancelled") }] := by decide
  have exact := (write_exact_iff (s := newStreamType 5 false) rfl ops).mpr (by decide) ops
    (prefix_refl ops)
  exact ⟨returned, exact _ (by rw [returned]; exact mem_singleton.mpr rfl)⟩

/-- The deadline expires after two of three bytes were taken. The call reports none of them, and
the third byte is handed out afterwards. -/
theorem write_exact_deadline :
    let ops : List WriteOp :=
      [.setWriteDeadline (some 5), .write [1, 2, 3] 0, .getDataForWriting 2, .timer 5, .resume 5]
    let w := ops.foldl step { stream := newStreamType 5 false }
    w.returned = [{ call := 1, p := [1, 2, 3], n := 0, err := some .errDeadline }] ∧
      w.handedOut 1 = [1, 2] ∧ (w.step (.getDataForWriting 10)).handedOut 1 = [1, 2, 3] ∧
      ¬w.Exact := by
  refine ⟨by decide, by decide, by decide, fun exact => ?_⟩
  exact absurd (exact { call := 1, p := [1, 2, 3], n := 0, err := some .errDeadline } (by decide))
    (by decide)

end MPQuic
