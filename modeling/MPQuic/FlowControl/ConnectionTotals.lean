import MPQuic.FlowControl.AdvertisedWindow
import MPQuic.Lib.Runs

/-!
# The totals of the connection

The controller of the connection counts what the streams count: the highest offset that was
received, the bytes that were read and the bytes that were sent. A stream counts absolute offsets,
which may be reported out of order, and the connection is told the increments. Along every run of
calls that return no error, each total of the connection is the sum over the streams that
contribute to it, those included that were removed since (`connectionTotals_sum`). The sums are
those of 64-bit words; the highest offsets do not wrap around as long as no call moves a window,
since both levels are checked against their windows.
-/

namespace MPQuic

open MapSum

/-! ## What is summed up -/

variable {conn' : FlowController}

/-- What both levels count. -/
inductive Counter where
  | highestReceived
  | bytesRead
  | bytesSent
  deriving DecidableEq, Repr

namespace Counter

/-- The value of a counter. -/
def of : Counter → FlowController → Nat
  | highestReceived, fc => fc.highestReceived
  | bytesRead, fc => fc.bytesRead
  | bytesSent, fc => fc.bytesSent

/-- What a stream counts for the connection. -/
def contributed (counter : Counter) (fc : FlowController) : Nat :=
  if fc.contributesToConnection then counter.of fc else 0

/-- What decides what a stream counts for the connection. -/
def view (counter : Counter) (fc : FlowController) : Bool × Nat :=
  (fc.contributesToConnection, counter.of fc)

theorem of_new (counter : Counter) (streamID : Nat) (contributes : Bool)
    (params : ConnectionParametersManager) :
    counter.of (newFlowController streamID contributes params) = 0 := by
  unfold newFlowController
  split <;> cases counter <;> rfl

theorem contributed_new (counter : Counter) (streamID : Nat) (contributes : Bool)
    (params : ConnectionParametersManager) :
    counter.contributed (newFlowController streamID contributes params) = 0 := by
  rw [contributed, of_new, ite_self]

end Counter

/-- The manager, and the controllers of the removed streams as they were last. The source keeps no
record of them. -/
structure RecordedManager where
  manager : FlowControlManager
  removed : List FlowController

namespace RecordedManager

/-- A new manager. -/
def start (params : ConnectionParametersManager) : RecordedManager where
  manager := newFlowControlManager params
  removed := []

variable (st : RecordedManager)

/-- A call of the manager, and the record of the removed streams. -/
def step (op : FlowOp) : RecordedManager where
  manager := st.manager.step op
  removed :=
    match op with
    | .removeStream streamID => (st.manager.getFlowController streamID).toList ++ st.removed
    | _ => st.removed

/-- The sum over all streams that were ever created. -/
def total (counter : Counter) : Nat :=
  MapSum.total counter.contributed st.manager.streamFlowController +
    (st.removed.map counter.contributed).sum

/-- The controller of a stream that was created, removed or not. -/
def Created (fc : FlowController) : Prop :=
  fc ∈ st.removed ∨ ∃ streamID, st.manager.getFlowController streamID = some fc

/-- The call returns no error. -/
def ErrorFree : FlowOp → Prop
  | .resetStream streamID byteOffset => (st.manager.resetStream streamID byteOffset).2 = none
  | .updateHighestReceived streamID byteOffset =>
    (st.manager.updateHighestReceived streamID byteOffset).2 = none
  | .addBytesRead streamID _ _ => streamID ∈ st.manager.streamFlowController
  | .addBytesSent streamID _ => streamID ∈ st.manager.streamFlowController
  | .addBytesRetrans streamID _ => streamID ∈ st.manager.streamFlowController
  | .updateWindow streamID _ => streamID = 0 ∨ streamID ∈ st.manager.streamFlowController
  | _ => True

instance decidableErrorFree (st : RecordedManager) (op : FlowOp) : Decidable (st.ErrorFree op) := by
  unfold ErrorFree
  split <;> infer_instance

end RecordedManager

/-- The calls that may move a receive window. -/
def FlowOp.movesWindow : FlowOp → Bool
  | .getWindowUpdates .. => true
  | .maybeUpdateWindow .. => true
  | _ => false

/-! ## Calls that leave a part of every controller as it is -/

namespace FlowControlManager

variable {β : Type} {v : FlowController → β} {f f' f'' : FlowControlManager} {streamID : Nat}
  {fc fc' : FlowController}

/-- The controllers of a stream and of the connection were changed. -/
def setBoth (f : FlowControlManager) (streamID : Nat) (fc conn : FlowController) :
    FlowControlManager :=
  { f.setFlowController streamID fc with connFlowController := conn }

/-- A part of the controllers that a call does not change. -/
structure SameView (v : FlowController → β) (f f' : FlowControlManager) : Prop where
  connection : v f'.connFlowController = v f.connFlowController
  streams : ∀ id c', f'.getFlowController id = some c' →
    ∃ c, f.getFlowController id = some c ∧ v c' = v c
  totals : ∀ weight : β → Nat, total (fun c => weight (v c)) f'.streamFlowController =
    total (fun c => weight (v c)) f.streamFlowController

theorem SameView.trans (first : SameView v f f') (second : SameView v f' f'') :
    SameView v f f'' where
  connection := second.connection.trans first.connection
  streams := by
    intro id c'' found
    obtain ⟨c', found', same'⟩ := second.streams id c'' found
    obtain ⟨c, found, same⟩ := first.streams id c' found'
    exact ⟨c, found, same'.trans same⟩
  totals weight := (second.totals weight).trans (first.totals weight)

/-- A part of what is kept is kept. -/
theorem SameView.part {γ : Type} (same : SameView v f f') (part : β → γ) :
    SameView (fun c => part (v c)) f f' where
  connection := congrArg part same.connection
  streams := by
    intro id c' after
    obtain ⟨c, before, sameView⟩ := same.streams id c' after
    exact ⟨c, before, congrArg part sameView⟩
  totals weight := same.totals fun view => weight (part view)

theorem sameView_set (found : f.getFlowController streamID = some fc) (stream : v fc' = v fc)
    (connection : v conn' = v f.connFlowController) :
    SameView v f (f.setBoth streamID fc' conn') where
  connection := connection
  streams := by
    intro id c' after
    obtain ⟨rfl, rfl⟩ | ⟨_, before⟩ := lookup_of_insert after
    · exact ⟨fc, found, stream⟩
    · exact ⟨c', before, rfl⟩
  totals weight := by
    have changed := total_insert_of_some (fun c => weight (v c)) found fc'
    simp only [stream] at changed
    exact Nat.add_right_cancel changed

theorem sameView_lifts (v : FlowController → β) :
    Lifts (fun _ c c' => v c' = v c) (SameView v) where
  keeps _ _ := rfl
  connection same := ⟨same, fun _ c' found => ⟨c', found, rfl⟩, fun _ => rfl⟩
  both found stream := sameView_set found stream

end FlowControlManager

/-! ## Calls that receive data -/

namespace FlowControlManager

/-- Data up to the offset was accepted on a stream with the controller `fc`; the connection has the
controller `conn'` then. -/
structure Accepts (f f' : FlowControlManager) (streamID byteOffset : Nat)
    (fc conn' : FlowController) : Prop where
  found : f.getFlowController streamID = some fc
  after : f' = f.setBoth streamID
    { fc with highestReceived := max fc.highestReceived byteOffset } conn'
  connection : conn' = if fc.contributesToConnection then
    f.connFlowController.incrementHighestReceived
      (max fc.highestReceived byteOffset - fc.highestReceived)
    else f.connFlowController
  streamWithin : max fc.highestReceived byteOffset ≤ fc.receiveWindow
  connectionWithin : fc.contributesToConnection = true →
    conn'.highestReceived ≤ conn'.receiveWindow

variable {f : FlowControlManager} {streamID byteOffset : Nat} {fc : FlowController}

theorem checkReceived_accepts (found : f.getFlowController streamID = some fc)
    (accepted : (f.checkReceived streamID byteOffset (fc.updateHighestReceived byteOffset).2.1
      (fc.updateHighestReceived byteOffset).1).2 = none) :
    ∃ conn', Accepts f (f.checkReceived streamID byteOffset
      (fc.updateHighestReceived byteOffset).2.1 (fc.updateHighestReceived byteOffset).1).1
      streamID byteOffset fc conn' := by
  rw [fc.updateHighestReceived_eq byteOffset] at accepted ⊢
  simp only [checkReceived] at accepted ⊢
  split at accepted
  · cases accepted
  · rename_i within
    have streamWithin : max fc.highestReceived byteOffset ≤ fc.receiveWindow :=
      not_lt.mp fun past => within (decide_eq_true past)
    rw [if_neg within]
    split at accepted
    · rename_i contributes
      rw [if_pos contributes]
      refine ⟨_, found, rfl, (if_pos contributes).symm, streamWithin, fun _ => ?_⟩
      split at accepted
      · cases accepted
      · rename_i connWithin
        exact not_lt.mp fun past => connWithin (decide_eq_true past)
    · rename_i contributes
      rw [if_neg contributes]
      exact ⟨f.connFlowController, found, rfl, (if_neg contributes).symm, streamWithin,
        fun counted => absurd counted contributes⟩

theorem updateHighestReceived_accepts
    (accepted : (f.updateHighestReceived streamID byteOffset).2 = none) :
    ∃ fc conn', Accepts f (f.updateHighestReceived streamID byteOffset).1 streamID byteOffset
      fc conn' := by
  unfold updateHighestReceived at accepted ⊢
  split at accepted
  · cases accepted
  · rename_i fc found
    exact ⟨fc, checkReceived_accepts found accepted⟩

theorem resetStream_accepts (accepted : (f.resetStream streamID byteOffset).2 = none) :
    ∃ fc conn', Accepts f (f.resetStream streamID byteOffset).1 streamID byteOffset
      fc conn' := by
  unfold resetStream at accepted ⊢
  split at accepted
  · cases accepted
  · rename_i fc found
    simp only at accepted ⊢
    split at accepted
    · cases accepted
    · rename_i inOrder
      rw [if_neg inOrder]
      exact ⟨fc, checkReceived_accepts found accepted⟩

end FlowControlManager

/-! ## The sums -/

namespace RecordedManager

open FlowControlManager

variable {st : RecordedManager} {counter : Counter} {streamID : Nat} {f' : FlowControlManager}

/-- The connection has counted what the streams have. -/
def Balanced (counter : Counter) (st : RecordedManager) : Prop :=
  counter.of st.manager.connFlowController = st.total counter % 2 ^ 64

theorem balanced_start (counter : Counter) (params : ConnectionParametersManager) :
    (start params).Balanced counter :=
  counter.of_new 0 false params

theorem total_of_sameView (same : SameView counter.view st.manager f') :
    ({ st with manager := f' } : RecordedManager).total counter = st.total counter :=
  congrArg (· + (st.removed.map counter.contributed).sum)
    (same.totals fun view => if view.1 then view.2 else 0)

theorem Balanced.of_sameView (balanced : st.Balanced counter)
    (same : SameView counter.view st.manager f') :
    ({ st with manager := f' } : RecordedManager).Balanced counter := by
  unfold Balanced at balanced ⊢
  rw [total_of_sameView same, ← balanced]
  exact congrArg Prod.snd same.connection

/-- A new stream has counted nothing. -/
theorem total_created (missing : st.manager.getFlowController streamID = none)
    (contributes : Bool) (counter : Counter) :
    ({ st with
      manager := st.manager.setFlowController streamID
        (newFlowController streamID contributes st.manager.connectionParameters) } :
      RecordedManager).total counter = st.total counter := by
  have inserted := total_insert_of_none counter.contributed missing
    (newFlowController streamID contributes st.manager.connectionParameters)
  rw [Counter.contributed_new, zero_add] at inserted
  exact congrArg (· + (st.removed.map counter.contributed).sum) inserted

/-- A removed stream is recorded with its last counters. -/
theorem total_removed (st : RecordedManager) (streamID : Nat) (counter : Counter) :
    (st.step (.removeStream streamID)).total counter = st.total counter := by
  simp only [total, step, FlowControlManager.step, removeStream, List.map_append, List.sum_append]
  cases found : st.manager.getFlowController streamID with
  | none =>
    rw [MapSum.total_erase_of_none _ found]
    simp
  | some fc =>
    have erased := total_erase counter.contributed found
    simp only [Option.toList_some, List.map_cons, List.map_nil, List.sum_cons, List.sum_nil]
    omega

/-- The controller of one stream changes. -/
theorem total_changed {fc : FlowController}
    (found : st.manager.getFlowController streamID = some fc) (fc' conn' : FlowController)
    (counter : Counter) :
    ({ st with manager := st.manager.setBoth streamID fc' conn' } :
      RecordedManager).total counter + counter.contributed fc =
        st.total counter + counter.contributed fc' := by
  have changed := total_insert_of_some counter.contributed found fc'
  unfold total
  simp only [setBoth, setFlowController]
  omega

/-- A stream counts more, and so does the connection if the stream contributes to it. -/
theorem Balanced.counted (balanced : st.Balanced counter) {fc fc' : FlowController}
    (found : st.manager.getFlowController streamID = some fc)
    (flag : fc'.contributesToConnection = fc.contributesToConnection) (more : Nat)
    (stream : counter.of fc' % 2 ^ 64 = (counter.of fc + more) % 2 ^ 64)
    (connection : counter.of conn' = if fc.contributesToConnection then
      addUint64 (counter.of st.manager.connFlowController) more
      else counter.of st.manager.connFlowController) :
    ({ st with manager := st.manager.setBoth streamID fc' conn' } :
      RecordedManager).Balanced counter := by
  have changed := total_changed found fc' conn' counter
  unfold Balanced at balanced
  refine connection.trans ?_
  unfold Counter.contributed at changed
  rw [flag] at changed
  split at changed
  · rename_i contributes
    rw [if_pos contributes, balanced, addUint64_mod]
    omega
  · rename_i contributes
    rw [if_neg contributes, balanced]
    omega

theorem Balanced.onBothLevels (balanced : st.Balanced counter)
    {count : FlowController → FlowController} (more : Nat)
    (flag : ∀ c, (count c).contributesToConnection = c.contributesToConnection)
    (counts : ∀ c, counter.of (count c) = addUint64 (counter.of c) more) :
    ({ st with manager := st.manager.onBothLevels streamID count } :
      RecordedManager).Balanced counter := by
  unfold FlowControlManager.onBothLevels
  split
  · exact balanced
  · rename_i fc found
    have stream : counter.of (count fc) % 2 ^ 64 = (counter.of fc + more) % 2 ^ 64 := by
      rw [counts, addUint64, Nat.mod_mod]
    simp only
    split
    · rename_i contributes
      exact balanced.counted found (flag fc) more stream
        ((counts _).trans (if_pos contributes).symm)
    · rename_i contributes
      exact balanced.counted found (flag fc) more stream (if_neg contributes).symm

/-- Only the highest offset changes when data is accepted. -/
theorem Balanced.accepted (balanced : st.Balanced counter) {byteOffset : Nat} {fc : FlowController}
    (accepts : Accepts st.manager f' streamID byteOffset fc conn') :
    ({ st with manager := f' } : RecordedManager).Balanced counter := by
  obtain ⟨found, rfl, connection, -, -⟩ := accepts
  cases counter with
  | highestReceived =>
    refine balanced.counted found rfl (max fc.highestReceived byteOffset - fc.highestReceived)
      ?_ ?_
    · simp only [Counter.of]
      omega
    · rw [connection]
      split <;> rfl
  | _ =>
    refine balanced.of_sameView (sameView_set found (by rfl) ?_)
    rw [connection]
    split <;> rfl

end RecordedManager

/-! ## The window calls count nothing -/

namespace Counter

variable (counter : Counter) (c : FlowController)

theorem view_maybeUpdateWindow (env : FlowEnv) :
    counter.view (c.maybeUpdateWindow env).1 = counter.view c := by
  unfold FlowController.maybeUpdateWindow
  split
  · rcases c.maybeAdjustWindowIncrement_cases env with kept | doubled
    · simp only [kept]
      cases counter <;> rfl
    · simp only [doubled]
      cases counter <;> rfl
  · rfl

theorem view_ensureMinimumWindowIncrement (inc : Nat) :
    counter.view (c.ensureMinimumWindowIncrement inc) = counter.view c := by
  unfold FlowController.ensureMinimumWindowIncrement
  split
  · cases counter <;> rfl
  · rfl

theorem view_updateSendWindow (newOffset : Nat) :
    counter.view (c.updateSendWindow newOffset).1 = counter.view c := by
  unfold FlowController.updateSendWindow
  split
  · cases counter <;> rfl
  · rfl

end Counter

namespace RecordedManager

open FlowControlManager

variable {st : RecordedManager} {counter : Counter}

theorem Balanced.step (balanced : st.Balanced counter) (op : FlowOp) (errorFree : st.ErrorFree op) :
    (st.step op).Balanced counter := by
  have lifts := sameView_lifts counter.view
  cases op with
  | newStream streamID contributes =>
    show ({ st with manager := st.manager.newStream streamID contributes } :
      RecordedManager).Balanced counter
    unfold newStream
    split
    · exact balanced
    · rename_i missing
      exact balanced.trans
        (congrArg (· % 2 ^ 64) (total_created missing contributes counter).symm)
  | removeStream streamID =>
    exact balanced.trans (congrArg (· % 2 ^ 64) (total_removed st streamID counter).symm)
  | resetStream streamID byteOffset =>
    obtain ⟨fc, conn', accepts⟩ := resetStream_accepts errorFree
    exact balanced.accepted accepts
  | updateHighestReceived streamID byteOffset =>
    obtain ⟨fc, conn', accepts⟩ := updateHighestReceived_accepts errorFree
    exact balanced.accepted accepts
  | addBytesRead streamID n env =>
    cases counter with
    | bytesRead => exact balanced.onBothLevels n (fun _ => rfl) fun _ => rfl
    | _ => exact balanced.of_sameView (lifts.onBothLevels _ _ fun _ _ => rfl)
  | getWindowUpdates force order env =>
    exact balanced.of_sameView (lifts.getWindowUpdates _ force order SameView.trans
      (fun _ c => counter.view_maybeUpdateWindow c env) counter.view_ensureMinimumWindowIncrement)
  | maybeUpdateWindow streamID env =>
    exact balanced.of_sameView (lifts.onController _ _ _
      fun c => counter.view_maybeUpdateWindow c env)
  | ensureMinimumWindowIncrement streamID inc =>
    exact balanced.of_sameView (lifts.onController _ _ _
      fun c => counter.view_ensureMinimumWindowIncrement c inc)
  | addBytesSent streamID n =>
    cases counter with
    | bytesSent => exact balanced.onBothLevels n (fun _ => rfl) fun _ => rfl
    | _ => exact balanced.of_sameView (lifts.onBothLevels _ _ fun _ _ => rfl)
  | addBytesRetrans streamID n =>
    refine balanced.of_sameView (lifts.onBothLevels _ _ fun _ c => ?_)
    cases counter <;> rfl
  | updateWindow streamID offset =>
    exact balanced.of_sameView (lifts.onController _ _ _
      fun c => counter.view_updateSendWindow c offset)

/-! ## The highest offsets do not wrap around -/

/-- The receive windows are those of the start, and the connection is within its own. -/
structure Within (params : ConnectionParametersManager) (st : RecordedManager) : Prop where
  parameters : st.manager.connectionParameters = params
  connectionWindow : st.manager.connFlowController.receiveWindow =
    params.receiveConnectionFlowControlWindow
  streamWindow : ∀ streamID fc, st.manager.getFlowController streamID = some fc →
    fc.receiveWindow ≤
      max params.receiveStreamFlowControlWindow params.receiveConnectionFlowControlWindow
  bounded : st.total .highestReceived ≤ params.receiveConnectionFlowControlWindow

/-- What decides whether the receive windows are kept to. -/
def receiveView (c : FlowController) : (Bool × Nat) × Nat :=
  (Counter.highestReceived.view c, c.receiveWindow)

variable {params : ConnectionParametersManager} {streamID : Nat} {f' : FlowControlManager}

theorem within_start (params : ConnectionParametersManager) : (start params).Within params where
  parameters := rfl
  connectionWindow := rfl
  streamWindow _ _ found := by cases found
  bounded := Nat.zero_le _

section

variable (within : st.Within params)

include within

theorem Within.of_sameView (parameters : f'.connectionParameters = st.manager.connectionParameters)
    (same : SameView receiveView st.manager f') :
    ({ st with manager := f' } : RecordedManager).Within params where
  parameters := parameters.trans within.parameters
  connectionWindow := (congrArg Prod.snd same.connection).trans within.connectionWindow
  streamWindow id fc' found := by
    obtain ⟨fc, before, sameView⟩ := same.streams id fc' found
    have window : fc'.receiveWindow = fc.receiveWindow := congrArg Prod.snd sameView
    exact window ▸ within.streamWindow id fc before
  bounded := by
    rw [total_of_sameView (same.part Prod.fst)]
    exact within.bounded

theorem Within.created (missing : st.manager.getFlowController streamID = none)
    (contributes : Bool) :
    ({ st with
      manager := st.manager.setFlowController streamID
        (newFlowController streamID contributes st.manager.connectionParameters) } :
      RecordedManager).Within params where
  parameters := within.parameters
  connectionWindow := within.connectionWindow
  streamWindow id fc found := by
    obtain ⟨-, rfl⟩ | ⟨-, before⟩ := lookup_of_insert found
    · rw [within.parameters, newFlowController]
      split
      · exact le_max_right _ _
      · exact le_max_left _ _
    · exact within.streamWindow id fc before
  bounded := by
    rw [total_created missing]
    exact within.bounded

theorem Within.removed (streamID : Nat) : (st.step (.removeStream streamID)).Within params where
  parameters := within.parameters
  connectionWindow := within.connectionWindow
  streamWindow id fc found := within.streamWindow id fc (lookup_of_erase found).2
  bounded := by
    rw [total_removed]
    exact within.bounded

/-- The increment is at most the window of the stream, so that the check of the connection sees
the sum itself. -/
theorem Within.accepted (balanced : st.Balanced .highestReceived)
    (small : params.receiveConnectionFlowControlWindow +
      max params.receiveStreamFlowControlWindow params.receiveConnectionFlowControlWindow < 2 ^ 64)
    {byteOffset : Nat} {fc : FlowController}
    (accepts : Accepts st.manager f' streamID byteOffset fc conn') :
    ({ st with manager := f' } : RecordedManager).Within params := by
  obtain ⟨found, rfl, connection, streamWithin, connectionWithin⟩ := accepts
  have window : conn'.receiveWindow = st.manager.connFlowController.receiveWindow := by
    rw [connection]
    split <;> rfl
  have bounded := within.bounded
  have streamWindow := within.streamWindow streamID fc found
  refine ⟨within.parameters, window.trans within.connectionWindow, fun id c' after => ?_, ?_⟩
  · obtain ⟨-, rfl⟩ | ⟨-, before⟩ := lookup_of_insert after
    · exact streamWindow
    · exact within.streamWindow id c' before
  · have changed := total_changed found
      { fc with highestReceived := max fc.highestReceived byteOffset } conn' .highestReceived
    simp only [Counter.contributed, Counter.of] at changed
    split at changed
    · rename_i contributes
      have checked := connectionWithin contributes
      rw [window, within.connectionWindow, connection, if_pos contributes] at checked
      have before : st.manager.connFlowController.highestReceived = st.total .highestReceived :=
        balanced.trans (Nat.mod_eq_of_lt (by omega))
      have sum : addUint64 (st.total .highestReceived)
          (max fc.highestReceived byteOffset - fc.highestReceived) =
            st.total .highestReceived +
              (max fc.highestReceived byteOffset - fc.highestReceived) :=
        addUint64_of_lt (by omega)
      rw [FlowController.incrementHighestReceived] at checked
      simp only [before, sum] at checked
      omega
    · omega

theorem Within.step (balanced : st.Balanced .highestReceived)
    (small : params.receiveConnectionFlowControlWindow +
      max params.receiveStreamFlowControlWindow params.receiveConnectionFlowControlWindow < 2 ^ 64)
    (op : FlowOp) (still : op.movesWindow = false) (errorFree : st.ErrorFree op) :
    (st.step op).Within params := by
  have parameters := step_connectionParameters st.manager op
  have lifts := sameView_lifts receiveView
  cases op with
  | newStream streamID contributes =>
    show ({ st with manager := st.manager.newStream streamID contributes } :
      RecordedManager).Within params
    unfold newStream
    split
    · exact within
    · rename_i missing
      exact within.created missing contributes
  | removeStream streamID => exact within.removed streamID
  | resetStream streamID byteOffset =>
    obtain ⟨fc, conn', accepts⟩ := resetStream_accepts errorFree
    exact within.accepted balanced small accepts
  | updateHighestReceived streamID byteOffset =>
    obtain ⟨fc, conn', accepts⟩ := updateHighestReceived_accepts errorFree
    exact within.accepted balanced small accepts
  | addBytesRead streamID n env =>
    exact within.of_sameView parameters (lifts.onBothLevels _ _ fun _ _ => rfl)
  | addBytesSent streamID n =>
    exact within.of_sameView parameters (lifts.onBothLevels _ _ fun _ _ => rfl)
  | addBytesRetrans streamID n =>
    exact within.of_sameView parameters (lifts.onBothLevels _ _ fun _ _ => rfl)
  | ensureMinimumWindowIncrement streamID inc =>
    refine within.of_sameView parameters (lifts.onController _ _ _ fun c => ?_)
    unfold FlowController.ensureMinimumWindowIncrement
    split <;> rfl
  | updateWindow streamID offset =>
    refine within.of_sameView parameters (lifts.onController _ _ _ fun c => ?_)
    unfold FlowController.updateSendWindow
    split <;> rfl
  | _ => cases still

end

theorem within_run (params : ConnectionParametersManager)
    (small : params.receiveConnectionFlowControlWindow +
      max params.receiveStreamFlowControlWindow params.receiveConnectionFlowControlWindow < 2 ^ 64)
    (ops : List FlowOp) (still : ∀ op ∈ ops, op.movesWindow = false)
    (errorFree : Runs.EachStep RecordedManager.step ErrorFree (start params) ops) :
    (ops.foldl RecordedManager.step (start params)).Within params := by
  have both : Runs.EachStep RecordedManager.step
      (fun st op => st.ErrorFree op ∧ op.movesWindow = false) (start params) ops := by
    intro front op back split
    refine ⟨errorFree front op back split, still op ?_⟩
    rw [split]
    exact List.mem_append_right _ List.mem_cons_self
  refine (both.invariant
    (fun st : RecordedManager => st.Within params ∧ st.Balanced .highestReceived)
    ⟨within_start params, balanced_start _ params⟩ ?_).1
  rintro st op ⟨within, balanced⟩ ⟨free, moves⟩
  exact ⟨within.step balanced small op moves free, balanced.step op free⟩

/-- What all streams keep to, their sums keep to. -/
theorem total_le_total {counter counter' : Counter}
    (each : ∀ fc, st.Created fc → counter.contributed fc ≤ counter'.contributed fc) :
    st.total counter ≤ st.total counter' := by
  refine Nat.add_le_add ?_ ?_
  · exact MapSum.total_le_total fun streamID fc found => each fc (Or.inr ⟨streamID, found⟩)
  · exact List.sum_le_sum fun fc mem => each fc (Or.inl mem)

end RecordedManager

open RecordedManager

/-- The totals of the connection are the sums over all contributing streams. A run of the calls that
do not move a receive window keeps the highest offsets exact, and what each stream has read is
within what it received, so it is for the connection. -/
theorem connectionTotals_sum (params : ConnectionParametersManager) (ops : List FlowOp)
    (errorFree : Runs.EachStep RecordedManager.step ErrorFree (start params) ops) :
    let st := ops.foldl RecordedManager.step (start params)
    let conn := st.manager.connFlowController
    conn.highestReceived = st.total .highestReceived % 2 ^ 64 ∧
      conn.bytesRead = st.total .bytesRead % 2 ^ 64 ∧
      conn.bytesSent = st.total .bytesSent % 2 ^ 64 ∧
      ((∀ op ∈ ops, op.movesWindow = false) →
        params.receiveConnectionFlowControlWindow +
          max params.receiveStreamFlowControlWindow params.receiveConnectionFlowControlWindow <
            2 ^ 64 →
        conn.highestReceived = st.total .highestReceived ∧
          ((∀ fc, st.Created fc → fc.contributesToConnection = true →
              fc.bytesRead ≤ fc.highestReceived) →
            conn.bytesRead ≤ conn.highestReceived)) := by
  intro st conn
  have balanced (counter : Counter) : st.Balanced counter :=
    errorFree.invariant (Balanced counter) (balanced_start counter params)
      fun _ op held free => held.step op free
  refine ⟨balanced .highestReceived, balanced .bytesRead, balanced .bytesSent,
    fun still small => ?_⟩
  have bounded : st.total .highestReceived ≤ params.receiveConnectionFlowControlWindow :=
    (within_run params small ops still errorFree).bounded
  have received : conn.highestReceived = st.total .highestReceived :=
    (balanced .highestReceived).trans (Nat.mod_eq_of_lt (by omega))
  refine ⟨received, fun each => ?_⟩
  calc conn.bytesRead
      = st.total .bytesRead % 2 ^ 64 := balanced .bytesRead
    _ ≤ st.total .bytesRead := Nat.mod_le _ _
    _ ≤ st.total .highestReceived := total_le_total fun fc created => ?_
    _ = conn.highestReceived := received.symm
  unfold Counter.contributed
  split
  · rename_i contributes
    exact each fc created contributes
  · exact le_refl 0

/-- Two streams receive out of order and are read, and one of them is removed; a third one does not
count. -/
def reorderedCalls : List FlowOp :=
  [.newStream 5 true, .newStream 7 true, .newStream 3 false,
    .updateHighestReceived 5 100, .updateHighestReceived 7 40, .updateHighestReceived 5 60,
    .updateHighestReceived 3 500, .addBytesRead 5 80 { now := 0, smoothedRTT := 0 },
    .addBytesSent 7 30, .resetStream 7 50, .removeStream 5, .updateHighestReceived 7 90]

theorem connectionTotals_sum_reordered :
    let st := reorderedCalls.foldl RecordedManager.step (start (serverParameters 0 0))
    st.total .highestReceived = 190 ∧ st.total .bytesRead = 80 ∧ st.total .bytesSent = 30 ∧
      st.manager.connFlowController.highestReceived = st.total .highestReceived ∧
      st.manager.connFlowController.bytesRead ≤ st.manager.connFlowController.highestReceived := by
  intro st
  obtain ⟨-, -, -, exactly⟩ :=
    connectionTotals_sum (serverParameters 0 0) reorderedCalls (by decide)
  obtain ⟨received, read⟩ := exactly (by decide) (by decide)
  refine ⟨by decide, by decide, by decide, received, read ?_⟩
  have removed : ∀ fc ∈ st.removed, fc.bytesRead ≤ fc.highestReceived := by decide
  have remaining : ∀ e ∈ st.manager.streamFlowController.entries,
      e.2.bytesRead ≤ e.2.highestReceived := by decide
  rintro fc (gone | ⟨streamID, found⟩) -
  · exact removed fc gone
  · exact remaining ⟨streamID, fc⟩ (AList.mem_lookup_iff.mp found)

end MPQuic
