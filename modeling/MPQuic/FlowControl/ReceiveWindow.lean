import MPQuic.FlowControl.FlowControlManager
import MPQuic.Lib.CreditWindow
import MPQuic.Lib.MapSum

/-!
# Advertised receive windows

The receive side of a flow controller is a credit window whose counters are 64-bit words
(`FlowController.Advances`). A call of the flow control manager advances the controllers of
the streams and of the connection, so what the credit window says about runs holds for each
of them: the advertised window never shrinks exactly when half of the initial window
exceeds the maximum window by at most one byte.
-/

namespace MPQuic

open CreditWindow FlowController

/-! ## One controller -/

namespace FlowController

/-- The credit window of the receive side. -/
def window (c : FlowController) : Window where
  consumed := c.bytesRead
  limit := c.receiveWindow
  increment := c.receiveWindowIncrement
  cap := c.maxReceiveWindowIncrement

/-- No counter wraps around while `more` bytes are read. -/
structure Fits (c : FlowController) (more : Nat) : Prop where
  limit : c.receiveWindow < 2 ^ 64
  room : c.bytesRead + more +
    2 * max c.receiveWindowIncrement c.maxReceiveWindowIncrement < 2 ^ 64

/-- `c'` comes from `c` by moves of the credit window, of which `reads` bytes are read. -/
def Advances (reads : Nat) (c c' : FlowController) : Prop :=
  ∀ more, c.Fits (reads + more) →
    Relation.ReflTransGen Move c.window c'.window ∧ c'.Fits more

section Advances

variable {c c' c'' : FlowController} {reads : Nat}

/-- The send side has no part in it. -/
theorem advances_of_window_eq (reads : Nat) (same : c'.window = c.window) :
    Advances reads c c' := by
  intro more fits
  rw [same]
  refine ⟨Relation.ReflTransGen.refl, ?_⟩
  obtain ⟨limit, room⟩ := fits
  obtain ⟨read, limitEq, increment, cap⟩ := Window.mk.inj same
  constructor
  · rw [limitEq]
    exact limit
  · rw [read, increment, cap]
    omega

theorem Advances.trans (first : Advances reads c c') (second : Advances 0 c' c'') :
    Advances reads c c'' := by
  intro more fits
  obtain ⟨moves, fits'⟩ := first more fits
  obtain ⟨moves', fits''⟩ := second more (by rwa [zero_add])
  exact ⟨moves.trans moves', fits''⟩

theorem advances_addBytesRead (c : FlowController) (env : FlowEnv) (n : Nat) :
    Advances n c (c.addBytesRead env n) := by
  intro more fits
  have room := fits.room
  have read : (c.addBytesRead env n).bytesRead = c.bytesRead + n := addUint64_of_lt (by omega)
  constructor
  · have consumed : (c.addBytesRead env n).window =
        { c.window with consumed := c.window.consumed + n } := by
      unfold window
      rw [read]
      rfl
    rw [consumed]
    exact Relation.ReflTransGen.single (Move.consume _ n)
  · refine ⟨fits.limit, ?_⟩
    rw [read]
    exact (by omega : c.bytesRead + n + more +
      2 * max c.receiveWindowIncrement c.maxReceiveWindowIncrement < 2 ^ 64)

theorem advances_ensureMinimumWindowIncrement (c : FlowController) (inc : Nat) :
    Advances 0 c (c.ensureMinimumWindowIncrement inc) := by
  unfold ensureMinimumWindowIncrement
  split
  · rename_i above
    intro more fits
    have room := fits.room
    refine ⟨Relation.ReflTransGen.single (Move.raise c.window inc above), fits.limit, ?_⟩
    simp only
    omega
  · exact advances_of_window_eq 0 rfl

/-- The threshold is computed modulo `2 ^ 64`; past the window it is never reached. -/
theorem windowUpdateDue_iff {more : Nat} (fits : c.Fits more) :
    c.windowUpdateDue = true ↔ Due c.window := by
  have limit := fits.limit
  have room := fits.room
  unfold windowUpdateDue Due window
  rw [decide_eq_true_eq]
  rcases lt_or_ge c.receiveWindow c.bytesRead with past | within
  · have wrapped : subUint64 c.receiveWindow c.bytesRead =
        2 ^ 64 - (c.bytesRead - c.receiveWindow) := by
      unfold subUint64
      omega
    simp only [wrapped]
    omega
  · simp only [subUint64_of_le within limit]
    omega

theorem maybeAdjustWindowIncrement_cases (c : FlowController) (env : FlowEnv) :
    c.maybeAdjustWindowIncrement env = c ∨
      c.maybeAdjustWindowIncrement env =
        { c with
          receiveWindowIncrement :=
            min (addUint64 c.receiveWindowIncrement c.receiveWindowIncrement)
              c.maxReceiveWindowIncrement } := by
  unfold maybeAdjustWindowIncrement
  split
  · exact Or.inl rfl
  · simp only
    split
    · exact Or.inl rfl
    · split
      · exact Or.inl rfl
      · exact Or.inr rfl

/-- The controller that `MaybeUpdateWindow` leaves, once the increment is adjusted. -/
theorem renewed_window (env : FlowEnv) (bound : c.bytesRead + c.receiveWindowIncrement < 2 ^ 64) :
    ({ c with
      lastWindowUpdateTime := some env.now
      receiveWindow := addUint64 c.bytesRead c.receiveWindowIncrement } : FlowController).window =
        renewed c.window := by
  unfold window renewed
  rw [addUint64_of_lt bound]

theorem advances_maybeUpdateWindow (c : FlowController) (env : FlowEnv) :
    Advances 0 c (c.maybeUpdateWindow env).1 := by
  unfold maybeUpdateWindow
  split
  · rename_i isDue
    intro more fits
    have due := (windowUpdateDue_iff fits).mp isDue
    have room := fits.room
    simp only
    rcases maybeAdjustWindowIncrement_cases c env with kept | doubled
    · rw [kept]
      refine ⟨?_, Nat.mod_lt _ (by decide), by simp only; omega⟩
      rw [renewed_window env (by omega)]
      exact Relation.ReflTransGen.single (Move.renew c.window due)
    · have sum : addUint64 c.receiveWindowIncrement c.receiveWindowIncrement =
          c.receiveWindowIncrement + c.receiveWindowIncrement := addUint64_of_lt (by omega)
      rw [doubled, sum]
      refine ⟨?_, Nat.mod_lt _ (by decide), by simp only; omega⟩
      rw [renewed_window env (by simp only; omega)]
      exact Relation.ReflTransGen.single (Move.double c.window due)
  · exact advances_of_window_eq 0 rfl

end Advances

end FlowController

/-! ## The manager -/

/-- The calls of a flow control manager. -/
inductive FlowOp where
  | newStream (streamID : Nat) (contributesToConnection : Bool)
  | removeStream (streamID : Nat)
  | resetStream (streamID byteOffset : Nat)
  | updateHighestReceived (streamID byteOffset : Nat)
  | addBytesRead (streamID n : Nat) (env : FlowEnv)
  | getWindowUpdates (force : Bool) (order : List Nat) (env : FlowEnv)
  /-- on one controller, that of the connection for stream ID 0 -/
  | maybeUpdateWindow (streamID : Nat) (env : FlowEnv)
  /-- on one controller, that of the connection for stream ID 0 -/
  | ensureMinimumWindowIncrement (streamID inc : Nat)
  | addBytesSent (streamID n : Nat)
  | addBytesRetrans (streamID n : Nat)
  | updateWindow (streamID offset : Nat)

/-- The bytes that the call reports as read. -/
def FlowOp.reads : FlowOp → Nat
  | .addBytesRead _ n _ => n
  | _ => 0

/-- Data up to the offset arrived on the stream. -/
def FlowOp.Receives (op : FlowOp) (streamID byteOffset : Nat) : Prop :=
  op = .updateHighestReceived streamID byteOffset ∨ op = .resetStream streamID byteOffset

namespace FlowControlManager

/-- The controller of a stream, or of the connection for stream ID 0. -/
def controller (f : FlowControlManager) (streamID : Nat) : Option FlowController :=
  if streamID = 0 then some f.connFlowController else f.getFlowController streamID

/-- A call on one controller. -/
def onController (f : FlowControlManager) (streamID : Nat)
    (call : FlowController → FlowController) : FlowControlManager :=
  if streamID = 0 then { f with connFlowController := call f.connFlowController }
  else
    match f.getFlowController streamID with
    | none => f
    | some fc => f.setFlowController streamID (call fc)

/-- The manager after a call. -/
def step (f : FlowControlManager) : FlowOp → FlowControlManager
  | .newStream streamID contributes => f.newStream streamID contributes
  | .removeStream streamID => f.removeStream streamID
  | .resetStream streamID byteOffset => (f.resetStream streamID byteOffset).1
  | .updateHighestReceived streamID byteOffset =>
    (f.updateHighestReceived streamID byteOffset).1
  | .addBytesRead streamID n env => f.addBytesRead env streamID n
  | .getWindowUpdates force order env => (f.getWindowUpdates env force order).1
  | .maybeUpdateWindow streamID env =>
    f.onController streamID fun c => (c.maybeUpdateWindow env).1
  | .ensureMinimumWindowIncrement streamID inc =>
    f.onController streamID fun c => c.ensureMinimumWindowIncrement inc
  | .addBytesSent streamID n => f.addBytesSent streamID n
  | .addBytesRetrans streamID n => f.addBytesRetrans streamID n
  | .updateWindow streamID offset => f.updateWindow streamID offset

/-! ### Relations of managers -/

/-- Two managers are related if at most one stream and the connection, which has ID 0, have made
their moves. -/
structure Lifts (moves : Nat → FlowController → FlowController → Prop)
    (R : FlowControlManager → FlowControlManager → Prop) : Prop where
  keeps : ∀ id c, moves id c c
  connection : ∀ {f conn'}, moves 0 f.connFlowController conn' →
    R f { f with connFlowController := conn' }
  both : ∀ {f streamID fc fc' conn'}, f.getFlowController streamID = some fc →
    moves streamID fc fc' → moves 0 f.connFlowController conn' →
    R f { f.setFlowController streamID fc' with connFlowController := conn' }

namespace Lifts

variable {moves : Nat → FlowController → FlowController → Prop}
  {R : FlowControlManager → FlowControlManager → Prop} (lifts : Lifts moves R)
  {f : FlowControlManager} {streamID byteOffset : Nat} {fc fc' : FlowController}

include lifts

theorem refl (f : FlowControlManager) : R f f := lifts.connection (lifts.keeps 0 _)

theorem stream (found : f.getFlowController streamID = some fc) (moved : moves streamID fc fc') :
    R f (f.setFlowController streamID fc') :=
  lifts.both found moved (lifts.keeps 0 _)

theorem onBothLevels (f : FlowControlManager) (streamID : Nat)
    {count : FlowController → FlowController} (each : ∀ id c, moves id c (count c)) :
    R f (f.onBothLevels streamID count) := by
  unfold FlowControlManager.onBothLevels
  split
  · exact lifts.refl f
  · rename_i fc found
    simp only
    split
    · exact lifts.both found (each _ _) (each _ _)
    · exact lifts.stream found (each _ _)

theorem onController (f : FlowControlManager) (streamID : Nat)
    (call : FlowController → FlowController) (each : ∀ c, moves streamID c (call c)) :
    R f (f.onController streamID call) := by
  unfold FlowControlManager.onController
  split
  · rename_i zero
    exact lifts.connection (zero ▸ each _)
  · split
    · exact lifts.refl f
    · rename_i fc found
      exact lifts.stream found (each fc)

theorem getWindowUpdates {env : FlowEnv} (f : FlowControlManager) (force : Bool)
    (order : List Nat) (trans : ∀ {f f' f''}, R f f' → R f' f'' → R f f'')
    (update : ∀ id c, moves id c (c.maybeUpdateWindow env).1)
    (ensure : ∀ c inc, moves 0 c (c.ensureMinimumWindowIncrement inc)) :
    R f (f.getWindowUpdates env force order).1 := by
  have body (state : FlowControlManager × List WindowUpdate) (streamID : Nat) :
      R state.1 (updateStreamWindow env force state streamID).1 := by
    unfold updateStreamWindow
    split
    · exact lifts.refl _
    · rename_i fc found
      have updated := update streamID fc
      simp only
      split
      · split
        · exact lifts.both found updated (ensure _ _)
        · exact lifts.stream found updated
      · exact lifts.stream found updated
  simp only [FlowControlManager.getWindowUpdates]
  generalize visited : (MapOrder.visited order f.streamFlowController.keys).foldl
    (updateStreamWindow env force) (f, []) = streams
  have loop : R f streams.1 := by
    rw [← visited]
    exact List.foldlRecOn
      (motive := fun state : FlowControlManager × List WindowUpdate => R f state.1)
      _ _ (lifts.refl f) fun state related streamID _ => trans related (body state streamID)
  have connection := trans loop (lifts.connection (update 0 streams.1.connFlowController))
  split
  · exact connection
  · exact connection

/-- Data up to the offset arrives on a stream. -/
theorem checkReceived (found : f.getFlowController streamID = some fc)
    (receives : moves streamID fc (fc.updateHighestReceived byteOffset).1)
    (counts : fc.contributesToConnection = true → moves 0 f.connFlowController
      (f.connFlowController.incrementHighestReceived (fc.updateHighestReceived byteOffset).2.1)) :
    R f (f.checkReceived streamID byteOffset (fc.updateHighestReceived byteOffset).2.1
      (fc.updateHighestReceived byteOffset).1).1 := by
  have contributes : (fc.updateHighestReceived byteOffset).1.contributesToConnection =
      fc.contributesToConnection := by
    unfold FlowController.updateHighestReceived
    split
    · rfl
    · split <;> rfl
  simp only [FlowControlManager.checkReceived]
  split
  · exact lifts.stream found receives
  · split
    · rename_i counted
      exact lifts.both found receives (counts (contributes.symm.trans counted))
    · exact lifts.stream found receives

section Receiving

variable (receives : ∀ fc, f.getFlowController streamID = some fc →
    moves streamID fc (fc.updateHighestReceived byteOffset).1)
  (counts : ∀ fc, f.getFlowController streamID = some fc → fc.contributesToConnection = true →
    moves 0 f.connFlowController
      (f.connFlowController.incrementHighestReceived (fc.updateHighestReceived byteOffset).2.1))

include receives counts

theorem updateHighestReceived : R f (f.updateHighestReceived streamID byteOffset).1 := by
  unfold FlowControlManager.updateHighestReceived
  split
  · exact lifts.refl f
  · rename_i fc found
    exact lifts.checkReceived found (receives fc found) (counts fc found)

theorem resetStream : R f (f.resetStream streamID byteOffset).1 := by
  unfold FlowControlManager.resetStream
  split
  · exact lifts.refl f
  · rename_i fc found
    simp only
    split
    · exact lifts.stream found (receives fc found)
    · exact lifts.checkReceived found (receives fc found) (counts fc found)

end Receiving

end Lifts

/-- Every controller comes from one that was there before, related by `R`. -/
def EvolvesBy (R : Nat → FlowController → FlowController → Prop)
    (f f' : FlowControlManager) : Prop :=
  ∀ id c', f'.controller id = some c' → ∃ c, f.controller id = some c ∧ R id c c'

theorem controller_setFlowController_of_ne {f : FlowControlManager} {fc : FlowController}
    {streamID id : Nat} (other : ¬ (id ≠ 0 ∧ id = streamID)) :
    (f.setFlowController streamID fc).controller id = f.controller id := by
  unfold controller
  split
  · rfl
  · rename_i zero
    exact AList.lookup_insert_ne fun same => other ⟨zero, same⟩

theorem evolvesBy_lifts {R : Nat → FlowController → FlowController → Prop}
    (refl : ∀ id c, R id c c) : Lifts R (EvolvesBy R) where
  keeps := refl
  connection moved id c' after := by
    unfold controller at after ⊢
    split
    · rename_i zero
      rw [if_pos zero] at after
      obtain rfl := Option.some.inj after
      exact ⟨_, rfl, zero ▸ moved⟩
    · rename_i zero
      rw [if_neg zero] at after
      exact ⟨c', after, refl id c'⟩
  both found stream connection id c' after := by
    unfold controller at after ⊢
    by_cases zero : id = 0
    · rw [if_pos zero] at after ⊢
      obtain rfl := Option.some.inj after
      exact ⟨_, rfl, zero ▸ connection⟩
    · rw [if_neg zero] at after ⊢
      rcases MapSum.lookup_of_insert after with ⟨rfl, rfl⟩ | ⟨-, before⟩
      · exact ⟨_, found, stream⟩
      · exact ⟨c', before, refl id c'⟩

theorem evolvesBy_trans {R : Nat → FlowController → FlowController → Prop}
    {f f' f'' : FlowControlManager} (trans : ∀ id c c' c'', R id c c' → R id c' c'' → R id c c'')
    (first : EvolvesBy R f f') (second : EvolvesBy R f' f'') : EvolvesBy R f f'' := by
  intro id c'' after
  obtain ⟨c', between, related'⟩ := second id c'' after
  obtain ⟨c, before, related⟩ := first id c' between
  exact ⟨c, before, trans id c c' c'' related related'⟩

/-! ### Calls that receive nothing -/

/-- The receive side advances, and no data arrived. -/
def Quiet (reads : Nat) (c c' : FlowController) : Prop :=
  c.Advances reads c' ∧ c'.highestReceived = c.highestReceived

theorem quiet_refl (reads : Nat) (c : FlowController) : Quiet reads c c :=
  ⟨advances_of_window_eq reads rfl, rfl⟩

variable (c : FlowController)

theorem quiet_maybeUpdateWindow (env : FlowEnv) : Quiet 0 c (c.maybeUpdateWindow env).1 := by
  refine ⟨c.advances_maybeUpdateWindow env, ?_⟩
  unfold maybeUpdateWindow
  split
  · rcases c.maybeAdjustWindowIncrement_cases env with kept | doubled
    · simp only [kept]
    · simp only [doubled]
  · rfl

theorem quiet_ensureMinimumWindowIncrement (inc : Nat) :
    Quiet 0 c (c.ensureMinimumWindowIncrement inc) := by
  refine ⟨c.advances_ensureMinimumWindowIncrement inc, ?_⟩
  unfold ensureMinimumWindowIncrement
  split <;> rfl

theorem quiet_updateSendWindow (newOffset : Nat) : Quiet 0 c (c.updateSendWindow newOffset).1 := by
  unfold updateSendWindow
  split
  · exact ⟨advances_of_window_eq 0 rfl, rfl⟩
  · exact quiet_refl 0 c

/-- A call of the manager that receives nothing. -/
def QuietStep (reads : Nat) : FlowControlManager → FlowControlManager → Prop :=
  EvolvesBy fun _ => Quiet reads

theorem quietStep_lifts (reads : Nat) : Lifts (fun _ => Quiet reads) (QuietStep reads) :=
  evolvesBy_lifts fun _ => quiet_refl reads

theorem QuietStep.trans {f f' f'' : FlowControlManager} (first : QuietStep 0 f f')
    (second : QuietStep 0 f' f'') : QuietStep 0 f f'' :=
  evolvesBy_trans
    (fun _ _ _ _ before after => ⟨before.1.trans after.1, after.2.trans before.2⟩)
    first second

theorem quietStep_removeStream (f : FlowControlManager) (streamID : Nat) :
    QuietStep 0 f (f.removeStream streamID) := by
  intro id c' after
  refine ⟨c', ?_, quiet_refl 0 c'⟩
  unfold controller at after ⊢
  split
  · rename_i zero
    rw [if_pos zero] at after
    exact after
  · rename_i zero
    rw [if_neg zero] at after
    exact (MapSum.lookup_of_erase after).2

/-! ### Calls that receive data -/

/-- What the arrival of data up to `byteOffset` on a stream does to the controllers. -/
def Receipt (f : FlowControlManager) (streamID byteOffset id : Nat) (c c' : FlowController) :
    Prop :=
  c'.window = c.window ∧
    (c'.highestReceived ≤ c.highestReceived ∨
      ∃ fc, f.getFlowController streamID = some fc ∧ fc.highestReceived < byteOffset ∧
        (c'.highestReceived = byteOffset ∧ id = streamID ∨
          fc.contributesToConnection = true ∧ id = 0 ∧
            c'.highestReceived =
              addUint64 c.highestReceived (byteOffset - fc.highestReceived)))

theorem receipt_refl (f : FlowControlManager) (streamID byteOffset id : Nat)
    (c : FlowController) : Receipt f streamID byteOffset id c c :=
  ⟨rfl, Or.inl (le_refl _)⟩

section Receiving

variable {f : FlowControlManager} {streamID byteOffset : Nat} {fc : FlowController}

theorem receipt_stream (found : f.getFlowController streamID = some fc) :
    Receipt f streamID byteOffset streamID fc (fc.updateHighestReceived byteOffset).1 := by
  unfold FlowController.updateHighestReceived
  split
  · exact receipt_refl f streamID byteOffset streamID fc
  · split
    · rename_i above
      exact ⟨rfl, Or.inr ⟨fc, found, above, Or.inl ⟨rfl, rfl⟩⟩⟩
    · exact receipt_refl f streamID byteOffset streamID fc

theorem receipt_connection (found : f.getFlowController streamID = some fc)
    (contributes : fc.contributesToConnection = true) (conn : FlowController) :
    Receipt f streamID byteOffset 0 conn
      (conn.incrementHighestReceived (fc.updateHighestReceived byteOffset).2.1) := by
  have unchanged : Receipt f streamID byteOffset 0 conn (conn.incrementHighestReceived 0) :=
    ⟨rfl, Or.inl (Nat.mod_le _ _)⟩
  unfold FlowController.updateHighestReceived
  split
  · exact unchanged
  · split
    · rename_i above
      exact ⟨rfl, Or.inr ⟨fc, found, above, Or.inr ⟨contributes, rfl, rfl⟩⟩⟩
    · exact unchanged

end Receiving

/-! ### All calls -/

/-- What a call does to a controller that was there before. -/
def Evolution (f : FlowControlManager) (op : FlowOp) (id : Nat) (c c' : FlowController) : Prop :=
  c.Advances op.reads c' ∧
    (c'.highestReceived ≤ c.highestReceived ∨
      ∃ streamID byteOffset, op.Receives streamID byteOffset ∧
        Receipt f streamID byteOffset id c c')

theorem QuietStep.evolves {f f' : FlowControlManager} {op : FlowOp}
    (quiet : QuietStep op.reads f f') : EvolvesBy (Evolution f op) f f' := by
  intro id c' after
  obtain ⟨c, before, related⟩ := quiet id c' after
  exact ⟨c, before, related.1, Or.inl (le_of_eq related.2)⟩

theorem evolves_of_receipt {f f' : FlowControlManager} {op : FlowOp} {streamID byteOffset : Nat}
    (receives : op.Receives streamID byteOffset)
    (evolves : EvolvesBy (Receipt f streamID byteOffset) f f') :
    EvolvesBy (Evolution f op) f f' := by
  intro id c' after
  obtain ⟨c, before, receipt⟩ := evolves id c' after
  exact ⟨c, before, advances_of_window_eq _ receipt.1,
    Or.inr ⟨streamID, byteOffset, receives, receipt⟩⟩

/-- A controller after a call is a new one, or evolved from the one before. -/
theorem step_controller (f : FlowControlManager) (op : FlowOp) (id : Nat) {c' : FlowController}
    (after : (f.step op).controller id = some c') :
    (∃ c, f.controller id = some c ∧ Evolution f op id c c') ∨
      (f.controller id = none ∧ id ≠ 0 ∧
        ∃ contributes, c' = newFlowController id contributes f.connectionParameters) := by
  have quietly (quiet : QuietStep op.reads f (f.step op)) :
      ∃ c, f.controller id = some c ∧ Evolution f op id c c' :=
    quiet.evolves id c' after
  have lifts := quietStep_lifts
  have receipt {streamID byteOffset : Nat} := evolvesBy_lifts (receipt_refl f streamID byteOffset)
  cases op with
  | newStream streamID contributes =>
    have kept (before : f.controller id = some c') : ∃ c, f.controller id = some c ∧
        Evolution f (.newStream streamID contributes) id c c' :=
      ⟨c', before, advances_of_window_eq _ rfl, Or.inl (le_refl _)⟩
    simp only [step, newStream] at after
    split at after
    · exact Or.inl (kept after)
    · rename_i missing
      by_cases same : id ≠ 0 ∧ id = streamID
      · obtain ⟨zero, rfl⟩ := same
        rw [controller, if_neg zero] at after ⊢
        have inserted := Option.some.inj ((AList.lookup_insert _).symm.trans after)
        exact Or.inr ⟨missing, zero, contributes, inserted.symm⟩
      · exact Or.inl (kept (controller_setFlowController_of_ne same ▸ after))
  | removeStream streamID => exact Or.inl (quietly (quietStep_removeStream f streamID))
  | resetStream streamID byteOffset =>
    exact Or.inl (evolves_of_receipt (Or.inr rfl) (receipt.resetStream (fun _ => receipt_stream)
      fun _ found counts => receipt_connection found counts _) id c' after)
  | updateHighestReceived streamID byteOffset =>
    exact Or.inl (evolves_of_receipt (Or.inl rfl)
      (receipt.updateHighestReceived (fun _ => receipt_stream)
        fun _ found counts => receipt_connection found counts _) id c' after)
  | addBytesRead streamID n env =>
    exact Or.inl (quietly ((lifts n).onBothLevels f streamID
      fun _ c => ⟨c.advances_addBytesRead env n, rfl⟩))
  | getWindowUpdates force order env =>
    exact Or.inl (quietly ((lifts 0).getWindowUpdates f force order QuietStep.trans
      (fun _ c => quiet_maybeUpdateWindow c env) quiet_ensureMinimumWindowIncrement))
  | maybeUpdateWindow streamID env =>
    exact Or.inl (quietly ((lifts 0).onController f streamID _
      fun c => quiet_maybeUpdateWindow c env))
  | ensureMinimumWindowIncrement streamID inc =>
    exact Or.inl (quietly ((lifts 0).onController f streamID _
      fun c => quiet_ensureMinimumWindowIncrement c inc))
  | addBytesSent streamID n =>
    exact Or.inl (quietly ((lifts 0).onBothLevels f streamID
      fun _ _ => ⟨advances_of_window_eq 0 rfl, rfl⟩))
  | addBytesRetrans streamID n =>
    exact Or.inl (quietly ((lifts 0).onBothLevels f streamID
      fun _ _ => ⟨advances_of_window_eq 0 rfl, rfl⟩))
  | updateWindow streamID offset =>
    exact Or.inl (quietly ((lifts 0).onController f streamID _
      fun c => quiet_updateSendWindow c offset))

end FlowControlManager

end MPQuic
