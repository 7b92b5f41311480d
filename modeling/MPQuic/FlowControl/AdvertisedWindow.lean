import MPQuic.FlowControl.ReceiveWindow

/-!
# Runs of the flow control manager

A run is any sequence of calls. Next to the manager a run records the largest offset that
the peer was offered for every stream and for the connection. A peer conforms when it sends
nothing past these offsets.

Streams and connection are independent here: for either of them, the advertised window
never shrinks, and a conforming peer is never taken for a violator, exactly when half of
its initial window is at most one byte above its maximum window.
-/

namespace MPQuic

open CreditWindow FlowControlManager

/-! ## Runs -/

variable {c : FlowController} (f : FlowControlManager)

/-- A flow control manager with a record of the windows it has offered. -/
structure Watched where
  manager : FlowControlManager
  /-- the largest offset offered for a stream, and for the connection under ID 0 -/
  offered : Nat → Nat

namespace Watched

variable (params : ConnectionParametersManager)

/-- A new manager. The connection window is known from the handshake. -/
def start : Watched where
  manager := newFlowControlManager params
  offered := fun id => if id = 0 then params.receiveConnectionFlowControlWindow else 0

/-- A new stream starts with the offer of its first window. -/
def step (w : Watched) (op : FlowOp) : Watched where
  manager := w.manager.step op
  offered := fun id =>
    match w.manager.controller id, (w.manager.step op).controller id with
    | some _, some c => max (w.offered id) c.receiveWindow
    | none, some c => c.receiveWindow
    | _, none => 0

/-- A run from a new manager. -/
def run (ops : List FlowOp) : Watched :=
  ops.foldl step (start params)

/-- Data that arrives lies within what was offered for its stream and, if the stream counts
there, for the connection. -/
def Conforms (w : Watched) (op : FlowOp) : Prop :=
  ∀ streamID byteOffset fc, op.Receives streamID byteOffset →
    w.manager.getFlowController streamID = some fc → fc.highestReceived < byteOffset →
      byteOffset ≤ w.offered streamID ∧
        (fc.contributesToConnection = true →
          w.manager.connFlowController.highestReceived + (byteOffset - fc.highestReceived) ≤
            w.offered 0)

/-- The peer conforms in every call of the run. -/
def Conforming (ops : List FlowOp) : Prop :=
  ∀ before op after, ops = before ++ op :: after → (run params before).Conforms op

end Watched

open Watched hiding step

/-- The number of bytes that are read in a run. -/
def readTotal (ops : List FlowOp) : Nat := (ops.map FlowOp.reads).sum

/-- The first receive window of a stream, or of the connection. -/
def ConnectionParametersManager.initialWindow (params : ConnectionParametersManager) (id : Nat) :
    Nat :=
  if id = 0 then params.receiveConnectionFlowControlWindow
  else params.receiveStreamFlowControlWindow

/-- The largest increment of a receive window. -/
def ConnectionParametersManager.maximumWindow (params : ConnectionParametersManager) (id : Nat) :
    Nat :=
  if id = 0 then params.maxReceiveConnectionFlowControlWindow
  else params.maxReceiveStreamFlowControlWindow

/-- The receive window of the stream, or of the connection for ID 0, never shrinks in a run,
and a conforming peer never exceeds it; for runs that read so few bytes that no counter
wraps around. -/
def WindowSafe (params : ConnectionParametersManager) (id : Nat) : Prop :=
  ∀ ops op, readTotal (ops ++ [op]) +
      2 * max (params.initialWindow id) (params.maximumWindow id) < 2 ^ 64 →
    ∀ after, (run params (ops ++ [op])).manager.controller id = some after →
      (∀ before, (run params ops).manager.controller id = some before →
        before.receiveWindow ≤ after.receiveWindow) ∧
      (Conforming params (ops ++ [op]) → after.checkFlowControlViolation = false)

/-! ## Windows that never shrink -/

section Safe

variable {params : ConnectionParametersManager} {id more : Nat} {ops : List FlowOp} {op : FlowOp}
  {c' : FlowController} (contributes : Bool)

theorem sameParameters_lifts : Lifts (fun _ _ _ => True)
    fun f f' => f'.connectionParameters = f.connectionParameters :=
  ⟨fun _ _ => trivial, fun _ => rfl, fun _ _ _ => rfl⟩

theorem step_connectionParameters (op : FlowOp) :
    (f.step op).connectionParameters = f.connectionParameters := by
  have lifts := sameParameters_lifts
  cases op with
  | newStream streamID contributes =>
    simp only [step, newStream]
    split <;> rfl
  | removeStream streamID => rfl
  | resetStream streamID byteOffset =>
    exact lifts.resetStream (fun _ _ => trivial) fun _ _ _ => trivial
  | updateHighestReceived streamID byteOffset =>
    exact lifts.updateHighestReceived (fun _ _ => trivial) fun _ _ _ => trivial
  | getWindowUpdates force order env =>
    exact lifts.getWindowUpdates f force order (fun first second => second.trans first)
      (fun _ _ => trivial) fun _ _ => trivial
  | maybeUpdateWindow streamID env => exact lifts.onController f _ _ fun _ => trivial
  | ensureMinimumWindowIncrement streamID inc => exact lifts.onController f _ _ fun _ => trivial
  | updateWindow streamID offset =>
    exact lifts.onController f _ (fun c => (c.updateSendWindow offset).1) fun _ => trivial
  | _ => exact lifts.onBothLevels f _ fun _ _ => trivial

theorem run_connectionParameters (ops : List FlowOp) :
    (run params ops).manager.connectionParameters = params :=
  List.foldlRecOn (motive := fun w : Watched => w.manager.connectionParameters = params)
    ops Watched.step rfl fun w same op _ => (step_connectionParameters w.manager op).trans same

theorem newFlowController_window (id : Nat) (contributes : Bool)
    (params : ConnectionParametersManager) :
    (newFlowController id contributes params).window =
      CreditWindow.start (params.initialWindow id) (params.maximumWindow id) := by
  unfold newFlowController ConnectionParametersManager.initialWindow
    ConnectionParametersManager.maximumWindow
  split <;> rfl

theorem newFlowController_highestReceived (id : Nat) (contributes : Bool)
    (params : ConnectionParametersManager) :
    (newFlowController id contributes params).highestReceived = 0 := by
  unfold newFlowController
  split <;> rfl

theorem newFlowController_fits
    (room : more + 2 * max (params.initialWindow id) (params.maximumWindow id) < 2 ^ 64) :
    (newFlowController id contributes params).Fits more := by
  obtain ⟨read, limit, increment, cap⟩ :=
    Window.mk.inj (newFlowController_window id contributes params)
  constructor
  · rw [limit]
    omega
  · rw [read, increment, cap]
    omega

theorem Watched.run_concat (ops : List FlowOp) (op : FlowOp) :
    run params (ops ++ [op]) = (run params ops).step op :=
  List.foldl_concat _ _ _ _

theorem Watched.Conforming.init
    (conforming : Conforming params (ops ++ [op])) : Conforming params ops := by
  intro before call after split
  refine conforming before call (after ++ [op]) ?_
  rw [split, List.append_assoc, List.cons_append]

theorem Watched.Conforming.last (conforming : Conforming params (ops ++ [op])) :
    (run params ops).Conforms op :=
  conforming ops op [] rfl

theorem readTotal_concat (ops : List FlowOp) (op : FlowOp) :
    readTotal (ops ++ [op]) = readTotal ops + op.reads := by
  unfold readTotal
  rw [List.map_append, List.sum_append, List.map_singleton, List.sum_singleton]

/-- What holds of a controller in a run after which `more` bytes can still be read. -/
structure Secure (params : ConnectionParametersManager) (ops : List FlowOp) (id more : Nat)
    (c : FlowController) : Prop where
  fits : c.Fits more
  steady : Steady c.window
  offered : (run params ops).offered id ≤ c.receiveWindow
  received : Conforming params ops → c.highestReceived ≤ c.receiveWindow

/-- A conforming peer stays within the window that it was offered. -/
theorem highestReceived_le_of_receipt {streamID byteOffset : Nat}
    (before : (run params ops).manager.controller id = some c)
    (offered : (run params ops).offered id ≤ c.receiveWindow)
    (received : c.highestReceived ≤ c.receiveWindow)
    (conforms : (run params ops).Conforms op) (receives : op.Receives streamID byteOffset)
    (receipt : Receipt (run params ops).manager streamID byteOffset id c c') :
    c'.highestReceived ≤ c'.receiveWindow := by
  obtain ⟨window, arrived⟩ := receipt
  have limit : c'.receiveWindow = c.receiveWindow := congrArg Window.limit window
  rw [limit]
  rcases arrived with kept | ⟨fc, found, above, stream | connection⟩
  · exact le_trans kept received
  · obtain ⟨highest, rfl⟩ := stream
    rw [highest]
    exact le_trans (conforms id byteOffset fc receives found above).1 offered
  · obtain ⟨contributes, rfl, highest⟩ := connection
    obtain rfl := Option.some.inj before
    rw [highest]
    calc
      addUint64 _ (byteOffset - fc.highestReceived)
        ≤ _ + (byteOffset - fc.highestReceived) := Nat.mod_le _ _
      _ ≤ (run params ops).offered 0 :=
          (conforms streamID byteOffset fc receives found above).2 contributes
      _ ≤ _ := offered

/-- A controller that was there before the call. -/
theorem Secure.step (secure : Secure params ops id (op.reads + more) c)
    (before : (run params ops).manager.controller id = some c)
    (after : (run params (ops ++ [op])).manager.controller id = some c')
    (evolution : Evolution (run params ops).manager op id c c') :
    c.receiveWindow ≤ c'.receiveWindow ∧ Secure params (ops ++ [op]) id more c' := by
  obtain ⟨moves, fits⟩ := evolution.1 more secure.fits
  have grows : c.receiveWindow ≤ c'.receiveWindow := limit_le_of_moves secure.steady moves
  refine ⟨grows, fits, secure.steady.moves moves, ?_, fun conforming => ?_⟩
  · rw [run_concat] at after ⊢
    have newOffer : ((run params ops).step op).offered id =
        max ((run params ops).offered id) c'.receiveWindow := by
      have after' : ((run params ops).manager.step op).controller id = some c' := after
      simp only [Watched.step, before, after']
    rw [newOffer]
    exact Nat.max_le.mpr ⟨Nat.le_trans secure.offered grows, Nat.le_refl _⟩
  · have received := secure.received conforming.init
    rcases evolution.2 with kept | ⟨streamID, byteOffset, receives, receipt⟩
    · exact le_trans kept (le_trans received grows)
    · exact highestReceived_le_of_receipt before secure.offered received conforming.last receives
        receipt

section

variable (within : params.initialWindow id / 2 ≤ params.maximumWindow id + 1)

include within

theorem secure_newFlowController
    (room : more + 2 * max (params.initialWindow id) (params.maximumWindow id) < 2 ^ 64)
    (offered : (run params ops).offered id ≤
      (newFlowController id contributes params).receiveWindow) :
    Secure params ops id more (newFlowController id contributes params) where
  fits := newFlowController_fits contributes room
  steady := by
    rw [newFlowController_window]
    exact within
  offered := offered
  received := fun _ => by
    rw [newFlowController_highestReceived]
    exact Nat.zero_le _

/-- By induction on the run: a controller evolved from a secure one, or is new. -/
theorem secure_of_run (ops : List FlowOp) : ∀ more, readTotal ops + more +
        2 * max (params.initialWindow id) (params.maximumWindow id) < 2 ^ 64 →
      ∀ c, (run params ops).manager.controller id = some c →
        Secure params ops id more c := by
  induction ops using List.reverseRecOn with
  | nil =>
    intro more room c found
    have connection : id = 0 ∧ newFlowController 0 false params = c := by
      simp only [controller] at found
      split at found
      · rename_i zero
        exact ⟨zero, Option.some.inj found⟩
      · cases found
    obtain ⟨rfl, rfl⟩ := connection
    exact secure_newFlowController false within (by omega) (le_refl _)
  | append_singleton ops op ih =>
    intro more room c' after
    rw [readTotal_concat] at room
    have stepped : ((run params ops).manager.step op).controller id = some c' := by
      rw [run_concat] at after
      exact after
    rcases step_controller _ op id stepped with ⟨c, before, evolution⟩ | ⟨missing, -, fresh⟩
    · exact ((ih (op.reads + more) (by omega) c before).step before after evolution).2
    · obtain ⟨contributes, rfl⟩ := fresh
      rw [run_connectionParameters] at stepped ⊢
      refine secure_newFlowController contributes within (by omega) ?_
      rw [run_concat]
      simp only [Watched.step, missing, stepped]
      exact le_refl _

theorem windowSafe_of_within : WindowSafe params id := by
  intro ops op room after stepped
  constructor
  · intro before found
    rw [readTotal_concat] at room
    have secure := secure_of_run within ops (op.reads + 0) (by omega) before found
    have evolved : ((run params ops).manager.step op).controller id = some after := by
      rw [run_concat] at stepped
      exact stepped
    rcases step_controller _ op id evolved with ⟨c, found', evolution⟩ | ⟨missing, -, -⟩
    · obtain rfl := Option.some.inj (found.symm.trans found')
      exact (secure.step found stepped evolution).1
    · rw [missing] at found
      cases found
  · intro conforming
    have secure := secure_of_run within (ops ++ [op]) 0 (by omega) after stepped
    exact decide_eq_false (not_lt.mpr (secure.received conforming))

end

end Safe

/-! ## Windows that shrink -/

section Shrink

variable (streamID : Nat)

/-- The auto-tuning is on, and every call happens at the same time. -/
def busy : FlowEnv := { now := 0, smoothedRTT := 1 }

variable {params : ConnectionParametersManager} {id : Nat}

theorem FlowController.maybeAdjustWindowIncrement_busy
    (recent : c.lastWindowUpdateTime = some busy.now) :
    c.maybeAdjustWindowIncrement busy =
      { c with
        receiveWindowIncrement :=
          min (addUint64 c.receiveWindowIncrement c.receiveWindowIncrement)
            c.maxReceiveWindowIncrement } := by
  have tuned : ¬ busy.smoothedRTT = 0 := by decide
  have soon : ¬ busy.now - busy.now ≥ 2 * max busy.smoothedRTT (busy.remoteRTTs.foldl max 0) := by
    decide
  simp only [maybeAdjustWindowIncrement, recent, if_neg tuned, if_neg soon]

/-- Reading so much of the first window that an update falls due takes credit back, because
the update doubles the increment down to its cap. -/
theorem FlowController.shrinks {increment cap : Nat}
    (fresh : c.window = CreditWindow.start increment cap) (small : increment < 2 ^ 62)
    (above : ¬ increment / 2 ≤ cap + 1) :
    ((c.addBytesRead busy (lastRenewal increment)).maybeUpdateWindow busy).1.receiveWindow <
      c.receiveWindow := by
  obtain ⟨due, shrinks⟩ := exists_shrink above
  obtain ⟨read, limit, incrementEq, capEq⟩ := Window.mk.inj fresh
  have few : lastRenewal increment ≤ increment + 1 := Nat.sub_le _ _
  generalize number : lastRenewal increment = n at *
  have fits : c.Fits (n + 0) := by
    constructor
    · rw [limit]
      omega
    · rw [read, incrementEq, capEq]
      omega
  obtain ⟨-, fits'⟩ := c.advances_addBytesRead busy n 0 fits
  have consumed : (c.addBytesRead busy n).bytesRead = n := by
    simp only [addBytesRead, read]
    exact (addUint64_of_lt (by omega)).trans (zero_add _)
  have recent : (c.addBytesRead busy n).lastWindowUpdateTime = some busy.now := if_pos read
  have window : (c.addBytesRead busy n).window =
      { CreditWindow.start increment cap with consumed := n } := by
    simp only [window, consumed, CreditWindow.start, Window.mk.injEq, true_and]
    exact ⟨limit, incrementEq, capEq⟩
  have isDue : (c.addBytesRead busy n).windowUpdateDue = true := by
    rw [windowUpdateDue_iff fits', window]
    exact due
  have doubled : addUint64 increment increment = increment + increment :=
    addUint64_of_lt (by omega)
  calc
    ((c.addBytesRead busy n).maybeUpdateWindow busy).1.receiveWindow
      = addUint64 n (min (increment + increment) cap) := by
        simp only [maybeUpdateWindow, if_pos isDue, maybeAdjustWindowIncrement_busy recent,
          consumed]
        rw [← doubled]
        exact congrArg₂ (fun i m => addUint64 n (min (addUint64 i i) m)) incrementEq capEq
    _ ≤ n + min (increment + increment) cap := Nat.mod_le _ _
    _ < increment := shrinks
    _ = c.receiveWindow := limit.symm

/-- Open a stream that counts for the connection or not, and read from it. -/
def readingRun (streamID : Nat) (contributes : Bool) (n : Nat) : List FlowOp :=
  [.newStream streamID contributes, .addBytesRead streamID n busy]

theorem readingRun_newStream (contributes : Bool) :
    (newFlowControlManager params).newStream streamID contributes =
      (newFlowControlManager params).setFlowController streamID
        (newFlowController streamID contributes params) :=
  rfl

theorem readingRun_stream (stream : id ≠ 0) (n : Nat) :
    (run params (readingRun id false n)).manager.controller id =
      some ((newFlowController id false params).addBytesRead busy n) := by
  have contributes : (newFlowController id false params).contributesToConnection = false := by
    unfold newFlowController
    split <;> rfl
  have opened := getFlowController_setFlowController_self (newFlowControlManager params) id
    (newFlowController id false params)
  rw [controller, if_neg stream]
  simp only [Watched.run, readingRun, List.foldl, Watched.step, Watched.start, step,
    readingRun_newStream, FlowControlManager.addBytesRead, onBothLevels, opened, contributes]
  exact getFlowController_setFlowController_self _ _ _

theorem readingRun_connection (n : Nat) :
    (run params (readingRun 1 true n)).manager.controller 0 =
      some ((newFlowController 0 false params).addBytesRead busy n) :=
  rfl

theorem controller_onController {f : FlowControlManager} (call : FlowController → FlowController)
    (found : f.controller id = some c) :
    (f.onController id call).controller id = some (call c) := by
  unfold controller at found ⊢
  by_cases zero : id = 0
  · rw [if_pos zero] at found ⊢
    rw [onController, if_pos zero, Option.some.inj found]
  · rw [if_neg zero] at found ⊢
    rw [onController, if_neg zero, found]
    exact getFlowController_setFlowController_self f id (call c)

/-- Any controller can be the one that is read from. -/
theorem exists_readingRun (params : ConnectionParametersManager) (id n : Nat) :
    ∃ ops, readTotal ops = n ∧ (run params ops).manager.controller id =
      some ((newFlowController id false params).addBytesRead busy n) := by
  by_cases zero : id = 0
  · obtain rfl := zero
    exact ⟨readingRun 1 true n, zero_add n, readingRun_connection n⟩
  · exact ⟨readingRun id false n, zero_add n, readingRun_stream zero n⟩

theorem within_of_windowSafe (id : Nat) (small : params.initialWindow id < 2 ^ 62)
    (safe : WindowSafe params id) : params.initialWindow id / 2 ≤ params.maximumWindow id + 1 := by
  by_contra above
  have fresh := newFlowController_window id false params
  have shrinks := FlowController.shrinks fresh small above
  have few : lastRenewal (params.initialWindow id) ≤ params.initialWindow id + 1 :=
    Nat.sub_le _ _
  obtain ⟨ops, total, before⟩ :=
    exists_readingRun params id (lastRenewal (params.initialWindow id))
  have room : readTotal (ops ++ [.maybeUpdateWindow id busy]) +
      2 * max (params.initialWindow id) (params.maximumWindow id) < 2 ^ 64 := by
    rw [readTotal_concat, total]
    simp only [FlowOp.reads]
    omega
  have after : (run params (ops ++ [.maybeUpdateWindow id busy])).manager.controller id =
      some (((newFlowController id false params).addBytesRead busy
        (lastRenewal (params.initialWindow id))).maybeUpdateWindow busy).1 := by
    rw [run_concat]
    exact controller_onController (fun c => (c.maybeUpdateWindow busy).1) before
  have grows := (safe ops (.maybeUpdateWindow id busy) room _ after).1 _ before
  exact absurd shrinks (not_lt.mpr grows)

end Shrink

/-! ## The condition on the parameters -/

/-- The windows of all streams and of the connection are safe exactly when the initial
windows are at most twice as large as the maximum windows, up to rounding. -/
theorem receiveWindows_safe_iff (params : ConnectionParametersManager)
    (smallStream : params.receiveStreamFlowControlWindow < 2 ^ 62)
    (smallConnection : params.receiveConnectionFlowControlWindow < 2 ^ 62) :
    (∀ id, WindowSafe params id) ↔
      params.receiveStreamFlowControlWindow / 2 ≤ params.maxReceiveStreamFlowControlWindow + 1 ∧
        params.receiveConnectionFlowControlWindow / 2 ≤
          params.maxReceiveConnectionFlowControlWindow + 1 := by
  constructor
  · intro safe
    exact ⟨within_of_windowSafe 1 smallStream (safe 1),
      within_of_windowSafe 0 smallConnection (safe 0)⟩
  · rintro ⟨stream, connection⟩ id
    refine windowSafe_of_within ?_
    unfold ConnectionParametersManager.initialWindow ConnectionParametersManager.maximumWindow
    split
    · exact connection
    · exact stream

/-- A client that asks for a connection window of 64 MiB. -/
theorem receiveWindows_safe_largeConnection :
    (clientParameters 0 (2 ^ 26)).maxReceiveConnectionFlowControlWindow = 67108864 ∧
      ∀ id, WindowSafe (clientParameters 0 (2 ^ 26)) id :=
  ⟨by decide,
    (receiveWindows_safe_iff (clientParameters 0 (2 ^ 26)) (by decide) (by decide)).mpr (by decide)⟩

/-- 6,000,000 bytes are read from stream 5, all at the same time as the update. -/
def defaultRun : List FlowOp := [.newStream 5 true, .addBytesRead 5 6000000 busy]

/-- With the default parameters of a server the window of stream 5 goes back from offset
10,240,000 to offset 7,048,576. A peer that sends up to the first of the two, as it was
allowed to, then violates flow control. -/
theorem receiveWindow_shrinks_serverDefaults :
    ¬ WindowSafe (serverParameters 0 0) 5 ∧
      (run (serverParameters 0 0) defaultRun).manager.getReceiveWindow 5 =
        some 10240000 ∧
      (((run (serverParameters 0 0)
        (defaultRun ++ [.getWindowUpdates false [5] busy])).manager.updateHighestReceived 5
          10240000).2 = some (.streamReceivedTooMuchData 10240000 5 7048576)) := by
  refine ⟨fun safe => ?_, by decide, by decide⟩
  have grows := (safe defaultRun (.getWindowUpdates false [5] busy) (by decide) _ rfl).1 _ rfl
  exact absurd grows (by decide)

end MPQuic
