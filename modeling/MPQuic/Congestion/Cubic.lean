import MPQuic.Protocol
import MPQuic.Lib.Runs
import Mathlib.Algebra.Order.Ring.Int

/-!
# Cubic

`congestion/cubic.go`. Times are nanoseconds on the clock, with `none` for the zero time, and far
apart from the 285 years at which durations overflow. What the source computes in floating point is
in `CubicFloats`.

The window follows a cubic curve of the time since the epoch started. While the application has
nothing to send the epoch should not go on, so the next ACK moves the epoch by the time since
`appLimitedStartTime`. That time is only cleared by an ACK that finds an epoch. If the sender was
limited before the epoch started, the epoch is moved by more than its age, into the future
(`epoch_inFuture`). The epoch stays in the past exactly if it is only moved by limited periods that
began in it (`epoch_past_iff`).
-/

namespace MPQuic

/-- The floating-point arithmetic, for the default number of emulated connections. -/
structure CubicFloats where
  /-- `betaLastMax * cwnd` -/
  reduceLastMax : Nat → Nat
  /-- `cwnd * beta()` -/
  backoff : Nat → Nat
  /-- `math.Cbrt` -/
  cubeRoot : Nat → Nat
  /-- `estimatedTCPcongestionWindow / alpha()` -/
  requiredAckCount : Nat → Nat
  /-- for two connections `alpha()` is below one; for three it is not -/
  required_pos : ∀ cwnd, 0 < cwnd → 0 < requiredAckCount cwnd

def cubeScale : Nat := 40

def cubeCongestionWindowScale : Nat := 410

def cubeFactor : Nat := 2 ^ cubeScale / cubeCongestionWindowScale

/-- 30 ms -/
def maxCubicTimeInterval : Int := 30000000

/-- The state of the algorithm. -/
structure Cubic where
  epoch : Option Int := none
  appLimitedStartTime : Option Int := none
  lastUpdateTime : Option Int := none
  lastCongestionWindow : Nat := 0
  lastMaxCongestionWindow : Nat := 0
  ackedPacketsCount : Nat := 0
  estimatedTCPcongestionWindow : Nat := 0
  originPointCongestionWindow : Nat := 0
  timeToOriginPoint : Nat := 0
  lastTargetCongestionWindow : Nat := 0

namespace Cubic

/-- `Reset`. -/
def reset (_ : Cubic) : Cubic := {}

variable (c : Cubic)

/-- `OnApplicationLimited`: the sender has nothing to send. -/
def onApplicationLimited (now : Int) : Cubic :=
  { c with appLimitedStartTime := some (c.appLimitedStartTime.getD now) }

variable (floats : CubicFloats)

/-- `CongestionWindowAfterPacketLoss`: the epoch ends. -/
def congestionWindowAfterPacketLoss (currentCongestionWindow : Nat) : Cubic × Nat :=
  let lastMaxCongestionWindow :=
    if currentCongestionWindow < c.lastMaxCongestionWindow then
      floats.reduceLastMax currentCongestionWindow
    else currentCongestionWindow
  ({ c with lastMaxCongestionWindow, epoch := none }, floats.backoff currentCongestionWindow)

/-- The window is the one of the last update, which is not long ago. -/
def upToDate (currentTime : Int) (currentCongestionWindow : Nat) : Prop :=
  c.lastCongestionWindow = currentCongestionWindow ∧
    ∃ last ∈ c.lastUpdateTime, currentTime - last ≤ maxCubicTimeInterval

instance decidableUpToDate (c : Cubic) (currentTime : Int) (currentCongestionWindow : Nat) :
    Decidable (c.upToDate currentTime currentCongestionWindow) :=
  inferInstanceAs (Decidable (_ ∧ _))

/-- The first ACK after a loss event. -/
def startEpoch (currentTime : Int) (currentCongestionWindow : Nat) : Cubic :=
  let c := { c with
    epoch := some currentTime
    ackedPacketsCount := 1
    estimatedTCPcongestionWindow := currentCongestionWindow }
  if c.lastMaxCongestionWindow ≤ currentCongestionWindow then
    { c with timeToOriginPoint := 0, originPointCongestionWindow := currentCongestionWindow }
  else
    let missing := c.lastMaxCongestionWindow - currentCongestionWindow
    { c with
      timeToOriginPoint := floats.cubeRoot (cubeFactor * missing) % 2 ^ 32
      originPointCongestionWindow := c.lastMaxCongestionWindow }

/-- The epoch is moved by the time that the sender was limited by the application. -/
def shiftEpoch (currentTime epoch : Int) : Cubic :=
  match c.appLimitedStartTime with
  | none => c
  | some start =>
    { c with epoch := some (epoch + (currentTime - start)), appLimitedStartTime := none }

/-- `currentTime.Add(delayMin).Sub(c.epoch)` -/
def sinceEpoch (currentTime delayMin epoch : Int) : Int := currentTime + delayMin - epoch

/-- In units of `2 ^ -10` seconds. -/
def elapsedTime (currentTime delayMin epoch : Int) : Int :=
  ((sinceEpoch currentTime delayMin epoch).tdiv 1000 * 2 ^ 10).tdiv 1000000

/-- The point on the curve at the given time. -/
def cubicTarget (elapsedTime : Int) : Nat :=
  let offset := (c.timeToOriginPoint - elapsedTime).natAbs
  let cube := wrapInt64 (cubeCongestionWindowScale * offset * offset * offset)
  let deltaCongestionWindow := (cube / 2 ^ cubeScale % 2 ^ 64).toNat
  if elapsedTime > c.timeToOriginPoint then
    addUint64 c.originPointCongestionWindow deltaCongestionWindow
  else subUint64 c.originPointCongestionWindow deltaCongestionWindow

/-- The loop that counts acked packets into the TCP window: what is left of the count, and the
window. -/
def updateTCPWindow (floats : CubicFloats) (acked window : Nat) : Nat × Nat :=
  if acked < floats.requiredAckCount window then (acked, window)
  else updateTCPWindow floats (acked - floats.requiredAckCount window) (window + 1)
  termination_by acked + (if window = 0 then 1 else 0)
  decreasing_by
    have positive := floats.required_pos window
    rw [if_neg not_false]
    split <;> omega

/-- The rest of `CongestionWindowAfterAck`, once the epoch is set. -/
def followCurve (currentTime delayMin : Int) : Cubic × Nat :=
  let target := c.cubicTarget (elapsedTime currentTime delayMin (c.epoch.getD currentTime))
  let tcp := updateTCPWindow floats c.ackedPacketsCount c.estimatedTCPcongestionWindow
  ({ c with
    ackedPacketsCount := tcp.1
    estimatedTCPcongestionWindow := tcp.2
    lastTargetCongestionWindow := target }, max target tcp.2)

/-- `CongestionWindowAfterAck`: the window follows the curve. -/
def congestionWindowAfterAck (currentTime : Int)
    (currentCongestionWindow : Nat) (delayMin : Int) : Cubic × Nat :=
  let c := { c with ackedPacketsCount := c.ackedPacketsCount + 1 }
  if c.upToDate currentTime currentCongestionWindow then
    (c, max c.lastTargetCongestionWindow c.estimatedTCPcongestionWindow)
  else
    let c := { c with
      lastCongestionWindow := currentCongestionWindow
      lastUpdateTime := some currentTime }
    match c.epoch with
    | none =>
      (c.startEpoch floats currentTime currentCongestionWindow).followCurve floats currentTime
        delayMin
    | some epoch => (c.shiftEpoch currentTime epoch).followCurve floats currentTime delayMin

end Cubic

/-! ## Runs -/

/-- The calls of the sender. -/
inductive CubicOp where
  | congestionWindowAfterAck (currentCongestionWindow : Nat) (delayMin : Int)
  | congestionWindowAfterPacketLoss (currentCongestionWindow : Nat)
  | onApplicationLimited
  | reset

/-- A `Cubic` and its clock. -/
structure ClockedCubic where
  cubic : Cubic := {}
  clock : Int

namespace ClockedCubic

/-- The state after a call. -/
def call (c : Cubic) (floats : CubicFloats) (now : Int) : CubicOp → Cubic
  | .congestionWindowAfterAck current delayMin =>
    (c.congestionWindowAfterAck floats now current delayMin).1
  | .congestionWindowAfterPacketLoss current => (c.congestionWindowAfterPacketLoss floats current).1
  | .onApplicationLimited => c.onApplicationLimited now
  | .reset => c.reset

/-- Some time passes, then a call is made. -/
def step (floats : CubicFloats) (c : ClockedCubic) (op : Nat × CubicOp) : ClockedCubic where
  cubic := call c.cubic floats (c.clock + op.1) op.2
  clock := c.clock + op.1

/-- The epoch is not in the future, and the time for the cubic curve is not negative. -/
def EpochPast (c : ClockedCubic) : Prop :=
  ∀ epoch ∈ c.cubic.epoch, epoch ≤ c.clock ∧ ∀ delayMin, 0 ≤ delayMin →
    delayMin ≤ Cubic.sinceEpoch c.clock delayMin epoch ∧
      0 ≤ Cubic.elapsedTime c.clock delayMin epoch

/-- If an ACK moves the epoch, the application limited the sender after the epoch started. -/
def LimitedInEpoch (c : ClockedCubic) : Nat × CubicOp → Prop
  | (passed, .congestionWindowAfterAck current _) =>
    c.cubic.upToDate (c.clock + passed) current ∨
      ∀ epoch ∈ c.cubic.epoch, ∀ start ∈ c.cubic.appLimitedStartTime, epoch ≤ start
  | _ => True

variable {c : ClockedCubic}

theorem epochPast_iff : c.EpochPast ↔ ∀ epoch ∈ c.cubic.epoch, epoch ≤ c.clock := by
  refine forall₂_congr fun epoch _ => and_iff_left_of_imp fun past delayMin nonneg => ?_
  have since : delayMin ≤ Cubic.sinceEpoch c.clock delayMin epoch := by
    unfold Cubic.sinceEpoch
    omega
  refine ⟨since, Int.tdiv_nonneg (mul_nonneg (Int.tdiv_nonneg ?_ ?_) ?_) ?_⟩
  · exact nonneg.trans since
  all_goals decide

/-- An ACK leaves the epoch, starts it or moves it. -/
theorem epoch_congestionWindowAfterAck (c : Cubic) (floats : CubicFloats) (now : Int)
    (current : Nat) (delayMin : Int) :
    (c.congestionWindowAfterAck floats now current delayMin).1.epoch =
      if c.upToDate now current then c.epoch
      else some (c.epoch.elim now fun epoch =>
        epoch + c.appLimitedStartTime.elim 0 (now - ·)) := by
  unfold Cubic.congestionWindowAfterAck
  have same : { c with ackedPacketsCount := c.ackedPacketsCount + 1 }.upToDate now current ↔
    c.upToDate now current := Iff.rfl
  simp only [same]
  split
  · rfl
  · cases epoch : c.epoch with
    | none =>
      simp only [Cubic.followCurve, Cubic.startEpoch]
      split <;> rfl
    | some epoch =>
      simp only [Cubic.followCurve, Cubic.shiftEpoch]
      cases c.appLimitedStartTime <;> simp

/-- From a state with the epoch in the past, a call keeps it there exactly if it is not moved by a
period that began before it. -/
theorem epochPast_step (floats : CubicFloats) (op : Nat × CubicOp) (past : c.EpochPast) :
    (c.step floats op).EpochPast ↔ c.LimitedInEpoch op := by
  rw [epochPast_iff] at past ⊢
  have later : c.clock ≤ c.clock + op.1 := Int.le_add_of_nonneg_right (Int.natCast_nonneg _)
  have kept : ∀ epoch ∈ c.cubic.epoch, epoch ≤ c.clock + op.1 :=
    fun epoch mem => (past epoch mem).trans later
  obtain ⟨passed, op⟩ := op
  cases op with
  | congestionWindowAfterAck current delayMin =>
    simp only [step, call, epoch_congestionWindowAfterAck, LimitedInEpoch]
    split
    · rename_i upToDate
      exact iff_of_true kept (Or.inl upToDate)
    · rename_i outdated
      rw [or_iff_right outdated]
      cases epoch : c.cubic.epoch with
      | none => simp
      | some epoch =>
        cases c.cubic.appLimitedStartTime with
        | none => simpa using kept _ epoch
        | some start =>
          simp only [Option.mem_some_iff, forall_eq', Option.elim_some]
          omega
  | congestionWindowAfterPacketLoss current =>
    exact iff_of_true (fun epoch mem => absurd mem (Option.not_mem_none epoch)) trivial
  | onApplicationLimited => exact iff_of_true kept trivial
  | reset => exact iff_of_true (fun epoch mem => absurd mem (Option.not_mem_none epoch)) trivial

end ClockedCubic

/-- Cubic's epoch stays in the past exactly if every ACK that moves it does so for a period in which
the application limited the sender and which began in the epoch. The epoch is then never after the
clock, and the time for the cubic curve is at least `delayMin`. -/
theorem epoch_past_iff (floats : CubicFloats) (clock : Int) (ops : List (Nat × CubicOp)) :
    (∀ front, front <+: ops →
      (front.foldl (ClockedCubic.step floats) { clock }).EpochPast) ↔
    Runs.EachStep (ClockedCubic.step floats) ClockedCubic.LimitedInEpoch { clock } ops :=
  Runs.prefixes_iff_eachStep (fun _ => True) _ trivial
    (fun epoch mem => absurd mem (Option.not_mem_none epoch)) (fun _ _ _ => trivial)
    fun _ op _ => ClockedCubic.epochPast_step floats op

/-- Arithmetic for the run below, where the windows do not matter. -/
def CubicFloats.trivial : CubicFloats := ⟨id, id, id, id, fun _ positive => positive⟩

/-- The sender is limited, the first ACK comes 100 ms later and the next after another 100 ms. That
one moves the epoch by 200 ms to 100 ms after the clock. -/
theorem epoch_inFuture :
    let ops : List (Nat × CubicOp) := [(0, .onApplicationLimited),
      (100000000, .congestionWindowAfterAck 10 0), (100000000, .congestionWindowAfterAck 10 0)]
    let c := ops.foldl (ClockedCubic.step .trivial) { clock := 0 }
    c.clock = 200000000 ∧ c.cubic.epoch = some 300000000 ∧ ¬ c.EpochPast := by
  intro ops c
  have epoch : c.cubic.epoch = some 300000000 := by decide
  exact ⟨by decide, epoch, fun past => absurd (past _ epoch).1 (by decide)⟩

end MPQuic
