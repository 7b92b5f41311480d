import MPQuic.AckHandler.Conservation
import Mathlib.Algebra.Order.Ring.Int

/-!
# The loss detection alarm

As long as a packet is tracked, the alarm should be set: it is what finds the packet lost if no ACK
comes. `OnAlarm` cancels it if no tracked packet `IsRetransmittable`. Which packets are tracked is
decided by another list of frame types, and the two disagree on CLOSE_PATH and CONNECTION_CLOSE
frames. A packet that has nothing else is tracked, and the first alarm leaves it without a timer
(`lossAlarm_cancelled`). Without such packets the alarm is always set (`lossAlarm_armed`).

The timeouts double with every timeout in a row. They are shifted before they are cut to the
maximum, so they stay in their range only until the shift overflows (`rtoBackoff_bounded_iff`).
-/

namespace MPQuic

open KeyedList List Tracked

/-- A packet that is tracked has a frame that `OnAlarm` takes for a reason to keep the alarm. -/
def AckOp.Recoverable : AckOp → Prop
  | .sentPacket packet =>
      let frames := stripNonRetransmittableFrames packet.frames
      frames = [] ∨ { packet with frames }.isRetransmittable = true
  | _ => True

instance AckOp.decidableRecoverable : ∀ op : AckOp, Decidable op.Recoverable
  | .sentPacket _ => inferInstanceAs (Decidable (_ ∨ _))
  | .receivedAck .. | .receivedClosePath .. | .setInflightAsLost | .onAlarm
  | .dequeuePacketForRetransmission | .duplicatePacket _ | .getStopWaitingFrame _ => .isTrue trivial

namespace SentPacketHandler

variable {h h' : SentPacketHandler} {ackable : Packet → Prop}

/-- If a packet is tracked, the alarm is set. -/
def Armed (h : SentPacketHandler) : Prop := h.packetHistory ≠ [] → h.alarm ≠ none

theorem armed_updateLossDetectionAlarm (h : SentPacketHandler) (env : AckEnv) :
    (h.updateLossDetectionAlarm env).Armed := by
  unfold updateLossDetectionAlarm
  split
  · rename_i empty
    exact fun tracked => absurd (length_eq_zero_iff.mp empty) tracked
  · split
    · exact fun _ => Option.some_ne_none _
    · split <;> exact fun _ => Option.some_ne_none _

/-- The alarm is set if a packet is tracked, and it knows every tracked packet. -/
structure Guarded (h : SentPacketHandler) : Prop where
  armed : h.Armed
  known : ∀ p ∈ h.packetHistory, p.isRetransmittable = true

/-- Some packets are gone, and the alarm is as before or was set anew. -/
theorem Guarded.of_subset (guarded : h.Guarded) (fewer : h'.packetHistory ⊆ h.packetHistory)
    (alarm : h'.alarm = h.alarm ∨ h'.Armed) : h'.Guarded := by
  refine ⟨?_, fun p mem => guarded.known p (fewer mem)⟩
  rcases alarm with same | armed
  · intro tracked
    rw [same]
    exact guarded.armed fun empty => tracked (subset_nil.mp (empty ▸ fewer))
  · exact armed

theorem Change.subset (change : Change ackable h h') : h'.packetHistory ⊆ h.packetHistory := by
  cases change with
  | ack p => exact fun _ => mem_of_mem_remove
  | queue p => exact fun _ => mem_of_mem_remove
  | bookkeep _ same => exact same.history ▸ List.Subset.refl _
  | _ => exact List.Subset.refl _

theorem Changes.subset (changes : Changes ackable h h') : h'.packetHistory ⊆ h.packetHistory :=
  changes.keeps (P := fun reached => reached.packetHistory ⊆ h.packetHistory)
    (fun _ _ change kept => List.Subset.trans change.subset kept) (List.Subset.refl _)

theorem alarm_foldl_losePacket (lost : List Packet) (h : SentPacketHandler) :
    (lost.foldl losePacket h).alarm = h.alarm :=
  List.foldlRecOn (motive := fun reached : SentPacketHandler => reached.alarm = h.alarm) lost _ rfl
    fun _ same _ _ => same

theorem alarm_foldl_ackPacket (acked : List Packet) (h : SentPacketHandler) :
    (acked.foldl ackPacket h).alarm = h.alarm :=
  List.foldlRecOn (motive := fun reached : SentPacketHandler => reached.alarm = h.alarm) acked _ rfl
    fun _ same _ _ => same

/-! ## The calls -/

theorem alarm_receivedClosePath (h : SentPacketHandler) (f : ClosePathFrame)
    (withPacketNumber : Nat) : (h.receivedClosePath f withPacketNumber).1.alarm = h.alarm := by
  unfold receivedClosePath
  split
  · rfl
  split
  · rfl
  simp only
  split
  · rfl
  split
  · rfl
  · exact (alarm_foldl_losePacket _ _).trans (alarm_foldl_ackPacket _ _)

theorem alarm_updateRTT (h : SentPacketHandler) (ackFrame : AckFrame) (rcvTime : Int) :
    (h.updateRTT ackFrame rcvTime).alarm = h.alarm := by
  have found : (h.maybeUpdateRTT ackFrame.largestAcked ackFrame.delayTime rcvTime).1.alarm =
      h.alarm := by
    unfold maybeUpdateRTT
    split <;> rfl
  simp only [updateRTT]
  split <;> exact found

/-- An ACK that is refused or repeated leaves the alarm alone, another one sets it anew. -/
theorem alarm_receivedAck (h : SentPacketHandler) (env : AckEnv) (ackFrame : AckFrame)
    (withPacketNumber : Nat) (rcvTime : Int) :
    (h.receivedAck env ackFrame withPacketNumber rcvTime).1.alarm = h.alarm ∨
      (h.receivedAck env ackFrame withPacketNumber rcvTime).1.Armed := by
  unfold receivedAck
  split
  · exact Or.inl rfl
  split
  · exact Or.inl rfl
  simp only
  split
  · exact Or.inl rfl
  split
  · exact Or.inl rfl
  split
  · exact Or.inl (alarm_updateRTT _ ackFrame rcvTime)
  · exact Or.inr (armed_updateLossDetectionAlarm _ env)

theorem Guarded.onAlarm (guarded : h.Guarded) (env : AckEnv) : (h.onAlarm env).Armed := by
  unfold SentPacketHandler.onAlarm
  split
  · rename_i idle
    intro tracked
    obtain ⟨p, mem⟩ := exists_mem_of_ne_nil _ tracked
    have found : h.hasOutstandingRetransmittablePacket = true :=
      any_eq_true.mpr ⟨p, mem, guarded.known p mem⟩
    rw [found] at idle
    cases idle
  · exact armed_updateLossDetectionAlarm _ env

/-- A packet that the alarm takes from the history is queued for retransmission. -/
theorem onAlarm_moves (inc : Increasing Packet.packetNumber h.packetHistory) (env : AckEnv) :
    ∀ p ∈ h.packetHistory, p ∈ (h.onAlarm env).packetHistory ∨
      p ∈ (h.onAlarm env).retransmissionQueue := by
  intro p mem
  refine ((changes_onAlarm (fun _ => False) inc env).keeps
    (P := fun reached => Increasing Packet.packetNumber reached.packetHistory ∧
      (p ∈ reached.packetHistory ∨ p ∈ reached.retransmissionQueue)) ?_ ⟨inc, Or.inl mem⟩).2
  rintro reached next change ⟨inc, place⟩
  refine ⟨change.increasing inc, ?_⟩
  cases change with
  | ack _ _ allowed => exact allowed.elim
  | queue q inHistory =>
      rcases place with tracked | queued
      · by_cases same : p.packetNumber = q.packetNumber
        · obtain rfl := inc.eq_of_key_eq tracked inHistory same
          exact Or.inr (mem_append_right _ (mem_singleton_self p))
        · exact Or.inl (mem_remove_of_ne tracked same)
      · exact Or.inr (mem_append_left _ queued)
  | bookkeep _ same =>
      rw [same.history, same.queue]
      exact place
  | _ => exact place

/-- A packet that is tracked from now on is one that the alarm knows. -/
theorem Guarded.sentPacket (guarded : h.Guarded) (env : AckEnv) {packet : Packet}
    (recoverable : (AckOp.sentPacket packet).Recoverable) :
    (h.sentPacket env packet).1.Guarded := by
  rcases sentPacket_cases h env packet with ⟨_, refused⟩ | ⟨-, -, recorded⟩
  · rw [refused]
    exact guarded
  rw [recorded]
  refine ⟨armed_updateLossDetectionAlarm _ env, ?_⟩
  rw [(bookkeeping_updateLossDetectionAlarm _ env).history]
  simp only [recordSent]
  split
  · rename_i nonempty
    refine forall_mem_append.mpr ⟨guarded.known, forall_mem_singleton.mpr ?_⟩
    exact recoverable.resolve_left fun empty => nonempty (length_eq_zero_iff.mpr empty)
  · exact guarded.known

theorem Guarded.call (guarded : h.Guarded) (inc : Increasing Packet.packetNumber h.packetHistory)
    (env : AckEnv) {op : AckOp} (recoverable : op.Recoverable) : (h.call env op).Guarded := by
  cases op with
  | sentPacket packet => exact guarded.sentPacket env recoverable
  | receivedAck ackFrame withPacketNumber rcvTime =>
      exact guarded.of_subset (changes_receivedAck inc env ackFrame _ rcvTime).subset
        (h.alarm_receivedAck env ackFrame withPacketNumber rcvTime)
  | receivedClosePath f withPacketNumber =>
      exact guarded.of_subset (changes_receivedClosePath inc f withPacketNumber).subset
        (Or.inl (h.alarm_receivedClosePath f withPacketNumber))
  | setInflightAsLost =>
      exact guarded.of_subset (changes_setInflightAsLost (fun _ => False) inc).subset
        (Or.inl (alarm_foldl_losePacket _ _))
  | onAlarm =>
      exact guarded.of_subset (changes_onAlarm (fun _ => False) inc env).subset
        (Or.inr (guarded.onAlarm env))
  | dequeuePacketForRetransmission =>
      simp only [SentPacketHandler.call, dequeuePacketForRetransmission]
      split <;> exact ⟨guarded.armed, guarded.known⟩
  | _ => exact ⟨guarded.armed, guarded.known⟩

end SentPacketHandler

/-! ## Runs -/

theorem Tracked.handler_step (t : Tracked) (op : AckOp × AckEnv) :
    (t.step op).handler = t.handler.call op.2 op.1 := by
  unfold step
  split <;> rfl

theorem Tracked.guarded_run {ops : List (AckOp × AckEnv)}
    (recoverable : ∀ op ∈ ops, op.1.Recoverable) : (run ops).handler.Guarded := by
  have initial : Tracked.Consistent {} ∧ (handler {}).Guarded :=
    ⟨consistent_run [], fun tracked => absurd rfl tracked,
      forall_mem_nil _⟩
  refine (List.foldlRecOn (motive := fun t => t.Consistent ∧ t.handler.Guarded) ops step
    initial fun t ⟨consistent, guarded⟩ op mem => ⟨consistent.step op, ?_⟩).2
  rw [handler_step]
  exact guarded.call consistent.balanced.increasing op.2 (recoverable op mem)

/-- Loss recovery is armed. In every run whose tracked packets all have a frame that the alarm
knows, the alarm is set whenever a packet is tracked, and an alarm that goes off then queues a
tracked packet for retransmission or sets the alarm again. -/
theorem lossAlarm_armed (ops : List (AckOp × AckEnv))
    (recoverable : ∀ op ∈ ops, op.1.Recoverable) :
    let h := (run ops).handler
    h.packetHistory ≠ [] → h.alarm ≠ none ∧ ∀ env,
      (∃ p ∈ h.packetHistory, p ∉ (h.onAlarm env).packetHistory ∧
        p ∈ (h.onAlarm env).retransmissionQueue) ∨ (h.onAlarm env).alarm ≠ none := by
  intro h tracked
  have guarded := guarded_run recoverable
  refine ⟨guarded.armed tracked, fun env => ?_⟩
  by_cases empty : (h.onAlarm env).packetHistory = []
  · obtain ⟨p, mem⟩ := exists_mem_of_ne_nil _ tracked
    have gone : p ∉ (h.onAlarm env).packetHistory := by
      rw [empty]
      exact not_mem_nil
    have inc := (consistent_run ops).balanced.increasing
    have moved := SentPacketHandler.onAlarm_moves inc env p mem
    exact Or.inl ⟨p, mem, gone, moved.resolve_left gone⟩
  · exact Or.inr (guarded.onAlarm env empty)

/-- One packet is sent at time 1. -/
def sendOne (frames : List Frame) : List (AckOp × AckEnv) :=
  [(.sentPacket { packetNumber := 1, frames, length := 30 }, .at 1)]

/-- Two packets are left after an ACK. The alarm is set, and queues both of them. -/
theorem lossAlarm_armed_twoLost :
    let h := (run lastOfThreeAcked).handler
    h.packetHistory.map Packet.packetNumber = [1, 2] ∧ h.alarm = some 1 ∧
      (h.onAlarm (.at 2)).retransmissionQueue.map Packet.packetNumber = [1, 2] ∧
      (h.alarm ≠ none ∧ ((∃ p ∈ h.packetHistory, p ∉ (h.onAlarm (.at 2)).packetHistory ∧
        p ∈ (h.onAlarm (.at 2)).retransmissionQueue) ∨ (h.onAlarm (.at 2)).alarm ≠ none)) := by
  intro h
  obtain ⟨armed, goesOff⟩ := lossAlarm_armed lastOfThreeAcked (by decide) (by decide)
  exact ⟨by decide, by decide, by decide, armed, goesOff (.at 2)⟩

/-- A packet with a CLOSE_PATH frame is tracked. The alarm goes off, does not queue it, and is not
set again. -/
theorem lossAlarm_cancelled :
    let h := (run (sendOne [.closePath
      { pathID := 1, largestAcked := 1, lowestAcked := 1, ackRanges := [] }])).handler
    h.packetHistory ≠ [] ∧ h.alarm ≠ none ∧ (h.onAlarm (.at 2)).packetHistory = h.packetHistory ∧
      (h.onAlarm (.at 2)).retransmissionQueue = [] ∧ (h.onAlarm (.at 2)).alarm = none := by
  decide

/-! ## The timeouts -/

/-- The first timeout, before it is doubled. -/
def AckEnv.firstRTO (env : AckEnv) : Int :=
  max (if env.retransmissionDelay = 0 then defaultRTOTimeout else env.retransmissionDelay)
    minRTOTimeout

variable (h : SentPacketHandler)

/-- The timeout after so many timeouts in a row. -/
def SentPacketHandler.rtoAfter (env : AckEnv) (count : Nat) : Int :=
  { h with rtoCount := count }.computeRTOTimeout env

theorem rtoAfter_eq (env : AckEnv) (count : Nat) :
    h.rtoAfter env count = min (wrapInt64 (env.firstRTO * 2 ^ count)) maxRTOTimeout := rfl

theorem minRTOTimeout_le_firstRTO (env : AckEnv) : minRTOTimeout ≤ env.firstRTO := le_max_right _ _

/-- The first shift past the range makes the timeout negative. -/
theorem firstRTO_lt_of_nonneg {env : AckEnv} (first : env.firstRTO < 2 ^ 63) {count : Nat}
    (nonneg : ∀ n ≤ count, 0 ≤ wrapInt64 (env.firstRTO * 2 ^ n)) :
    env.firstRTO * 2 ^ count < 2 ^ 63 := by
  induction count with
  | zero => simpa using first
  | succ count ih =>
      have before := ih fun n le => nonneg n (Nat.le_succ_of_le le)
      have now := nonneg (count + 1) le_rfl
      rw [pow_succ, ← mul_assoc] at now ⊢
      unfold wrapInt64 at now
      omega

/-- The backoff is bounded until it overflows. All timeouts of so many in a row lie between the
minimum and the maximum and do not decrease exactly if the last shift stays below `2 ^ 63`. -/
theorem rtoBackoff_bounded_iff (env : AckEnv)
    (duration : env.retransmissionDelay < 2 ^ 63) (count : Nat) :
    ((∀ n ≤ count, minRTOTimeout ≤ h.rtoAfter env n ∧ h.rtoAfter env n ≤ maxRTOTimeout) ∧
        ∀ m n, m ≤ n → n ≤ count → h.rtoAfter env m ≤ h.rtoAfter env n) ↔
      env.firstRTO * 2 ^ count < 2 ^ 63 := by
  have least := minRTOTimeout_le_firstRTO env
  have positive : 0 < minRTOTimeout := by decide
  constructor
  · rintro ⟨bounded, -⟩
    refine firstRTO_lt_of_nonneg ?_ fun n le => ?_
    · unfold AckEnv.firstRTO defaultRTOTimeout minRTOTimeout millisecond
      split <;> omega
    · have low := (bounded n le).1
      rw [rtoAfter_eq] at low
      exact (positive.le.trans low).trans (min_le_left _ _)
  · intro small
    have grows {m n : Nat} (le : m ≤ n) : env.firstRTO * 2 ^ m ≤ env.firstRTO * 2 ^ n :=
      mul_le_mul_of_nonneg_left (pow_le_pow_right₀ one_le_two le) (positive.le.trans least)
    have exactly {n : Nat} (le : n ≤ count) :
        h.rtoAfter env n = min (env.firstRTO * 2 ^ n) maxRTOTimeout := by
      rw [rtoAfter_eq, wrapInt64_of_lt]
      · exact mul_nonneg (positive.le.trans least) (pow_nonneg zero_le_two n)
      · exact (grows le).trans_lt small
    refine ⟨fun n le => ?_, fun m n before le => ?_⟩
    · rw [exactly le]
      refine ⟨le_min (least.trans ?_) (by decide), min_le_right _ _⟩
      simpa using grows (Nat.zero_le n)
    · rw [exactly le, exactly (before.trans le)]
      exact min_le_min_right _ (grows before)

theorem rtoBackoff_bounded_thirty :
    (AckEnv.at 1).firstRTO * 2 ^ 30 < 2 ^ 63 ∧
      minRTOTimeout ≤ SentPacketHandler.rtoAfter {} (.at 1) 30 :=
  have small : (AckEnv.at 1).firstRTO * 2 ^ 30 < 2 ^ 63 := by decide
  ⟨small, (((rtoBackoff_bounded_iff {} (.at 1) (by decide) 30).mpr small).1 30 le_rfl).1⟩

/-- A packet and an alarm. -/
def sendAndTimeOut (n : Nat) : List (AckOp × AckEnv) :=
  [(.sentPacket { packetNumber := n + 1, frames := [.ping], length := 30 }, .at (n + 1)),
    (.onAlarm, .at (n + 1))]

/-- Two tail loss probes and 35 timeouts without an ACK: the timeout is negative. -/
theorem rtoBackoff_overflows :
    let h := (run ((List.range 37).flatMap sendAndTimeOut)).handler
    h.rtoCount = 35 ∧ h.computeRTOTimeout (.at 38) < 0 := by
  decide +kernel

end MPQuic
