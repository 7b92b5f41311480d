import MPQuic.AckHandler.ReceiverRuns

/-!
# When an ACK is sent

`maybeQueueAck` queues an ACK or sets the alarm for it. No packet that asks for an ACK is left
without either (`ack_scheduled`). A comment there says that a packet cannot be a duplicate, since
`ReceivedPacket` filters those out. It does not: the history ignores the number, and the handler
counts the packet once more. Only a history that is full refuses duplicates together with all other
packets (`duplicate_ignored_iff`).
-/

namespace MPQuic

open PacketReceiver ReceivedPacketHandler

namespace ReceivedPacketHandler

variable {h : ReceivedPacketHandler} {p : Nat}

/-- The packet enters the history and is looked at by `maybeQueueAck`. -/
def Records (h : ReceivedPacketHandler) (p : Nat) : Prop :=
  h.lowerLimit < p ∧ h.packetHistory.ranges.length < maxTrackedReceivedAckRanges

instance decidableRecords (h : ReceivedPacketHandler) (p : Nat) : Decidable (h.Records p) :=
  inferInstanceAs (Decidable (_ ∧ _))

/-- The handler when `maybeQueueAck` is called. -/
def recorded (h : ReceivedPacketHandler) (now : Int) (p : Nat) : ReceivedPacketHandler :=
  { h.countPacket now p with
    packetHistory := { h.packetHistory with ranges := insertPacket p h.packetHistory.ranges } }

theorem receivedPacket_of_records (records : h.Records p) (now : Int) (shouldInstigateAck : Bool) :
    (h.receivedPacket now p shouldInstigateAck).1 =
      (h.recorded now p).maybeQueueAck now p shouldInstigateAck := by
  have positive : p ≠ 0 := Nat.ne_zero_of_lt records.1
  have room : h.packetHistory.receivedPacket p =
      .ok { h.packetHistory with ranges := insertPacket p h.packetHistory.ranges } :=
    if_neg (not_le.mpr records.2)
  have above : ¬ p ≤ (h.countPacket now p).lowerLimit := by
    rw [countPacket_lowerLimit]
    exact not_le.mpr records.1
  unfold receivedPacket
  rw [if_neg positive]
  simp only
  rw [if_neg above, countPacket_packetHistory, room]
  rfl

theorem receivedPacket_of_not_records (not : ¬ h.Records p) (now : Int)
    (shouldInstigateAck : Bool) :
    (h.receivedPacket now p shouldInstigateAck).1 = h ∨
      (h.receivedPacket now p shouldInstigateAck).1 = h.countPacket now p := by
  simp only [receivedPacket, countPacket_lowerLimit, countPacket_packetHistory]
  split
  · exact Or.inl rfl
  split
  · exact Or.inr rfl
  · rename_i above
    have full : h.packetHistory.receivedPacket p = .error .errTooManyOutstandingReceivedAckRanges :=
      if_pos (not_lt.mp fun room => not ⟨not_le.mp above, room⟩)
    rw [full]
    exact Or.inr rfl

/-! ## Alarms -/

/-- The ACK that is queued or the alarm for it, given the times of the packets that asked for an ACK
since the last one. -/
structure Scheduled (h : ReceivedPacketHandler) (pending : List Int) : Prop where
  counted : h.retransmittablePacketsReceivedSinceLastAck = pending.length
  cancelled : h.ackQueued = true → h.ackAlarm = none
  few : h.ackQueued = false → pending.length < retransmittablePacketsBeforeAck
  alarm : h.ackQueued = false → h.ackAlarm = pending.head?.map (· + h.ackSendDelay)

variable {pending : List Int}

section

variable (scheduled : h.Scheduled pending)

include scheduled

/-- The counter of all packets and the history do not matter. -/
theorem Scheduled.countPacket (now : Int) (p : Nat) : (h.countPacket now p).Scheduled pending := by
  obtain ⟨counted, cancelled, few, alarm⟩ := scheduled
  simp only [ReceivedPacketHandler.countPacket]
  split <;> exact ⟨counted, cancelled, few, alarm⟩

theorem Scheduled.maybeQueueAck (now : Int) (p : Nat) (shouldInstigateAck : Bool) :
    (h.maybeQueueAck now p shouldInstigateAck).Scheduled
      (if shouldInstigateAck then pending ++ [now] else pending) := by
  have counted : (h.maybeQueueAck now p shouldInstigateAck
      ).retransmittablePacketsReceivedSinceLastAck =
      (if shouldInstigateAck then pending ++ [now] else pending).length := by
    cases shouldInstigateAck with
    | false => exact scheduled.counted
    | true => simp [ReceivedPacketHandler.maybeQueueAck, scheduled.counted]
  refine ⟨counted, fun queued => if_pos queued, fun waiting => ?_, fun waiting => ?_⟩
  all_goals
    have waited : h.ackQueued = false := by
      simp only [ReceivedPacketHandler.maybeQueueAck, Bool.or_eq_false_iff] at waiting
      exact waiting.1.1.1
    have alarm := scheduled.alarm waited
  · cases shouldInstigateAck with
    | false => exact scheduled.few waited
    | true =>
      rw [← counted]
      simp only [ReceivedPacketHandler.maybeQueueAck, Bool.or_eq_false_iff] at waiting
      simpa [ReceivedPacketHandler.maybeQueueAck] using waiting.2
  · have kept : (h.maybeQueueAck now p shouldInstigateAck).ackAlarm =
        if shouldInstigateAck && h.ackAlarm.isNone then some (now + h.ackSendDelay)
        else h.ackAlarm := if_neg (Bool.eq_false_iff.mp waiting)
    rw [kept, alarm]
    cases shouldInstigateAck <;> cases pending <;> rfl

theorem Scheduled.receivedPacket (now : Int) (p : Nat) (shouldInstigateAck : Bool) :
    (h.receivedPacket now p shouldInstigateAck).1.Scheduled
      (if shouldInstigateAck ∧ h.Records p then pending ++ [now] else pending) := by
  by_cases records : h.Records p
  · rw [receivedPacket_of_records records]
    have counted := scheduled.countPacket now p
    have recorded : (h.recorded now p).Scheduled pending :=
      ⟨counted.counted, counted.cancelled, counted.few, counted.alarm⟩
    simpa [records] using recorded.maybeQueueAck now p shouldInstigateAck
  · rw [if_neg fun both => records both.2]
    rcases receivedPacket_of_not_records records now shouldInstigateAck with same | counted
    · rwa [same]
    · rw [counted]
      exact scheduled.countPacket now p

theorem Scheduled.getAckFrame {now : Int} {h' : ReceivedPacketHandler} {ack : Option AckFrame}
    (produced : h.getAckFrame now = .ok (h', ack)) :
    h'.Scheduled (if ack.isSome then [] else pending) := by
  unfold ReceivedPacketHandler.getAckFrame at produced
  split at produced
  · cases produced
    exact scheduled
  · split at produced
    · cases produced
    · cases produced
      exact ⟨rfl, fun _ => rfl, fun _ => Nat.two_pos, fun _ => rfl⟩

end

end ReceivedPacketHandler

/-- A receiver, and the times of the packets that ask for an ACK and entered the history since the
last ACK frame. -/
structure WaitingReceiver extends PacketReceiver where
  pending : List Int := []

namespace WaitingReceiver

/-- A call of the handler, and the packets that then wait for an ACK. -/
def step (r : WaitingReceiver) (op : ReceiverOp) : WaitingReceiver where
  toPacketReceiver := r.toPacketReceiver.step op
  pending := match op with
    | .receivedPacket now p shouldInstigateAck =>
      if shouldInstigateAck ∧ r.handler.Records p then r.pending ++ [now] else r.pending
    | .setLowerLimit _ => r.pending
    | .getAckFrame now =>
      match r.handler.getAckFrame now with
      | .ok (_, some _) => []
      | _ => r.pending

/-- A run from a new handler. -/
def run (version : VersionNumber) (ops : List ReceiverOp) : WaitingReceiver :=
  ops.foldl step { toPacketReceiver := .start version }

theorem scheduled_step {r : WaitingReceiver} (scheduled : r.handler.Scheduled r.pending)
    (op : ReceiverOp) : (r.step op).handler.Scheduled (r.step op).pending := by
  cases op with
  | receivedPacket now p shouldInstigateAck =>
    have result := scheduled.receivedPacket now p shouldInstigateAck
    simp only [step, PacketReceiver.step]
    split <;> exact result
  | setLowerLimit p =>
    exact ⟨scheduled.counted, scheduled.cancelled, scheduled.few, scheduled.alarm⟩
  | getAckFrame now =>
    simp only [step, PacketReceiver.step]
    cases produced : r.handler.getAckFrame now with
    | error panic => exact scheduled
    | ok result =>
      have next := scheduled.getAckFrame produced
      rcases result with ⟨handler, _ | ack⟩ <;> exact next

theorem scheduled_run (version : VersionNumber) (ops : List ReceiverOp) :
    (run version ops).handler.Scheduled (run version ops).pending :=
  List.foldlRecOn (motive := fun r : WaitingReceiver => r.handler.Scheduled r.pending) ops step
    ⟨rfl, fun _ => rfl, fun _ => Nat.two_pos, fun _ => rfl⟩
    fun _ scheduled op _ => scheduled_step scheduled op

end WaitingReceiver

/-- No packet is left without an ACK. In every run, while packets that ask for an ACK are pending,
an ACK is queued or the alarm is set to at most `ackSendDelay` after the first of them. Without a
queued ACK fewer of them are pending than make one due. An ACK that is queued cancels the alarm. -/
theorem ack_scheduled (version : VersionNumber) (ops : List ReceiverOp) :
    let r := WaitingReceiver.run version ops
    (∀ first ∈ r.pending.head?, r.handler.ackQueued = true ∨
      ∃ ackAlarm ∈ r.handler.ackAlarm, ackAlarm ≤ first + r.handler.ackSendDelay) ∧
    (r.handler.ackQueued = false → r.pending.length < retransmittablePacketsBeforeAck) ∧
    ¬ (r.handler.ackQueued = true ∧ r.handler.ackAlarm ≠ none) := by
  intro r
  have scheduled := WaitingReceiver.scheduled_run version ops
  refine ⟨fun first mem => ?_, scheduled.few, fun both => both.2 (scheduled.cancelled both.1)⟩
  cases queued : r.handler.ackQueued with
  | true => exact Or.inl rfl
  | false =>
    have alarm := scheduled.alarm queued
    rw [Option.mem_def.mp mem] at alarm
    exact Or.inr ⟨_, alarm, le_rfl⟩

/-! ## Duplicates -/

namespace ReceivedPacketHandler

/-- What a duplicate should leave as it is. -/
def schedule (h : ReceivedPacketHandler) :
    Bool × Option Int × Nat × Nat × Nat × ReceivedPacketHistory :=
  (h.ackQueued, h.ackAlarm, h.packetsReceivedSinceLastAck,
    h.retransmittablePacketsReceivedSinceLastAck, h.largestObserved, h.packetHistory)

/-- The history lies above the lower limit and not above the largest number observed. -/
structure Within (h : ReceivedPacketHandler) : Prop where
  tidy : Tidy h.packetHistory.ranges
  bounds : ∀ n, Covers h.packetHistory.ranges n → h.lowerLimit < n ∧ n ≤ h.largestObserved

variable {h : ReceivedPacketHandler}

theorem Within.countPacket (within : h.Within) (now : Int) (p : Nat) :
    (h.countPacket now p).Within := by
  refine ⟨?_, ?_⟩ <;> rw [countPacket_packetHistory]
  · exact within.tidy
  · intro n covered
    rw [countPacket_lowerLimit, countPacket_largestObserved]
    exact ⟨(within.bounds n covered).1, le_max_of_le_left (within.bounds n covered).2⟩

theorem Within.receivedPacket (within : h.Within) (now : Int) (p : Nat)
    (shouldInstigateAck : Bool) : (h.receivedPacket now p shouldInstigateAck).1.Within := by
  have counted := within.countPacket now p
  by_cases records : h.Records p
  · rw [receivedPacket_of_records records]
    obtain ⟨tidy, covers⟩ := insertPacket_spec p within.tidy
    refine ⟨tidy, fun n covered => ?_⟩
    rcases (covers n).mp covered with old | rfl
    · rw [← countPacket_packetHistory h now p] at old
      exact counted.bounds n old
    · refine ⟨(countPacket_lowerLimit h now n).trans_lt records.1, ?_⟩
      exact (le_max_right _ _).trans_eq (countPacket_largestObserved h now n).symm
  · rcases receivedPacket_of_not_records records now shouldInstigateAck with same | same <;>
      rw [same]
    · exact within
    · exact counted

end ReceivedPacketHandler

theorem PacketReceiver.within_step {r : PacketReceiver} (within : r.handler.Within)
    (op : ReceiverOp) : (r.step op).handler.Within := by
  cases op with
  | receivedPacket now p shouldInstigateAck =>
    have result := within.receivedPacket now p shouldInstigateAck
    simp only [step]
    split <;> exact result
  | setLowerLimit p =>
    obtain ⟨tidy, covers⟩ := deleteUpTo_spec within.tidy p
    refine ⟨tidy, fun n covered => ?_⟩
    obtain ⟨old, above⟩ := (covers n).mp covered
    exact ⟨above, (within.bounds n old).2⟩
  | getAckFrame now =>
    simp only [step, getAckFrame]
    split
    · rename_i produced
      split at produced
      · cases produced
        exact within
      · split at produced
        · cases produced
        · cases produced
          exact ⟨within.tidy, within.bounds⟩
    · exact within

/-- Duplicates are ignored only by a full history. In every state that a run reaches, a packet whose
number is in the history leaves the scheduling of ACKs alone exactly if the history has no room for
another range. -/
theorem duplicate_ignored_iff (version : VersionNumber) (ops : List ReceiverOp) (now : Int)
    (p : Nat) (shouldInstigateAck : Bool) :
    let h := (run version ops).handler
    Covers h.packetHistory.ranges p →
      ((h.receivedPacket now p shouldInstigateAck).1.schedule = h.schedule ↔
        maxTrackedReceivedAckRanges ≤ h.packetHistory.ranges.length) := by
  intro h covered
  have within : h.Within :=
    List.foldlRecOn (motive := fun r : PacketReceiver => r.handler.Within) ops step
      ⟨tidy_nil, fun n covered => absurd covered (covers_nil n)⟩
      fun _ within op _ => within_step within op
  obtain ⟨above, below⟩ := within.bounds p covered
  constructor
  · intro same
    by_contra room
    have records : h.Records p := ⟨above, not_le.mp room⟩
    rw [receivedPacket_of_records records] at same
    have counter := congrArg (fun schedule => schedule.2.2.1) same
    simp only [schedule, maybeQueueAck,
      recorded, countPacket] at counter
    rw [if_neg (not_lt.mpr below)] at counter
    exact absurd counter (Nat.succ_ne_self _)
  · intro full
    rcases receivedPacket_of_not_records
      (fun records => not_le.mpr records.2 full) now shouldInstigateAck with same | same <;>
      rw [same]
    rw [countPacket, if_neg (not_lt.mpr below)]
    rfl

/-- Packets 1, 2 and 4 arrived, and 2 comes again. -/
theorem duplicate_ignored_iff_second :
    let ops : List ReceiverOp :=
      [.receivedPacket 0 1 true, .receivedPacket 0 2 true, .receivedPacket 0 4 true]
    let h := (run version39 ops).handler
    Covers h.packetHistory.ranges 2 ∧ (h.receivedPacket 0 2 true).1.schedule ≠ h.schedule := by
  intro ops h
  have covered : Covers h.packetHistory.ranges 2 := ⟨⟨1, 2⟩, by decide, by decide, by decide⟩
  exact ⟨covered, fun same =>
    absurd ((duplicate_ignored_iff version39 ops 0 2 true covered).mp same) (by decide)⟩

/-- The first packet, twice. -/
theorem duplicate_counted :
    let h := (run version39 [.receivedPacket 0 1 true]).handler
    Covers h.packetHistory.ranges 1 ∧ h.packetsReceivedSinceLastAck = 1 ∧
      (h.receivedPacket 0 1 true).1.packetsReceivedSinceLastAck = 2 :=
  ⟨⟨⟨1, 1⟩, by decide, le_rfl, le_rfl⟩, rfl, rfl⟩

end MPQuic
