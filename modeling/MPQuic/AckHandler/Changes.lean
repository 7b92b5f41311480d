import MPQuic.AckHandler.SentPacketHandler

/-!
# What the calls of the handler do

Apart from sending a packet, handing one out and duplicating one, the calls of the sent
packet handler are sequences of few kinds of changes (`Change`): a packet of the history
is acked or queued for retransmission, the STOP_WAITING bookkeeping moves on, or only
fields change that say nothing about where packets are. Facts about runs are proved for
these changes, not for the calls.
-/

namespace MPQuic

open KeyedList Relation

/-- The packet that the notification reports as acked. -/
def Notification.acked? : Notification → Option Nat
  | .onPacketAcked number _ _ => some number
  | _ => none

namespace SentPacketHandler

variable (n : Notification)

/-- The packets that were acked. -/
def acked (h : SentPacketHandler) : List Nat :=
  h.notified.filterMap Notification.acked?

variable (h : SentPacketHandler) (env : AckEnv) (packet : Packet)

theorem acked_notify : (h.notify n).acked = h.acked ++ n.acked?.toList := by
  unfold acked notify
  rw [List.filterMap_append]
  cases acked : n.acked? <;> simp [acked]

/-! ## Changes -/

/-- The packets stay where they are, and the STOP_WAITING bookkeeping as it is. -/
structure Bookkeeping (h h' : SentPacketHandler) : Prop where
  last : h'.lastSentPacketNumber = h.lastSentPacketNumber
  history : h'.packetHistory = h.packetHistory
  queue : h'.retransmissionQueue = h.retransmissionQueue
  bytes : h'.bytesInFlight = h.bytesInFlight
  acked : h'.acked = h.acked
  manager : h'.stopWaitingManager = h.stopWaitingManager
  skipped : h'.skippedPackets.Sublist h.skippedPackets

/-- One change; only packets that are `ackable` are acked. -/
inductive Change (ackable : Packet → Prop) (h : SentPacketHandler) : SentPacketHandler → Prop
  | ack (p : Packet) (mem : p ∈ h.packetHistory) (allowed : ackable p) :
    Change ackable h (h.ackPacket p)
  | queue (p : Packet) (mem : p ∈ h.packetHistory) :
    Change ackable h (h.queuePacketForRetransmission p)
  | bookkeep (h' : SentPacketHandler) (same : Bookkeeping h h') : Change ackable h h'
  | managerAck (ackFrame : AckFrame)
      (sent : ackFrame.largestAcked ≤ h.lastSentPacketNumber) :
    Change ackable h
      { h with stopWaitingManager := h.stopWaitingManager.receivedAck ackFrame }
  | managerFrame (force : Bool) : Change ackable h (h.getStopWaitingFrame force).1

/-- A sequence of changes. -/
def Changes (ackable : Packet → Prop) : SentPacketHandler → SentPacketHandler → Prop :=
  ReflTransGen (Change ackable)

section Rules

variable {ackable : Packet → Prop} {h h' : SentPacketHandler}

theorem Bookkeeping.refl (h : SentPacketHandler) : Bookkeeping h h :=
  ⟨rfl, rfl, rfl, rfl, rfl, rfl, .refl _⟩

theorem Bookkeeping.trans {h'' : SentPacketHandler} (first : Bookkeeping h h')
    (second : Bookkeeping h' h'') : Bookkeeping h h'' where
  last := second.last.trans first.last
  history := second.history.trans first.history
  queue := second.queue.trans first.queue
  bytes := second.bytes.trans first.bytes
  acked := second.acked.trans first.acked
  manager := second.manager.trans first.manager
  skipped := second.skipped.trans first.skipped

theorem Bookkeeping.changes (same : Bookkeeping h h') : Changes ackable h h' :=
  ReflTransGen.single (Change.bookkeep h' same)

theorem Change.increasing (change : Change ackable h h')
    (inc : Increasing Packet.packetNumber h.packetHistory) :
    Increasing Packet.packetNumber h'.packetHistory := by
  cases change with
  | ack p => exact inc.remove p
  | queue p => exact inc.remove p
  | bookkeep _ same => rw [same.history]; exact inc
  | managerAck => exact inc
  | managerFrame => exact inc

theorem Change.lastSentPacketNumber_eq (change : Change ackable h h') :
    h'.lastSentPacketNumber = h.lastSentPacketNumber := by
  cases change with
  | bookkeep _ same => exact same.last
  | _ => rfl

/-- What every change keeps, a sequence of changes keeps. -/
theorem Changes.keeps {P : SentPacketHandler → Prop} (changes : Changes ackable h h')
    (step : ∀ h h', Change ackable h h' → P h → P h') (holds : P h) : P h' := by
  induction changes with
  | refl => exact holds
  | tail _ change ih => exact step _ _ change ih

theorem Changes.increasing (changes : Changes ackable h h')
    (inc : Increasing Packet.packetNumber h.packetHistory) :
    Increasing Packet.packetNumber h'.packetHistory :=
  changes.keeps (fun _ _ change => change.increasing) inc

theorem Changes.lastSentPacketNumber_eq (changes : Changes ackable h h') :
    h'.lastSentPacketNumber = h.lastSentPacketNumber := by
  induction changes with
  | refl => rfl
  | tail _ change ih => exact change.lastSentPacketNumber_eq.trans ih

theorem bookkeeping_notify {n : Notification} (acked : n.acked? = none) :
    Bookkeeping h (h.notify n) := by
  refine ⟨rfl, rfl, rfl, rfl, ?_, rfl, .refl _⟩
  rw [acked_notify, acked, Option.toList_none, List.append_nil]

end Rules

/-! ## Packets that are lost -/

section Losses

variable {ackable : Packet → Prop} {h : SentPacketHandler} {p : Packet}

theorem changes_losePacket (mem : p ∈ h.packetHistory) : Changes ackable h (h.losePacket p) :=
  (ReflTransGen.single (Change.queue p mem)).trans
    (bookkeeping_notify rfl).changes

theorem changes_queueRTO (mem : p ∈ h.packetHistory) : Changes ackable h (h.queueRTO p) := by
  have queued : Changes ackable h (h.queuePacketForRetransmission p) :=
    ReflTransGen.single (Change.queue p mem)
  have counted : Bookkeeping (h.queuePacketForRetransmission p)
      { h.queuePacketForRetransmission p with
        losses := (h.queuePacketForRetransmission p).losses + 1 } :=
    ⟨rfl, rfl, rfl, rfl, rfl, rfl, .refl _⟩
  exact (queued.trans counted.changes).trans (bookkeeping_notify rfl).changes

theorem changes_foldl_losePacket {counted : SentPacketHandler} (same : Bookkeeping h counted)
    (inc : Increasing Packet.packetNumber h.packetHistory) {selected : List Packet}
    (sub : selected.Sublist h.packetHistory) :
    Changes ackable h (selected.foldl losePacket counted) :=
  Increasing.foldl_invariant packetHistory (fun _ _ => rfl)
    (fun _ _ _ changed mem => ReflTransGen.trans changed (changes_losePacket mem))
    (inc.sublist sub) same.changes fun _ mem => same.history ▸ sub.subset mem

theorem changes_detectLostPackets (inc : Increasing Packet.packetNumber h.packetHistory)
    (env : AckEnv) : Changes ackable h (h.detectLostPackets env) := by
  simp only [detectLostPackets]
  refine changes_foldl_losePacket ?_ inc ?_
  · exact ⟨rfl, rfl, rfl, rfl, rfl, rfl, .refl _⟩
  · exact List.filter_sublist.trans (List.takeWhile_sublist _)

theorem changes_setInflightAsLost (ackable : Packet → Prop)
    (inc : Increasing Packet.packetNumber h.packetHistory) :
    Changes ackable h h.setInflightAsLost := by
  simp only [setInflightAsLost]
  refine changes_foldl_losePacket ?_ inc (List.takeWhile_sublist _)
  exact ⟨rfl, rfl, rfl, rfl, rfl, rfl, .refl _⟩

theorem changes_retransmitTLP : Changes ackable h h.retransmitTLP := by
  unfold retransmitTLP
  split
  · rename_i p last
    exact ReflTransGen.single (Change.queue p (List.mem_of_getLast? last))
  · exact ReflTransGen.refl

theorem changes_retransmitOldestPacket (h : SentPacketHandler) :
    Changes ackable h h.retransmitOldestPacket := by
  unfold retransmitOldestPacket
  split
  · rename_i p rest front
    exact changes_queueRTO (front ▸ List.mem_cons_self)
  · exact ReflTransGen.refl

theorem changes_repeat_retransmitOldestPacket (count : Nat) :
    Changes ackable h (Nat.repeat retransmitOldestPacket count h) := by
  induction count with
  | zero => exact ReflTransGen.refl
  | succ count ih => exact ih.trans (changes_retransmitOldestPacket _)

theorem changes_onRTO (env : AckEnv) : Changes ackable h (h.onRTO env) := by
  have resent : Changes ackable h
      (if h.potentiallyFailed env then h.retransmitAllPackets
        else h.retransmitOldestTwoPackets) := by
    cases h.potentiallyFailed env with
    | true =>
      exact (changes_repeat_retransmitOldestPacket _).trans
        (bookkeeping_notify rfl).changes
    | false =>
      exact ((changes_retransmitOldestPacket _).trans (changes_retransmitOldestPacket _)).trans
        (bookkeeping_notify rfl).changes
  exact resent.trans (Bookkeeping.changes ⟨rfl, rfl, rfl, rfl, rfl, rfl, .refl _⟩)

end Losses

/-! ## Calls -/

section Calls

variable {h : SentPacketHandler} {c : AckContent}

theorem bookkeeping_updateLossDetectionAlarm (h : SentPacketHandler) (env : AckEnv) :
    Bookkeeping h (h.updateLossDetectionAlarm env) := by
  unfold updateLossDetectionAlarm
  split
  · exact ⟨rfl, rfl, rfl, rfl, rfl, rfl, .refl _⟩
  · split
    · exact ⟨rfl, rfl, rfl, rfl, rfl, rfl, .refl _⟩
    · split <;> exact ⟨rfl, rfl, rfl, rfl, rfl, rfl, .refl _⟩

theorem changes_onAlarm (ackable : Packet → Prop)
    (inc : Increasing Packet.packetNumber h.packetHistory) (env : AckEnv) :
    Changes ackable h (h.onAlarm env) := by
  unfold onAlarm
  split
  · exact Bookkeeping.changes ⟨rfl, rfl, rfl, rfl, rfl, rfl, .refl _⟩
  · refine ReflTransGen.trans ?_ (bookkeeping_updateLossDetectionAlarm _ env).changes
    split
    · exact changes_detectLostPackets inc env
    · split
      · refine changes_retransmitTLP.trans (Bookkeeping.changes ?_)
        exact ⟨rfl, rfl, rfl, rfl, rfl, rfl, .refl _⟩
      · exact changes_onRTO env

theorem bookkeeping_garbageCollectSkippedPackets (h : SentPacketHandler) :
    Bookkeeping h h.garbageCollectSkippedPackets :=
  ⟨rfl, rfl, rfl, rfl, rfl, rfl, List.drop_sublist _ _⟩

theorem bookkeeping_updateRTT (h : SentPacketHandler) (ackFrame : AckFrame) (rcvTime : Int) :
    Bookkeeping h (h.updateRTT ackFrame rcvTime) := by
  have found : Bookkeeping h
      (h.maybeUpdateRTT ackFrame.largestAcked ackFrame.delayTime rcvTime).1 := by
    unfold maybeUpdateRTT
    split
    · exact bookkeeping_notify rfl
    · exact Bookkeeping.refl h
  simp only [updateRTT]
  split
  · exact found.trans (bookkeeping_notify rfl)
  · exact found

/-- The walk picks packets from the history, in their order. -/
theorem walkHistory_sublist {position : List AckRange} {history acked : List Packet}
    (walked : walkHistory c position history = .ok acked) : acked.Sublist history := by
  induction history generalizing position acked with
  | nil =>
    obtain rfl := Except.ok.inj walked
    exact List.Sublist.refl _
  | cons packet rest ih =>
    have keep : ∀ position, (walkHistory c position rest).map (packet :: ·) = .ok acked →
        acked.Sublist (packet :: rest) := by
      intro position mapped
      cases inner : walkHistory c position rest with
      | error e => rw [inner] at mapped; cases mapped
      | ok more =>
        rw [inner] at mapped
        obtain rfl := Except.ok.inj mapped
        exact (ih inner).cons_cons packet
    unfold walkHistory at walked
    split at walked
    · exact (ih walked).cons packet
    · split at walked
      · obtain rfl := Except.ok.inj walked
        exact List.nil_sublist _
      · split at walked
        · exact keep _ walked
        · rename_i ackRange above
          simp only at walked
          by_cases inside :
              packet.packetNumber ≥ (advanceRange packet.packetNumber ackRange above).1.first
          · rw [if_pos inside] at walked
            by_cases beyond :
                packet.packetNumber > (advanceRange packet.packetNumber ackRange above).1.last
            · rw [if_pos beyond] at walked
              cases walked
            · rw [if_neg beyond] at walked
              exact keep _ walked
          · rw [if_neg inside] at walked
            exact (ih walked).cons packet

/-- The packets that the range walk of an acknowledgement finds. -/
def NewlyAcked (h : SentPacketHandler) (c : AckContent) (p : Packet) : Prop :=
  ∃ ackedPackets, h.determineNewlyAckedPackets c = .ok ackedPackets ∧ p ∈ ackedPackets

/-- The acknowledgement calls change some fields and then take the acked packets out. -/
theorem changes_foldl_ackPacket {start : SentPacketHandler} (same : Bookkeeping h start)
    (inc : Increasing Packet.packetNumber h.packetHistory) {ackedPackets : List Packet}
    (walked : start.determineNewlyAckedPackets c = .ok ackedPackets) :
    Changes (h.NewlyAcked c) h (ackedPackets.foldl ackPacket start) := by
  rw [determineNewlyAckedPackets, same.history] at walked
  have sub : ackedPackets.Sublist h.packetHistory := walkHistory_sublist walked
  refine Increasing.foldl_invariant packetHistory (fun _ _ => rfl) ?_ (inc.sublist sub)
    same.changes fun _ mem => same.history ▸ sub.subset mem
  intro current p found changed mem
  exact ReflTransGen.tail changed (Change.ack p mem ⟨ackedPackets, walked, found⟩)

/-- An acknowledgement changes nothing but some fields, or takes out what it acks. -/
theorem changes_receivedAck (inc : Increasing Packet.packetNumber h.packetHistory) (env : AckEnv)
    (ackFrame : AckFrame) (withPacketNumber : Nat) (rcvTime : Int) :
    Changes (h.NewlyAcked ackFrame.toAckContent) h
      (h.receivedAck env ackFrame withPacketNumber rcvTime).1 := by
  unfold receivedAck
  split
  · exact ReflTransGen.refl
  rename_i sent
  split
  · exact ReflTransGen.refl
  simp only
  split
  · exact Bookkeeping.changes ⟨rfl, rfl, rfl, rfl, rfl, rfl, .refl _⟩
  split
  · exact Bookkeeping.changes ⟨rfl, rfl, rfl, rfl, rfl, rfl, .refl _⟩
  have start : Bookkeeping h (updateRTT { h with
      largestReceivedPacketWithAck := withPacketNumber
      largestAcked := ackFrame.largestAcked } ackFrame rcvTime) := by
    refine Bookkeeping.trans ?_ (bookkeeping_updateRTT _ _ _)
    exact ⟨rfl, rfl, rfl, rfl, rfl, rfl, .refl _⟩
  split
  · exact start.changes
  · rename_i ackedPackets walked
    have acks := changes_foldl_ackPacket start inc walked
    have lost := acks.trans (changes_detectLostPackets (acks.increasing inc) env)
    have alarm := lost.trans (bookkeeping_updateLossDetectionAlarm _ env).changes
    have collected := alarm.trans (bookkeeping_garbageCollectSkippedPackets _).changes
    refine collected.tail (Change.managerAck ackFrame ?_)
    rw [Changes.lastSentPacketNumber_eq collected]
    omega

theorem changes_receivedClosePath (inc : Increasing Packet.packetNumber h.packetHistory)
    (f : ClosePathFrame) (withPacketNumber : Nat) :
    Changes (h.NewlyAcked f.toAckContent) h (h.receivedClosePath f withPacketNumber).1 := by
  unfold receivedClosePath
  split
  · exact ReflTransGen.refl
  split
  · exact ReflTransGen.refl
  simp only
  split
  · exact Bookkeeping.changes ⟨rfl, rfl, rfl, rfl, rfl, rfl, .refl _⟩
  have start : Bookkeeping h { h with largestReceivedPacketWithAck := withPacketNumber } :=
    ⟨rfl, rfl, rfl, rfl, rfl, rfl, .refl _⟩
  split
  · exact start.changes
  · rename_i ackedPackets walked
    have acks := changes_foldl_ackPacket start inc walked
    have lost := acks.trans (changes_setInflightAsLost _ (acks.increasing inc))
    exact lost.trans (bookkeeping_garbageCollectSkippedPackets _).changes

end Calls

/-! ## Sending -/

theorem recordSent_lastSentPacketNumber :
    (h.recordSent env packet).lastSentPacketNumber = packet.packetNumber := by
  simp only [recordSent]
  split <;> rfl

theorem recordSent_retransmissionQueue :
    (h.recordSent env packet).retransmissionQueue = h.retransmissionQueue := by
  simp only [recordSent]
  split <;> rfl

theorem recordSent_acked : (h.recordSent env packet).acked = h.acked := by
  simp only [recordSent]
  split <;> exact (acked_notify _ _).trans (List.append_nil _)

/-- A packet that may be sent again enters the history, another one does not. -/
theorem recordSent_cases :
    ((stripNonRetransmittableFrames packet.frames).length ≠ 0 ∧
      ∃ p : Packet, p.packetNumber = packet.packetNumber ∧ p.length = packet.length ∧
        (h.recordSent env packet).packetHistory = h.packetHistory ++ [p] ∧
        (h.recordSent env packet).bytesInFlight = addUint64 h.bytesInFlight packet.length) ∨
    (¬(stripNonRetransmittableFrames packet.frames).length ≠ 0 ∧
      (h.recordSent env packet).packetHistory = h.packetHistory ∧
      (h.recordSent env packet).bytesInFlight = h.bytesInFlight) := by
  simp only [recordSent]
  split
  · rename_i tracked
    exact Or.inl ⟨tracked, { packet with
      frames := stripNonRetransmittableFrames packet.frames, sendTime := env.now },
      rfl, rfl, rfl, rfl⟩
  · rename_i untracked
    exact Or.inr ⟨untracked, rfl, rfl⟩

theorem recordSent_skippedPackets :
    (h.recordSent env packet).skippedPackets =
      (List.range' (h.lastSentPacketNumber + 1)
        (packet.packetNumber - (h.lastSentPacketNumber + 1))).foldl trackSkipped
          h.skippedPackets := by
  simp only [recordSent]
  split <;> rfl

theorem recordSent_stopWaitingManager :
    (h.recordSent env packet).stopWaitingManager = h.stopWaitingManager := by
  simp only [recordSent]
  split <;> rfl

/-- `SentPacket` refuses the packet and changes nothing, or records it. -/
theorem sentPacket_cases :
    (∃ err, h.sentPacket env packet = (h, some err)) ∨
      h.lastSentPacketNumber < packet.packetNumber ∧
      h.packetHistory.length < maxTrackedSentPackets ∧
      h.sentPacket env packet =
        ((h.recordSent env packet).updateLossDetectionAlarm env, none) := by
  unfold sentPacket
  split
  · exact Or.inl ⟨_, rfl⟩
  split
  · exact Or.inl ⟨_, rfl⟩
  · exact Or.inr ⟨by omega, by omega, rfl⟩

end SentPacketHandler

end MPQuic
