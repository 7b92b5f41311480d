import MPQuic.AckHandler.AckWalk
import MPQuic.AckHandler.Conservation

/-!
# Closing a path

After a CLOSE_PATH frame the packets of the path that the frame does not ack have to be
sent on another path. `receivedClosePath_spec` says where they go: `SetInflightAsLost` looks
no further than the largest packet acked by an ACK frame, which `ReceivedClosePath` leaves
as it is, so that packets above it stay in flight.
-/

namespace MPQuic

open KeyedList

namespace SentPacketHandler

variable {h : SentPacketHandler} {f : ClosePathFrame} {withPacketNumber : Nat}

/-! ## The two loops -/

section Loops

variable (h : SentPacketHandler) (selected : List Packet)

theorem foldl_ackPacket_retransmissionQueue :
    (selected.foldl ackPacket h).retransmissionQueue = h.retransmissionQueue := by
  induction selected generalizing h with
  | nil => rfl
  | cons p selected ih => exact ih (h.ackPacket p)

theorem foldl_ackPacket_largestAcked :
    (selected.foldl ackPacket h).largestAcked = h.largestAcked := by
  induction selected generalizing h with
  | nil => rfl
  | cons p selected ih => exact ih (h.ackPacket p)

theorem foldl_losePacket_retransmissionQueue :
    (selected.foldl losePacket h).retransmissionQueue = h.retransmissionQueue ++ selected := by
  induction selected generalizing h with
  | nil => exact (List.append_nil _).symm
  | cons p selected ih =>
    rw [List.foldl_cons, ih]
    exact List.append_assoc _ [p] selected

/-- The loop over acked packets leaves the packets that were not selected. -/
theorem foldl_ackPacket_packetHistory (inc : Increasing Packet.packetNumber h.packetHistory)
    (select : Packet → Bool) :
    ((h.packetHistory.filter select).foldl ackPacket h).packetHistory =
      h.packetHistory.filter fun p => !select p :=
  inc.foldl_remove_filter packetHistory (fun _ _ => rfl) select

theorem foldl_losePacket_packetHistory (inc : Increasing Packet.packetNumber h.packetHistory)
    (select : Packet → Bool) :
    ((h.packetHistory.filter select).foldl losePacket h).packetHistory =
      h.packetHistory.filter fun p => !select p :=
  inc.foldl_remove_filter packetHistory (fun _ _ => rfl) select

end Loops

/-- The packets up to the largest acked one are lost, the others stay. -/
theorem setInflightAsLost_spec (inc : Increasing Packet.packetNumber h.packetHistory) :
    h.setInflightAsLost.packetHistory =
        (h.packetHistory.filter fun p => !decide (p.packetNumber ≤ h.largestAcked)) ∧
      h.setInflightAsLost.retransmissionQueue = h.retransmissionQueue ++
        h.packetHistory.filter fun p => decide (p.packetNumber ≤ h.largestAcked) := by
  simp only [setInflightAsLost, inc.takeWhile_eq_filter]
  generalize lost : (h.packetHistory.filter fun p => decide (p.packetNumber ≤ h.largestAcked)) =
    lostPackets
  have left := foldl_losePacket_packetHistory
    { h with losses := h.losses + lostPackets.length } inc
    fun p => decide (p.packetNumber ≤ h.largestAcked)
  simp only [lost] at left
  exact ⟨left, foldl_losePacket_retransmissionQueue _ _⟩

/-- What a CLOSE_PATH frame that is not refused does with the packets in flight. -/
theorem receivedClosePath_spec (inc : Increasing Packet.packetNumber h.packetHistory)
    (valid : f.toAckContent.Valid) (accepted : (h.receivedClosePath f withPacketNumber).2 = none) :
    let after := (h.receivedClosePath f withPacketNumber).1
    let unacked := h.packetHistory.filter fun p => !f.acksPacket p.packetNumber
    after.packetHistory = (unacked.filter fun p => !decide (p.packetNumber ≤ h.largestAcked)) ∧
      after.retransmissionQueue = h.retransmissionQueue ++
        unacked.filter fun p => decide (p.packetNumber ≤ h.largestAcked) := by
  have walked : determineNewlyAckedPackets
      { h with largestReceivedPacketWithAck := withPacketNumber } f.toAckContent =
        .ok (h.packetHistory.filter fun p => f.acksPacket p.packetNumber) :=
    determineNewlyAckedPackets_eq inc valid
  unfold receivedClosePath at accepted ⊢
  split at accepted
  · cases accepted
  rename_i sent
  split at accepted
  · cases accepted
  rename_i fresh
  simp only at accepted
  split at accepted
  · cases accepted
  rename_i noSkipped
  simp only [if_neg sent, if_neg fresh, if_neg noSkipped, walked]
  generalize start : ({ h with largestReceivedPacketWithAck := withPacketNumber } :
    SentPacketHandler) = closing
  have history : closing.packetHistory = h.packetHistory := by rw [← start]
  have queue : closing.retransmissionQueue = h.retransmissionQueue := by rw [← start]
  have largest : closing.largestAcked = h.largestAcked := by rw [← start]
  have acked := foldl_ackPacket_packetHistory closing (by rwa [history])
    fun p => f.acksPacket p.packetNumber
  have lost := setInflightAsLost_spec (h := (closing.packetHistory.filter
    fun p => f.acksPacket p.packetNumber).foldl ackPacket closing)
    (by rw [acked, history]; exact inc.sublist List.filter_sublist)
  rw [acked, foldl_ackPacket_largestAcked, foldl_ackPacket_retransmissionQueue, largest, queue,
    history] at lost
  exact lost

/-- Nothing of the path is left behind: no packet is in flight, and each one that was is
acked by the frame or newly queued for retransmission. -/
structure NothingStranded (h : SentPacketHandler) (f : ClosePathFrame)
    (after : SentPacketHandler) : Prop where
  history : after.packetHistory = []
  bytes : after.bytesInFlight = 0
  queued : ∃ appended, after.retransmissionQueue = h.retransmissionQueue ++ appended ∧
    ∀ p ∈ h.packetHistory, f.acksPacket p.packetNumber = true ∨ p ∈ appended

theorem nothingStranded_iff (balance : h.InBalance) (valid : f.toAckContent.Valid)
    (accepted : (h.receivedClosePath f withPacketNumber).2 = none) :
    h.NothingStranded f (h.receivedClosePath f withPacketNumber).1 ↔
      ∀ p ∈ h.packetHistory,
        f.acksPacket p.packetNumber = true ∨ p.packetNumber ≤ h.largestAcked := by
  obtain ⟨history, queue⟩ := receivedClosePath_spec balance.increasing valid accepted
  -- the packets that stay are those that are neither acked nor low
  have stays : (h.receivedClosePath f withPacketNumber).1.packetHistory = [] ↔
      ∀ p ∈ h.packetHistory,
        f.acksPacket p.packetNumber = true ∨ p.packetNumber ≤ h.largestAcked := by
    rw [history, List.filter_filter, List.filter_eq_nil_iff]
    refine forall₂_congr fun p _ => ?_
    cases f.acksPacket p.packetNumber <;> simp
  constructor
  · intro clean
    exact stays.mp clean.history
  · intro covered
    have empty := stays.mpr covered
    refine ⟨empty, ?_, _, queue, fun p mem => ?_⟩
    · obtain ⟨r, -, balanced⟩ := balance.follows
        (changes_receivedClosePath balance.increasing f withPacketNumber).follows
      have bytes := balanced.bytes
      rw [SentPacketHandler.ledger, empty] at bytes
      exact bytes
    · cases acked : f.acksPacket p.packetNumber with
      | true => exact Or.inl rfl
      | false =>
        have low := (covered p mem).resolve_left (by simp [acked])
        exact Or.inr (by simp [mem, acked, low])

end SentPacketHandler

/-- In every run, a valid CLOSE_PATH frame that is not refused strands nothing exactly when
all packets in flight that it does not ack are at or below the largest packet that an ACK
frame acked before. -/
theorem closePath_strandsNothing_iff (ops : List (AckOp × AckEnv)) (f : ClosePathFrame)
    (valid : f.toAckContent.Valid) (withPacketNumber : Nat)
    (accepted : ((Tracked.run ops).handler.receivedClosePath f withPacketNumber).2 = none) :
    let h := (Tracked.run ops).handler
    h.NothingStranded f (h.receivedClosePath f withPacketNumber).1 ↔
      ∀ p ∈ h.packetHistory,
        f.acksPacket p.packetNumber = true ∨ p.packetNumber ≤ h.largestAcked :=
  SentPacketHandler.nothingStranded_iff (Tracked.consistent_run ops).inBalance valid accepted

/-- Two packets with a PING frame each. -/
def twoPings : List (AckOp × AckEnv) :=
  [(.sentPacket { packetNumber := 1, frames := [.ping], length := 20 }, default),
   (.sentPacket { packetNumber := 2, frames := [.ping], length := 30 }, default)]

/-- A CLOSE_PATH frame that acks packets 1 to `largest`. -/
def closePathUpTo (largest : Nat) : ClosePathFrame :=
  { pathID := 1, largestAcked := largest, lowestAcked := 1, ackRanges := [] }

/-- The frame does not ack packet 2, but an ACK frame has acked packet 3 before. -/
theorem closePath_strandsNothing_belowAcked :
    let h := (Tracked.run lastOfThreeAcked).handler
    let h' := (h.receivedClosePath (closePathUpTo 1) 2).1
    h.packetHistory.map Packet.packetNumber = [1, 2] ∧ h.largestAcked = 3 ∧
      h'.retransmissionQueue.map Packet.packetNumber = [2] ∧
      h.NothingStranded (closePathUpTo 1) h' := by
  refine ⟨by decide, by decide, by decide, ?_⟩
  exact (closePath_strandsNothing_iff lastOfThreeAcked (closePathUpTo 1) (Or.inl rfl) 2
    (by decide)).mpr (by decide)

/-- Packet 2 is still on its way when the peer closes the path: it stays in flight. -/
theorem closePath_strands_unackedPacket :
    let h := (Tracked.run twoPings).handler
    (closePathUpTo 1).toAckContent.Valid ∧ (h.receivedClosePath (closePathUpTo 1) 1).2 = none ∧
      ¬ h.NothingStranded (closePathUpTo 1) (h.receivedClosePath (closePathUpTo 1) 1).1 ∧
      (h.receivedClosePath (closePathUpTo 1) 1).1.bytesInFlight = 30 := by
  refine ⟨Or.inl rfl, by decide, fun clean => ?_, by decide⟩
  exact absurd clean.bytes (by decide)

end MPQuic
