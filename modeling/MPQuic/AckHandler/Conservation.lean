import MPQuic.AckHandler.Changes
import MPQuic.AckHandler.Ledger

/-!
# The handler keeps the ledger

Every call of the sent packet handler is a sequence of moves of the ledger
(`Tracked.Consistent.step`), so the ledger is balanced in every run. Three things are not in
the handler's state and are recorded next to it: the packets that it accepted, by the arguments
and results of the calls, which queue entries were moved there from the history, and what was
handed out for retransmission.
-/

namespace MPQuic

open KeyedList Ledger List Relation SentPacketHandler

/-- The calls of the handler. -/
inductive AckOp where
  | sentPacket (packet : Packet)
  | receivedAck (ackFrame : AckFrame) (withPacketNumber : Nat) (rcvTime : Int)
  | receivedClosePath (f : ClosePathFrame) (withPacketNumber : Nat)
  | setInflightAsLost
  | onAlarm
  | dequeuePacketForRetransmission
  | duplicatePacket (packet : Packet)
  | getStopWaitingFrame (force : Bool)

/-- The handler after a call, without what the call returns. -/
def SentPacketHandler.call (h : SentPacketHandler) (env : AckEnv) : AckOp → SentPacketHandler
  | .sentPacket packet => (h.sentPacket env packet).1
  | .receivedAck ackFrame withPacketNumber rcvTime =>
    (h.receivedAck env ackFrame withPacketNumber rcvTime).1
  | .receivedClosePath f withPacketNumber => (h.receivedClosePath f withPacketNumber).1
  | .setInflightAsLost => h.setInflightAsLost
  | .onAlarm => h.onAlarm env
  | .dequeuePacketForRetransmission => h.dequeuePacketForRetransmission.1
  | .duplicatePacket packet => h.duplicatePacket packet
  | .getStopWaitingFrame force => (h.getStopWaitingFrame force).1

/-- Number and length of the packet that a call accepts: it has frames that are sent again, and
`SentPacket` returns nil. -/
def SentPacketHandler.acceptedBy (h : SentPacketHandler) (env : AckEnv) :
    AckOp → List (Nat × Nat)
  | .sentPacket packet =>
    if (h.sentPacket env packet).2 = none ∧
        (stripNonRetransmittableFrames packet.frames).length ≠ 0 then
      [(packet.packetNumber, packet.length)]
    else []
  | _ => []

/-- What is recorded next to the handler: the packets accepted, the origin of every queue entry
(`true` when it comes from the history) and the numbers of the packets handed out that came
from the history. -/
structure SendRecord where
  accepted : List (Nat × Nat) := []
  origins : List Bool := []
  dequeued : List Nat := []

/-- A handler with the record of its calls. -/
structure Tracked extends SendRecord where
  handler : SentPacketHandler := {}

variable {t : Tracked}

/-- The record is kept from the arguments and the results of the calls. -/
def Tracked.step (t : Tracked) (op : AckOp × AckEnv) : Tracked :=
  let handler := t.handler.call op.2 op.1
  let accepted := t.accepted ++ t.handler.acceptedBy op.2 op.1
  match op.1 with
  | .dequeuePacketForRetransmission =>
    { handler, accepted
      origins := t.origins.drop 1
      dequeued := t.dequeued ++
        originals ((t.handler.retransmissionQueue.zip t.origins).take 1) }
  | .duplicatePacket _ =>
    { handler, accepted, origins := t.origins ++ [false], dequeued := t.dequeued }
  | _ =>
    { handler, accepted
      origins := t.origins ++ List.replicate
        (handler.retransmissionQueue.length - t.handler.retransmissionQueue.length) true
      dequeued := t.dequeued }

/-- A run from a new handler. -/
def Tracked.run (ops : List (AckOp × AckEnv)) : Tracked := ops.foldl Tracked.step {}

/-- The handler and the record as an account. -/
def SentPacketHandler.ledger (h : SentPacketHandler) (r : SendRecord) : Ledger where
  tracked := h.packetHistory
  queue := h.retransmissionQueue.zip r.origins
  accepted := r.accepted
  acked := h.acked
  dequeued := r.dequeued
  bytes := h.bytesInFlight

namespace SentPacketHandler

variable {h h' : SentPacketHandler} {r : SendRecord} {p : Packet} {ackable : Packet → Prop}

/-! ## Calls that only take packets out of flight -/

/-- `h'` comes from `h` by ledger moves that put `count` packets of the history on the
queue and send nothing. -/
def Follows (h h' : SentPacketHandler) : Prop :=
  h'.lastSentPacketNumber = h.lastSentPacketNumber ∧ ∃ count,
    h'.retransmissionQueue.length = h.retransmissionQueue.length + count ∧
      ∀ r : SendRecord, r.origins.length = h.retransmissionQueue.length →
        ReflTransGen Move (h.ledger r)
          (h'.ledger { r with origins := r.origins ++ List.replicate count true })

theorem Follows.trans {h h' h'' : SentPacketHandler} (first : Follows h h')
    (second : Follows h' h'') : Follows h h'' := by
  obtain ⟨last, count, grown, moves⟩ := first
  obtain ⟨last', count', grown', moves'⟩ := second
  refine ⟨last'.trans last, count + count', by omega, fun r synced => ?_⟩
  have later := moves' { r with origins := r.origins ++ List.replicate count true }
    (by simp; omega)
  rw [append_assoc, ← replicate_add] at later
  exact (moves r synced).trans later

theorem Bookkeeping.ledger_eq (same : Bookkeeping h h') (r : SendRecord) :
    h'.ledger r = h.ledger r := by
  unfold ledger
  rw [same.history, same.queue, same.bytes, same.acked]

theorem Bookkeeping.follows (same : Bookkeeping h h') : Follows h h' := by
  refine ⟨same.last, 0, by rw [same.queue]; rfl, fun r _ => ?_⟩
  rw [replicate_zero, append_nil, same.ledger_eq]

theorem Follows.refl (h : SentPacketHandler) : Follows h h := (Bookkeeping.refl h).follows

theorem follows_ackPacket (mem : p ∈ h.packetHistory) : Follows h (h.ackPacket p) := by
  have acked : (h.ackPacket p).acked = h.acked ++ [p.packetNumber] := acked_notify _ _
  refine ⟨rfl, 0, rfl, fun r _ => ?_⟩
  have move := Move.ack (h.ledger r) p mem
  have reached : (h.ackPacket p).ledger { r with origins := r.origins ++ List.replicate 0 true } =
      { h.ledger r with
        tracked := remove Packet.packetNumber h.packetHistory p
        acked := h.acked ++ [p.packetNumber]
        bytes := subUint64 h.bytesInFlight p.length } := by
    rw [replicate_zero, append_nil, ledger, acked]
    rfl
  rw [reached]
  exact ReflTransGen.single move

theorem follows_queuePacketForRetransmission (mem : p ∈ h.packetHistory) :
    Follows h (h.queuePacketForRetransmission p) := by
  refine ⟨rfl, 1, by simp [queuePacketForRetransmission], fun r synced => ?_⟩
  have move := Move.lose (h.ledger r) p mem
  have queue : (h.retransmissionQueue ++ [p]).zip (r.origins ++ [true]) =
      h.retransmissionQueue.zip r.origins ++ [(p, true)] :=
    zip_append synced.symm
  have reached : (h.queuePacketForRetransmission p).ledger
      { r with origins := r.origins ++ List.replicate 1 true } =
      { h.ledger r with
        tracked := remove Packet.packetNumber h.packetHistory p
        queue := h.retransmissionQueue.zip r.origins ++ [(p, true)]
        bytes := subUint64 h.bytesInFlight p.length } := by
    rw [← queue]
    rfl
  rw [reached]
  exact ReflTransGen.single move

/-- Every change is a move of the ledger, or invisible in it. -/
theorem Change.follows (change : Change ackable h h') : Follows h h' := by
  cases change with
  | ack p mem => exact follows_ackPacket mem
  | queue p mem => exact follows_queuePacketForRetransmission mem
  | bookkeep _ same => exact same.follows
  | _ => exact Follows.refl h

theorem Changes.follows (changes : Changes ackable h h') : Follows h h' := by
  induction changes with
  | refl => exact Follows.refl h
  | tail _ change ih => exact ih.trans change.follows

/-- Some record balances the ledger. -/
def InBalance (h : SentPacketHandler) : Prop :=
  ∃ r : SendRecord, r.origins.length = h.retransmissionQueue.length ∧ (h.ledger r).Balanced

theorem InBalance.increasing (balance : h.InBalance) :
    Increasing Packet.packetNumber h.packetHistory := by
  obtain ⟨r, -, balanced⟩ := balance
  exact balanced.increasing

theorem InBalance.follows (balance : h.InBalance) (followed : Follows h h') : h'.InBalance := by
  obtain ⟨r, synced, balanced⟩ := balance
  obtain ⟨-, count, grown, moves⟩ := followed
  refine ⟨_, ?_, balanced.moves (moves r synced)⟩
  rw [length_append, length_replicate, synced, grown]

/-! ## Sending -/

/-- All accepted packets were sent, and the origin of every queue entry is known. -/
structure Synced (h : SentPacketHandler) (r : SendRecord) : Prop where
  origins : r.origins.length = h.retransmissionQueue.length
  accepted : ∀ e ∈ r.accepted, e.1 ≤ h.lastSentPacketNumber

theorem recordSent_moves (synced : Synced h r) (env : AckEnv) {packet : Packet}
    (newer : h.lastSentPacketNumber < packet.packetNumber)
    (room : h.packetHistory.length < maxTrackedSentPackets) :
    let sent := if (stripNonRetransmittableFrames packet.frames).length ≠ 0 then
      [(packet.packetNumber, packet.length)] else []
    let r' := { r with accepted := r.accepted ++ sent }
    ReflTransGen Move (h.ledger r) ((h.recordSent env packet).ledger r') ∧
      Synced (h.recordSent env packet) r' := by
  have last := recordSent_lastSentPacketNumber h env packet
  have queue := recordSent_retransmissionQueue h env packet
  have acked := recordSent_acked h env packet
  have older : ∀ e ∈ r.accepted, e.1 < packet.packetNumber := fun e mem =>
    lt_of_le_of_lt (synced.accepted e mem) newer
  refine ⟨?_, queue ▸ synced.origins, fun e mem => ?_⟩
  · rcases recordSent_cases h env packet with
      ⟨tracked, p, number, length, history, bytes⟩ | ⟨untracked, history, bytes⟩
    · have move := Move.accept (h.ledger r) p (number ▸ older) room
      rw [number, length] at move
      rw [if_pos tracked]
      unfold ledger
      rw [history, queue, acked, bytes]
      exact ReflTransGen.single move
    · rw [if_neg untracked, append_nil]
      unfold ledger
      rw [history, queue, acked, bytes]
  · rw [last]
    rcases mem_append.mp mem with old | new
    · exact le_of_lt (older e old)
    · split at new
      · rw [mem_singleton.mp new]
      · cases new

theorem Bookkeeping.synced (same : Bookkeeping h h') (synced : Synced h r) : Synced h' r :=
  ⟨by rw [same.queue]; exact synced.origins, by rw [same.last]; exact synced.accepted⟩

theorem sentPacket_moves (synced : Synced h r) (env : AckEnv) (packet : Packet) :
    let h' := (h.sentPacket env packet).1
    let r' := { r with accepted := r.accepted ++ h.acceptedBy env (.sentPacket packet) }
    ReflTransGen Move (h.ledger r) (h'.ledger r') ∧
      h'.retransmissionQueue = h.retransmissionQueue ∧ Synced h' r' := by
  simp only [acceptedBy]
  rcases sentPacket_cases h env packet with ⟨_, refused⟩ | ⟨newer, room, recorded⟩
  · rw [refused, if_neg (fun accepted => by cases accepted.1), append_nil]
    exact ⟨ReflTransGen.refl, rfl, synced⟩
  · obtain ⟨moves, synced'⟩ := recordSent_moves synced env newer room
    have alarm := bookkeeping_updateLossDetectionAlarm (h.recordSent env packet) env
    simp only [recorded, true_and]
    refine ⟨?_, ?_, alarm.synced synced'⟩
    · rw [alarm.ledger_eq]
      exact moves
    · exact alarm.queue.trans (recordSent_retransmissionQueue h env packet)

end SentPacketHandler

/-! ## Runs -/

namespace Tracked

/-- The account of a run. -/
def ledger (t : Tracked) : Ledger := t.handler.ledger t.toSendRecord

/-- What holds between the calls of a run. -/
structure Consistent (t : Tracked) : Prop where
  synced : t.handler.Synced t.toSendRecord
  balanced : t.ledger.Balanced

section

variable (ok : t.Consistent)

include ok

theorem Consistent.inBalance : t.handler.InBalance :=
  ⟨t.toSendRecord, ok.synced.origins, ok.balanced⟩

/-- A call that only takes packets out of flight. -/
theorem Consistent.follows {h' : SentPacketHandler} (followed : t.handler.Follows h') :
    Consistent
      { handler := h'
        accepted := t.accepted ++ []
        origins := t.origins ++ List.replicate
          (h'.retransmissionQueue.length - t.handler.retransmissionQueue.length) true
        dequeued := t.dequeued } := by
  obtain ⟨last, count, grown, moves⟩ := followed
  rw [append_nil, grown, Nat.add_sub_cancel_left]
  refine ⟨⟨?_, ?_⟩, ok.balanced.moves (moves _ ok.synced.origins)⟩
  · rw [length_append, length_replicate, ok.synced.origins, grown]
  · rw [last]
    exact ok.synced.accepted

theorem Consistent.dequeue (env : AckEnv) :
    (t.step (.dequeuePacketForRetransmission, env)).Consistent := by
  obtain ⟨⟨sent, origins, dequeued⟩, h⟩ := t
  obtain ⟨⟨synced, accepted⟩, balanced⟩ := ok
  cases queue : h.retransmissionQueue with
  | nil =>
    have empty : origins = [] := length_eq_zero_iff.mp (by rw [synced, queue]; rfl)
    have same : step ⟨⟨sent, origins, dequeued⟩, h⟩
        (.dequeuePacketForRetransmission, env) = ⟨⟨sent, origins, dequeued⟩, h⟩ := by
      simp [step, call, acceptedBy,
        dequeuePacketForRetransmission, queue, empty, originals]
    rw [same]
    exact ⟨⟨synced, accepted⟩, balanced⟩
  | cons p rest =>
    cases origins with
    | nil => rw [queue] at synced; cases synced
    | cons original origins =>
      have length : origins.length = rest.length := by
        rw [queue] at synced
        exact Nat.succ.inj synced
      have move := Move.dequeue (h.ledger ⟨sent, original :: origins, dequeued⟩) p original
        (rest.zip origins) (by rw [SentPacketHandler.ledger, queue]; rfl)
      have handedOut : (if original = true then dequeued ++ [p.packetNumber] else dequeued) =
          dequeued ++ originals [(p, original)] := by
        cases original <;> simp [originals]
      have reached : (step ⟨⟨sent, original :: origins, dequeued⟩, h⟩
          (.dequeuePacketForRetransmission, env)).ledger =
          { h.ledger ⟨sent, original :: origins, dequeued⟩ with
            queue := rest.zip origins
            dequeued := dequeued ++ originals [(p, original)] } := by
        simp only [ledger, step, call,
          dequeuePacketForRetransmission, queue, acceptedBy,
          append_nil]
        rfl
      refine ⟨⟨?_, ?_⟩, ?_⟩
      · simpa [step, call,
          dequeuePacketForRetransmission, queue] using length
      · simp only [step, call,
          dequeuePacketForRetransmission, queue, acceptedBy,
          append_nil]
        exact accepted
      · rw [reached, ← handedOut]
        exact balanced.move move

theorem Consistent.duplicate (packet : Packet) (env : AckEnv) :
    (t.step (.duplicatePacket packet, env)).Consistent := by
  have move := Move.duplicate t.ledger packet
  have queue : (t.handler.retransmissionQueue ++ [packet]).zip (t.origins ++ [false]) =
      t.handler.retransmissionQueue.zip t.origins ++ [(packet, false)] :=
    zip_append ok.synced.origins.symm
  have same : t.step (.duplicatePacket packet, env) =
      { t with
        handler := t.handler.duplicatePacket packet, origins := t.origins ++ [false] } := by
    simp [step, call, acceptedBy]
  rw [same]
  refine ⟨⟨?_, ok.synced.accepted⟩, ?_⟩
  · simp [duplicatePacket, ok.synced.origins]
  · have balanced := ok.balanced.move move
    rw [show t.ledger.queue = t.handler.retransmissionQueue.zip t.origins from rfl, ← queue]
      at balanced
    exact balanced

/-- Every call of the handler keeps the ledger consistent. -/
theorem Consistent.step (op : AckOp × AckEnv) : (t.step op).Consistent := by
  obtain ⟨op, env⟩ := op
  cases op with
  | sentPacket packet =>
    obtain ⟨moves, queue, synced⟩ := sentPacket_moves ok.synced env packet
    have same : t.step (.sentPacket packet, env) =
        { t with
          handler := (t.handler.sentPacket env packet).1
          accepted := t.accepted ++ t.handler.acceptedBy env (.sentPacket packet) } := by
      simp only [Tracked.step, call, queue, Nat.sub_self,
        replicate_zero, append_nil]
    rw [same]
    exact ⟨synced, ok.balanced.moves moves⟩
  | receivedAck ackFrame withPacketNumber rcvTime =>
    exact ok.follows (changes_receivedAck ok.balanced.increasing env ackFrame
      withPacketNumber rcvTime).follows
  | receivedClosePath f withPacketNumber =>
    exact ok.follows (changes_receivedClosePath ok.balanced.increasing f
      withPacketNumber).follows
  | setInflightAsLost =>
    exact ok.follows (changes_setInflightAsLost (fun _ => False)
      ok.balanced.increasing).follows
  | onAlarm =>
    exact ok.follows (changes_onAlarm (fun _ => False)
      ok.balanced.increasing env).follows
  | getStopWaitingFrame force =>
    exact ok.follows (SentPacketHandler.Follows.refl t.handler)
  | dequeuePacketForRetransmission => exact ok.dequeue env
  | duplicatePacket packet => exact ok.duplicate packet env

end

/-- Every run of the handler keeps the ledger consistent. -/
theorem consistent_run (ops : List (AckOp × AckEnv)) : (run ops).Consistent := by
  have initial : Consistent {} :=
    ⟨⟨rfl, forall_mem_nil _⟩, balanced_empty⟩
  exact List.foldlRecOn ops step initial fun t ok op _ => ok.step op

/-- The numbers of the queued packets that came from the history. -/
def queuedOriginals (t : Tracked) : List Nat :=
  originals (t.handler.retransmissionQueue.zip t.origins)

end Tracked

/-- Conservation of sent packets. In every run the history is strictly increasing in the
packet number; every retransmittable packet that was accepted is in exactly one of the
history, the retransmission queue (duplicates apart), the acked and the dequeued packets,
and nothing else is in any of them; and the bytes in flight are those of the history:
modulo the word size whatever the lengths are, and exactly for packets of up to `2 ^ 51`
bytes. -/
theorem sentPackets_conserved (ops : List (AckOp × AckEnv)) :
    let t := Tracked.run ops
    let history := t.handler.packetHistory
    (history.map Packet.packetNumber).Pairwise (· < ·) ∧
      (∀ n, (history.map Packet.packetNumber).count n + t.queuedOriginals.count n +
        t.handler.acked.count n + t.dequeued.count n =
          if n ∈ t.accepted.map Prod.fst then 1 else 0) ∧
      t.handler.bytesInFlight = (history.map Packet.length).sum % 2 ^ 64 ∧
      ((∀ sent ∈ t.accepted, sent.2 ≤ 2 ^ 51) →
        t.handler.bytesInFlight = (history.map Packet.length).sum) := by
  have ok := Tracked.consistent_run ops
  refine ⟨?_, ok.balanced.exactly_once, ok.balanced.bytes, ok.balanced.bytes_exact⟩
  exact pairwise_map.mpr ok.balanced.increasing

/-- Surroundings at the given time, with nothing measured yet. -/
def AckEnv.at (now : Int) : AckEnv where
  now
  latestRTT := 0
  smoothedRTT := 0
  congestionSmoothedRTT := 0
  retransmissionDelay := 0
  delayUntilLost maxRTT := maxRTT
  onRTOCallback := none

/-- Three packets are sent, and the last one is acked. -/
def lastOfThreeAcked : List (AckOp × AckEnv) :=
  [(.sentPacket { packetNumber := 1, frames := [.ping], length := 20 }, .at 1),
   (.sentPacket { packetNumber := 2, frames := [.ping], length := 30 }, .at 1),
   (.sentPacket { packetNumber := 3, frames := [.ping], length := 40 }, .at 1),
   (.receivedAck { largestAcked := 3, lowestAcked := 3, ackRanges := [] } 1 1, .at 1)]

/-- The others are lost, and one of them is handed out. Packet 6 has nothing to send again, and
number 5 is refused the second time. -/
def lossAndRefusal : List (AckOp × AckEnv) :=
  lastOfThreeAcked ++
    [(.onAlarm, .at 2), (.dequeuePacketForRetransmission, .at 2),
     (.sentPacket { packetNumber := 5, frames := [.ping], length := 50 }, .at 2),
     (.sentPacket { packetNumber := 6, frames := [], length := 60 }, .at 2),
     (.sentPacket { packetNumber := 5, frames := [.ping], length := 70 }, .at 2)]

theorem sentPackets_conserved_lossAndRefusal :
    let t := Tracked.run lossAndRefusal
    t.accepted = [(1, 20), (2, 30), (3, 40), (5, 50)] ∧
      t.handler.packetHistory.map Packet.packetNumber = [5] ∧ t.queuedOriginals = [2] ∧
      t.handler.acked = [3] ∧ t.dequeued = [1] ∧
      t.handler.bytesInFlight = (t.handler.packetHistory.map Packet.length).sum :=
  ⟨by decide, by decide, by decide, by decide, by decide,
    (sentPackets_conserved lossAndRefusal).2.2.2 (by decide)⟩

end MPQuic
