import Mathlib.Algebra.Order.BigOperators.Group.List
import Mathlib.Data.List.Nodup
import MPQuic.AckHandler.Packet
import MPQuic.Lib.KeyedList

/-!
# The ledger of sent packets

What the sent packet handler is for, apart from congestion control: a packet that was
accepted for sending and may have to be sent again is in flight, queued for
retransmission, acked, or handed out for retransmission. A `Ledger` records these
places, and a `Ledger.Move` is one transfer between them; duplicates of packets may be
queued on top. Nothing here says when a transfer happens.

`Ledger.Balanced` is kept by every move: nothing is lost or counted twice, and the bytes
in flight are those of the packets in flight.
-/

namespace MPQuic

open KeyedList List Packet

/-- Where the packets of a sender are. -/
structure Ledger where
  /-- the packets in flight -/
  tracked : List Packet := []
  /-- the packets queued for retransmission, with `false` for duplicates -/
  queue : List (Packet × Bool) := []
  /-- number and length of every packet accepted so far -/
  accepted : List (Nat × Nat) := []
  /-- the numbers of the packets acked so far -/
  acked : List Nat := []
  /-- the numbers of the packets handed out for retransmission so far -/
  dequeued : List Nat := []
  bytes : Nat := 0

namespace Ledger

/-- The numbers of the queued packets that are not duplicates. -/
def originals (queue : List (Packet × Bool)) : List Nat :=
  queue.filterMap fun entry => if entry.2 then some entry.1.packetNumber else none

/-- What may happen to a packet. -/
inductive Move : Ledger → Ledger → Prop
  | accept (a : Ledger) (p : Packet) (new : ∀ e ∈ a.accepted, e.1 < p.packetNumber)
      (room : a.tracked.length < maxTrackedSentPackets) :
    Move a { a with
      tracked := a.tracked ++ [p]
      accepted := a.accepted ++ [(p.packetNumber, p.length)]
      bytes := addUint64 a.bytes p.length }
  | ack (a : Ledger) (p : Packet) (mem : p ∈ a.tracked) :
    Move a { a with
      tracked := remove packetNumber a.tracked p
      acked := a.acked ++ [p.packetNumber]
      bytes := subUint64 a.bytes p.length }
  | lose (a : Ledger) (p : Packet) (mem : p ∈ a.tracked) :
    Move a { a with
      tracked := remove packetNumber a.tracked p
      queue := a.queue ++ [(p, true)]
      bytes := subUint64 a.bytes p.length }
  | dequeue (a : Ledger) (p : Packet) (original : Bool) (rest : List (Packet × Bool))
      (front : a.queue = (p, original) :: rest) :
    Move a { a with
      queue := rest
      dequeued := if original then a.dequeued ++ [p.packetNumber] else a.dequeued }
  | duplicate (a : Ledger) (p : Packet) :
    Move a { a with queue := a.queue ++ [(p, false)] }

/-- The total length of the packets in flight. -/
def inFlight (tracked : List Packet) : Nat := (tracked.map Packet.length).sum

/-- The invariant of the ledger. -/
structure Balanced (a : Ledger) : Prop where
  increasing : Increasing packetNumber a.tracked
  fresh : a.accepted.Pairwise fun e e' => e.1 < e'.1
  room : a.tracked.length ≤ maxTrackedSentPackets
  recorded : ∀ p ∈ a.tracked, (p.packetNumber, p.length) ∈ a.accepted
  places : ∀ n, (a.accepted.map Prod.fst).count n =
    (a.tracked.map packetNumber).count n + (originals a.queue).count n +
      a.acked.count n + a.dequeued.count n
  bytes : a.bytes = inFlight a.tracked % 2 ^ 64

theorem balanced_empty : Balanced {} where
  increasing := List.Pairwise.nil
  fresh := List.Pairwise.nil
  room := Nat.zero_le _
  recorded := forall_mem_nil _
  places := fun _ => rfl
  bytes := rfl

theorem originals_append (queue : List (Packet × Bool)) (p : Packet) (original : Bool) :
    originals (queue ++ [(p, original)]) =
      originals queue ++ if original then [p.packetNumber] else [] := by
  cases original <;> simp [originals]

/-! ## Taking a packet out of flight -/

section TakeOut

variable {a : Ledger} {p : Packet}

theorem Balanced.inFlight_remove (balanced : a.Balanced) (mem : p ∈ a.tracked) :
    subUint64 a.bytes p.length =
      inFlight (remove packetNumber a.tracked p) % 2 ^ 64 := by
  have total : inFlight a.tracked =
      p.length + inFlight (remove packetNumber a.tracked p) :=
    ((balanced.increasing.perm_remove mem).map Packet.length).sum_eq
  rw [balanced.bytes, total, subUint64_add_mod]

theorem Balanced.count_remove (balanced : a.Balanced) (mem : p ∈ a.tracked) (n : Nat) :
    (a.tracked.map packetNumber).count n =
      ((remove packetNumber a.tracked p).map packetNumber).count n +
        [p.packetNumber].count n := by
  have split := ((balanced.increasing.perm_remove mem).map packetNumber).count_eq n
  rw [split, map_cons, count_cons, count_singleton]

theorem Balanced.room_remove (balanced : a.Balanced) (p : Packet) :
    (remove packetNumber a.tracked p).length ≤ maxTrackedSentPackets :=
  le_trans (List.Sublist.length_le eraseP_sublist) balanced.room

end TakeOut

/-- Every move keeps the balance. -/
theorem Balanced.move {a b : Ledger} (balanced : a.Balanced) (move : Move a b) : b.Balanced := by
  cases move with
  | accept p new room =>
    refine ⟨balanced.increasing.append_last fun q mem => new _ (balanced.recorded q mem), ?_,
      ?_, ?_, fun n => ?_, ?_⟩
    · refine pairwise_append.mpr ⟨balanced.fresh, pairwise_singleton _ _, ?_⟩
      intro e mem e' last
      obtain rfl := mem_singleton.mp last
      exact new e mem
    · rw [length_append, length_singleton]
      exact room
    · intro q mem
      rcases mem_append.mp mem with old | last
      · exact mem_append_left _ (balanced.recorded q old)
      · obtain rfl := mem_singleton.mp last
        exact mem_append_right _ (mem_singleton.mpr rfl)
    · have places := balanced.places n
      simp only [map_append, map_cons, map_nil, count_append]
      omega
    · rw [balanced.bytes, addUint64_mod]
      simp [inFlight]
  | ack p mem =>
    refine ⟨balanced.increasing.remove p, balanced.fresh, balanced.room_remove p,
      fun q inside => balanced.recorded q (mem_of_mem_remove inside), fun n => ?_,
      balanced.inFlight_remove mem⟩
    have places := balanced.places n
    have split := balanced.count_remove mem n
    simp only [count_append]
    omega
  | lose p mem =>
    refine ⟨balanced.increasing.remove p, balanced.fresh, balanced.room_remove p,
      fun q inside => balanced.recorded q (mem_of_mem_remove inside), fun n => ?_,
      balanced.inFlight_remove mem⟩
    have places := balanced.places n
    have split := balanced.count_remove mem n
    simp only [originals_append, if_true, count_append]
    omega
  | dequeue p original rest front =>
    refine ⟨balanced.increasing, balanced.fresh, balanced.room, balanced.recorded,
      fun n => ?_, balanced.bytes⟩
    have places := balanced.places n
    rw [front] at places
    cases original with
    | false => exact places
    | true =>
      simp only [originals, filterMap_cons, if_true, count_cons] at places
      simp only [originals, if_true, count_append, count_singleton]
      omega
  | duplicate p =>
    refine ⟨balanced.increasing, balanced.fresh, balanced.room, balanced.recorded,
      fun n => ?_, balanced.bytes⟩
    have places := balanced.places n
    simp only [originals_append, Bool.false_eq_true, if_false, append_nil]
    exact places

/-- Sequences of moves keep the balance. -/
theorem Balanced.moves {a b : Ledger} (balanced : a.Balanced)
    (moves : Relation.ReflTransGen Move a b) : b.Balanced := by
  induction moves with
  | refl => exact balanced
  | tail _ move ih => exact ih.move move

/-! ## What balance means -/

/-- An accepted packet is in exactly one place, and no other number is in any. -/
theorem Balanced.exactly_once {a : Ledger} (balanced : a.Balanced) (n : Nat) :
    (a.tracked.map packetNumber).count n + (originals a.queue).count n +
      a.acked.count n + a.dequeued.count n =
        if n ∈ a.accepted.map Prod.fst then 1 else 0 := by
  have distinct : (a.accepted.map Prod.fst).Nodup :=
    List.Pairwise.map _ (fun _ _ less => ne_of_lt less) balanced.fresh
  rw [← balanced.places n]
  split
  · rename_i mem
    exact count_eq_one_of_mem distinct mem
  · rename_i absent
    exact count_eq_zero_of_not_mem absent

/-- Packets of a sane length never make the byte counter wrap around. -/
theorem Balanced.bytes_exact {a : Ledger} (balanced : a.Balanced)
    (sane : ∀ e ∈ a.accepted, e.2 ≤ 2 ^ 51) : a.bytes = inFlight a.tracked := by
  have bound : inFlight a.tracked ≤ a.tracked.length * 2 ^ 51 := by
    have each : ∀ l ∈ a.tracked.map Packet.length, l ≤ 2 ^ 51 := by
      intro l mem
      obtain ⟨p, inside, rfl⟩ := mem_map.mp mem
      exact sane _ (balanced.recorded p inside)
    have total := sum_le_card_nsmul _ _ each
    simpa [inFlight] using total
  have room := balanced.room
  unfold maxTrackedSentPackets defaultMaxCongestionWindow at room
  rw [balanced.bytes]
  exact Nat.mod_eq_of_lt (by omega)

end Ledger

end MPQuic
