import MPQuic.AckHandler.SentPacketHandler
import MPQuic.Wire.ClosePathFrame

/-!
# The walk over the history finds the acked packets

`determineNewlyAckedPackets` walks the history and the ranges of a frame upwards side by
side. For a frame with proper ranges it selects exactly the packets that the frame acks,
and never reports a wrong packet.

* `newlyAcked_of_parsed`: so it is for every ACK and CLOSE_PATH frame that its parser accepts.
-/

namespace MPQuic

open AckContent KeyedList List

/-- The frames that the acknowledgement code builds and the parsers let through: no
ranges, or proper ones. -/
def AckContent.Valid (c : AckContent) : Prop := c.ackRanges = [] ∨ c.SplitIntoRanges

theorem AckContent.acksPacket_iff_of_nil {c : AckContent} (whole : c.ackRanges = []) (p : Nat) :
    c.acksPacket p = true ↔ c.lowestAcked ≤ p ∧ p ≤ c.largestAcked := by
  simp only [acksPacket, hasMissingRanges, whole, length_nil,
    lt_irrefl, decide_false, Bool.false_eq_true, if_false]
  split
  · rename_i outside
    simp only [Bool.or_eq_true, decide_eq_true_eq] at outside
    exact iff_of_false Bool.false_ne_true (by omega)
  · rename_i inside
    simp only [Bool.or_eq_true, decide_eq_true_eq] at inside
    exact iff_of_true (by simp; omega) (by omega)

theorem AckContent.acksPacket_iff_of_ne_nil {c : AckContent} (split : c.ackRanges ≠ []) (p : Nat) :
    c.acksPacket p = true ↔ (c.lowestAcked ≤ p ∧ p ≤ c.largestAcked) ∧
      ∃ r ∈ c.ackRanges, r.first ≤ p ∧ p ≤ r.last := by
  have missing : c.hasMissingRanges = true := by
    simpa [hasMissingRanges] using length_pos_iff.mpr split
  simp only [acksPacket, missing, if_true]
  split
  · rename_i outside
    simp only [Bool.or_eq_true, decide_eq_true_eq] at outside
    exact iff_of_false Bool.false_ne_true (by omega)
  · rename_i inside
    simp only [Bool.or_eq_true, decide_eq_true_eq] at inside
    simp only [any_eq_true, AckRange.contains, Bool.and_eq_true, decide_eq_true_eq,
      ge_iff_le]
    exact ⟨fun found => ⟨by omega, found⟩, fun found => found.2⟩

theorem AckContent.bounds_of_acksPacket {c : AckContent} {p : Nat}
    (acked : c.acksPacket p = true) : c.lowestAcked ≤ p ∧ p ≤ c.largestAcked := by
  unfold acksPacket at acked
  split at acked
  · exact absurd acked Bool.false_ne_true
  · rename_i inside
    simp only [Bool.or_eq_true, decide_eq_true_eq] at inside
    omega

namespace SentPacketHandler

variable {history : List Packet}

/-- Nothing is acked from the first packet above the largest one on. -/
theorem filter_acked_eq_nil {c : AckContent} {packet : Packet} {rest : List Packet}
    (inc : Increasing Packet.packetNumber (packet :: rest))
    (beyond : packet.packetNumber > c.largestAcked) :
    ((packet :: rest).filter fun p => c.acksPacket p.packetNumber) = [] := by
  refine filter_eq_nil_iff.mpr fun p mem acked => ?_
  have bound := (bounds_of_acksPacket acked).2
  rcases mem_cons.mp mem with rfl | mem
  · omega
  · have above := inc.head_lt p mem
    omega

/-- The inner loop skips ranges below the packet and stops at one that is not, or at the
last one. -/
theorem advanceRange_spec (packetNumber : Nat) (ackRange : AckRange) (above : List AckRange) :
    ∃ skipped, ackRange :: above = skipped ++
        (advanceRange packetNumber ackRange above).1 ::
          (advanceRange packetNumber ackRange above).2 ∧
      (∀ r ∈ skipped, r.last < packetNumber) ∧
      (packetNumber ≤ (advanceRange packetNumber ackRange above).1.last ∨
        (advanceRange packetNumber ackRange above).2 = []) := by
  induction above generalizing ackRange with
  | nil => exact ⟨[], rfl, forall_mem_nil _, Or.inr rfl⟩
  | cons next above ih =>
    unfold advanceRange
    split
    · rename_i beyond
      obtain ⟨skipped, split, below, stop⟩ := ih next
      refine ⟨ackRange :: skipped, congrArg (ackRange :: ·) split, ?_, stop⟩
      exact forall_mem_cons.mpr ⟨beyond, below⟩
    · rename_i inside
      exact ⟨[], rfl, forall_mem_nil _, Or.inl (not_lt.mp inside)⟩

theorem walkHistory_whole {c : AckContent} (whole : c.ackRanges = [])
    (inc : Increasing Packet.packetNumber history) :
    walkHistory c [] history = .ok (history.filter fun p => c.acksPacket p.packetNumber) := by
  induction history with
  | nil => rfl
  | cons packet rest ih =>
    have acked := acksPacket_iff_of_nil whole packet.packetNumber
    unfold walkHistory
    split
    · rename_i below
      rw [ih inc.tail, filter_cons_of_neg (by rw [acked]; omega)]
    split
    · rename_i beyond
      rw [filter_acked_eq_nil inc beyond]
    · rw [ih inc.tail, filter_cons_of_pos (by rw [acked]; omega)]
      rfl

section Split

variable {c : AckContent} {lower above : List AckRange} {ackRange : AckRange} {p : Nat}

/-- Packets up to the largest acked one are not above the last range of the walk. -/
theorem le_last_of_stop (split : c.SplitIntoRanges)
    (ranges : c.ackRanges.reverse = lower ++ ackRange :: above) (bound : p ≤ c.largestAcked)
    (stop : p ≤ ackRange.last ∨ above = []) : p ≤ ackRange.last := by
  rcases stop with inside | rfl
  · exact inside
  · have reversed : c.ackRanges = ackRange :: lower.reverse := by
      rw [← reverse_reverse c.ackRanges, ranges, reverse_append]
      rfl
    have top := split.top
    rw [reversed] at top
    have largest : ackRange.last = c.largestAcked := Option.some.inj top
    omega

/-- At the range where the walk stops, acked means inside that range. -/
theorem acksPacket_iff_first_le (split : c.SplitIntoRanges)
    (ranges : c.ackRanges.reverse = lower ++ ackRange :: above)
    (below : ∀ r ∈ lower, r.last < p) (inside : p ≤ ackRange.last)
    (bounds : c.lowestAcked ≤ p ∧ p ≤ c.largestAcked) :
    c.acksPacket p = true ↔ ackRange.first ≤ p := by
  have ascending : c.ackRanges.reverse.Pairwise fun r r' => r.last < r'.first :=
    pairwise_reverse.mpr (chain_pairwise split.nonempty split.chain)
  have mem : ∀ r, r ∈ c.ackRanges ↔ r ∈ lower ++ ackRange :: above := by
    intro r
    rw [← ranges, mem_reverse]
  have notEmpty : c.ackRanges ≠ [] :=
    ne_nil_of_mem ((mem ackRange).mpr (by simp))
  rw [acksPacket_iff_of_ne_nil notEmpty]
  constructor
  · rintro ⟨-, r, found, first, last⟩
    rcases mem_append.mp ((mem r).mp found) with low | here
    · have passed := below r low
      omega
    · rcases mem_cons.mp here with rfl | high
      · exact first
      · rw [ranges] at ascending
        have later := (pairwise_cons.mp (pairwise_append.mp ascending).2.1).1 r high
        omega
  · intro first
    exact ⟨bounds, ackRange, (mem ackRange).mpr (by simp), first, inside⟩

/-- The walk from a position in the ranges: those passed lie below all packets to come. -/
theorem walkHistory_split (split : c.SplitIntoRanges) (inc : Increasing Packet.packetNumber history)
    (ranges : c.ackRanges.reverse = lower ++ ackRange :: above)
    (below : ∀ r ∈ lower, ∀ p ∈ history, r.last < p.packetNumber) :
    walkHistory c (ackRange :: above) history =
      .ok (history.filter fun p => c.acksPacket p.packetNumber) := by
  induction history generalizing lower ackRange above with
  | nil => unfold walkHistory; rfl
  | cons packet rest ih =>
    unfold walkHistory
    split
    · rename_i low
      have notAcked : ¬ c.acksPacket packet.packetNumber = true :=
        fun acked => absurd (bounds_of_acksPacket acked).1 (not_le.mpr low)
      rw [filter_cons, if_neg notAcked]
      exact ih inc.tail ranges fun r mem p later =>
        below r mem p (mem_cons_of_mem _ later)
    split
    · rename_i beyond
      rw [filter_acked_eq_nil inc beyond]
    · rename_i notLow notBeyond
      obtain ⟨skipped, position, passed, stop⟩ :=
        advanceRange_spec packet.packetNumber ackRange above
      simp only
      generalize advanceRange packet.packetNumber ackRange above = next at position stop ⊢
      rw [position, ← append_assoc] at ranges
      have lowerAll : ∀ r ∈ lower ++ skipped, r.last < packet.packetNumber :=
        forall_mem_append.mpr ⟨fun r old => below r old packet (by simp), passed⟩
      have inside := le_last_of_stop split ranges (not_lt.mp notBeyond) stop
      have acked := acksPacket_iff_first_le split ranges lowerAll inside
        ⟨not_lt.mp notLow, not_lt.mp notBeyond⟩
      have later := ih inc.tail ranges fun r mem p inRest =>
        lt_trans (lowerAll r mem) (inc.head_lt p inRest)
      rw [later]
      by_cases first : packet.packetNumber ≥ next.1.first
      · rw [if_pos first, if_neg (by omega), filter_cons, if_pos (acked.mpr first)]
        rfl
      · rw [if_neg first, filter_cons, if_neg fun h => first (acked.mp h)]

end Split

/-- For a valid frame, the newly acked packets are those of the history that it acks. -/
theorem determineNewlyAckedPackets_eq {h : SentPacketHandler}
    (inc : Increasing Packet.packetNumber h.packetHistory) {c : AckContent} (valid : c.Valid) :
    h.determineNewlyAckedPackets c =
      .ok (h.packetHistory.filter fun p => c.acksPacket p.packetNumber) := by
  unfold determineNewlyAckedPackets
  rcases valid with whole | split
  · rw [whole]
    exact walkHistory_whole whole inc
  · cases ranges : c.ackRanges.reverse with
    | nil =>
      have empty := reverse_eq_nil_iff.mp ranges
      have two := split.two
      rw [empty] at two
      exact absurd two (by simp)
    | cons ackRange above =>
      have start : c.ackRanges.reverse = [] ++ ackRange :: above := ranges
      exact walkHistory_split split inc start (forall_mem_nil _)

/-! ## Frames off the wire -/

open ByteCodec

/-- The newly acked packets are the packets of the history that the frame acks, in their order: for
every ACK frame and every CLOSE_PATH frame that is parsed, the walk returns no error and these
packets. -/
theorem newlyAcked_of_parsed (h : SentPacketHandler)
    (inc : Increasing Packet.packetNumber h.packetHistory) (version : VersionNumber)
    (input rest : List UInt8) :
    (∀ f, Reads (parseAckFrame version) input f rest →
      h.determineNewlyAckedPackets f.toAckContent =
        .ok (h.packetHistory.filter fun p => f.acksPacket p.packetNumber)) ∧
    (∀ f, Reads (parseClosePathFrame version) input f rest →
      h.determineNewlyAckedPacketsClosePath f =
        .ok (h.packetHistory.filter fun p => f.acksPacket p.packetNumber)) := by
  constructor
  · intro f parsed
    exact determineNewlyAckedPackets_eq inc (sound_of_parseAckFrame parsed).ranges
  · intro f parsed
    exact determineNewlyAckedPackets_eq inc (parseClosePathFrame_sound parsed).ranges

/-- Packets 2 to 8 are in flight, and a CLOSE_PATH frame acks 7 and 3 to 4. -/
theorem newlyAcked_of_closePath :
    let h : SentPacketHandler :=
      { packetHistory := (List.range' 2 7).map fun p =>
          { packetNumber := p, frames := [.ping], length := 30 } }
    let input : List UInt8 := [0x11, 1, 0x10, 1, 7, 1, 2, 2]
    Increasing Packet.packetNumber h.packetHistory ∧
    ∃ f, Reads (parseClosePathFrame version39) input f [] ∧
      h.determineNewlyAckedPacketsClosePath f =
        .ok (h.packetHistory.filter fun p => f.acksPacket p.packetNumber) ∧
      (h.packetHistory.filter fun p => f.acksPacket p.packetNumber).map Packet.packetNumber =
        [3, 4, 7] := by
  intro h input
  have inc : Increasing Packet.packetNumber h.packetHistory := by
    unfold Increasing
    decide
  have parsed : Reads (parseClosePathFrame version39) input
      { largestAcked := 7, lowestAcked := 3, ackRanges := [⟨7, 7⟩, ⟨3, 4⟩], pathID := 1 } [] := rfl
  exact ⟨inc, _, parsed, (newlyAcked_of_parsed h inc version39 input []).2 _ parsed, by decide⟩

end SentPacketHandler

end MPQuic
