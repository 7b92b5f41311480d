import MPQuic.AckHandler.AckWalk
import MPQuic.AckHandler.ReceivedPacketHandler

/-!
# What the receiver reports

The intervals of the received packet history are disjoint and never touch (`Tidy`); a
packet that arrives adds its number to what they cover and a lower limit takes the numbers
up to it away. An ACK frame built from them acks exactly the numbers that they cover
(`Reports`), and so only numbers that were received
(`ReceivedPacketHandler.Sound.getAckFrame`).
-/

namespace MPQuic

open List PacketInterval

variable {el r : PacketInterval} {below ranges : List PacketInterval} {h : ReceivedPacketHistory}
  {p n : Nat} {lowest : AckRange}

/-! ## Lists of intervals -/

/-- The packet number lies in one of the intervals. -/
def Covers (ranges : List PacketInterval) (n : Nat) : Prop :=
  ∃ r ∈ ranges, r.start ≤ n ∧ n ≤ r.last

/-- Intervals from the highest to the lowest, with missing packets between them. -/
structure Tidy (ranges : List PacketInterval) : Prop where
  nonempty : ∀ r ∈ ranges, r.start ≤ r.last
  apart : ranges.Pairwise fun above below => below.last + 1 < above.start

theorem covers_nil (n : Nat) : ¬ Covers [] n := fun ⟨_, mem, _⟩ => absurd mem not_mem_nil

theorem covers_cons : Covers (el :: below) n ↔ (el.start ≤ n ∧ n ≤ el.last) ∨ Covers below n := by
  unfold Covers
  simp

theorem tidy_nil : Tidy [] := ⟨forall_mem_nil _, List.Pairwise.nil⟩

theorem tidy_cons :
    Tidy (el :: below) ↔
      el.start ≤ el.last ∧ (∀ r ∈ below, r.last + 1 < el.start) ∧ Tidy below := by
  constructor
  · rintro ⟨nonempty, apart⟩
    obtain ⟨under, apart⟩ := pairwise_cons.mp apart
    exact ⟨nonempty el mem_cons_self, under,
      fun r mem => nonempty r (mem_cons_of_mem _ mem), apart⟩
  · rintro ⟨here, under, nonempty, apart⟩
    refine ⟨fun r mem => ?_, pairwise_cons.mpr ⟨under, apart⟩⟩
    rcases mem_cons.mp mem with rfl | mem
    · exact here
    · exact nonempty r mem

theorem Tidy.covers_last (tidy : Tidy ranges) (mem : r ∈ ranges) : Covers ranges r.last :=
  ⟨r, mem, tidy.nonempty r mem, le_refl _⟩

/-- The highest interval ends with the largest number covered. -/
theorem Tidy.top_last {top : PacketInterval} (tidy : Tidy (top :: below))
    (covered : Covers (top :: below) n) (largest : ∀ m, Covers (top :: below) m → m ≤ n) :
    top.last = n := by
  have upper := largest top.last (tidy.covers_last mem_cons_self)
  obtain ⟨here, under, -⟩ := tidy_cons.mp tidy
  obtain ⟨r, mem, start, last⟩ := covered
  rcases mem_cons.mp mem with rfl | mem
  · omega
  · have low := under r mem
    omega

/-- The lowest interval begins with the smallest number covered. -/
theorem Tidy.bottom_first (tidy : Tidy ranges)
    (bottom : (ranges.map toAckRange).getLast? = some lowest) :
    Covers ranges lowest.first ∧ ∀ n, Covers ranges n → lowest.first ≤ n := by
  induction ranges with
  | nil => cases bottom
  | cons el below ih =>
    obtain ⟨here, under, tidyBelow⟩ := tidy_cons.mp tidy
    cases below with
    | nil =>
      obtain rfl := Option.some.inj bottom
      refine ⟨covers_cons.mpr (Or.inl ⟨le_refl _, here⟩), fun n covered => ?_⟩
      rcases covers_cons.mp covered with inside | under
      · exact inside.1
      · exact absurd under (covers_nil n)
    | cons next below =>
      obtain ⟨covered, least⟩ := ih tidyBelow (by simpa using bottom)
      refine ⟨covers_cons.mpr (Or.inr covered), fun n covered' => ?_⟩
      rcases covers_cons.mp covered' with inside | lower
      · obtain ⟨r, mem, -, last⟩ := covered
        have low := under r mem
        omega
      · exact least n lower

/-! ## A packet arrives -/

/-- The range was extended by `p`; merging it with the one below covers the same numbers. -/
theorem mergeWithPrev_spec (el : PacketInterval)
    (here : el.start ≤ el.last) (under : ∀ r ∈ below, r.last < el.start) (tidy : Tidy below) :
    Tidy (mergeWithPrev el below) ∧
      ∀ n, Covers (mergeWithPrev el below) n ↔ Covers (el :: below) n := by
  cases below with
  | nil => exact ⟨tidy_cons.mpr ⟨here, forall_mem_nil _, tidy⟩,
    fun n => Iff.rfl⟩
  | cons prev below =>
    obtain ⟨herePrev, underPrev, tidyBelow⟩ := tidy_cons.mp tidy
    have abovePrev := under prev mem_cons_self
    rw [mergeWithPrev]
    split
    · rename_i touch
      refine ⟨tidy_cons.mpr ⟨?_, underPrev, tidyBelow⟩, fun n => ?_⟩
      · simp only
        omega
      · rw [covers_cons, covers_cons, covers_cons, ← or_assoc]
        refine or_congr ?_ Iff.rfl
        simp only
        omega
    · rename_i apart
      refine ⟨tidy_cons.mpr ⟨here, fun r mem => ?_, tidy⟩, fun n => Iff.rfl⟩
      rcases mem_cons.mp mem with rfl | mem
      · omega
      · have low := underPrev r mem
        omega

/-- The history covers one more number. -/
theorem insertPacket_spec (p : Nat) (tidy : Tidy ranges) :
    Tidy (insertPacket p ranges) ∧
      ∀ n, Covers (insertPacket p ranges) n ↔ Covers ranges n ∨ n = p := by
  induction ranges with
  | nil =>
    refine ⟨tidy_cons.mpr ⟨le_refl p, forall_mem_nil _, tidy_nil⟩,
      fun n => ?_⟩
    rw [insertPacket, covers_cons, or_comm]
    refine or_congr Iff.rfl ?_
    simp only
    omega
  | cons el below ih =>
    obtain ⟨here, under, tidyBelow⟩ := tidy_cons.mp tidy
    unfold insertPacket
    split
    · rename_i inside
      refine ⟨tidy, fun n => ⟨Or.inl, ?_⟩⟩
      rintro (covered | rfl)
      · exact covered
      · exact covers_cons.mpr (Or.inl inside)
    split
    · -- extend at the end: `el.last + 1 = p`, as a range that ends with 0 holds 0
      rename_i outside touch
      obtain ⟨tidyMerged, merged⟩ := mergeWithPrev_spec { el with last := p }
        (show el.start ≤ p by omega) (fun r mem => Nat.lt_of_succ_lt (under r mem)) tidyBelow
      refine ⟨tidyMerged, fun n => ?_⟩
      rw [merged, covers_cons, covers_cons, or_right_comm]
      refine or_congr ?_ Iff.rfl
      simp only
      omega
    split
    · -- extend at the beginning: the range below may touch now
      obtain ⟨tidyMerged, merged⟩ := mergeWithPrev_spec { el with start := p }
        (show p ≤ el.last by omega)
        (fun r mem => show r.last < p by have low := under r mem; omega) tidyBelow
      refine ⟨tidyMerged, fun n => ?_⟩
      rw [merged, covers_cons, covers_cons, or_right_comm]
      refine or_congr ?_ Iff.rfl
      simp only
      omega
    split
    · refine ⟨tidy_cons.mpr ⟨le_refl p, fun r mem => ?_, tidy⟩, fun n => ?_⟩
      · simp only
        rcases mem_cons.mp mem with rfl | mem
        · omega
        · have low := under r mem
          omega
      · rw [covers_cons, or_comm]
        refine or_congr Iff.rfl ?_
        simp only
        omega
    · obtain ⟨tidyRest, rest⟩ := ih tidyBelow
      refine ⟨tidy_cons.mpr ⟨here, fun r mem => ?_, tidyRest⟩, fun n => ?_⟩
      · rcases (rest r.last).mp (tidyRest.covers_last mem) with ⟨r', mem', -, upper⟩ | same
        · have low := under r' mem'
          omega
        · omega
      · rw [covers_cons, covers_cons, rest, or_assoc]

theorem receivedPacket_ranges {h h' : ReceivedPacketHistory}
    (recorded : h.receivedPacket p = .ok h') : h'.ranges = insertPacket p h.ranges := by
  unfold ReceivedPacketHistory.receivedPacket at recorded
  split at recorded
  · cases recorded
  · obtain rfl := Except.ok.inj recorded
    rfl

/-! ## A lower limit -/

/-- What a lower limit leaves of one interval. -/
def cutUpTo (p : Nat) (el : PacketInterval) : Option PacketInterval :=
  if el.last ≤ p then none else some { el with start := max el.start (p + 1) }

theorem cutUpTo_of_lt (above : p < el.start)
    (here : el.start ≤ el.last) : cutUpTo p el = some el := by
  unfold cutUpTo
  rw [if_neg (by omega), max_eq_left above]

/-- The loop stops early, but no later interval would be cut. -/
theorem deleteFromFront_eq (nonempty : ∀ r ∈ ranges, r.start ≤ r.last)
    (ascending : ranges.Pairwise fun below above => below.last + 1 < above.start) :
    deleteFromFront p ranges = ranges.filterMap (cutUpTo p) := by
  induction ranges with
  | nil => rfl
  | cons el above ih =>
    obtain ⟨higher, ascending⟩ := pairwise_cons.mp ascending
    have here := nonempty el mem_cons_self
    have nonemptyAbove : ∀ r ∈ above, r.start ≤ r.last :=
      fun r mem => nonempty r (mem_cons_of_mem _ mem)
    have rest := ih nonemptyAbove ascending
    unfold deleteFromFront
    split
    · rename_i inside
      have cut : cutUpTo p el = some { el with start := p + 1 } := by
        unfold cutUpTo
        rw [if_neg (by omega), max_eq_right (by omega)]
      rw [filterMap_cons_some cut, rest]
    split
    · rename_i whole
      have dropped : cutUpTo p el = none := if_pos whole
      rw [filterMap_cons_none dropped, rest]
    · have low : p < el.start := by omega
      have kept : ∀ r ∈ el :: above, cutUpTo p r = some r := by
        intro r mem
        refine cutUpTo_of_lt ?_ (nonempty r mem)
        rcases mem_cons.mp mem with rfl | mem
        · exact low
        · have high := higher r mem
          omega
      rw [filterMap_congr kept, filterMap_some]

theorem deleteUpTo_ranges (tidy : Tidy h.ranges) (p : Nat) :
    (h.deleteUpTo p).ranges = h.ranges.filterMap (cutUpTo p) := by
  have ascending : h.ranges.reverse.Pairwise fun below above => below.last + 1 < above.start :=
    pairwise_reverse.mpr tidy.apart
  have nonempty : ∀ r ∈ h.ranges.reverse, r.start ≤ r.last :=
    fun r mem => tidy.nonempty r (mem_reverse.mp mem)
  unfold ReceivedPacketHistory.deleteUpTo
  rw [deleteFromFront_eq nonempty ascending, filterMap_reverse, reverse_reverse]

theorem cutUpTo_eq_some {el : PacketInterval} (cut : cutUpTo p el = some r) :
    p < el.last ∧ r = { el with start := max el.start (p + 1) } := by
  unfold cutUpTo at cut
  split at cut
  · cases cut
  · rename_i above
    exact ⟨not_le.mp above, (Option.some.inj cut).symm⟩

/-- The history covers the numbers above the limit. -/
theorem deleteUpTo_spec (tidy : Tidy h.ranges) (p : Nat) :
    Tidy (h.deleteUpTo p).ranges ∧
      ∀ n, Covers (h.deleteUpTo p).ranges n ↔ Covers h.ranges n ∧ p < n := by
  rw [deleteUpTo_ranges tidy]
  refine ⟨⟨fun r mem => ?_, ?_⟩, fun n => ⟨?_, ?_⟩⟩
  · obtain ⟨el, memEl, cut⟩ := mem_filterMap.mp mem
    obtain ⟨above, rfl⟩ := cutUpTo_eq_some cut
    exact Nat.max_le.mpr ⟨tidy.nonempty el memEl, above⟩
  · refine List.Pairwise.filterMap _ ?_ tidy.apart
    intro el el' apart r cut r' cut'
    obtain ⟨-, rfl⟩ := cutUpTo_eq_some cut
    obtain ⟨-, rfl⟩ := cutUpTo_eq_some cut'
    exact lt_of_lt_of_le apart (le_max_left _ _)
  · rintro ⟨r, mem, start, last⟩
    obtain ⟨el, memEl, cut⟩ := mem_filterMap.mp mem
    obtain ⟨above, rfl⟩ := cutUpTo_eq_some cut
    have bounds := Nat.max_le.mp start
    exact ⟨⟨el, memEl, bounds.1, last⟩, bounds.2⟩
  · rintro ⟨⟨el, mem, start, last⟩, above⟩
    refine ⟨{ el with start := max el.start (p + 1) }, mem_filterMap.mpr ⟨el, mem, ?_⟩,
      Nat.max_le.mpr ⟨start, above⟩, last⟩
    exact if_neg (by omega)

/-- The content of a frame says exactly what the history covers. -/
structure Reports (c : AckContent) (ranges : List PacketInterval) : Prop where
  lowest : Covers ranges c.lowestAcked
  largest : Covers ranges c.largestAcked
  top : ranges.head?.map last = some c.largestAcked
  valid : c.Valid
  exact : ∀ n, c.acksPacket n = true ↔ Covers ranges n

/-! ## The handler -/

namespace ReceivedPacketHandler

/-- The state of a receiver to which `ReceivedPacket` was called for the numbers of
`received`, none of them zero, with lower limits below the number of the packet that
brought them. -/
structure Sound (h : ReceivedPacketHandler) (received : List Nat) : Prop where
  tidy : Tidy h.packetHistory.ranges
  known : ∀ n, Covers h.packetHistory.ranges n → n ∈ received
  bounded : ∀ n ∈ received, n ≤ h.largestObserved
  observed : received ≠ [] →
    Covers h.packetHistory.ranges h.largestObserved ∧ h.lowerLimit < h.largestObserved
  untouched : received = [] → h.largestObserved = 0 ∧ h.lowerLimit = 0
  pending : h.ackQueued = true ∨ h.ackAlarm.isSome = true → received ≠ []

theorem sound_new (version : VersionNumber) : Sound { version } [] where
  tidy := tidy_nil
  known := fun n covered => absurd covered (covers_nil n)
  bounded := forall_mem_nil _
  observed := fun nonempty => absurd rfl nonempty
  untouched := fun _ => ⟨rfl, rfl⟩
  pending := fun due => by simp at due

theorem countPacket_largestObserved (h : ReceivedPacketHandler) (now : Int) (p : Nat) :
    (h.countPacket now p).largestObserved = max h.largestObserved p := by
  simp only [countPacket]
  split <;> simp only <;> omega

theorem countPacket_packetHistory (h : ReceivedPacketHandler) (now : Int) (p : Nat) :
    (h.countPacket now p).packetHistory = h.packetHistory := by
  simp only [countPacket]
  split <;> rfl

theorem countPacket_lowerLimit (h : ReceivedPacketHandler) (now : Int) (p : Nat) :
    (h.countPacket now p).lowerLimit = h.lowerLimit := by
  simp only [countPacket]
  split <;> rfl

section Steps

variable {h : ReceivedPacketHandler} {received : List Nat}

section

variable (sound : h.Sound received)

include sound

/-- A packet at or below the lower limit is not the largest one. -/
theorem Sound.below_limit {p : Nat} (positive : p ≠ 0) (below : p ≤ h.lowerLimit) :
    received ≠ [] ∧ p < h.largestObserved := by
  have nonempty : received ≠ [] := by
    intro empty
    have limit := (sound.untouched empty).2
    omega
  exact ⟨nonempty, lt_of_le_of_lt below (sound.observed nonempty).2⟩

theorem Sound.bounded_append (p : Nat) : ∀ n ∈ received ++ [p], n ≤ max h.largestObserved p := by
  refine forall_mem_append.mpr ⟨fun n old => ?_, forall_mem_singleton.mpr (le_max_right _ _)⟩
  exact le_trans (sound.bounded n old) (le_max_left _ _)

/-- A packet above the lower limit enters the history. -/
theorem Sound.insert {p : Nat} (above : h.lowerLimit < p) {h' : ReceivedPacketHandler}
    (ranges : h'.packetHistory.ranges = insertPacket p h.packetHistory.ranges)
    (largest : h'.largestObserved = max h.largestObserved p)
    (limit : h'.lowerLimit = h.lowerLimit) : h'.Sound (received ++ [p]) := by
  obtain ⟨tidy, covers⟩ := insertPacket_spec p sound.tidy
  have nonempty : received ++ [p] ≠ [] := by simp
  rw [← ranges] at tidy covers
  refine ⟨tidy, fun n covered => ?_, ?_, fun _ => ⟨(covers _).mpr ?_, ?_⟩,
    fun empty => absurd empty nonempty, fun _ => nonempty⟩
  · rcases (covers n).mp covered with old | rfl
    · exact mem_append_left _ (sound.known n old)
    · exact mem_append_right _ (mem_singleton_self n)
  · rw [largest]
    exact sound.bounded_append p
  · rw [largest]
    by_cases empty : received = []
    · have zero := (sound.untouched empty).1
      exact Or.inr (by omega)
    · rcases le_total h.largestObserved p with low | high
      · exact Or.inr (max_eq_right low)
      · rw [max_eq_left high]
        exact Or.inl (sound.observed empty).1
  · rw [largest, limit]
    exact lt_of_lt_of_le above (le_max_right _ _)

theorem Sound.receivedPacket (now : Int) {p : Nat} (positive : p ≠ 0) (shouldInstigateAck : Bool)
    (accepted : (h.receivedPacket now p shouldInstigateAck).2 = none) :
    (h.receivedPacket now p shouldInstigateAck).1.Sound (received ++ [p]) := by
  have largest := countPacket_largestObserved h now p
  have history := countPacket_packetHistory h now p
  have limit := countPacket_lowerLimit h now p
  unfold ReceivedPacketHandler.receivedPacket at accepted ⊢
  rw [if_neg positive] at accepted ⊢
  simp only at accepted ⊢
  by_cases below : p ≤ (h.countPacket now p).lowerLimit
  · rw [if_pos below]
    rw [limit] at below
    obtain ⟨nonempty, low⟩ := sound.below_limit positive below
    have same : max h.largestObserved p = h.largestObserved := max_eq_left (le_of_lt low)
    refine ⟨?_, fun n covered => ?_, ?_, fun _ => ?_, fun empty => ?_, fun _ => by simp⟩
    · rw [history]
      exact sound.tidy
    · rw [history] at covered
      exact mem_append_left _ (sound.known n covered)
    · rw [largest]
      exact sound.bounded_append p
    · rw [history, largest, limit, same]
      exact sound.observed nonempty
    · simp at empty
  · rw [if_neg below] at accepted ⊢
    rw [limit] at below
    rw [history] at accepted ⊢
    cases recorded : h.packetHistory.receivedPacket p with
    | error err =>
      rw [recorded] at accepted
      cases accepted
    | ok packetHistory =>
      exact sound.insert (not_le.mp below) (receivedPacket_ranges recorded) largest limit

theorem Sound.setLowerLimit (nonempty : received ≠ []) {p : Nat} (below : p < h.largestObserved) :
    (h.setLowerLimit p).Sound received := by
  obtain ⟨tidy, covers⟩ := deleteUpTo_spec sound.tidy p
  exact
    { tidy := tidy
      known := fun n covered => sound.known n ((covers n).mp covered).1
      bounded := sound.bounded
      observed := fun _ => ⟨(covers _).mpr ⟨(sound.observed nonempty).1, below⟩, below⟩
      untouched := fun empty => absurd empty nonempty
      pending := sound.pending }

end

/-! ## ACK frames -/

theorem isChain_getAckRanges {ranges : List PacketInterval} (tidy : Tidy ranges) :
    (ranges.map toAckRange).IsChain AckRange.Under := by
  refine List.Pairwise.isChain (pairwise_map.mpr ?_)
  exact tidy.apart.imp fun under => under

/-- The content of a frame for a tidy history whose largest number is `largest`. -/
theorem reports_of_tidy {ranges : List PacketInterval} (tidy : Tidy ranges) {largest : Nat}
    (covered : Covers ranges largest) (bound : ∀ n, Covers ranges n → n ≤ largest)
    (bottom : (ranges.map toAckRange).getLast? = some lowest) :
    let ackRanges := ranges.map toAckRange
    Reports
      { largestAcked := largest, lowestAcked := lowest.first
        ackRanges := if ackRanges.length > 1 then ackRanges else [] } ranges := by
  have low : Covers ranges lowest.first ∧ ∀ n, Covers ranges n → lowest.first ≤ n :=
    tidy.bottom_first bottom
  rcases ranges with _ | ⟨top, _ | ⟨next, below⟩⟩
  · exact absurd covered (covers_nil _)
  · -- one interval: the frame has no ranges, and acks the whole interval
    have last := tidy.top_last covered bound
    obtain rfl := Option.some.inj bottom
    refine ⟨low.1, covered, congrArg some last, Or.inl rfl, fun n => ?_⟩
    rw [AckContent.acksPacket_iff_of_nil rfl, covers_cons, ← last]
    exact (or_iff_left (covers_nil n)).symm
  · have last := tidy.top_last covered bound
    have several : 1 < ((top :: next :: below).map toAckRange).length := by simp
    simp only [if_pos several]
    refine ⟨low.1, covered, congrArg some last,
      Or.inr ⟨several, ?_, isChain_getAckRanges tidy, ?_, ?_⟩, fun n => ?_⟩
    · intro r mem
      obtain ⟨interval, found, rfl⟩ := mem_map.mp mem
      exact tidy.nonempty interval found
    · exact congrArg some last
    · simp only [bottom, Option.map_some]
    · rw [AckContent.acksPacket_iff_of_ne_nil (by simp)]
      constructor
      · rintro ⟨-, r, mem, inside⟩
        obtain ⟨interval, found, rfl⟩ := mem_map.mp mem
        exact ⟨interval, found, inside⟩
      · intro covers
        have ⟨interval, found, inside⟩ := covers
        exact ⟨⟨low.2 n covers, bound n covers⟩, _, mem_map_of_mem found, inside⟩

/-- The packets reported are those of the history. -/
theorem Sound.ackContent (sound : h.Sound received) (nonempty : received ≠ []) :
    ∃ content, h.ackContent = .ok content ∧ Reports content h.packetHistory.ranges := by
  obtain ⟨covered, -⟩ := sound.observed nonempty
  have bound : ∀ n, Covers h.packetHistory.ranges n → n ≤ h.largestObserved :=
    fun n covers => sound.bounded n (sound.known n covers)
  unfold ReceivedPacketHandler.ackContent ReceivedPacketHistory.getAckRanges
  cases bottom : (h.packetHistory.ranges.map toAckRange).getLast? with
  | none =>
    have empty := map_eq_nil_iff.mp (getLast?_eq_none_iff.mp bottom)
    rw [empty] at covered
    exact absurd covered (covers_nil _)
  | some lowest =>
    simp only [bottom]
    exact ⟨_, rfl, reports_of_tidy sound.tidy covered bound bottom⟩

/-- `GetAckFrame` does not panic, and a frame that it returns reports the history. -/
theorem Sound.getAckFrame (sound : h.Sound received) (now : Int) :
    ∃ h' ack, h.getAckFrame now = .ok (h', ack) ∧ h'.Sound received ∧
      ∀ ackFrame ∈ ack, Reports ackFrame.toAckContent h.packetHistory.ranges := by
  unfold ReceivedPacketHandler.getAckFrame
  split
  · exact ⟨h, none, rfl, sound, fun _ mem => absurd mem (Option.not_mem_none _)⟩
  · rename_i due
    have nonempty : received ≠ [] := by
      refine sound.pending ?_
      cases queued : h.ackQueued <;> cases alarm : h.ackAlarm <;>
        simp_all [ReceivedPacketHandler.ackNotDue]
    obtain ⟨content, built, reports⟩ := sound.ackContent nonempty
    rw [built]
    refine ⟨_, _, rfl, ?_, fun ackFrame mem => ?_⟩
    · exact ⟨sound.tidy, sound.known, sound.bounded, sound.observed, sound.untouched,
        fun _ => nonempty⟩
    · obtain rfl := Option.mem_some_iff.mp mem
      exact reports

end Steps

end ReceivedPacketHandler

end MPQuic
