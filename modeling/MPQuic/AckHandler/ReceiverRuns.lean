import MPQuic.AckHandler.ReceivedRanges
import MPQuic.Lib.Runs

/-!
# Runs of the receiver

The calls of a received packet history and of a received packet handler, in any order.

* `receivedPacketHistory_exact`: the history is the set of the numbers that were received and not
  deleted since, kept as its maximal runs.
* `getAckFrame_reports`: with lower limits below the packet that brings them, an ACK frame passes
  the checks of its writer and acks exactly the history.
* `lowerLimit_respected`: as long as no packet arrives between the lower limit and an earlier
  limit, nothing at or below a limit is acked again. `SetLowerLimit` replaces the limit also by a
  lower one, so that a late STOP_WAITING frame reopens numbers that were given up.
-/

namespace MPQuic

open List ByteCodec

/-! ## The history -/

variable (version : VersionNumber)

/-- The calls that change a history. -/
inductive HistoryOp where
  | receivedPacket (p : Nat)
  | deleteUpTo (p : Nat)
  deriving DecidableEq, Repr

namespace ReceivedPacketHistory

variable {op : HistoryOp} {later : List HistoryOp} {n p : Nat} {h : ReceivedPacketHistory}

/-- The history after a call. -/
def step (h : ReceivedPacketHistory) : HistoryOp → Except ReceiveError ReceivedPacketHistory
  | .receivedPacket p => h.receivedPacket p
  | .deleteUpTo p => .ok (h.deleteUpTo p)

/-- The calls up to the first error. -/
def run (ops : List HistoryOp) : Except ReceiveError ReceivedPacketHistory :=
  ops.foldlM step {}

/-- No call deletes the number. -/
def Outlives (ops : List HistoryOp) (n : Nat) : Prop := ∀ p, .deleteUpTo p ∈ ops → p < n

/-- The number was received after the last call that deleted it. -/
def Kept (ops : List HistoryOp) (n : Nat) : Prop :=
  ∃ before after, ops = before ++ .receivedPacket n :: after ∧ Outlives after n

theorem not_kept_nil (n : Nat) : ¬ Kept [] n := by
  rintro ⟨before, after, split, -⟩
  cases before <;> cases split

theorem kept_cons :
    Kept (op :: later) n ↔ op = .receivedPacket n ∧ Outlives later n ∨ Kept later n := by
  constructor
  · rintro ⟨before, after, split, outlives⟩
    cases before with
    | nil =>
      cases split
      exact Or.inl ⟨rfl, outlives⟩
    | cons first before =>
      cases split
      exact Or.inr ⟨before, after, rfl, outlives⟩
  · rintro (⟨rfl, outlives⟩ | ⟨before, after, rfl, outlives⟩)
    · exact ⟨[], later, rfl, outlives⟩
    · exact ⟨op :: before, after, rfl, outlives⟩

theorem outlives_received : Outlives (.receivedPacket p :: later) n ↔ Outlives later n := by
  simp [Outlives]

theorem outlives_deleted : Outlives (.deleteUpTo p :: later) n ↔ p < n ∧ Outlives later n := by
  simp [Outlives]

/-- What a call does to the numbers covered, and what the later calls leave of it. -/
theorem step_spec {h next : ReceivedPacketHistory} (tidy : Tidy h.ranges)
    (stepped : h.step op = .ok next) :
    Tidy next.ranges ∧ ∀ later n, Covers next.ranges n ∧ Outlives later n ↔
      Covers h.ranges n ∧ Outlives (op :: later) n ∨
        op = .receivedPacket n ∧ Outlives later n := by
  cases op with
  | receivedPacket p =>
    obtain ⟨tidy', covers⟩ := insertPacket_spec p tidy
    rw [← receivedPacket_ranges stepped] at tidy' covers
    refine ⟨tidy', fun later n => ?_⟩
    rw [covers, outlives_received, HistoryOp.receivedPacket.injEq, eq_comm (a := p), or_and_right]
  | deleteUpTo p =>
    obtain rfl := Except.ok.inj stepped
    obtain ⟨tidy', covers⟩ := deleteUpTo_spec tidy p
    refine ⟨tidy', fun later n => ?_⟩
    rw [covers, outlives_deleted, and_assoc]
    simp

theorem run_spec {ops : List HistoryOp} {h final : ReceivedPacketHistory} (tidy : Tidy h.ranges)
    (ran : ops.foldlM step h = .ok final) :
    Tidy final.ranges ∧
      ∀ n, Covers final.ranges n ↔ Covers h.ranges n ∧ Outlives ops n ∨ Kept ops n := by
  induction ops generalizing h with
  | nil =>
    obtain rfl := Except.ok.inj ran
    refine ⟨tidy, fun n => ?_⟩
    simp [Outlives, not_kept_nil]
  | cons op later ih =>
    rw [foldlM_cons] at ran
    obtain ⟨next, stepped, ran⟩ := exists_of_bind_eq_ok ran
    obtain ⟨tidyNext, here⟩ := step_spec tidy stepped
    obtain ⟨tidyFinal, covers⟩ := ih tidyNext ran
    refine ⟨tidyFinal, fun n => ?_⟩
    rw [covers, here, kept_cons, or_assoc]

end ReceivedPacketHistory

/-- An interval of a set of numbers that cannot be extended. -/
structure AckRange.IsMaximalRun (r : AckRange) (kept : Nat → Prop) : Prop where
  ordered : r.first ≤ r.last
  within : ∀ n, r.first ≤ n → n ≤ r.last → kept n
  above : ¬ kept (r.last + 1)
  below : r.first ≠ 0 → ¬ kept (r.first - 1)

/-- The intervals of a tidy list are the maximal runs of what they cover. -/
theorem Tidy.isMaximalRun_iff {ranges : List PacketInterval} (tidy : Tidy ranges) (r : AckRange) :
    r ∈ ranges.map PacketInterval.toAckRange ↔ r.IsMaximalRun (Covers ranges) := by
  have apart : ∀ a ∈ ranges, ∀ b ∈ ranges,
      a = b ∨ b.last + 1 < a.start ∨ a.last + 1 < b.start := by
    intro a mem b mem'
    have either : ranges.Pairwise fun a b => b.last + 1 < a.start ∨ a.last + 1 < b.start :=
      tidy.apart.imp Or.inl
    have symmetric : Std.Symm fun a b : PacketInterval =>
        b.last + 1 < a.start ∨ a.last + 1 < b.start := ⟨fun _ _ => Or.symm⟩
    exact or_iff_not_imp_left.mpr (either.forall mem mem')
  have gapAbove : ∀ a ∈ ranges, ¬ Covers ranges (a.last + 1) := by
    rintro a mem ⟨b, mem', start, last⟩
    have here := tidy.nonempty a mem
    rcases apart a mem b mem' with rfl | other | other <;> omega
  constructor
  · intro mem
    obtain ⟨a, found, rfl⟩ := mem_map.mp mem
    refine ⟨tidy.nonempty a found, fun n first last => ⟨a, found, first, last⟩,
      gapAbove a found, ?_⟩
    rintro positive ⟨b, mem', start, last⟩
    have here := tidy.nonempty a found
    simp only [PacketInterval.toAckRange] at positive start last
    rcases apart a found b mem' with rfl | other | other <;> omega
  · rintro ⟨ordered, within, above, below⟩
    obtain ⟨a, found, start, last⟩ := within r.first (le_refl _) ordered
    refine mem_map.mpr ⟨a, found, ?_⟩
    have first : a.start = r.first := by
      by_contra different
      exact below (by omega) ⟨a, found, by omega, by omega⟩
    have reaches : r.last ≤ a.last := by
      by_contra short
      exact gapAbove a found (within (a.last + 1) (by omega) (by omega))
    have stops : a.last ≤ r.last := by
      by_contra long
      exact above ⟨a, found, by omega, by omega⟩
    ext
    · exact first
    · exact le_antisymm stops reaches

/-- The history is the set of the numbers received and not deleted since. Its intervals ascend with
numbers missing in between, their union is that set, and `GetAckRanges` returns the maximal runs of
the set from the highest to the lowest. -/
theorem receivedPacketHistory_exact (ops : List HistoryOp) (h : ReceivedPacketHistory)
    (ran : ReceivedPacketHistory.run ops = .ok h) :
    (∀ r ∈ h.ranges, r.start ≤ r.last) ∧
    h.ranges.reverse.Pairwise (fun lower upper => lower.last + 1 < upper.start) ∧
    (∀ n, Covers h.ranges n ↔ ReceivedPacketHistory.Kept ops n) ∧
    (∀ r, r ∈ h.getAckRanges ↔ r.IsMaximalRun (ReceivedPacketHistory.Kept ops)) ∧
    h.getAckRanges.Pairwise (fun upper lower => lower.last < upper.first) := by
  obtain ⟨tidy, covers⟩ := ReceivedPacketHistory.run_spec tidy_nil ran
  have exactly : ∀ n, Covers h.ranges n ↔ ReceivedPacketHistory.Kept ops n := by
    intro n
    rw [covers, or_iff_right fun before => covers_nil n before.1]
  refine ⟨tidy.nonempty, pairwise_reverse.mpr tidy.apart, exactly, fun r => ?_, ?_⟩
  · rw [← (funext fun n => propext (exactly n) : Covers h.ranges = _)]
    exact tidy.isMaximalRun_iff r
  · exact pairwise_map.mpr (tidy.apart.imp fun under => Nat.lt_of_succ_lt under)

/-- Packets 5, 9 and 6, everything up to 7 deleted, then 8 and once more 5. -/
theorem receivedPacketHistory_exact_late :
    let ops : List HistoryOp := [.receivedPacket 5, .receivedPacket 9, .receivedPacket 6,
      .deleteUpTo 7, .receivedPacket 8, .receivedPacket 5]
    ∃ h, ReceivedPacketHistory.run ops = .ok h ∧ h.getAckRanges = [⟨8, 9⟩, ⟨5, 5⟩] ∧
      (∀ n, Covers h.ranges n ↔ ReceivedPacketHistory.Kept ops n) ∧
      ∀ r, r ∈ h.getAckRanges ↔ r.IsMaximalRun (ReceivedPacketHistory.Kept ops) := by
  intro ops
  have ran : ReceivedPacketHistory.run ops =
      .ok { ranges := [⟨8, 9⟩, ⟨5, 5⟩], lowestInReceivedPacketNumbers := 8 } := rfl
  obtain ⟨-, -, covers, runs, -⟩ := receivedPacketHistory_exact ops _ ran
  exact ⟨_, ran, rfl, covers, runs⟩

/-! ## The handler -/

/-- A received packet handler, the numbers that `ReceivedPacket` accepted and the limits that
`SetLowerLimit` was called with. -/
structure PacketReceiver where
  handler : ReceivedPacketHandler
  received : List Nat := []
  limits : List Nat := []

/-- The calls on a handler. -/
inductive ReceiverOp where
  | receivedPacket (now : Int) (packetNumber : Nat) (shouldInstigateAck : Bool)
  | setLowerLimit (p : Nat)
  | getAckFrame (now : Int)

variable {r : PacketReceiver}

namespace PacketReceiver

variable (r)

/-- The handler after a call, and the record. -/
def step : ReceiverOp → PacketReceiver
  | .receivedPacket now packetNumber shouldInstigateAck =>
    let result := r.handler.receivedPacket now packetNumber shouldInstigateAck
    match result.2 with
    | none => { r with handler := result.1, received := r.received ++ [packetNumber] }
    | some _ => { r with handler := result.1 }
  | .setLowerLimit p =>
    { r with handler := r.handler.setLowerLimit p, limits := r.limits ++ [p] }
  | .getAckFrame now =>
    match r.handler.getAckFrame now with
    | .ok (handler, _) => { r with handler }
    | .error _ => r

/-- A new handler. -/
def start (version : VersionNumber) : PacketReceiver := { handler := { version } }

/-- A run from a new handler. -/
def run (version : VersionNumber) (ops : List ReceiverOp) : PacketReceiver :=
  ops.foldl step (start version)

/-- The packet that is being handled: the last one that `ReceivedPacket` accepted. -/
def handling : Nat := r.received.getLastD 0

/-- `ReceivedPacket` returns no error, and a lower limit is below the packet that brings it. -/
def Orderly : ReceiverOp → Prop
  | .receivedPacket now packetNumber shouldInstigateAck =>
    (r.handler.receivedPacket now packetNumber shouldInstigateAck).2 = none
  | .setLowerLimit p => p < r.handling
  | .getAckFrame _ => True

variable {r}

instance (r : PacketReceiver) : ∀ op, Decidable (r.Orderly op)
  | .receivedPacket _ _ _ => inferInstanceAs (Decidable (_ = _))
  | .setLowerLimit _ => inferInstanceAs (Decidable (_ < _))
  | .getAckFrame _ => .isTrue trivial

/-! ### ACK frames -/

/-- What holds after orderly calls. -/
structure Sound (r : PacketReceiver) : Prop where
  handler : r.handler.Sound r.received
  positive : ∀ n ∈ r.received, n ≠ 0

theorem sound_start : (start version).Sound :=
  ⟨ReceivedPacketHandler.sound_new version, forall_mem_nil _⟩

theorem receivedPacket_zero (h : ReceivedPacketHandler) (now : Int) (shouldInstigateAck : Bool) :
    (h.receivedPacket now 0 shouldInstigateAck).2 = some .errInvalidPacketNumber := rfl

theorem handling_mem {p : Nat} (below : p < r.handling) : r.handling ∈ r.received := by
  unfold handling at below ⊢
  cases received : r.received with
  | nil =>
    rw [received] at below
    exact absurd below (Nat.not_lt_zero p)
  | cons first rest =>
    rw [getLastD_cons]
    exact getLastD_mem_cons

theorem Sound.step (sound : r.Sound) {op : ReceiverOp} (orderly : r.Orderly op) :
    (r.step op).Sound := by
  cases op with
  | receivedPacket now packetNumber shouldInstigateAck =>
    have positive : packetNumber ≠ 0 := by
      rintro rfl
      rw [Orderly, receivedPacket_zero] at orderly
      cases orderly
    simp only [PacketReceiver.step, Orderly] at orderly ⊢
    rw [orderly]
    refine ⟨sound.handler.receivedPacket now positive shouldInstigateAck orderly, ?_⟩
    exact forall_mem_append.mpr ⟨sound.positive, forall_mem_singleton.mpr positive⟩
  | setLowerLimit p =>
    have mem := handling_mem orderly
    have largest := sound.handler.bounded _ mem
    exact ⟨sound.handler.setLowerLimit (ne_nil_of_mem mem)
      (lt_of_lt_of_le orderly largest), sound.positive⟩
  | getAckFrame now =>
    obtain ⟨handler, ack, produced, sound', -⟩ := sound.handler.getAckFrame now
    simp only [PacketReceiver.step, produced]
    exact ⟨sound', sound.positive⟩

theorem sound_run {ops : List ReceiverOp}
    (orderly : Runs.EachStep step Orderly (start version) ops) : (run version ops).Sound :=
  orderly.invariant Sound (sound_start version) fun _ _ sound => sound.step

end PacketReceiver

open PacketReceiver

/-- The checks of the writers do not refuse a valid content. -/
theorem AckContent.Valid.firstAckBlockLength {c : AckContent} (valid : c.Valid) :
    ∃ length, c.firstAckBlockLength = .ok length := by
  unfold AckContent.firstAckBlockLength
  rcases valid with whole | split
  · rw [whole]
    exact ⟨_, rfl⟩
  · have top := split.top
    have bottom := split.bottom
    cases ranges : c.ackRanges with
    | nil =>
      rw [ranges] at top
      cases top
    | cons first rest =>
      rw [ranges, getLast?_eq_some_getLast (cons_ne_nil _ _)] at bottom
      rw [ranges] at top
      simp only
      rw [if_neg (not_not.mpr (Option.some.inj top).symm),
        if_neg (not_not.mpr (Option.some.inj bottom).symm)]
      exact ⟨_, rfl⟩

variable (version : VersionNumber)

/-- The ACK frames of a receiver are well formed. Whatever packets arrive, as long as none is
refused and lower limits are below the packets that bring them, `GetAckFrame` finds a range to
index. The frame begins at a positive number, ends with the highest range of the history, has no
ranges or at least two that descend with packets missing in between, passes the checks of its writer
and acks exactly the numbers in the history. -/
theorem getAckFrame_reports (ops : List ReceiverOp) (orderly : Runs.EachStep step Orderly
      (start version) ops) (now : Int) :
    let h := (run version ops).handler
    ∃ h' ack, h.getAckFrame now = .ok (h', ack) ∧ ∀ f ∈ ack,
      1 ≤ f.lowestAcked ∧ f.lowestAcked ≤ f.largestAcked ∧
      h.packetHistory.ranges.head?.map PacketInterval.last = some f.largestAcked ∧
      (f.ackRanges = [] ∨ f.SplitIntoRanges) ∧
      (∃ length, f.firstAckBlockLength = .ok length) ∧
      ∀ n, f.acksPacket n = true ↔ Covers h.packetHistory.ranges n := by
  intro h
  have sound := sound_run version orderly
  obtain ⟨h', ack, produced, -, reports⟩ := sound.handler.getAckFrame now
  refine ⟨h', ack, produced, fun f mem => ?_⟩
  have reports := reports f mem
  have lowest := sound.positive _ (sound.handler.known _ reports.lowest)
  have acked := (reports.exact f.largestAcked).mpr reports.largest
  exact ⟨Nat.one_le_iff_ne_zero.mpr lowest, (AckContent.bounds_of_acksPacket acked).1,
    reports.top, reports.valid, reports.valid.firstAckBlockLength, reports.exact⟩

/-- Packet 20 brings the limit 10, packet 12 comes late with the limit 3, and packet 5 later. -/
def reorderedLimits : List ReceiverOp :=
  [.receivedPacket 0 20 true, .setLowerLimit 10, .receivedPacket 0 12 true, .setLowerLimit 3,
    .receivedPacket 0 5 true]

theorem reorderedLimits_orderly :
    Runs.EachStep step Orderly (start version39)
      reorderedLimits := by decide

theorem getAckFrame_reports_reordered :
    let h := (run version39 reorderedLimits).handler
    ∃ h' f, h.getAckFrame 0 = .ok (h', some f) ∧ f.ackRanges = [⟨20, 20⟩, ⟨12, 12⟩, ⟨5, 5⟩] ∧
      ∀ n, f.acksPacket n = true ↔ Covers h.packetHistory.ranges n := by
  intro h
  obtain ⟨h', ack, produced, reports⟩ :=
    getAckFrame_reports version39 reorderedLimits reorderedLimits_orderly 0
  cases produced
  exact ⟨_, _, rfl, rfl, (reports _ rfl).2.2.2.2.2⟩

/-! ### Lower limits -/

namespace PacketReceiver

/-- A packet above the lower limit is above all earlier limits, too. -/
def LimitsStand (r : PacketReceiver) : ReceiverOp → Prop
  | .receivedPacket _ packetNumber _ =>
    packetNumber ≤ r.handler.lowerLimit ∨ ∀ limit ∈ r.limits, limit < packetNumber
  | _ => True

instance (r : PacketReceiver) : ∀ op, Decidable (r.LimitsStand op)
  | .receivedPacket _ _ _ => inferInstanceAs (Decidable (_ ∨ _))
  | .setLowerLimit _ => .isTrue trivial
  | .getAckFrame _ => .isTrue trivial

/-- The history is above all limits. -/
structure Clear (r : PacketReceiver) : Prop where
  tidy : Tidy r.handler.packetHistory.ranges
  above : ∀ n, Covers r.handler.packetHistory.ranges n → ∀ limit ∈ r.limits, limit < n

theorem clear_start : (start version).Clear :=
  ⟨tidy_nil, fun n covered => absurd covered (covers_nil n)⟩

/-- A packet leaves the history alone, or is above the lower limit and enters it. -/
theorem receivedPacket_ranges_cases (h : ReceivedPacketHandler) (now : Int) (p : Nat)
    (shouldInstigateAck : Bool) :
    let h' := (h.receivedPacket now p shouldInstigateAck).1
    h'.packetHistory.ranges = h.packetHistory.ranges ∨
      h.lowerLimit < p ∧ h'.packetHistory.ranges = insertPacket p h.packetHistory.ranges := by
  have history := ReceivedPacketHandler.countPacket_packetHistory h now p
  have limit := ReceivedPacketHandler.countPacket_lowerLimit h now p
  unfold ReceivedPacketHandler.receivedPacket
  simp only [history, limit]
  split
  · exact Or.inl rfl
  split
  · exact Or.inl (congrArg ReceivedPacketHistory.ranges history)
  · rename_i above
    cases recorded : h.packetHistory.receivedPacket p with
    | error err => exact Or.inl (congrArg ReceivedPacketHistory.ranges history)
    | ok packetHistory => exact Or.inr ⟨not_le.mp above, receivedPacket_ranges recorded⟩

/-- `GetAckFrame` returns nothing, or a frame with the content of the handler. -/
theorem getAckFrame_cases {h h' : ReceivedPacketHandler} {now : Int} {ack : Option AckFrame}
    (produced : h.getAckFrame now = .ok (h', ack)) :
    h'.packetHistory = h.packetHistory ∧
      ∀ f ∈ ack, h.ackContent = .ok f.toAckContent := by
  unfold ReceivedPacketHandler.getAckFrame at produced
  split at produced
  · cases produced
    exact ⟨rfl, fun f mem => absurd mem (Option.not_mem_none f)⟩
  · split at produced
    · cases produced
    · rename_i content built
      cases produced
      refine ⟨rfl, fun f mem => ?_⟩
      obtain rfl := Option.mem_some_iff.mp mem
      exact built

/-- The lowest number of a frame is in the history. -/
theorem covers_lowestAcked {h : ReceivedPacketHandler} (tidy : Tidy h.packetHistory.ranges)
    {content : AckContent} (built : h.ackContent = .ok content) :
    Covers h.packetHistory.ranges content.lowestAcked := by
  simp only [ReceivedPacketHandler.ackContent] at built
  split at built
  · cases built
  · rename_i lowest bottom
    cases built
    exact (tidy.bottom_first bottom).1

theorem Clear.step (clear : r.Clear) {op : ReceiverOp} (stand : r.LimitsStand op) :
    (r.step op).Clear := by
  cases op with
  | receivedPacket now packetNumber shouldInstigateAck =>
    have result : ∀ r' : PacketReceiver, r'.limits = r.limits →
        r'.handler = (r.handler.receivedPacket now packetNumber shouldInstigateAck).1 →
        r'.Clear := by
      intro r' limits handler
      rcases receivedPacket_ranges_cases r.handler now packetNumber shouldInstigateAck with
        same | ⟨above, inserted⟩
      · refine ⟨?_, ?_⟩ <;> rw [handler, same]
        · exact clear.tidy
        · rw [limits]
          exact clear.above
      · obtain ⟨tidy, covers⟩ := insertPacket_spec packetNumber clear.tidy
        have fresh := stand.resolve_left (not_le.mpr above)
        refine ⟨?_, ?_⟩ <;> rw [handler, inserted]
        · exact tidy
        · intro n covered
          rw [limits]
          rcases (covers n).mp covered with old | rfl
          · exact clear.above n old
          · exact fresh
    simp only [PacketReceiver.step]
    split
    · exact result _ rfl rfl
    · exact result _ rfl rfl
  | setLowerLimit p =>
    obtain ⟨tidy, covers⟩ := deleteUpTo_spec clear.tidy p
    refine ⟨tidy, fun n covered limit mem => ?_⟩
    obtain ⟨old, above⟩ := (covers n).mp covered
    rcases mem_append.mp mem with earlier | now
    · exact clear.above n old limit earlier
    · rwa [mem_singleton.mp now]
  | getAckFrame now =>
    simp only [PacketReceiver.step]
    split
    · rename_i handler ack produced
      have same := (getAckFrame_cases produced).1
      exact ⟨by rw [same]; exact clear.tidy, by rw [same]; exact clear.above⟩
    · exact clear

end PacketReceiver

/-- Lower limits are final while no packet arrives between the lower limit and an earlier one. No
ACK frame after such calls acks a number at or below a limit that was set before. -/
theorem lowerLimit_respected (ops : List ReceiverOp) (stand : Runs.EachStep step LimitsStand
      (start version) ops)
    (now : Int) (h' : ReceivedPacketHandler) (f : AckFrame)
    (produced : (run version ops).handler.getAckFrame now = .ok (h', some f)) :
    ∀ limit ∈ (run version ops).limits, ∀ n, f.acksPacket n = true → limit < n := by
  have clear : (run version ops).Clear :=
    stand.invariant Clear (clear_start version)
      fun _ _ clear => clear.step
  have built := (getAckFrame_cases produced).2 f rfl
  intro limit mem n acked
  have lowest := clear.above _ (covers_lowestAcked clear.tidy built) limit mem
  exact lt_of_lt_of_le lowest (AckContent.bounds_of_acksPacket acked).1

/-- Without the last packet the limits stand. -/
theorem lowerLimit_respected_reordered :
    let r := run version39 reorderedLimits.dropLast
    ∃ h' f, r.handler.getAckFrame 0 = .ok (h', some f) ∧ r.limits = [10, 3] ∧
      ∀ limit ∈ r.limits, ∀ n, f.acksPacket n = true → limit < n := by
  intro r
  have stand : Runs.EachStep step LimitsStand
      (start version39) reorderedLimits.dropLast := by decide
  exact ⟨_, _, rfl, rfl, lowerLimit_respected version39 _ stand 0 _ _ rfl⟩

/-- Packet 5 is acked after the limit 10 was set. -/
theorem lowerLimit_forgotten :
    let r := run version39 reorderedLimits
    10 ∈ r.limits ∧
      ∃ h' f, r.handler.getAckFrame 0 = .ok (h', some f) ∧ f.acksPacket 5 = true := by
  intro r
  exact ⟨by decide, _, _, rfl, by decide⟩

/-! ### Acknowledgements that can be encoded -/

/-- What a receiver reports after orderly calls can be put into ACK and CLOSE_PATH frames alike,
while packet numbers have 48 bits. -/
theorem acknowledgements_descend (ops : List ReceiverOp) (orderly : Runs.EachStep step Orderly
      (start version) ops)
    (numbers : ∀ n ∈ (run version ops).received, n < 2 ^ 48) :
    let h := (run version ops).handler
    (∀ now h' f, h.getAckFrame now = .ok (h', some f) → f.Descends) ∧
      ∀ f, h.getClosePathFrame = .ok f → f.Descends := by
  intro h
  have sound := sound_run version orderly
  have descends : ∀ content, h.ackContent = .ok content → content.Descends := by
    intro content built
    have lowest := sound.handler.known _
      (covers_lowestAcked sound.handler.tidy built)
    obtain ⟨reported, same, reports⟩ := sound.handler.ackContent (ne_nil_of_mem lowest)
    obtain rfl := Except.ok.inj (same.symm.trans built)
    have acked := (reports.exact _).mpr reports.largest
    refine ⟨Nat.one_le_iff_ne_zero.mpr (sound.positive _ lowest),
      numbers _ (sound.handler.known _ reports.largest), ?_⟩
    rcases reports.valid with whole | split
    · exact Or.inl ⟨whole, (AckContent.bounds_of_acksPacket acked).1⟩
    · exact Or.inr ⟨split.two, split.nonempty, split.chain⟩
  refine ⟨fun now h' f produced => ?_, fun f produced => ?_⟩
  · exact descends _ ((getAckFrame_cases produced).2 f rfl)
  · unfold ReceivedPacketHandler.getClosePathFrame at produced
    cases built : h.ackContent with
    | error panic =>
      rw [built] at produced
      cases produced
    | ok content =>
      rw [built] at produced
      cases produced
      exact descends content built

end MPQuic
