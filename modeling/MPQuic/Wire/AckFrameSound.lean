import MPQuic.Wire.AckFrame

/-!
# What the parser of ACK frames accepts

The parser computes the ranges by subtractions that wrap around, and the blocks come from the
peer. Nothing of a wrap-around survives: a range after the first one holds as many numbers as its
last block says, counted around the end of the number space, and that is fewer than `2 ^ 48`. So a
range that begins below the range in front of it, as `validateAckRanges` demands, does not reach
the end of the number space.

* `parseAckFrame_sound`: the parser does not index out of range, and what it accepts is made of
  descending ranges with packets missing in between, and acknowledges exactly their numbers.
-/

namespace MPQuic

open BlockState

variable {r top : AckRange} {s : BlockState} {length len count largest : Nat} {order : ByteOrder}
  {input rest : List UInt8} {c : AckContent} {hasMissingRanges : Bool} (typeByte : UInt8)

open ByteCodec List

/-! ## Blocks -/

/-- The range holds `length` numbers, counted around the end of the number space. -/
structure AckRange.Spans (r : AckRange) (length : Nat) : Prop where
  first : r.first < 2 ^ 64
  last : r.last < 2 ^ 64
  count : addUint64 r.first length = addUint64 r.last 1

/-- A range with numbers in it, as many as a block can say. -/
def AckRange.Complete (r : AckRange) : Prop :=
  ∃ length, 0 < length ∧ length < 2 ^ 48 ∧ r.Spans length

/-- The loop over the blocks has left the top range behind. Ranges that are left behind are
complete, and so is the current one unless it waits for the end of a long gap. -/
structure BlockState.Tracks (top : AckRange) (s : BlockState) : Prop where
  above : ∃ rest, s.above = top :: rest ∧ ∀ r ∈ rest, r.Complete
  inside : s.inLongBlock = true → s.current.Spans 0 ∧ s.lastRangeComplete = false
  outside : s.inLongBlock = false → s.current.Complete ∧ s.lastRangeComplete = true

/-- A new range under the current one. -/
theorem AckRange.spans_below (first gap length : Nat) :
    AckRange.Spans
      { first := addUint64 (subUint64 (subUint64 (subUint64 first gap) 1) length) 1
        last := subUint64 (subUint64 first gap) 1 } length := by
  constructor
  · exact Nat.mod_lt _ (by decide)
  · exact Nat.mod_lt _ (by decide)
  · simp only [addUint64, subUint64]
    omega

/-- The current range moves down by one more block of a long gap. -/
theorem AckRange.Spans.moved (spans : r.Spans 0) (gap length : Nat) :
    AckRange.Spans
      { first := subUint64 r.first (addUint64 gap length)
        last := subUint64 r.last gap } length := by
  have count := spans.count
  constructor
  · exact Nat.mod_lt _ (by decide)
  · exact Nat.mod_lt _ (by decide)
  · simp only [addUint64, subUint64, add_zero] at count ⊢
    omega

/-- The flags after a block of the given length. -/
theorem BlockState.tracks_of_spans (above : ∃ rest, s.above = top :: rest ∧ ∀ r ∈ rest, r.Complete)
    (small : length < 2 ^ 48) (spans : s.current.Spans length)
    (longBlock : s.inLongBlock = (length == 0))
    (complete : s.lastRangeComplete = decide (length > 0)) : s.Tracks top := by
  refine ⟨above, ?_, ?_⟩
  · intro inside
    rw [inside] at longBlock
    obtain rfl : length = 0 := beq_iff_eq.mp longBlock.symm
    exact ⟨spans, complete⟩
  · intro outside
    rw [outside] at longBlock
    have pos : 0 < length := Nat.pos_of_ne_zero (beq_eq_false_iff_ne.mp longBlock.symm)
    exact ⟨⟨length, pos, small, spans⟩, complete.trans (decide_eq_true pos)⟩

/-- The first block opens a range under the top range. -/
theorem BlockState.tracks_first (top : AckRange) (gap : Nat) (small : length < 2 ^ 48) :
    (block { above := [], current := top } gap length).Tracks top :=
  tracks_of_spans ⟨[], rfl, forall_mem_nil _⟩ small
    (AckRange.spans_below top.first gap length) rfl rfl

theorem BlockState.Tracks.block (tracks : s.Tracks top)
    (gap : Nat) (small : length < 2 ^ 48) : (s.block gap length).Tracks top := by
  obtain ⟨rest, above, complete⟩ := tracks.above
  unfold BlockState.block
  cases long : s.inLongBlock with
  | true =>
    obtain ⟨spans, incomplete⟩ := tracks.inside long
    rw [if_pos rfl]
    refine tracks_of_spans ⟨rest, above, complete⟩ small
      (spans.moved gap length) rfl ?_
    rw [incomplete]
    by_cases pos : length > 0
    · simp [pos]
    · simp [pos]
  | false =>
    obtain ⟨currentComplete, -⟩ := tracks.outside long
    rw [if_neg Bool.false_ne_true]
    refine tracks_of_spans ⟨rest ++ [s.current], ?_, ?_⟩ small
      (AckRange.spans_below s.current.first gap length) rfl rfl
    · rw [above, cons_append]
    · exact forall_mem_append.mpr ⟨complete, forall_mem_singleton.mpr currentComplete⟩

theorem BlockState.Tracks.parseBlocks (short : len ≤ 6) :
    ∀ (count : Nat) {s s' : BlockState} {input rest : List UInt8}, s.Tracks top →
      Reads (order.parseBlocks len count s) input s' rest → s'.Tracks top := by
  intro count
  induction count with
  | zero =>
    intro s s' input rest tracks run
    cases run
    exact tracks
  | succ count ih =>
    intro s s' input rest tracks run
    obtain ⟨gap, _, -, run⟩ := run.of_bind
    obtain ⟨length, _, read, run⟩ := run.of_bind
    have small : length < 2 ^ 48 :=
      lt_of_lt_of_le (ByteOrder.readUintN_lt read)
        (Nat.pow_le_pow_right (by decide) (by omega))
    exact ih (tracks.block gap.toNat small) run

/-- One block at least: the loop ends in a state that tracks the top range. -/
theorem BlockState.tracks_of_parseBlocks (short : len ≤ 6) (counted : count ≠ 0) {s' : BlockState}
    (run : Reads (order.parseBlocks len count { above := [], current := top }) input s' rest) :
    s'.Tracks top := by
  obtain ⟨count, rfl⟩ := Nat.exists_eq_succ_of_ne_zero counted
  obtain ⟨gap, _, -, run⟩ := run.of_bind
  obtain ⟨length, _, read, run⟩ := run.of_bind
  have small : length < 2 ^ 48 :=
    lt_of_lt_of_le (ByteOrder.readUintN_lt read) (Nat.pow_le_pow_right (by decide) (by omega))
  exact BlockState.Tracks.parseBlocks short count
    (tracks_first top gap.toNat small) run

/-- The ranges are the top range and complete ones. -/
theorem BlockState.Tracks.ranges_eq (tracks : s.Tracks top) :
    ∃ rest, s.ranges = top :: rest ∧ ∀ r ∈ rest, r.Complete := by
  obtain ⟨rest, above, complete⟩ := tracks.above
  unfold ranges
  cases long : s.inLongBlock with
  | true =>
    obtain ⟨-, incomplete⟩ := tracks.inside long
    exact ⟨rest, by rw [incomplete, above]; rfl, complete⟩
  | false =>
    obtain ⟨currentComplete, lastComplete⟩ := tracks.outside long
    refine ⟨rest ++ [s.current], by rw [lastComplete, above]; rfl, ?_⟩
    exact forall_mem_append.mpr ⟨complete, forall_mem_singleton.mpr currentComplete⟩

/-! ## Validation -/

/-- A complete range that begins low enough ends where its length says. -/
theorem AckRange.Complete.last_lt (complete : r.Complete)
    (low : r.first < 2 ^ 48) : r.last < 2 ^ 49 := by
  obtain ⟨length, pos, small, spans⟩ := complete
  have last := spans.last
  have count := spans.count
  unfold addUint64 at count
  omega

/-- The comparisons of the validation hold without wrap-around. -/
theorem isChain_of_rangesDescend {rest : List AckRange}
    (low : top.first < 2 ^ 48) (complete : ∀ r ∈ rest, r.Complete)
    (descend : rangesDescend (top :: rest) = true) : (top :: rest).IsChain AckRange.Under := by
  induction rest generalizing top with
  | nil => exact isChain_singleton top
  | cons below rest ih =>
    rw [rangesDescend] at descend
    split at descend
    · cases descend
    · rename_i lower
      split at descend
      · cases descend
      · rename_i apart
        have lowBelow : below.first < 2 ^ 48 := by omega
        have last := (complete below mem_cons_self).last_lt lowBelow
        rw [addUint64_of_lt (by omega), not_le] at apart
        refine isChain_cons_cons.mpr ⟨apart, ?_⟩
        exact ih lowBelow (fun r mem => complete r (mem_cons_of_mem below mem)) descend

/-- What the validation checks. -/
theorem AckContent.validateAckRanges_cons
    {rest : List AckRange} (ranges : c.ackRanges = top :: rest)
    (valid : c.validateAckRanges = true) :
    rest ≠ [] ∧ top.last = c.largestAcked ∧ (∀ r ∈ top :: rest, r.first ≤ r.last) ∧
      rangesDescend (top :: rest) = true := by
  unfold AckContent.validateAckRanges at valid
  rw [ranges] at valid
  cases rest with
  | nil => cases valid
  | cons below rest =>
    simp only at valid
    split at valid
    · cases valid
    · rename_i largest
      split at valid
      · cases valid
      · rename_i ordered
        refine ⟨cons_ne_nil _ _, not_not.mp largest, ?_, valid⟩
        intro r mem
        by_contra inverted
        refine ordered (any_eq_true.mpr ⟨r, mem, ?_⟩)
        exact decide_eq_true (not_le.mp inverted)

/-! ## Accepted content -/

/-- The content of a frame without any trace of a wrap-around. -/
structure AckContent.Sound (c : AckContent) : Prop where
  ordered : c.lowestAcked ≤ c.largestAcked
  ranges : c.ackRanges = [] ∨ c.SplitIntoRanges

theorem AckContent.sound_of_validated {rest : List AckRange}
    (ranges : c.ackRanges = top :: rest) (complete : ∀ r ∈ rest, r.Complete)
    (valid : c.validateAckRanges = true) (bound : c.largestAcked < 2 ^ 48)
    (lowest : c.ackRanges.getLast?.map AckRange.first = some c.lowestAcked) : c.Sound := by
  obtain ⟨more, largest, ordered, descend⟩ := c.validateAckRanges_cons ranges valid
  have topOrdered := ordered top mem_cons_self
  have chain := isChain_of_rangesDescend (by omega) complete descend
  have split : c.SplitIntoRanges := by
    refine ⟨?_, ranges ▸ ordered, ranges ▸ chain, ?_, lowest⟩
    · rw [ranges, length_cons]
      have := length_pos_iff.mpr more
      omega
    · rw [ranges, head?_cons, Option.map_some, largest]
  refine ⟨?_, Or.inr split⟩
  rw [ranges, getLast?_eq_some_getLast (cons_ne_nil _ _), Option.map_some,
    Option.some.injEq] at lowest
  have bottom := (chain_bounds ordered chain top mem_cons_self).2
  omega

/-- The content without missing packets. -/
theorem AckContent.sound_whole (bound : largest < 2 ^ 48)
    (first : largest = 0 ∨ 0 < length) (fits : length ≤ largest) :
    AckContent.Sound
      { largestAcked := largest
        lowestAcked :=
          if largest = 0 then 0 else subUint64 (addUint64 largest 1) length } := by
  refine ⟨?_, Or.inl rfl⟩
  simp only
  split
  · exact Nat.zero_le _
  · rw [addUint64_of_lt (by omega), subUint64_of_le (by omega) (by omega)]
    omega

theorem sound_of_parseAckContent (short : len ≤ 6) (bound : largest < 2 ^ 48)
    (counted : hasMissingRanges = true → count ≠ 0)
    (run : Reads (order.parseAckContent hasMissingRanges count len largest) input c rest) :
    c.Sound := by
  obtain ⟨length, _, -, run⟩ := run.of_bind
  obtain ⟨_, _, passedEmpty, run⟩ := run.of_bind
  obtain ⟨_, _, passedLong, run⟩ := run.of_bind
  obtain ⟨final, _, blocks, run⟩ := run.of_bind
  obtain ⟨_, _, -, run⟩ := run.of_bind
  obtain ⟨_, _, passedValidation, run⟩ := run.of_bind
  have notEmpty := passedEmpty.of_failIf
  have notLong := passedLong.of_failIf
  have valid := passedValidation.of_failIf
  cases run
  rw [Bool.not_eq_false'] at valid
  cases hasMissingRanges with
  | false =>
    simp only [Bool.and_eq_false_iff, decide_eq_false_iff_not, not_lt] at notEmpty notLong
    exact AckContent.sound_whole bound (by omega) notLong
  | true =>
    have tracks := tracks_of_parseBlocks short (counted rfl) blocks
    obtain ⟨below, ranges, complete⟩ := tracks.ranges_eq
    refine AckContent.sound_of_validated ranges complete valid bound ?_
    simp only [if_true, ranges]
    rw [getLast?_eq_some_getLast (cons_ne_nil _ _), Option.map_some,
      Option.getD_some]

/-- The numbers inside the ranges, or all of them if none is missing. -/
def AckContent.Covers (c : AckContent) (p : Nat) : Prop :=
  if c.ackRanges = [] then c.lowestAcked ≤ p ∧ p ≤ c.largestAcked
  else ∃ r ∈ c.ackRanges, r.first ≤ p ∧ p ≤ r.last

/-- The bounds that `AcksPacket` tests first are those of the ranges. -/
theorem AckContent.SplitIntoRanges.within (split : c.SplitIntoRanges) (mem : r ∈ c.ackRanges) :
    c.lowestAcked ≤ r.first ∧ r.last ≤ c.largestAcked := by
  obtain ⟨-, nonempty, chain, top, bottom⟩ := split
  cases ranges : c.ackRanges with
  | nil =>
    rw [ranges] at mem
    cases mem
  | cons first others =>
    rw [ranges] at nonempty chain top bottom mem
    obtain ⟨high, low⟩ := chain_bounds nonempty chain r mem
    rw [head?_cons, Option.map_some, Option.some.injEq] at top
    rw [getLast?_eq_some_getLast (cons_ne_nil _ _), Option.map_some,
      Option.some.injEq] at bottom
    exact ⟨by omega, by omega⟩

theorem AckContent.Sound.acksPacket_iff (sound : c.Sound) (p : Nat) :
    c.acksPacket p = true ↔ c.Covers p := by
  unfold AckContent.acksPacket AckContent.Covers
  rcases sound.ranges with empty | split
  · simp [empty, AckContent.hasMissingRanges]
  · have two := split.two
    have nonempty : c.ackRanges ≠ [] := ne_nil_of_length_pos (by omega)
    have missing : c.hasMissingRanges = true := decide_eq_true (by omega)
    rw [if_neg nonempty, missing]
    constructor
    · intro acked
      split at acked
      · cases acked
      · obtain ⟨r, mem, contains⟩ := any_eq_true.mp acked
        simp only [AckRange.contains, Bool.and_eq_true, decide_eq_true_eq] at contains
        exact ⟨r, mem, contains⟩
    · rintro ⟨r, mem, first, last⟩
      obtain ⟨low, high⟩ := split.within mem
      rw [if_neg (by simp only [Bool.or_eq_true, decide_eq_true_eq]; omega), if_pos rfl]
      refine any_eq_true.mpr ⟨r, mem, ?_⟩
      simp only [AckRange.contains, Bool.and_eq_true, decide_eq_true_eq]
      exact ⟨first, last⟩

/-! ## The whole parser -/

theorem lengthField_le (bits : UInt8) (field : bits ≤ 3) : (lengthField bits).toNat ≤ 6 := by
  have table : ∀ b : Fin 4, (lengthField (UInt8.ofNat b)).toNat ≤ 6 := by decide
  have small : bits.toNat < 4 := Nat.lt_succ_of_le (UInt8.le_iff_toNat_le.mp field)
  have entry := table ⟨bits.toNat, small⟩
  rwa [UInt8.ofNat_toNat] at entry

theorem largestAckedLen_le : (lengthField ((typeByte &&& 0x0C) >>> 2)).toNat ≤ 6 := by
  refine lengthField_le _ (UInt8.le_iff_toNat_le.mpr ?_)
  have masked : typeByte.toNat &&& 12 ≤ 12 := Nat.and_le_right
  rw [UInt8.toNat_shiftRight, UInt8.toNat_and, Nat.shiftRight_eq_div_pow]
  exact Nat.div_le_of_le_mul masked

theorem missingSequenceNumberDeltaLen_le : (lengthField (typeByte &&& 0x03)).toNat ≤ 6 := by
  refine lengthField_le _ (UInt8.le_iff_toNat_le.mpr ?_)
  rw [UInt8.toNat_and]
  exact Nat.and_le_right

theorem largestAcked_lt {typeByte : UInt8}
    (read : Reads (order.readUintN (lengthField ((typeByte &&& 0x0C) >>> 2)).toNat) input largest
      rest) : largest < 2 ^ 48 := by
  have short := largestAckedLen_le typeByte
  exact lt_of_lt_of_le (ByteOrder.readUintN_lt read) (Nat.pow_le_pow_right (by decide) (by omega))

/-- A frame with missing ranges has blocks. -/
theorem count_ne_zero {numAckBlocks : UInt8}
    (passed : (hasMissingRanges && numAckBlocks == 0) = false) (missing : hasMissingRanges = true) :
    numAckBlocks.toNat ≠ 0 := by
  rw [missing, Bool.true_and, beq_eq_false_iff_ne] at passed
  intro zero
  exact passed (UInt8.toNat_inj.mp zero)

theorem sound_of_parseAckFrame {version : VersionNumber} {f : AckFrame}
    (run : Reads (parseAckFrame version) input f rest) : f.Sound := by
  obtain ⟨typeByte, _, -, run⟩ := run.of_bind
  obtain ⟨_, _, -, run⟩ := run.of_bind
  obtain ⟨largest, _, readLargest, run⟩ := run.of_bind
  obtain ⟨_, _, -, run⟩ := run.of_bind
  obtain ⟨numAckBlocks, _, -, run⟩ := run.of_bind
  obtain ⟨_, _, passed, run⟩ := run.of_bind
  obtain ⟨content, _, parsed, run⟩ := run.of_bind
  obtain ⟨_, _, -, run⟩ := run.of_bind
  obtain ⟨_, _, -, run⟩ := run.of_bind
  cases run
  exact sound_of_parseAckContent (missingSequenceNumberDeltaLen_le typeByte)
    (largestAcked_lt readLargest) (count_ne_zero passed.of_failIf) parsed

/-- The list of ranges is not empty when its last entry is read. -/
theorem noPanic_parseAckContent (order : ByteOrder)
    (largest : Nat) (short : len ≤ 6) (counted : hasMissingRanges = true → count ≠ 0) :
    NoPanic (order.parseAckContent hasMissingRanges count len largest) := by
  have blocks : ∀ (count : Nat) (s : BlockState), NoPanic (order.parseBlocks len count s) := by
    intro count
    induction count with
    | zero => exact fun s => Avoids.pure s
    | succ count ih =>
      intro s
      exact noPanic_readUint8.bind fun _ _ _ _ =>
        (order.noPanic_readUintN len).bind fun _ _ _ _ => ih _
  refine (order.noPanic_readUintN len).bind fun _ length _ _ => ?_
  refine (Avoids.failIf (by simp)).bind fun _ _ _ _ => ?_
  refine (Avoids.failIf (by simp)).bind fun _ _ _ _ => ?_
  refine (Avoids.readIf fun _ => blocks count _).bind fun _ final _ read => ?_
  refine Avoids.bind (Avoids.failIf ?_) fun _ _ _ _ => ?_
  · intro empty
    rw [Bool.and_eq_true] at empty
    obtain ⟨missing, empty⟩ := empty
    subst missing
    obtain ⟨below, ranges, -⟩ :=
      (tracks_of_parseBlocks short (counted rfl) read).ranges_eq
    rw [if_pos rfl, ranges] at empty
    cases empty
  · exact (Avoids.failIf (by simp)).bind fun _ _ _ _ => Avoids.pure _

theorem noPanic_skipTimestampSection (order : ByteOrder) (numTimestamp : Nat) :
    NoPanic (skipTimestampSection order numTimestamp) := by
  have timestamps : ∀ count : Nat, NoPanic (skipTimestamps order count) := by
    intro count
    induction count with
    | zero => exact Avoids.pure ()
    | succ count ih =>
      exact noPanic_readUint8.bind fun _ _ _ _ =>
        order.noPanic_readUint16.bind fun _ _ _ _ => ih
  unfold skipTimestampSection
  split
  · exact noPanic_readUint8.bind fun _ _ _ _ =>
      order.noPanic_readUint32.bind fun _ _ _ _ => timestamps _
  · exact Avoids.pure ()

theorem noPanic_parseAckFrame (version : VersionNumber) : NoPanic (parseAckFrame version) := by
  refine noPanic_readUint8.bind fun _ typeByte _ _ => ?_
  refine (Avoids.readIf fun _ => noPanic_readUint8).bind fun _ _ _ _ => ?_
  refine (ByteOrder.noPanic_readUintN _ _).bind fun _ largest _ _ => ?_
  refine (ByteOrder.noPanic_readUfloat16 _).bind fun _ _ _ _ => ?_
  refine (Avoids.readIf fun _ => noPanic_readUint8).bind fun _ numAckBlocks _ _ => ?_
  refine (Avoids.failIf (by simp)).bind fun _ _ _ passed => ?_
  refine (noPanic_parseAckContent _ largest (missingSequenceNumberDeltaLen_le typeByte)
    (count_ne_zero passed.of_failIf)).bind fun _ _ _ _ => ?_
  refine noPanic_readUint8.bind fun _ _ _ _ => ?_
  exact (noPanic_skipTimestampSection _ _).bind fun _ _ _ _ => Avoids.pure _

/-- Whatever the peer sends, the parser of ACK frames does not index out of range, and a frame that
it accepts acknowledges exactly the numbers in its ranges, which descend with packets missing in
between. -/
theorem parseAckFrame_sound (version : VersionNumber) (input : List UInt8) :
    (∀ reason, (parseAckFrame version).run input ≠ .error (.panic reason)) ∧
      ∀ f rest, Reads (parseAckFrame version) input f rest →
        f.Sound ∧ ∀ p, f.acksPacket p = true ↔ f.Covers p := by
  constructor
  · intro reason panicked
    exact noPanic_parseAckFrame version input _ panicked ⟨reason, rfl⟩
  · intro f rest parsed
    have sound := sound_of_parseAckFrame parsed
    exact ⟨sound, sound.acksPacket_iff⟩

end MPQuic
