import Mathlib.Data.List.Chain
import MPQuic.Wire.AckRange

/-!
# The block encoding of acknowledged ranges is invertible

The writer turns every range after the first one into blocks, the parser folds blocks
back into ranges. `blocksOf` names the blocks of a list of ranges; the writer emits
those of a prefix (`ByteOrder.writeRanges_eq`), and the parser, fed the blocks of a list
of ranges, ends on exactly those ranges (`foldBlocks_blocksOf`). Which prefix is written
is `writable`: the longest one that stays within the block budget.
-/

namespace MPQuic

open AckContent

variable {above below top : AckRange} {rest front back ranges : List AckRange}
  {len first gap : Nat} {s : BlockState} {c : AckContent}

open ByteCodec List

/-! ## Arithmetic of one range -/

/-- `below` lies under `above`, with a packet missing in between. -/
def AckRange.Under (above below : AckRange) : Prop := below.last + 1 < above.first

/-- A range of packets that the wire format can carry. -/
structure AckRange.Valid (r : AckRange) : Prop where
  pos : 1 ≤ r.first
  ordered : r.first ≤ r.last
  bound : r.last < 2 ^ 48

theorem AckRange.Valid.length_eq {r : AckRange} (valid : r.Valid) :
    r.length = r.last - r.first + 1 := by
  have ordered := valid.ordered
  have bound := valid.bound
  rw [AckRange.length, subUint64_of_le ordered (by omega), addUint64_of_lt (by omega)]

theorem AckRange.Under.rangeGap_eq (under : above.Under below)
    (valid : above.Valid) : rangeGap above below = above.first - below.last - 1 := by
  have gap : below.last + 1 < above.first := under
  have ordered := valid.ordered
  have bound := valid.bound
  have inner : subUint64 above.first below.last = above.first - below.last :=
    subUint64_of_le (by omega) (by omega)
  rw [rangeGap, inner, subUint64_of_le (by omega) (by omega)]

theorem gapBlocks_eq (pos : 0 < gap) : gapBlocks gap = (gap - 1) / 255 + 1 := by
  simp only [gapBlocks]
  split <;> omega

/-- A gap is a run of full blocks of length zero and one block with the rest. -/
theorem rangeBlocks_eq (length : Nat) (pos : 0 < gap) (bound : gap < 2 ^ 64) :
    rangeBlocks gap length =
      List.replicate ((gap - 1) / 255) (0xFF, 0) ++ [(1 + (gap - 1) % 255, length)] := by
  unfold rangeBlocks
  rw [gapBlocks_eq pos, subUint64_of_le (show 1 ≤ gap from pos) bound]
  by_cases short : (gap - 1) / 255 = 0
  · have rest : 1 + (gap - 1) % 255 = gap := by omega
    simp [short, rest]
  · have full : ∀ i ∈ List.range ((gap - 1) / 255),
        (if i = (gap - 1) / 255 then (1 + (gap - 1) % 255, length) else (0xFF, 0)) =
          ((0xFF, 0) : Nat × Nat) := by
      intro i mem
      exact if_neg (ne_of_lt (mem_range.mp mem))
    simp only [Nat.add_eq_right, short, if_false, range_succ,
      map_append, Nat.add_sub_cancel, map_congr_left full, map_const',
      length_range, map_cons, map_nil, if_true]

/-! ## Blocks of a list of ranges -/

/-- The blocks of all ranges after the first. -/
def blocksOf : List AckRange → List (Nat × Nat)
  | above :: below :: rest =>
    rangeBlocks (rangeGap above below) below.length ++ blocksOf (below :: rest)
  | _ => []

/-- Ranges in the order and within the bounds of the wire format. -/
structure Descending (ranges : List AckRange) : Prop where
  valid : ∀ r ∈ ranges, r.Valid
  chain : ranges.IsChain AckRange.Under

theorem Descending.tail (desc : Descending (above :: rest)) : Descending rest :=
  ⟨fun r mem => desc.valid r (mem_cons_of_mem _ mem), List.IsChain.tail desc.chain⟩

theorem Descending.left (desc : Descending (front ++ back)) : Descending front :=
  ⟨fun r mem => desc.valid r (mem_append_left _ mem), desc.chain.left_of_append⟩

section

variable (desc : Descending (above :: below :: rest))

include desc

theorem Descending.under : above.Under below :=
  (isChain_cons_cons.mp desc.chain).1

/-- The gap between two consecutive ranges is positive and fits. -/
theorem Descending.gap_pos : 0 < rangeGap above below ∧ rangeGap above below < 2 ^ 48 := by
  have valid := desc.valid above (by simp)
  have under : below.last + 1 < above.first := desc.under
  have ordered := valid.ordered
  have bound := valid.bound
  rw [AckRange.Under.rangeGap_eq desc.under valid]
  omega

theorem Descending.blocksOf_cons :
    blocksOf (above :: below :: rest) =
      List.replicate ((rangeGap above below - 1) / 255) (0xFF, 0) ++
        [(1 + (rangeGap above below - 1) % 255, below.length)] ++ blocksOf (below :: rest) := by
  obtain ⟨pos, bound⟩ := desc.gap_pos
  rw [blocksOf, rangeBlocks_eq _ pos (by omega)]

theorem Descending.rangeBlocks_length :
    (rangeBlocks (rangeGap above below) below.length).length =
      gapBlocks (rangeGap above below) := by
  obtain ⟨pos, bound⟩ := desc.gap_pos
  rw [rangeBlocks_eq _ pos (by omega), gapBlocks_eq pos]
  simp

end

/-! ## Writing -/

/-- The bytes of a list of blocks. -/
def ByteOrder.blockBytes (order : ByteOrder) (len : Nat) (blocks : List (Nat × Nat)) :
    List UInt8 :=
  blocks.flatMap fun block => UInt8.ofNat block.1 :: order.bytes len block.2

variable (order : ByteOrder) (masked : Bool)
  {budget : Nat} {blocks : List (Nat × Nat)}

theorem ByteOrder.writePacketNumber_eq {len v : Nat}
    (mem : len ∈ packetNumberLens) (fits : v < 2 ^ (8 * len)) :
    order.writePacketNumber masked len v = .ok (order.bytes len v) := by
  unfold packetNumberLens at mem
  simp only [mem_cons, not_mem_nil, or_false] at mem
  rcases mem with rfl | rfl | rfl | rfl
  · cases order <;> rfl
  · rw [ByteOrder.writePacketNumber, Nat.mod_eq_of_lt (show v < 2 ^ 16 from fits)]
    rfl
  · rw [ByteOrder.writePacketNumber, Nat.mod_eq_of_lt (show v < 2 ^ 32 from fits)]
    rfl
  · rw [ByteOrder.writePacketNumber, Nat.mod_eq_of_lt (show v < 2 ^ 48 from fits), ite_self]
    exact ByteOrder.writeFitting_ok fits

theorem ByteOrder.writeBlocks_eq (mem : len ∈ packetNumberLens)
    (fits : ∀ block ∈ blocks, block.2 < 2 ^ (8 * len)) :
    order.writeBlocks masked len blocks = .ok (order.blockBytes len blocks) := by
  induction blocks with
  | nil => rfl
  | cons block blocks ih =>
    have first := order.writePacketNumber_eq masked mem (fits block (by simp))
    have later := ih fun b mem => fits b (mem_cons_of_mem _ mem)
    rw [ByteOrder.writeBlocks, first, later]
    rfl

/-- The ranges can be written in blocks of the given length. -/
def FitLength (len : Nat) (ranges : List AckRange) : Prop :=
  ∀ r ∈ ranges, r.length < 2 ^ (8 * len)

theorem Descending.block_bounds (desc : Descending ranges) (fits : FitLength len ranges) :
    ∀ block ∈ blocksOf ranges, block.1 < 256 ∧ block.2 < 2 ^ (8 * len) := by
  induction ranges with
  | nil => exact fun block mem => absurd mem not_mem_nil
  | cons above rest ih =>
    cases rest with
    | nil => exact fun block mem => absurd mem not_mem_nil
    | cons below rest =>
      intro block mem
      rw [desc.blocksOf_cons, append_assoc, mem_append, mem_append] at mem
      rcases mem with mem | mem | mem
      · obtain ⟨-, rfl⟩ := mem_replicate.mp mem
        exact ⟨by norm_num, Nat.two_pow_pos _⟩
      · obtain rfl := mem_singleton.mp mem
        exact ⟨by simp only; omega, fits below (by simp)⟩
      · exact ih desc.tail (fun r mem => fits r (mem_cons_of_mem _ mem)) block mem

/-- One round of the writing loop. -/
theorem ByteOrder.writeRanges_cons {order : ByteOrder} {masked : Bool} {bytes : List UInt8}
    (blocks : order.writeBlocks masked len
      (rangeBlocks (rangeGap above below) below.length) = .ok bytes)
    (numRanges written : Nat) (rest : List AckRange) :
    order.writeRanges masked len numRanges (above :: below :: rest) written =
      if written + (rangeBlocks (rangeGap above below) below.length).length ≥ numRanges then
        .ok (bytes, written + (rangeBlocks (rangeGap above below) below.length).length)
      else
        (order.writeRanges masked len numRanges (below :: rest)
          (written + (rangeBlocks (rangeGap above below) below.length).length)).map
            fun more => (bytes ++ more.1, more.2) := by
  rw [ByteOrder.writeRanges, blocks]
  simp only [bind, Except.bind]
  split
  · rfl
  · cases order.writeRanges masked len numRanges (below :: rest)
      (written + (rangeBlocks (rangeGap above below) below.length).length) <;> rfl

/-- The writing loop, when the announced number of blocks is that of a prefix of the
ranges with at least two of them: it writes the blocks of that prefix and stops. -/
theorem ByteOrder.writeRanges_eq (mem : len ∈ packetNumberLens)
    (desc : Descending (front ++ back)) (fits : FitLength len front) (two : 2 ≤ front.length)
    (written : Nat) :
    order.writeRanges masked len (written + (blocksOf front).length) (front ++ back) written =
      .ok (order.blockBytes len (blocksOf front), written + (blocksOf front).length) := by
  induction front generalizing written with
  | nil => exact absurd two (by simp)
  | cons above front ih =>
    cases front with
    | nil => exact absurd two (by simp)
    | cons below front =>
      have bounds := desc.left.block_bounds fits
      have blocks := order.writeBlocks_eq masked mem
        (fun block mem => (bounds block (mem_append_left _ mem)).2)
      rw [cons_append, cons_append, ByteOrder.writeRanges_cons blocks]
      simp only [blocksOf, length_append]
      cases front with
      | nil => simp [blocksOf]
      | cons next front =>
        have count : 0 < (blocksOf (below :: next :: front)).length := by
          rw [desc.left.tail.blocksOf_cons]
          simp
        have more := ih desc.tail (fun r mem => fits r (mem_cons_of_mem _ mem))
          (by simp) (written + (rangeBlocks (rangeGap above below) below.length).length)
        rw [if_neg (by omega), ← cons_append, ← add_assoc, more]
        simp [ByteOrder.blockBytes, Except.map]

/-! ## Parsing -/

/-- The effect of a list of blocks on the state of the parsing loop. -/
def foldBlocks (s : BlockState) (blocks : List (Nat × Nat)) : BlockState :=
  blocks.foldl (fun s block => s.block block.1 block.2) s

theorem foldBlocks_cons (s : BlockState) (block : Nat × Nat) (blocks : List (Nat × Nat)) :
    foldBlocks s (block :: blocks) = foldBlocks (s.block block.1 block.2) blocks := rfl

theorem foldBlocks_append (s : BlockState) (front back : List (Nat × Nat)) :
    foldBlocks s (front ++ back) = foldBlocks (foldBlocks s front) back :=
  foldl_append

theorem ByteOrder.reads_parseBlocks (rest : List UInt8)
    (bounds : ∀ block ∈ blocks, block.1 < 256 ∧ block.2 < 2 ^ (8 * len)) (s : BlockState) :
    Reads (order.parseBlocks len blocks.length s) (order.blockBytes len blocks ++ rest)
      (foldBlocks s blocks) rest := by
  induction blocks generalizing s with
  | nil => exact Reads.pure _ _
  | cons block blocks ih =>
    obtain ⟨gap, length⟩ := bounds block (by simp)
    have later := ih (fun b mem => bounds b (mem_cons_of_mem _ mem))
      (s.block block.1 block.2)
    have gapByte : (UInt8.ofNat block.1).toNat = block.1 := by
      rw [UInt8.toNat_ofNat']
      exact Nat.mod_eq_of_lt gap
    simp only [ByteOrder.blockBytes, flatMap_cons, cons_append, append_assoc,
      length_cons]
    refine Reads.bind (Reads.byte _ _ _) ?_
    refine Reads.bind (order.readUintN_bytes_of_lt _ length) ?_
    rw [gapByte]
    exact later

/-- The state inside a long gap below packet `first`, after `n` full blocks. -/
def longGap (above : List AckRange) (first n : Nat) : BlockState where
  above := above
  current := { first := first - 255 * n, last := first - 255 * n - 1 }
  inLongBlock := true
  lastRangeComplete := false

theorem BlockState.block_full (short : s.inLongBlock = false)
    (room : 255 < s.current.first) (bound : s.current.first < 2 ^ 48) :
    s.block 0xFF 0 = longGap (s.above ++ [s.current]) s.current.first 1 := by
  have last : subUint64 (subUint64 s.current.first 0xFF) 1 = s.current.first - 255 - 1 := by
    rw [subUint64_of_le (by omega) (by omega : s.current.first < 2 ^ 64),
      subUint64_of_le (by omega) (by omega)]
  have first : addUint64 (subUint64 (s.current.first - 255 - 1) 0) 1 =
      s.current.first - 255 := by
    rw [subUint64_of_le (by omega) (by omega), addUint64_of_lt (by omega)]
    omega
  simp [BlockState.block, short, longGap, last, first]

theorem longGap_block_full (above : List AckRange) {first n : Nat}
    (room : 255 * (n + 1) < first) (bound : first < 2 ^ 48) :
    (longGap above first n).block 0xFF 0 = longGap above first (n + 1) := by
  have newFirst : subUint64 (first - 255 * n) (addUint64 0xFF 0) = first - 255 * (n + 1) := by
    rw [addUint64_of_lt (by omega), subUint64_of_le (by omega) (by omega)]
    omega
  have newLast : subUint64 (first - 255 * n - 1) 0xFF = first - 255 * (n + 1) - 1 := by
    rw [subUint64_of_le (by omega) (by omega)]
    omega
  simp [BlockState.block, longGap, newFirst, newLast]

/-- Full blocks extend a long gap. -/
theorem foldBlocks_longGap (above : List AckRange) (bound : first < 2 ^ 48)
    (count n : Nat) (room : 255 * (n + count) < first) :
    foldBlocks (longGap above first n) (List.replicate count (0xFF, 0)) =
      longGap above first (n + count) := by
  induction count generalizing n with
  | zero => rfl
  | succ count ih =>
    have step := longGap_block_full above (show 255 * (n + 1) < first by omega) bound
    have later := ih (n + 1) (by omega)
    rw [add_right_comm, add_assoc] at later
    rw [replicate_succ, foldBlocks_cons, step]
    exact later

/-- The last block of a long gap completes the range below it. -/
theorem longGap_block_last (above : List AckRange) (n gap length : Nat)
    (room : 255 * n + gap + length < first) (pos : 0 < length) (bound : first < 2 ^ 48) :
    (longGap above first n).block gap length =
      { above := above
        current := { first := first - 255 * n - gap - length, last := first - 255 * n - gap - 1 }
        inLongBlock := false
        lastRangeComplete := true } := by
  have newFirst : subUint64 (first - 255 * n) (addUint64 gap length) =
      first - 255 * n - gap - length := by
    rw [addUint64_of_lt (by omega), subUint64_of_le (by omega) (by omega)]
    omega
  have newLast : subUint64 (first - 255 * n - 1) gap = first - 255 * n - gap - 1 := by
    rw [subUint64_of_le (by omega) (by omega)]
    omega
  simp [BlockState.block, longGap, newFirst, newLast, pos, ne_of_gt pos]

/-- A gap in one block. -/
theorem BlockState.block_short (gap length : Nat)
    (short : s.inLongBlock = false) (room : gap + length < s.current.first) (pos : 0 < length)
    (bound : s.current.first < 2 ^ 48) :
    s.block gap length =
      { above := s.above ++ [s.current]
        current := { first := s.current.first - gap - length, last := s.current.first - gap - 1 }
        inLongBlock := false
        lastRangeComplete := true } := by
  have last : subUint64 (subUint64 s.current.first gap) 1 = s.current.first - gap - 1 := by
    rw [subUint64_of_le (by omega) (by omega : s.current.first < 2 ^ 64),
      subUint64_of_le (by omega) (by omega)]
  have first : addUint64 (subUint64 (s.current.first - gap - 1) length) 1 =
      s.current.first - gap - length := by
    rw [subUint64_of_le (by omega) (by omega), addUint64_of_lt (by omega)]
    omega
  simp [BlockState.block, short, last, first, pos, ne_of_gt pos]

/-- The blocks of one range move the loop from the range above to that range. -/
theorem Descending.foldBlocks_range (desc : Descending (above :: below :: rest))
    (short : s.inLongBlock = false) (current : s.current = above) :
    foldBlocks s (rangeBlocks (rangeGap above below) below.length) =
      { above := s.above ++ [above]
        current := below
        inLongBlock := false
        lastRangeComplete := true } := by
  have validAbove := desc.valid above (by simp)
  have validBelow := desc.valid below (by simp)
  have under : below.last + 1 < above.first := desc.under
  have bound := validAbove.bound
  have orderedAbove := validAbove.ordered
  have orderedBelow := validBelow.ordered
  have pos := validBelow.pos
  have gapEq := AckRange.Under.rangeGap_eq desc.under validAbove
  have lengthEq := validBelow.length_eq
  obtain ⟨gapPos, gapBound⟩ := desc.gap_pos
  rw [rangeBlocks_eq _ gapPos (by omega), foldBlocks_append]
  subst current
  cases full : (rangeGap s.current below - 1) / 255 with
  | zero =>
    have last := BlockState.block_short (1 + (rangeGap s.current below - 1) % 255)
      below.length short (by omega) (by omega) (by omega)
    have ends : (⟨s.current.first - (1 + (rangeGap s.current below - 1) % 255) - below.length,
        s.current.first - (1 + (rangeGap s.current below - 1) % 255) - 1⟩ : AckRange) = below :=
      AckRange.ext (by simp only; omega) (by simp only; omega)
    rw [ends] at last
    exact last
  | succ n =>
    have first := BlockState.block_full short (by omega) (by omega)
    have run := foldBlocks_longGap (s.above ++ [s.current])
      (show s.current.first < 2 ^ 48 by omega) n 1 (by omega)
    have last := longGap_block_last (s.above ++ [s.current]) (1 + n)
      (1 + (rangeGap s.current below - 1) % 255) below.length
      (show _ < s.current.first by omega) (by omega) (by omega)
    have ends : (⟨s.current.first - 255 * (1 + n) -
          (1 + (rangeGap s.current below - 1) % 255) - below.length,
        s.current.first - 255 * (1 + n) - (1 + (rangeGap s.current below - 1) % 255) - 1⟩ :
        AckRange) = below :=
      AckRange.ext (by simp only; omega) (by simp only; omega)
    have start : foldBlocks s (List.replicate (n + 1) (0xFF, 0)) =
        longGap (s.above ++ [s.current]) s.current.first (1 + n) := by
      rw [replicate_succ, foldBlocks_cons]
      simp only [first, run]
    rw [ends] at last
    rw [start]
    exact last

/-- Reading the blocks of a list of ranges yields those ranges. -/
theorem Descending.foldBlocks_blocksOf
    (desc : Descending (top :: rest)) (short : s.inLongBlock = false)
    (current : s.current = top) (complete : rest ≠ [] ∨ s.lastRangeComplete = true) :
    (foldBlocks s (blocksOf (top :: rest))).ranges = s.above ++ top :: rest := by
  induction rest generalizing top s with
  | nil =>
    have done := complete.resolve_left (fun h => h rfl)
    simp [foldBlocks, blocksOf, BlockState.ranges, done, current]
  | cons below rest ih =>
    have step := desc.foldBlocks_range short current
    have later := ih desc.tail (s := ⟨s.above ++ [top], below, false, true⟩) rfl rfl (Or.inr rfl)
    rw [blocksOf, foldBlocks_append, step, later, append_assoc]
    rfl

/-! ## The block budget -/

/-- The blocks that ranges take: one for the first range, and one for every 255 packets
missing in front of each later one, or part of them. -/
def blocksNeeded : List AckRange → Nat
  | above :: below :: rest =>
    (above.first - below.last - 1 + 254) / 255 + blocksNeeded (below :: rest)
  | [_] => 1
  | [] => 0

/-- `chosen` is the longest prefix of `ranges` that fits into 255 blocks. -/
structure LongestFitting (ranges chosen : List AckRange) : Prop where
  front : chosen <+: ranges
  fits : blocksNeeded chosen ≤ 255
  longest : ∀ other, other <+: ranges → blocksNeeded other ≤ 255 → other.length ≤ chosen.length

theorem Descending.blocksNeeded_eq (desc : Descending (top :: rest)) :
    blocksNeeded (top :: rest) = (blocksOf (top :: rest)).length + 1 := by
  induction rest generalizing top with
  | nil => rfl
  | cons below rest ih =>
    have gapEq := AckRange.Under.rangeGap_eq desc.under (desc.valid top (by simp))
    have later := ih desc.tail
    obtain ⟨pos, -⟩ := desc.gap_pos
    rw [blocksNeeded, blocksOf, length_append, desc.rangeBlocks_length, gapBlocks_eq pos,
      later, gapEq]
    omega

/-- The prefix of the ranges whose blocks stay within the budget. -/
def writable : Nat → List AckRange → List AckRange
  | budget, above :: below :: rest =>
    if gapBlocks (rangeGap above below) ≤ budget then
      above :: writable (budget - gapBlocks (rangeGap above below)) (below :: rest)
    else [above]
  | _, ranges => ranges

theorem writable_cons (budget : Nat) (top : AckRange) (rest : List AckRange) :
    ∃ more, writable budget (top :: rest) = top :: more := by
  cases rest with
  | nil => exact ⟨[], rfl⟩
  | cons below rest =>
    unfold writable
    split
    · exact ⟨_, rfl⟩
    · exact ⟨[], rfl⟩

theorem writable_append (budget : Nat) (ranges : List AckRange) :
    ∃ back, ranges = writable budget ranges ++ back := by
  induction ranges generalizing budget with
  | nil => exact ⟨[], rfl⟩
  | cons above rest ih =>
    cases rest with
    | nil => exact ⟨[], rfl⟩
    | cons below rest =>
      unfold writable
      split
      · obtain ⟨back, split⟩ := ih (budget - gapBlocks (rangeGap above below))
        exact ⟨back, congrArg (above :: ·) split⟩
      · exact ⟨below :: rest, rfl⟩

theorem Descending.of_writable (desc : Descending ranges)
    (budget : Nat) : Descending (writable budget ranges) := by
  obtain ⟨back, split⟩ := writable_append budget ranges
  rw [split] at desc
  exact desc.left

/-- The blocks of the writable prefix, one range at a time. -/
theorem Descending.blocksOf_writable (desc : Descending (above :: below :: rest))
    (room : gapBlocks (rangeGap above below) ≤ budget) :
    (blocksOf (writable budget (above :: below :: rest))).length =
      gapBlocks (rangeGap above below) +
        (blocksOf (writable (budget - gapBlocks (rangeGap above below))
          (below :: rest))).length := by
  obtain ⟨more, head⟩ := writable_cons (budget - gapBlocks (rangeGap above below)) below rest
  rw [writable, if_pos room, head, blocksOf, length_append, desc.rangeBlocks_length]

/-- The counting loop counts the blocks of the writable prefix. -/
theorem Descending.countWritable_eq (desc : Descending ranges)
    {numRanges : Nat} (bound : numRanges ≤ 254) :
    countWritable ranges numRanges =
      numRanges + (blocksOf (writable (254 - numRanges) ranges)).length := by
  induction ranges generalizing numRanges with
  | nil => rfl
  | cons above rest ih =>
    cases rest with
    | nil => rfl
    | cons below rest =>
      unfold countWritable
      by_cases room : gapBlocks (rangeGap above below) ≤ 254 - numRanges
      · have later := ih desc.tail
          (show numRanges + gapBlocks (rangeGap above below) ≤ 254 by omega)
        have split := desc.blocksOf_writable room
        rw [Nat.sub_sub] at split
        simp only [if_pos (show numRanges + gapBlocks (rangeGap above below) < 0xFF by omega)]
        omega
      · have stop : writable (254 - numRanges) (above :: below :: rest) = [above] := by
          rw [writable, if_neg room]
        simp only [if_neg (show ¬numRanges + gapBlocks (rangeGap above below) < 0xFF by omega),
          stop, blocksOf, length_nil, add_zero]

theorem Descending.blocksOf_writable_le (desc : Descending ranges)
    (budget : Nat) : (blocksOf (writable budget ranges)).length ≤ budget := by
  induction ranges generalizing budget with
  | nil => exact Nat.zero_le _
  | cons above rest ih =>
    cases rest with
    | nil => exact Nat.zero_le _
    | cons below rest =>
      by_cases room : gapBlocks (rangeGap above below) ≤ budget
      · have later := ih desc.tail (budget - gapBlocks (rangeGap above below))
        rw [desc.blocksOf_writable room]
        omega
      · rw [writable, if_neg room]
        exact Nat.zero_le _

/-- No prefix within the budget is longer than the writable one. -/
theorem Descending.length_le_writable (desc : Descending (front ++ back))
    (fits : (blocksOf front).length ≤ budget) :
    front.length ≤ (writable budget (front ++ back)).length := by
  induction front generalizing budget with
  | nil => exact Nat.zero_le _
  | cons above front ih =>
    cases front with
    | nil =>
      obtain ⟨more, head⟩ := writable_cons budget above back
      rw [cons_append, nil_append, head]
      simp
    | cons below front =>
      have count := desc.rangeBlocks_length
      rw [blocksOf, length_append, count] at fits
      have later := ih desc.tail
        (show _ ≤ budget - gapBlocks (rangeGap above below) by omega)
      rw [cons_append, cons_append, writable, if_pos (by omega),
        length_cons, length_cons]
      exact Nat.succ_le_succ later

/-- What the counting loop admits is the longest prefix that fits into 255 blocks. -/
theorem Descending.longestFitting (desc : Descending ranges) :
    LongestFitting ranges (writable 254 ranges) := by
  cases ranges with
  | nil => exact ⟨ nil_prefix, Nat.zero_le _, fun other front _ => front.length_le⟩
  | cons top rest =>
    obtain ⟨back, split⟩ := writable_append 254 (top :: rest)
    obtain ⟨more, head⟩ := writable_cons 254 top rest
    have within := desc.blocksOf_writable_le 254
    have chosen := desc.of_writable 254
    refine ⟨⟨back, split.symm⟩, ?_, ?_⟩
    · rw [head] at chosen within ⊢
      rw [chosen.blocksNeeded_eq]
      omega
    · rintro other ⟨after, rest_eq⟩ fits
      rw [← rest_eq] at desc ⊢
      cases other with
      | nil => exact Nat.zero_le _
      | cons first other =>
        rw [desc.left.blocksNeeded_eq] at fits
        exact desc.length_le_writable (by omega)

/-! ## Well-formed content -/

/-- Ranges as the acknowledgement code builds them: at least two, from the largest down
to the lowest packet, in strictly descending order and never adjacent. -/
structure AckContent.SplitIntoRanges (c : AckContent) : Prop where
  two : 2 ≤ c.ackRanges.length
  nonempty : ∀ r ∈ c.ackRanges, r.first ≤ r.last
  chain : c.ackRanges.IsChain AckRange.Under
  top : c.ackRanges.head?.map AckRange.last = some c.largestAcked
  bottom : c.ackRanges.getLast?.map AckRange.first = some c.lowestAcked

/-- The bounds and the ranges are consistent. -/
structure AckContent.WellFormed (c : AckContent) : Prop where
  lowest : 1 ≤ c.lowestAcked
  ordered : c.lowestAcked ≤ c.largestAcked
  bound : c.largestAcked < 2 ^ 48
  ranges : c.ackRanges = [] ∨ c.SplitIntoRanges

/-- In a descending list the first range is the highest and the last one the lowest. -/
theorem chain_bounds (nonempty : ∀ r ∈ top :: rest, r.first ≤ r.last)
    (chain : (top :: rest).IsChain AckRange.Under) :
    ∀ r ∈ top :: rest, r.last ≤ top.last ∧
      ((top :: rest).getLast (cons_ne_nil _ _)).first ≤ r.first := by
  induction rest generalizing top with
  | nil =>
    intro r mem
    obtain rfl := mem_singleton.mp mem
    exact ⟨le_refl _, le_refl _⟩
  | cons below rest ih =>
    intro r mem
    obtain ⟨under, chain⟩ := isChain_cons_cons.mp chain
    have gap : below.last + 1 < top.first := under
    have topOrdered := nonempty top (by simp)
    have belowOrdered := nonempty below (by simp)
    have inner := ih (fun r mem => nonempty r (mem_cons_of_mem _ mem)) chain
    rw [getLast_cons (cons_ne_nil _ _)]
    rcases mem_cons.mp mem with rfl | mem
    · have lowest := (inner below (by simp)).2
      exact ⟨le_refl _, by omega⟩
    · obtain ⟨last, first⟩ := inner r mem
      exact ⟨by omega, first⟩

/-- In a descending list every range lies under all ranges in front of it. -/
theorem chain_pairwise (nonempty : ∀ r ∈ ranges, r.first ≤ r.last)
    (chain : ranges.IsChain AckRange.Under) :
    ranges.Pairwise fun above below => below.last < above.first := by
  induction ranges with
  | nil => exact List.Pairwise.nil
  | cons top rest ih =>
    have later := ih (fun r mem => nonempty r (mem_cons_of_mem _ mem))
      (List.IsChain.tail chain)
    refine pairwise_cons.mpr ⟨fun r mem => ?_, later⟩
    cases rest with
    | nil => exact absurd mem not_mem_nil
    | cons below rest =>
      obtain ⟨under, chain⟩ := isChain_cons_cons.mp chain
      have gap : below.last + 1 < top.first := under
      have high := (chain_bounds (fun r mem => nonempty r (mem_cons_of_mem _ mem))
        chain r mem).1
      omega

section SplitIntoRanges

variable {c : AckContent} {top below : AckRange} {rest : List AckRange}

theorem AckContent.WellFormed.split (ok : c.WellFormed) (ranges : c.ackRanges = top :: rest) :
    c.SplitIntoRanges := by
  rcases ok.ranges with empty | split
  · exact absurd (ranges.symm.trans empty) (cons_ne_nil _ _)
  · exact split

theorem AckContent.WellFormed.top_last (ok : c.WellFormed) (ranges : c.ackRanges = top :: rest) :
    top.last = c.largestAcked := by
  have largest := (ok.split ranges).top
  rw [ranges] at largest
  exact Option.some.inj largest

theorem AckContent.WellFormed.getLast_first (ok : c.WellFormed)
    (ranges : c.ackRanges = top :: rest) :
    ((top :: rest).getLast (cons_ne_nil _ _)).first = c.lowestAcked := by
  have lowest := (ok.split ranges).bottom
  rw [ranges, getLast?_eq_some_getLast (cons_ne_nil _ _)] at lowest
  exact Option.some.inj lowest

theorem AckContent.WellFormed.descending (ok : c.WellFormed) : Descending c.ackRanges := by
  cases ranges : c.ackRanges with
  | nil => exact ⟨fun r mem => absurd mem not_mem_nil, List.IsChain.nil⟩
  | cons top rest =>
    obtain ⟨-, nonempty, chain, -, -⟩ := ok.split ranges
    rw [ranges] at nonempty chain
    refine ⟨fun r mem => ?_, chain⟩
    obtain ⟨last, first⟩ := chain_bounds nonempty chain r mem
    have lowest := ok.lowest
    have bound := ok.bound
    rw [ok.top_last ranges] at last
    rw [ok.getLast_first ranges] at first
    exact ⟨by omega, nonempty r mem, by omega⟩

theorem Descending.length_pos {ranges : List AckRange} (desc : Descending ranges) :
    ∀ r ∈ ranges, 0 < r.length ∧ r.length < 2 ^ 48 := by
  intro r mem
  have valid := desc.valid r mem
  have pos := valid.pos
  have ordered := valid.ordered
  have bound := valid.bound
  rw [valid.length_eq]
  omega

end SplitIntoRanges

/-- The maximum loop of `getMissingSequenceNumberDeltaLen`. -/
theorem foldl_max_bounds (ranges : List AckRange) (start : Nat) :
    let result := ranges.foldl (fun maxRangeLength ackRange =>
      if ackRange.length > maxRangeLength then ackRange.length else maxRangeLength) start
    (∀ r ∈ ranges, r.length ≤ result) ∧ start ≤ result ∧
      ∀ bound, start < bound → (∀ r ∈ ranges, r.length < bound) → result < bound := by
  induction ranges generalizing start with
  | nil => exact ⟨fun r mem => absurd mem not_mem_nil, le_refl _, fun _ h _ => h⟩
  | cons r ranges ih =>
    obtain ⟨each, above, below⟩ := ih (if r.length > start then r.length else start)
    simp only [foldl_cons]
    refine ⟨?_, ?_, ?_⟩
    · intro x mem
      rcases mem_cons.mp mem with rfl | mem
      · refine le_trans ?_ above
        split <;> omega
      · exact each x mem
    · refine le_trans ?_ above
      split <;> omega
    · intro bound small all
      refine below bound ?_ fun x mem => all x (mem_cons_of_mem _ mem)
      have head := all r (by simp)
      split <;> omega

theorem AckContent.getMissingSequenceNumberDeltaLen_mem (c : AckContent) :
    c.getMissingSequenceNumberDeltaLen ∈ packetNumberLens := by
  unfold getMissingSequenceNumberDeltaLen packetNumberLens
  split_ifs <;> simp

theorem getPacketNumberLength_mem (p : Nat) : getPacketNumberLength p ∈ packetNumberLens := by
  unfold getPacketNumberLength packetNumberLens
  split_ifs <;> simp

theorem lt_of_getPacketNumberLength {p : Nat} (bound : p < 2 ^ 48) :
    p < 2 ^ (8 * getPacketNumberLength p) := by
  unfold getPacketNumberLength
  split_ifs <;> omega

theorem AckContent.maxRangeLength_lt (bound : c.maxRangeLength < 2 ^ 48) :
    c.maxRangeLength < 2 ^ (8 * c.getMissingSequenceNumberDeltaLen) := by
  unfold getMissingSequenceNumberDeltaLen
  split_ifs <;> omega

/-- The chosen block length fits every range. -/
theorem AckContent.WellFormed.fitLength (ok : c.WellFormed) :
    FitLength c.getMissingSequenceNumberDeltaLen c.ackRanges := by
  intro r mem
  have missing : c.hasMissingRanges = true := by
    simp [hasMissingRanges, length_pos_of_mem mem]
  obtain ⟨each, -, below⟩ := foldl_max_bounds c.ackRanges 0
  have maxEq : c.maxRangeLength = c.ackRanges.foldl (fun maxRangeLength ackRange =>
      if ackRange.length > maxRangeLength then ackRange.length else maxRangeLength) 0 := by
    rw [maxRangeLength, if_pos missing]
  have small : c.maxRangeLength < 2 ^ 48 := by
    rw [maxEq]
    exact below _ (by norm_num) fun r mem => (ok.descending.length_pos r mem).2
  have le := each r mem
  rw [← maxEq] at le
  exact lt_of_le_of_lt le (maxRangeLength_lt small)

/-- Without missing packets the one block covers the whole interval. -/
theorem AckContent.WellFormed.whole_lt (ok : c.WellFormed) (whole : c.ackRanges = []) :
    c.largestAcked - c.lowestAcked + 1 < 2 ^ (8 * c.getMissingSequenceNumberDeltaLen) := by
  have lowest := ok.lowest
  have ordered := ok.ordered
  have bound := ok.bound
  have maxEq : c.maxRangeLength = c.largestAcked - c.lowestAcked + 1 := by
    rw [maxRangeLength, hasMissingRanges, whole]
    simp only [length_nil, lt_irrefl, decide_false, Bool.false_eq_true, if_false]
    rw [subUint64_of_le ordered (by omega), addUint64_of_lt (by omega)]
  rw [← maxEq]
  exact maxRangeLength_lt (by omega)

/-! ## Parsing the content -/

theorem Descending.rangesDescend_eq (desc : Descending ranges) : rangesDescend ranges = true := by
  induction ranges with
  | nil => rfl
  | cons above rest ih =>
    cases rest with
    | nil => rfl
    | cons below rest =>
      have under : below.last + 1 < above.first := desc.under
      have valid := desc.valid below (by simp)
      have ordered := valid.ordered
      have bound := valid.bound
      rw [rangesDescend, addUint64_of_lt (by omega), if_neg (by omega), if_neg (by omega)]
      exact ih desc.tail

theorem Descending.validates
    (desc : Descending c.ackRanges) (ranges : c.ackRanges = top :: below :: rest)
    (largest : top.last = c.largestAcked) : c.validateAckRanges = true := by
  have inverted : (c.ackRanges.any fun ackRange => ackRange.first > ackRange.last) = false := by
    rw [any_eq_false]
    intro r mem
    have ordered := (desc.valid r mem).ordered
    simpa using ordered
  have descend := desc.rangesDescend_eq
  unfold validateAckRanges
  rw [ranges] at inverted descend ⊢
  simp only [inverted, largest, ne_eq, not_true_eq_false, if_false, Bool.false_eq_true]
  exact descend

/-- The parser on the blocks of ranges that fit. -/
theorem Descending.reads_parseAckContent
    (desc : Descending (top :: below :: rest)) (order : ByteOrder)
    (fits : FitLength len (top :: below :: rest)) (tail : List UInt8) :
    Reads (order.parseAckContent true (blocksOf (top :: below :: rest)).length len top.last)
      (order.bytes len top.length ++
        (order.blockBytes len (blocksOf (top :: below :: rest)) ++ tail))
      { largestAcked := top.last
        lowestAcked := ((top :: below :: rest).getLast (cons_ne_nil _ _)).first
        ackRanges := top :: below :: rest } tail := by
  have valid := desc.valid top (by simp)
  have pos := valid.pos
  have ordered := valid.ordered
  have bound := valid.bound
  have lengthEq := valid.length_eq
  have bounds := desc.block_bounds fits
  have first : addUint64 (subUint64 top.last top.length) 1 = top.first := by
    rw [lengthEq, subUint64_of_le (by omega) (by omega), addUint64_of_lt (by omega)]
    omega
  have folded := desc.foldBlocks_blocksOf (s := { above := [], current := top }) rfl rfl
    (Or.inl (cons_ne_nil _ _))
  have validates := Descending.validates (c :=
    { largestAcked := top.last
      lowestAcked := ((top :: below :: rest).getLast (cons_ne_nil _ _)).first
      ackRanges := top :: below :: rest }) desc rfl rfl
  refine Reads.bind (order.readUintN_bytes_of_lt _ (fits top (by simp))) ?_
  refine Reads.bind (Reads.failIf (by simp; omega) _) ?_
  refine Reads.bind (Reads.failIf (by simp; omega) _) ?_
  simp only [first]
  refine Reads.bind (Reads.readIf_true (order.reads_parseBlocks _ bounds _)) ?_
  simp only [if_true, folded, nil_append]
  refine Reads.bind (Reads.failIf rfl _) ?_
  rw [getLast?_eq_some_getLast (cons_ne_nil _ _), Option.map_some, Option.getD_some]
  refine Reads.bind (Reads.failIf (by rw [validates]; rfl) _) ?_
  exact Reads.pure _ _

/-- The parser on a single block without missing packets. -/
theorem reads_parseAckContent_whole {len largest lowest : Nat}
    (pos : 1 ≤ lowest) (ordered : lowest ≤ largest) (bound : largest < 2 ^ 48)
    (fits : largest - lowest + 1 < 2 ^ (8 * len)) (tail : List UInt8) :
    Reads (order.parseAckContent false 0 len largest)
      (order.bytes len (largest - lowest + 1) ++ tail)
      { largestAcked := largest, lowestAcked := lowest } tail := by
  have notZero : ¬largest = 0 := by omega
  have lowestEq : subUint64 (addUint64 largest 1) (largest - lowest + 1) = lowest := by
    rw [addUint64_of_lt (by omega), subUint64_of_le (by omega) (by omega)]
    omega
  refine Reads.bind (order.readUintN_bytes_of_lt _ fits) ?_
  refine Reads.bind (Reads.failIf (by simp) _) ?_
  refine Reads.bind (Reads.failIf (by simp; omega) _) ?_
  refine Reads.bind (Reads.readIf_false _) ?_
  refine Reads.bind (Reads.failIf rfl _) ?_
  simp only [Bool.false_eq_true, if_false, if_neg notZero, lowestEq]
  refine Reads.bind (Reads.failIf rfl _) ?_
  exact Reads.pure _ _

end MPQuic
