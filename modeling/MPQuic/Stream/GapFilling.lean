import MPQuic.Lib.Reassembly
import MPQuic.StreamFrameSorter

/-!
# Pushing frames into gaps

The sorter of a reliable stream is a reassembly buffer: its gaps are what is missing, and
pushing a frame that belongs to the content inserts the part of the frame between the first
and the last missing byte. What is left of the gaps once a frame is there is the list of the pieces
that the frame leaves of each gap (`gapsWithout`).
-/

namespace MPQuic

open List Reassembly StreamFrame

/-! ## Gap lists -/

/-- The bytes of the gaps. -/
def gapBytes (gaps : List ByteInterval) : Set ℕ :=
  {p | ∃ g ∈ gaps, p ∈ Set.Ico g.start g.stop}

/-- Gaps are not empty, and at least one byte lies between two of them. -/
structure Gapped (gaps : List ByteInterval) : Prop where
  nonempty : ∀ g ∈ gaps, g.start < g.stop
  separated : gaps.Pairwise fun a b => a.stop < b.start

section GapLists

variable {gaps before after passed rest : List ByteInterval} {gap endGap : ByteInterval}
  {start stop : ℕ}

theorem mem_gapBytes_append {p : ℕ} :
    p ∈ gapBytes (before ++ after) ↔ p ∈ gapBytes before ∨ p ∈ gapBytes after := by
  unfold gapBytes
  simp only [Set.mem_ofPred_eq, mem_append, or_and_right, exists_or]

section

variable (gapped : Gapped (before ++ after))

include gapped

theorem Gapped.append_left : Gapped before :=
  ⟨fun g member => gapped.nonempty g (mem_append_left _ member),
    (pairwise_append.mp gapped.separated).1⟩

theorem Gapped.append_right : Gapped after :=
  ⟨fun g member => gapped.nonempty g (mem_append_right _ member),
    (pairwise_append.mp gapped.separated).2.1⟩

theorem Gapped.between {a b : ByteInterval} (left : a ∈ before) (right : b ∈ after) :
    a.stop < b.start :=
  (pairwise_append.mp gapped.separated).2.2 a left b right

end

end GapLists

/-! ## Gaps without a frame -/

/-- What is left of a gap without the bytes from `start` to `stop`. -/
def ByteInterval.without (start stop : ℕ) (g : ByteInterval) : List ByteInterval :=
  (if g.start < min g.stop start then [{ start := g.start, stop := min g.stop start }] else []) ++
    (if max g.start stop < g.stop then [{ start := max g.start stop, stop := g.stop }] else [])

/-- What is left of the gaps once the bytes of a frame are there. -/
def gapsWithout (frame : StreamFrame) (gaps : List ByteInterval) : List ByteInterval :=
  gaps.flatMap (ByteInterval.without frame.offset (frame.offset + frame.data.length))

/-- The bytes of a frame. -/
def StreamFrame.bytes (frame : StreamFrame) : Set ℕ :=
  Set.Ico frame.offset (frame.offset + frame.data.length)

/-- The bytes from `start` to `stop` as a gap, if there are any. -/
def piece (start stop : ℕ) : List ByteInterval := if start < stop then [{ start, stop }] else []

section Without

variable {gaps : List ByteInterval} {g : ByteInterval} {start stop p : ℕ} {frame : StreamFrame}

theorem mem_piece : g ∈ piece start stop ↔ start < stop ∧ g = { start, stop } := by
  unfold piece
  split
  · rename_i below
    rw [mem_singleton, and_iff_right below]
  · rename_i notBelow
    exact iff_of_false not_mem_nil fun both => notBelow both.1

theorem piece_of_le (le : stop ≤ start) : piece start stop = [] := if_neg (not_lt.mpr le)

theorem pairwise_piece (start stop : ℕ) (R : ByteInterval → ByteInterval → Prop) :
    (piece start stop).Pairwise R := by
  unfold piece
  split <;> simp

theorem length_piece_le (start stop : ℕ) : (piece start stop).length ≤ 1 := by
  unfold piece
  split <;> simp

theorem mem_gapBytes_piece : p ∈ gapBytes (piece start stop) ↔ start ≤ p ∧ p < stop := by
  constructor
  · rintro ⟨g, mem, inside⟩
    obtain ⟨-, rfl⟩ := mem_piece.mp mem
    exact inside
  · intro inside
    exact ⟨_, mem_piece.mpr ⟨by omega, rfl⟩, inside⟩

theorem without_eq (g : ByteInterval) (start stop : ℕ) :
    g.without start stop = piece g.start (min g.stop start) ++ piece (max g.start stop) g.stop :=
  rfl

theorem mem_without {left : ByteInterval} (mem : left ∈ g.without start stop) :
    left.start < left.stop ∧ g.start ≤ left.start ∧ left.stop ≤ g.stop := by
  rcases mem_append.mp mem with first | second
  · obtain ⟨below, rfl⟩ := mem_piece.mp first
    exact ⟨below, le_refl _, min_le_left _ _⟩
  · obtain ⟨below, rfl⟩ := mem_piece.mp second
    exact ⟨below, le_max_left _ _, le_refl _⟩

theorem mem_gapBytes_without :
    p ∈ gapBytes (g.without start stop) ↔
      p ∈ Set.Ico g.start g.stop ∧ p ∉ Set.Ico start stop := by
  rw [without_eq, mem_gapBytes_append, mem_gapBytes_piece, mem_gapBytes_piece, Set.mem_Ico,
    Set.mem_Ico]
  omega

theorem separated_without (inside : start < stop) :
    (g.without start stop).Pairwise fun a b => a.stop < b.start := by
  refine pairwise_append.mpr ⟨pairwise_piece _ _ _, pairwise_piece _ _ _,
    fun a first b second => ?_⟩
  obtain ⟨-, rfl⟩ := mem_piece.mp first
  obtain ⟨-, rfl⟩ := mem_piece.mp second
  simp only
  omega

theorem mem_gapBytes_gapsWithout :
    p ∈ gapBytes (gapsWithout frame gaps) ↔ p ∈ gapBytes gaps ∧ p ∉ frame.bytes := by
  have split : p ∈ gapBytes (gapsWithout frame gaps) ↔ ∃ g ∈ gaps,
      p ∈ gapBytes (g.without frame.offset (frame.offset + frame.data.length)) := by
    unfold gapBytes gapsWithout
    simp only [Set.mem_ofPred_eq, mem_flatMap]
    constructor
    · rintro ⟨piece, ⟨g, mem, inWithout⟩, inPiece⟩
      exact ⟨g, mem, piece, inWithout, inPiece⟩
    · rintro ⟨g, mem, piece, inWithout, inPiece⟩
      exact ⟨piece, ⟨g, mem, inWithout⟩, inPiece⟩
  rw [split]
  constructor
  · rintro ⟨g, mem, inWithout⟩
    obtain ⟨inGap, outside⟩ := mem_gapBytes_without.mp inWithout
    exact ⟨⟨g, mem, inGap⟩, outside⟩
  · rintro ⟨⟨g, mem, inGap⟩, outside⟩
    exact ⟨g, mem, mem_gapBytes_without.mpr ⟨inGap, outside⟩⟩

theorem gapped_gapsWithout (nonempty : frame.data ≠ [])
    (gapped : Gapped gaps) : Gapped (gapsWithout frame gaps) := by
  have inside := Nat.lt_add_of_pos_right (n := frame.offset) (length_pos_iff.mpr nonempty)
  constructor
  · intro left mem
    obtain ⟨g, -, inWithout⟩ := mem_flatMap.mp mem
    exact (mem_without inWithout).1
  · refine pairwise_flatMap.mpr ⟨fun g _ => separated_without inside, ?_⟩
    refine gapped.separated.imp fun apart a inFirst b inSecond => ?_
    have first := mem_without inFirst
    have second := mem_without inSecond
    omega

/-- Gaps that the frame does not reach into stay. -/
theorem gapsWithout_of_apart (nonempty : frame.data ≠ []) (proper : ∀ g ∈ gaps, g.start < g.stop)
    (apart : ∀ g ∈ gaps, g.stop ≤ frame.offset ∨ frame.offset + frame.data.length ≤ g.start) :
    gapsWithout frame gaps = gaps := by
  have inside := length_pos_iff.mpr nonempty
  have same : ∀ g ∈ gaps, g.without frame.offset (frame.offset + frame.data.length) = [g] := by
    intro g mem
    have here := proper g mem
    rw [without_eq]
    rcases apart g mem with before | behind
    · rw [min_eq_left before, piece, if_pos here, piece_of_le (by omega), append_nil]
    · rw [max_eq_left behind, piece_of_le (by omega), piece, if_pos here, nil_append]
  unfold gapsWithout
  rw [flatMap_congr same, flatMap_singleton']

end Without

/-! ## The search for the gaps -/

section GapLists

variable {gaps before after passed rest : List ByteInterval} {gap endGap : ByteInterval}
  {start stop : ℕ}

/-- The search stops in the first gap that the frame reaches into, unless there is none. It
also stops at a gap that ends where the frame starts. -/
theorem findGap_eq (before : List ByteInterval) (inside : start < stop)
    (nonempty : ∀ g ∈ gaps, g.start < g.stop) (ahead : ∃ g ∈ gaps, start ≤ g.stop) :
    ∃ passed gap rest, gaps = passed ++ gap :: rest ∧ (∀ g ∈ passed, g.stop < start) ∧
      start ≤ gap.stop ∧
      (findGap start stop before gaps = .found (before ++ passed) gap rest ∧ gap.start < stop ∨
        findGap start stop before gaps = .duplicate ∧ stop ≤ gap.start) := by
  induction gaps generalizing before with
  | nil =>
    obtain ⟨g, member, -⟩ := ahead
    cases member
  | cons gap after ih =>
    by_cases passes : gap.stop < start
    · have aheadAfter : ∃ g ∈ after, start ≤ g.stop := by
        obtain ⟨g, member, reaches⟩ := ahead
        rcases mem_cons.mp member with rfl | member
        · omega
        · exact ⟨g, member, reaches⟩
      obtain ⟨passed, found, rest, split, beyond, reaches, result⟩ :=
        ih (before ++ [gap]) (fun g member => nonempty g (mem_cons_of_mem _ member))
          aheadAfter
      refine ⟨gap :: passed, found, rest, congrArg (gap :: ·) split, ?_, reaches, ?_⟩
      · intro g member
        rcases mem_cons.mp member with rfl | member
        · exact passes
        · exact beyond g member
      · rw [append_assoc, singleton_append] at result
        have here := nonempty gap mem_cons_self
        rw [findGap, if_neg (by omega), if_neg (by omega)]
        exact result
    · have reaches : start ≤ gap.stop := not_lt.mp passes
      refine ⟨[], gap, after, rfl, fun g member => (by cases member), reaches, ?_⟩
      rw [findGap, append_nil]
      split
      · rename_i behind
        exact Or.inr ⟨rfl, behind⟩
      · rename_i overlaps
        exact Or.inl ⟨rfl, not_le.mp overlaps⟩

/-- What the search for the end gap leaves. -/
structure EndGapFound (stop : ℕ) (moved : Bool) (gaps passed : List ByteInterval)
    (queuedFrames : AList fun _ : ℕ => StreamFrame) (e : EndGap) : Prop where
  found : e.found = true
  split : gaps = passed ++ e.endGap :: e.rest
  covers : ∀ g ∈ passed, g.stop < stop
  reaches : e.endGap.start < stop
  rest : ∀ g ∈ e.rest, stop ≤ g.start
  movedOn : e.moved = (moved || !passed.isEmpty)
  removed : e.removed = (e.moved && !decide (stop < e.endGap.stop))
  queued : ∀ k, e.queuedFrames.lookup k = queuedFrames.lookup k ∨
    e.queuedFrames.lookup k = none ∧ ∃ g ∈ passed, k = g.stop

theorem findEndGap_found (queuedFrames : AList fun _ : ℕ => StreamFrame) (moved : Bool)
    (gapped : Gapped (gap :: after)) (reaches : gap.start < stop)
    (ahead : ∃ g ∈ gap :: after, stop < g.stop) :
    ∃ passed, EndGapFound stop moved (gap :: after) passed queuedFrames
      (findEndGap stop moved gap after queuedFrames) := by
  induction after generalizing gap moved queuedFrames with
  | nil =>
    obtain ⟨g, member, within⟩ := ahead
    obtain rfl := mem_singleton.mp member
    refine ⟨[], decide_eq_true within, rfl, fun g member => (by cases member), reaches,
      fun g member => (by cases member), (Bool.or_false _).symm, ?_, fun k => Or.inl rfl⟩
    simp only [findEndGap, within, decide_true, Bool.not_true, Bool.and_false]
  | cons next after ih =>
    have separated := pairwise_cons.mp gapped.separated
    rw [findEndGap]
    split_ifs with within beyond
    · refine ⟨[], rfl, rfl, fun g member => (by cases member), reaches, fun g member => ?_,
        (Bool.or_false _).symm, ?_, fun k => Or.inl rfl⟩
      · exact le_of_lt (lt_trans within (separated.1 g member))
      · simp only [within, decide_true, Bool.not_true, Bool.and_false]
    · refine ⟨[], rfl, rfl, fun g member => (by cases member), reaches, fun g member => ?_,
        (Bool.or_false _).symm, ?_, fun k => Or.inl rfl⟩
      · have nextNonempty := gapped.nonempty next (by simp)
        rcases mem_cons.mp member with rfl | later
        · exact beyond
        · have := (pairwise_cons.mp separated.2).1 g later
          omega
      · simp only [within, decide_false, Bool.not_false, Bool.and_true]
    · have passes : gap.stop < stop := lt_trans (separated.1 next mem_cons_self)
        (not_le.mp beyond)
      have gappedAfter : Gapped (next :: after) :=
        ⟨fun g member => gapped.nonempty g (mem_cons_of_mem _ member), separated.2⟩
      have aheadAfter : ∃ g ∈ next :: after, stop < g.stop := by
        obtain ⟨g, member, reach⟩ := ahead
        rcases mem_cons.mp member with rfl | member
        · omega
        · exact ⟨g, member, reach⟩
      obtain ⟨passed, found⟩ := ih (queuedFrames.erase gap.stop) true
        gappedAfter (not_le.mp beyond) aheadAfter
      refine ⟨gap :: passed, found.found, congrArg (gap :: ·) found.split, ?_, found.reaches,
        found.rest, ?_, found.removed, fun k => ?_⟩
      · intro g member
        rcases mem_cons.mp member with rfl | member
        · exact passes
        · exact found.covers g member
      · rw [found.movedOn]
        simp
      · rcases found.queued k with same | ⟨gone, g, member, eq⟩
        · by_cases first : k = gap.stop
          · refine Or.inr ⟨?_, gap, mem_cons_self, first⟩
            rw [same, first, AList.lookup_erase]
          · left
            rw [same, AList.lookup_erase_ne first]
        · exact Or.inr ⟨gone, g, mem_cons_of_mem _ member, eq⟩

/-- What is left of the gaps in which the filled bytes start and end. -/
def remainder (start stop : ℕ) (gap endGap : ByteInterval) : List ByteInterval :=
  (if gap.start < start then [{ start := gap.start, stop := start }] else []) ++
    (if stop < endGap.stop then [{ start := stop, stop := endGap.stop }] else [])

section Fill

variable {queuedFrames : AList fun _ : ℕ => StreamFrame} {e : EndGap}

section

variable (found : EndGapFound stop false (gap :: after) passed queuedFrames e)

include found

/-- The end gap is the gap itself, or comes after it. -/
theorem EndGapFound.first (gapped : Gapped (gap :: after)) :
    passed = [] ∧ e.endGap = gap ∧ e.moved = false ∨
      e.moved = true ∧ gap.stop < e.endGap.start ∧ gap.stop < stop ∧
        ∃ between, passed = gap :: between ∧
          ∀ g ∈ between, gap.stop < g.start ∧ g.stop < e.endGap.start := by
  have split := found.split
  have movedOn := found.movedOn
  cases passed with
  | nil =>
    obtain ⟨same, -⟩ := List.cons.inj split
    exact Or.inl ⟨rfl, same.symm, movedOn⟩
  | cons first between =>
    obtain ⟨rfl, tail⟩ := List.cons.inj split
    rw [tail] at gapped
    have separated := pairwise_cons.mp gapped.separated
    have inner := pairwise_append.mp separated.2
    refine Or.inr ⟨movedOn, separated.1 _ (by simp), found.covers _ mem_cons_self, between,
      rfl, fun g member => ⟨separated.1 g (mem_append_left _ member), ?_⟩⟩
    exact inner.2.2 g member _ mem_cons_self

theorem EndGapFound.start_le
    (gapped : Gapped (gap :: after)) (high : start ≤ gap.stop) : start ≤ e.endGap.stop := by
  rcases found.first gapped with ⟨-, same, -⟩ | ⟨-, beyond, -⟩
  · rw [same]
    exact high
  · have := gapped.nonempty e.endGap (by rw [found.split]; simp)
    omega

theorem fillGaps_eq (gapped : Gapped (gap :: after)) (low : gap.start ≤ start) :
    fillGaps before gap e start (min stop e.endGap.stop) =
      before ++ remainder start (min stop e.endGap.stop) gap e.endGap ++ e.rest := by
  have removed := found.removed
  have later : start ≠ gap.start → gap.start < start := fun aligned =>
    lt_of_le_of_ne low (Ne.symm aligned)
  unfold fillGaps remainder EndGap.element
  by_cases within : stop < e.endGap.stop
  · rw [min_eq_left (le_of_lt within)]
    have notEnd : stop ≠ e.endGap.stop := ne_of_lt within
    rcases found.first gapped with ⟨-, same, stays⟩ | ⟨moves, -, covered, -⟩
    · rw [same] at within notEnd ⊢
      by_cases aligned : start = gap.start
      · simp [aligned, stays, within, not_le.mpr within]
      · simp [aligned, stays, within, notEnd, later aligned]
    · simp only [moves, within, decide_true, Bool.not_true, Bool.and_false] at removed
      by_cases aligned : start = gap.start
      · simp [aligned, moves, within, removed, le_of_lt covered]
      · simp [aligned, moves, within, removed, notEnd, later aligned]
  · rw [min_eq_right (not_lt.mp within)]
    rcases found.first gapped with ⟨-, same, stays⟩ | ⟨moves, beyond, covered, -⟩
    · rw [same]
      by_cases aligned : start = gap.start
      · simp [aligned, stays]
      · simp [aligned, stays, later aligned]
    · simp only [moves, within, decide_false, Bool.not_false, Bool.and_true] at removed
      have endNonempty : gap.stop ≤ e.endGap.stop := by
        have := gapped.nonempty e.endGap (found.split ▸ by simp)
        omega
      by_cases aligned : start = gap.start
      · simp [aligned, moves, removed, endNonempty]
      · simp [aligned, moves, removed, later aligned]

end

/-- The frame takes the bytes from its first gap to its last one. -/
theorem EndGapFound.gapsWithout_eq {frame : StreamFrame}
    (found : EndGapFound (frame.offset + frame.data.length) false (gap :: after) passed
      queuedFrames e)
    (gapped : Gapped (before ++ gap :: after)) (nonempty : frame.data ≠ [])
    (behind : ∀ g ∈ before, g.stop < frame.offset) (high : frame.offset ≤ gap.stop) :
    gapsWithout frame (before ++ gap :: after) =
      before ++ remainder (max frame.offset gap.start)
        (min (frame.offset + frame.data.length) e.endGap.stop) gap e.endGap ++ e.rest := by
  have inside := length_pos_iff.mpr nonempty
  have reaches := found.reaches
  have first : piece gap.start (max frame.offset gap.start) =
      piece gap.start (min gap.stop frame.offset) := by
    rcases le_total frame.offset gap.start with early | late
    · rw [piece_of_le (by omega), piece_of_le (by omega)]
    · rw [max_eq_left late, min_eq_right high]
  have last : piece (min (frame.offset + frame.data.length) e.endGap.stop) e.endGap.stop =
      piece (max e.endGap.start (frame.offset + frame.data.length)) e.endGap.stop := by
    rw [max_eq_right (le_of_lt reaches)]
    rcases le_total (frame.offset + frame.data.length) e.endGap.stop with within | beyond
    · rw [min_eq_left within]
    · rw [piece_of_le (by omega), piece_of_le (by omega)]
  have middle : gapsWithout frame (passed ++ [e.endGap]) =
      remainder (max frame.offset gap.start)
        (min (frame.offset + frame.data.length) e.endGap.stop) gap e.endGap := by
    refine Eq.trans ?_ (congrArg₂ (· ++ ·) first last).symm
    unfold gapsWithout
    rcases found.first gapped.append_right with
      ⟨rfl, same, -⟩ | ⟨-, beyond, covered, between, rfl, inner⟩
    · rw [same]
      exact append_nil _
    · have endNonempty := gapped.nonempty e.endGap (by rw [found.split]; simp)
      have gone : between.flatMap
          (ByteInterval.without frame.offset (frame.offset + frame.data.length)) = [] := by
        refine flatMap_eq_nil_iff.mpr fun g member => ?_
        have := inner g member
        rw [without_eq, piece_of_le (by omega), piece_of_le (by omega), append_nil]
      have noEnd : piece (max gap.start (frame.offset + frame.data.length)) gap.stop = [] :=
        piece_of_le (by omega)
      have noStart : piece e.endGap.start (min e.endGap.stop frame.offset) = [] :=
        piece_of_le (by omega)
      rw [cons_append, flatMap_cons, flatMap_append, gone, flatMap_singleton, without_eq, noEnd,
        without_eq, noStart, append_nil, nil_append, nil_append]
  have restGapped : Gapped (before ++ passed ++ e.endGap :: e.rest) := by
    rw [found.split, ← append_assoc] at gapped
    exact gapped
  have front : gapsWithout frame before = before :=
    gapsWithout_of_apart nonempty gapped.append_left.nonempty fun g member =>
      Or.inl (le_of_lt (behind g member))
  have back : gapsWithout frame e.rest = e.rest :=
    gapsWithout_of_apart nonempty (fun g member => restGapped.nonempty g (by simp [member]))
      fun g member => Or.inr (found.rest g member)
  rw [found.split, ← middle]
  unfold gapsWithout at front back ⊢
  rw [flatMap_append, append_cons, flatMap_append, front, back, append_assoc]

/-- The frame behind each gap that was passed lies inside the new frame. -/
theorem EndGapFound.dropped_mem
    (found : EndGapFound stop false (gap :: after) passed queuedFrames e)
    (gapped : Gapped (gap :: after)) (high : start ≤ gap.stop) {g : ByteInterval}
    (member : g ∈ passed) : g.stop ∈ Set.Ico start (min stop e.endGap.stop) := by
  have reaches := found.reaches
  rcases found.first gapped with ⟨rfl, -⟩ | ⟨-, beyond, covered, between, rfl, inner⟩
  · cases member
  · have endNonempty := gapped.nonempty e.endGap (by rw [found.split]; simp)
    rcases mem_cons.mp member with rfl | later
    · exact ⟨high, lt_min covered (by omega)⟩
    · have := inner g later
      have nonempty := gapped.nonempty g (by rw [found.split]; simp [later])
      exact ⟨by omega, lt_min (by omega) (by omega)⟩

end Fill

end GapLists

/-! ## The sorter as a buffer -/

/-- The part of a frame between two offsets, with the fin bit of the whole frame. -/
def StreamFrame.between (frame : StreamFrame) (start stop : ℕ) : StreamFrame :=
  { frame with offset := start, data := slice frame.data (start - frame.offset) (stop - start) }

theorem StreamFrame.between_length {frame : StreamFrame} {start stop : ℕ}
    (low : frame.offset ≤ start) (high : stop ≤ frame.offset + frame.data.length) :
    (frame.between start stop).data.length = stop - start := by
  rw [between, length_slice]
  omega

theorem StreamFrame.between_bytes {frame : StreamFrame} {start stop : ℕ}
    (low : frame.offset ≤ start) (inside : start < stop)
    (high : stop ≤ frame.offset + frame.data.length) :
    (frame.between start stop).bytes = Set.Ico start stop := by
  rw [bytes, between_length low high]
  exact congrArg (Set.Ico start) (by simp only [between]; omega)

namespace StreamFrameSorter

/-- The bytes that were not received, and those that never can be. -/
def missing (s : StreamFrameSorter) : Set ℕ := gapBytes s.gaps ∪ Set.Ici maxByteCount

def buffer (s : StreamFrameSorter) : Buffer UInt8 where
  missing := s.missing
  segment := fun k => (s.queuedFrames.lookup k).map data
  position := s.readPosition

/-- The sorter keeps the part of a frame between two of its offsets. -/
structure Accepts (s : StreamFrameSorter) (frame : StreamFrame) (start stop : ℕ)
    (s' : StreamFrameSorter) : Prop where
  low : frame.offset ≤ start
  inside : start < stop
  high : stop ≤ frame.offset + frame.data.length
  insert : Insert s.buffer start (frame.between start stop).data s'.buffer
  needed : ∀ p ∈ frame.bytes, p ∈ s.missing → p ∈ Set.Ico start stop
  gapped : Gapped s'.gaps
  queued : s'.queuedFrames.lookup start = some (frame.between start stop)
  others : ∀ k, k ≠ start → s'.queuedFrames.lookup k = s.queuedFrames.lookup k ∨
    s'.queuedFrames.lookup k = none ∧ k ∈ Set.Ioo start stop
  unreliableMarker : s'.unreliableMarker = s.unreliableMarker

/-- The sorter fills its gaps between two offsets of a frame: from the first missing byte of
the frame, or from the end of the gap right before it, to the last missing byte. -/
structure Fills (s : StreamFrameSorter) (frame : StreamFrame) (start stop : ℕ)
    (filled : StreamFrameSorter) : Prop where
  low : frame.offset ≤ start
  within : start < frame.offset + frame.data.length
  ordered : start ≤ stop
  high : stop ≤ frame.offset + frame.data.length
  missing : filled.missing = s.missing \ Set.Ico start stop
  needed : ∀ p ∈ frame.bytes, p ∈ s.missing → p ∈ Set.Ico start stop
  first : start ∈ s.missing ∨ start = frame.offset ∧ ∃ g ∈ s.gaps, g.stop = start
  last : start < stop → stop - 1 ∈ s.missing
  gapped : Gapped filled.gaps
  bounded : ∀ g ∈ filled.gaps, ∃ g' ∈ s.gaps, g.stop ≤ g'.stop
  count : filled.gaps.length ≤ s.gaps.length + 1
  queued : ∀ k, filled.queuedFrames.lookup k = s.queuedFrames.lookup k ∨
    filled.queuedFrames.lookup k = none ∧ k ∈ Set.Ico start stop
  position : filled.readPosition = s.readPosition
  unreliableMarker : filled.unreliableMarker = s.unreliableMarker
  recorded : filled.sortedOffset = s.sortedOffset ∧ filled.maxOffset = s.maxOffset

/-- Nothing of the frame is new. -/
def AllReceived (s : StreamFrameSorter) (frame : StreamFrame) : Prop :=
  ∀ p ∈ frame.bytes, p ∉ s.missing

section Push

variable {s : StreamFrameSorter} {frame : StreamFrame} {flag : Bool} {timeStamp : Int}
  {before after passed : List ByteInterval} {gap : ByteInterval} {e : EndGap}

theorem enqueue_queuedFrames (s : StreamFrameSorter) (frame : StreamFrame) (flag : Bool)
    (timeStamp : Int) :
    (s.enqueue frame flag timeStamp).queuedFrames = s.queuedFrames.insert frame.offset frame := by
  unfold enqueue
  simp only
  split <;> rfl

theorem enqueue_rest (s : StreamFrameSorter) (frame : StreamFrame) (flag : Bool) (timeStamp : Int) :
    (s.enqueue frame flag timeStamp).gaps = s.gaps ∧
      (s.enqueue frame flag timeStamp).readPosition = s.readPosition ∧
      (s.enqueue frame flag timeStamp).unreliableMarker = s.unreliableMarker := by
  unfold enqueue
  simp only
  split <;> exact ⟨rfl, rfl, rfl⟩

theorem cutLeft_eq (frame : StreamFrame) (gap : ByteInterval) :
    (if frame.offset < gap.start then
      { frame with
        offset := gap.start
        data := frame.data.drop (gap.start - frame.offset) }
      else frame) =
      { frame with
        offset := max frame.offset gap.start
        data := frame.data.drop (max frame.offset gap.start - frame.offset) } := by
  split
  · rename_i earlier
    rw [max_eq_right (le_of_lt earlier)]
  · rename_i later
    rw [Nat.max_eq_left (Nat.not_lt.mp later), Nat.sub_self, drop_zero]

/-- What is left of a frame after it was cut at `start` is cut at `limit`. -/
theorem cutRight_eq (frame : StreamFrame) (start limit : ℕ) (low : frame.offset ≤ start) :
    (if frame.offset + frame.data.length > limit then
      { frame with
        offset := start
        data := (frame.data.drop (start - frame.offset)).take
          ((frame.data.drop (start - frame.offset)).length -
            (frame.offset + frame.data.length - limit)) }
      else { frame with offset := start, data := frame.data.drop (start - frame.offset) }) =
      frame.between start (min (frame.offset + frame.data.length) limit) := by
  unfold between slice
  split
  · rename_i exceeds
    rw [min_eq_right (le_of_lt exceeds), length_drop]
    congr 2
    omega
  · rename_i fits
    rw [min_eq_left (not_lt.mp fits), take_of_length_le]
    rw [length_drop]
    omega

/-- The two cuts of a frame, in one step. -/
theorem pushIntoGap_eq (s : StreamFrameSorter) (frame : StreamFrame) (flag : Bool)
    (timeStamp : Int) (before after : List ByteInterval) (gap : ByteInterval)
    (small : frame.offset + frame.data.length < 2 ^ 64)
    (found : (findEndGap (frame.offset + frame.data.length) false gap after
      s.queuedFrames).found = true) :
    s.pushIntoGap frame flag timeStamp before gap after =
      let e := findEndGap (frame.offset + frame.data.length) false gap after s.queuedFrames
      let start := max frame.offset gap.start
      let stop := min (frame.offset + frame.data.length) e.endGap.stop
      let filled := { s with
        gaps := fillGaps before gap e start stop
        queuedFrames := e.queuedFrames }
      if filled.gaps.length > maxStreamFrameSorterGaps then
        (filled, some .errTooManyGapsInReceivedStreamData)
      else (filled.enqueue (frame.between start stop) flag timeStamp, none) := by
  have stopEq : addUint64 frame.offset frame.data.length = frame.offset + frame.data.length :=
    addUint64_of_lt small
  simp only [pushIntoGap, stopEq, found, Bool.not_true, Bool.false_eq_true, if_false, cutLeft_eq,
    dataLen, cutRight_eq frame _ _ (le_max_left _ _)]
  rfl

/-- What is missing without the frame. -/
theorem missing_gapsWithout {filled : StreamFrameSorter}
    (gaps : filled.gaps = gapsWithout frame s.gaps)
    (small : frame.offset + frame.data.length ≤ maxByteCount) :
    filled.missing = s.missing \ frame.bytes := by
  unfold missing
  ext p
  rw [gaps, Set.mem_sdiff, Set.mem_union, Set.mem_union, mem_gapBytes_gapsWithout, or_and_right]
  refine or_congr_right (iff_self_and.mpr fun never inside => ?_)
  have := Set.mem_Ici.mp never
  have := inside.2
  omega

/-- Filling the gaps from the first to the last missing byte of the frame. -/
theorem fills_gaps (split : s.gaps = before ++ gap :: after) (gapped : Gapped s.gaps)
    (small : frame.offset + frame.data.length < maxByteCount) (nonempty : frame.data ≠ [])
    (behind : ∀ g ∈ before, g.stop < frame.offset) (high : frame.offset ≤ gap.stop)
    (reaches : gap.start < frame.offset + frame.data.length)
    (found : EndGapFound (frame.offset + frame.data.length) false (gap :: after) passed
      s.queuedFrames e) :
    s.Fills frame (max frame.offset gap.start)
      (min (frame.offset + frame.data.length) e.endGap.stop)
      { s with gaps := gapsWithout frame s.gaps, queuedFrames := e.queuedFrames } := by
  have positive := length_pos_iff.mpr nonempty
  have left := gapped_gapsWithout nonempty gapped
  have pieces := split ▸ found.gapsWithout_eq (split ▸ gapped) nonempty behind high
  have gapped' := split ▸ gapped
  have gapNonempty := gapped'.nonempty gap (by simp)
  have start_le := found.start_le gapped'.append_right
    (show max frame.offset gap.start ≤ gap.stop by omega)
  have endGapMem : e.endGap ∈ s.gaps := by simp [split, found.split]
  have endNonempty := gapped.nonempty e.endGap endGapMem
  have endReaches := found.reaches
  -- the bytes before the first and after the last missing one are not in a gap
  have needed : ∀ p ∈ frame.bytes, p ∈ s.missing → p ∈ Set.Ico (max frame.offset gap.start)
      (min (frame.offset + frame.data.length) e.endGap.stop) := by
    rintro p ⟨low, early⟩ (⟨g, member, first, last⟩ | never)
    · have after' : gap.start ≤ p ∧ p < e.endGap.stop := by
        rw [split, found.split] at member
        rcases mem_append.mp member with inBefore | member
        · have := behind g inBefore
          omega
        · refine ⟨?_, ?_⟩
          · rcases mem_cons.mp (found.split ▸ member) with rfl | later
            · exact first
            · have := (pairwise_cons.mp gapped'.append_right.separated).1 g later
              omega
          · rcases mem_append.mp member with inPassed | member
            · have := (found.split ▸ gapped'.append_right).between inPassed mem_cons_self
              omega
            · rcases mem_cons.mp member with rfl | inRest
              · exact last
              · have := found.rest g inRest
                omega
      exact ⟨by omega, by omega⟩
    · have := Set.mem_Ici.mp never
      omega
  refine ⟨le_max_left _ _, by omega, le_min (by omega) start_le, min_le_left _ _, ?_,
    needed, ?_, fun _ => Or.inl ⟨e.endGap, endGapMem, by omega, by omega⟩, left,
    fun g member => ?_, ?_, fun k => ?_, rfl, rfl, rfl, rfl⟩
  · rw [missing_gapsWithout rfl (le_of_lt small)]
    ext p
    refine and_congr_right fun isMissing => not_congr ⟨fun inFrame => ?_, fun inside => ?_⟩
    · exact needed p inFrame isMissing
    · obtain ⟨low, early⟩ := inside
      exact ⟨by omega, by omega⟩
  · rcases lt_or_ge frame.offset gap.stop with before | atStop
    · exact Or.inl (Or.inl ⟨gap, by simp [split], by omega, by omega⟩)
    · exact Or.inr ⟨by omega, gap, by simp [split], by omega⟩
  · obtain ⟨g', member', inWithout⟩ := mem_flatMap.mp member
    exact ⟨g', member', (mem_without inWithout).2.2⟩
  · have first := length_piece_le gap.start (max frame.offset gap.start)
    have last := length_piece_le (min (frame.offset + frame.data.length) e.endGap.stop)
      e.endGap.stop
    have parts := congrArg List.length pieces
    have all := congrArg List.length (split.trans (congrArg (before ++ ·) found.split))
    simp only [remainder, length_append, length_cons] at parts all ⊢
    unfold piece at first last
    omega
  · rcases found.queued k with same | ⟨gone, g, member, rfl⟩
    · exact Or.inl same
    · exact Or.inr ⟨gone, found.dropped_mem gapped'.append_right (by omega) member⟩

/-- A frame that reaches into a gap is kept from there to the last missing byte, unless there
are too many gaps. -/
theorem pushIntoGap_fills (flag : Bool) (timeStamp : Int)
    (split : s.gaps = before ++ gap :: after) (gapped : Gapped s.gaps)
    (small : frame.offset + frame.data.length < maxByteCount)
    (behind : ∀ g ∈ before, g.stop < frame.offset)
    (reaches : gap.start < frame.offset + frame.data.length) (high : frame.offset ≤ gap.stop)
    (nonempty : frame.data ≠ [])
    (ahead : ∃ g ∈ gap :: after, frame.offset + frame.data.length < g.stop) :
    ∃ start stop filled, s.Fills frame start stop filled ∧
      (∃ queuedFrames, filled = { s with gaps := gapsWithout frame s.gaps, queuedFrames }) ∧
      s.pushIntoGap frame flag timeStamp before gap after =
        if filled.gaps.length > maxStreamFrameSorterGaps then
          (filled, some .errTooManyGapsInReceivedStreamData)
        else (filled.enqueue (frame.between start stop) flag timeStamp, none) := by
  have gappedAfter : Gapped (gap :: after) := (split ▸ gapped).append_right
  obtain ⟨passed, found⟩ := findEndGap_found s.queuedFrames false gappedAfter reaches ahead
  have limited : frame.offset + frame.data.length < 2 ^ 64 := by
    unfold maxByteCount at small
    omega
  rw [pushIntoGap_eq s frame flag timeStamp before after gap limited found.found]
  generalize findEndGap (frame.offset + frame.data.length) false gap after s.queuedFrames = e
    at found
  have pieces := found.gapsWithout_eq (split ▸ gapped) nonempty behind high
  simp only [fillGaps_eq found gappedAfter (le_max_right _ _), ← pieces, ← split]
  exact ⟨_, _, _, fills_gaps split gapped small nonempty behind high reaches found, ⟨_, rfl⟩, rfl⟩

section Stored

variable {start stop : ℕ} {filled : StreamFrameSorter}

theorem Fills.stored_missing (fills : s.Fills frame start stop filled) (flag : Bool)
    (timeStamp : Int) :
    (filled.enqueue (frame.between start stop) flag timeStamp).missing =
      s.missing \ Set.Ico start stop := by
  obtain ⟨gaps, -⟩ := enqueue_rest filled (frame.between start stop) flag timeStamp
  rw [← fills.missing, StreamFrameSorter.missing, StreamFrameSorter.missing, gaps]

theorem stored_lookup (filled : StreamFrameSorter) (frame : StreamFrame) (start stop : ℕ)
    (flag : Bool) (timeStamp : Int) :
    (filled.enqueue (frame.between start stop) flag timeStamp).queuedFrames.lookup start =
      some (frame.between start stop) := by
  rw [enqueue_queuedFrames]
  exact AList.lookup_insert _

section

variable (fills : s.Fills frame start stop filled)

include fills

theorem Fills.stored_lookup_of_ne (flag : Bool) (timeStamp : Int) {k : ℕ} (other : k ≠ start) :
    (filled.enqueue (frame.between start stop) flag timeStamp).queuedFrames.lookup k =
        s.queuedFrames.lookup k ∨
      (filled.enqueue (frame.between start stop) flag timeStamp).queuedFrames.lookup k = none ∧
        k ∈ Set.Ioo start stop := by
  have kept : (filled.queuedFrames.insert (frame.between start stop).offset
      (frame.between start stop)).lookup k = filled.queuedFrames.lookup k :=
    AList.lookup_insert_ne other
  rw [enqueue_queuedFrames, kept]
  refine (fills.queued k).imp id fun ⟨gone, inside⟩ => ⟨gone, ?_, inside.2⟩
  exact lt_of_le_of_ne inside.1 (Ne.symm other)

/-- What is queued afterwards is the new part of the frame or was queued before. -/
theorem Fills.lookup_stored (flag : Bool) (timeStamp : Int) {k : ℕ} {f : StreamFrame}
    (found : (filled.enqueue (frame.between start stop) flag timeStamp).queuedFrames.lookup k =
      some f) :
    k = start ∧ f = frame.between start stop ∨ s.queuedFrames.lookup k = some f := by
  by_cases same : k = start
  · rw [same, stored_lookup] at found
    exact Or.inl ⟨same, (Option.some.inj found).symm⟩
  · rcases fills.stored_lookup_of_ne flag timeStamp same with old | ⟨gone, -⟩
    · exact Or.inr (old ▸ found)
    · rw [gone] at found
      cases found

/-- When its first byte is new, the part of the frame is inserted into the buffer. -/
theorem Fills.accepts (new : start ∈ s.missing) :
    s.Accepts frame start stop (filled.enqueue (frame.between start stop) flag timeStamp) := by
  have inside : start < stop := (fills.needed start ⟨fills.low, fills.within⟩ new).2
  have length := between_length fills.low fills.high
  obtain ⟨gaps, position, unreliableMarker⟩ :=
    enqueue_rest filled (frame.between start stop) flag timeStamp
  have inserted := stored_lookup filled frame start stop flag timeStamp
  have others := fun k (other : k ≠ start) => fills.stored_lookup_of_ne flag timeStamp other
  have stopEnd : start + (frame.between start stop).data.length = stop := by
    rw [length]
    omega
  refine ⟨fills.low, inside, fills.high, ⟨?_, new, ?_, ?_, ?_, fun k outside => ?_,
    fun k buried => ?_, ?_⟩, fills.needed, gaps ▸ fills.gapped, inserted, others, ?_⟩
  · refine length_pos_iff.mp ?_
    rw [length]
    omega
  · rw [stopEnd]
    exact fills.last inside
  · rw [stopEnd]
    exact fills.stored_missing flag timeStamp
  · exact congrArg (Option.map data) inserted
  · rw [stopEnd] at outside
    rcases others k (fun same => outside ⟨same.ge, same ▸ inside⟩) with same | ⟨-, buried⟩
    · exact congrArg (Option.map data) same
    · exact absurd (Set.Ioo_subset_Ico_self buried) outside
  · rw [stopEnd] at buried
    rcases others k (ne_of_gt buried.1) with same | ⟨gone, -⟩
    · exact Or.inl (congrArg (Option.map data) same)
    · exact Or.inr (congrArg (Option.map data) gone)
  · exact position.trans fills.position
  · exact unreliableMarker.trans fills.unreliableMarker

end

end Stored

end Push

end StreamFrameSorter

end MPQuic
