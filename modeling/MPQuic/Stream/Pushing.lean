import MPQuic.Lib.MapSum
import MPQuic.Stream.GapFilling

/-!
# What a push does

The outcomes of `Push` for any frame and any sorter whose gaps and queued frames fit together
(`Tidy`): the frame is refused because nothing of it is new, it only marks the end of the
stream, or its gaps are filled from the first to the last missing byte (`PushResult`). Filling
the first gap with zeros is such a push, cut back at the end of the gap (`padFirstGap_eq`).
-/

namespace MPQuic

open Reassembly List StreamFrame

/-! ## Frames without their front -/

/-- The frame without its first `n` bytes. -/
def StreamFrame.dropFront (frame : StreamFrame) (n : ℕ) : StreamFrame :=
  { frame with offset := frame.offset + n, data := frame.data.drop n }

theorem StreamFrame.dropFront_stop {frame : StreamFrame} {n : ℕ} (few : n ≤ frame.data.length) :
    (frame.dropFront n).offset + (frame.dropFront n).data.length =
      frame.offset + frame.data.length := by
  simp only [dropFront, length_drop]
  omega

theorem StreamFrame.dropFront_between {frame : StreamFrame} {n start : ℕ} (stop : ℕ)
    (low : frame.offset + n ≤ start) :
    (frame.dropFront n).between start stop = frame.between start stop := by
  have moved : n + (start - (frame.offset + n)) = start - frame.offset := by omega
  simp only [between, dropFront, slice, drop_drop, moved]

namespace StreamFrameSorter

/-! ## Sorters that fit together -/

/-- The gaps are in order and reach to the largest offset, and what is queued stands at its
offset and is not missing. -/
structure Tidy (s : StreamFrameSorter) : Prop where
  gapped : Gapped s.gaps
  last : maxByteCount - 1 ∈ gapBytes s.gaps
  keyed : ∀ k f, s.queuedFrames.lookup k = some f → f.offset = k
  received : ∀ k f, s.queuedFrames.lookup k = some f → s.AllReceived f

variable (s : StreamFrameSorter)

/-- No frame with data is queued at the offset. -/
def NoData (offset : ℕ) : Prop :=
  ∀ f, s.queuedFrames.lookup offset = some f → f.data = []

/-- The outcomes of a push. -/
inductive PushResult (s : StreamFrameSorter) (frame : StreamFrame) (flag : Bool) (timeStamp : Int) :
    StreamFrameSorter × Option SorterError → Prop where
  | refused (err : SorterError) (other : err ≠ .errTooManyGapsInReceivedStreamData)
      (received : s.AllReceived frame) (noMark : frame.finBit = true → frame.data ≠ []) :
      PushResult s frame flag timeStamp (s, some err)
  | marked (empty : frame.data = []) (fin : frame.finBit = true) :
      PushResult s frame flag timeStamp
        ({ s with queuedFrames := s.queuedFrames.insert frame.offset frame }, none)
  | tooManyGaps (start stop : ℕ) (filled : StreamFrameSorter)
      (fills : s.Fills frame start stop filled)
      (many : filled.gaps.length > maxStreamFrameSorterGaps) :
      PushResult s frame flag timeStamp (filled, some .errTooManyGapsInReceivedStreamData)
  | stored (start stop : ℕ) (filled : StreamFrameSorter) (nonempty : frame.data ≠ [])
      (fills : s.Fills frame start stop filled)
      (first : start ∈ s.missing ∨ (∃ g ∈ s.gaps, g.stop = start) ∧ s.NoData start)
      (few : filled.gaps.length ≤ maxStreamFrameSorterGaps) :
      PushResult s frame flag timeStamp
        (filled.enqueue (frame.between start stop) flag timeStamp, none)

section Push

variable {s : StreamFrameSorter} {frame : StreamFrame} {flag : Bool} {timeStamp : Int}
  {g : ByteInterval}

theorem allReceived_of_empty (empty : frame.data = []) : s.AllReceived frame := by
  intro p member
  rw [StreamFrame.bytes, empty, length_nil, add_zero, Set.Ico_self] at member
  exact absurd member (Set.notMem_empty p)

/-- Some gap reaches past every offset. -/
theorem Tidy.exists_past (tidy : s.Tidy) {p : ℕ} (small : p < maxByteCount) :
    ∃ g ∈ s.gaps, p < g.stop := by
  obtain ⟨g, member, -, high⟩ := tidy.last
  exact ⟨g, member, by omega⟩

theorem mem_missing_pred (gapped : Gapped s.gaps) (member : g ∈ s.gaps) :
    g.stop - 1 ∈ s.missing := by
  have nonempty := gapped.nonempty g member
  exact Or.inl ⟨g, member, by omega, by omega⟩

/-- A gap ends where a received byte follows, unless it is the last one. -/
theorem stop_not_mem (gapped : Gapped s.gaps) (member : g ∈ s.gaps)
    (small : g.stop < maxByteCount) : g.stop ∉ s.missing := by
  rintro (⟨g', member', low, high⟩ | never)
  · have nonempty := gapped.nonempty g member
    obtain ⟨before, after, split⟩ := append_of_mem member
    rw [split] at member' gapped
    rcases mem_append.mp member' with earlier | later
    · have := gapped.between earlier mem_cons_self
      omega
    · rcases mem_cons.mp later with rfl | later
      · omega
      · have := (pairwise_cons.mp gapped.append_right.separated).1 g' later
        omega
  · have := Set.mem_Ici.mp never
    omega

/-- What a queued frame at the same offset holds is cut off. -/
theorem Tidy.cutQueued (tidy : s.Tidy) (small : frame.offset + frame.data.length < maxByteCount)
    (nonempty : frame.data ≠ []) :
    s.cutQueued frame = none ∧ s.AllReceived frame ∨
      ∃ n < frame.data.length, s.cutQueued frame = some (frame.dropFront n) ∧
        (∀ p ∈ frame.bytes, p ∈ s.missing → p ∈ (frame.dropFront n).bytes) ∧
        (frame.offset + n - 1 ∈ s.missing → n = 0 ∧ s.NoData frame.offset) := by
  have positive := length_pos_iff.mpr nonempty
  unfold StreamFrameSorter.cutQueued dataLen
  cases queued : s.queuedFrames.lookup frame.offset with
  | none =>
    refine Or.inr ⟨0, positive, rfl, fun p inFrame _ => inFrame,
      fun _ => ⟨rfl, fun f found => ?_⟩⟩
    rw [queued] at found
    cases found
  | some oldFrame =>
    have key := tidy.keyed _ _ queued
    have old := tidy.received _ _ queued
    unfold AllReceived StreamFrame.bytes at old
    rw [key] at old
    simp only
    split
    · rename_i covered
      exact Or.inl ⟨rfl, fun p inFrame => old p ⟨inFrame.1, by have := inFrame.2; omega⟩⟩
    · rename_i longer
      have sum : addUint64 frame.offset oldFrame.data.length =
          frame.offset + oldFrame.data.length :=
        addUint64_of_lt (by unfold maxByteCount at small; omega)
      rw [sum]
      refine Or.inr ⟨oldFrame.data.length, by omega, rfl, fun p inFrame isMissing => ?_,
        fun isMissing => ?_⟩
      · have beyond : ¬ p < frame.offset + oldFrame.data.length := fun early =>
          old p ⟨inFrame.1, early⟩ isMissing
        have := inFrame.2
        rw [StreamFrame.bytes, dropFront_stop (by omega), Set.mem_Ico,
          dropFront]
        simp only
        omega
      · have empty : oldFrame.data.length = 0 := by
          by_contra positive
          exact old _ ⟨by omega, by omega⟩ isMissing
        refine ⟨empty, fun f found => ?_⟩
        obtain rfl := Option.some.inj (queued.symm.trans found)
        exact length_eq_zero_iff.mp empty

/-- The frame is a duplicate, or starts in a gap or right behind one. -/
theorem Tidy.findGap (tidy : s.Tidy) (small : frame.offset + frame.data.length < maxByteCount)
    (nonempty : frame.data ≠ []) (flag : Bool) (timeStamp : Int) :
    findGap frame.offset (frame.offset + frame.data.length) [] s.gaps = .duplicate ∧
        s.AllReceived frame ∨
      ∃ before gap after start stop filled,
        findGap frame.offset (frame.offset + frame.data.length) [] s.gaps =
            .found before gap after ∧
          s.Fills frame start stop filled ∧
          (∃ queuedFrames, filled = { s with gaps := gapsWithout frame s.gaps, queuedFrames }) ∧
          s.pushIntoGap frame flag timeStamp before gap after =
            if filled.gaps.length > maxStreamFrameSorterGaps then
              (filled, some .errTooManyGapsInReceivedStreamData)
            else (filled.enqueue (frame.between start stop) flag timeStamp, none) := by
  have positive := length_pos_iff.mpr nonempty
  have inside : frame.offset < frame.offset + frame.data.length := by omega
  obtain ⟨g, member, past⟩ := tidy.exists_past small
  obtain ⟨before, gap, after, split, behind, high, result⟩ :=
    findGap_eq [] inside tidy.gapped.nonempty ⟨g, member, by omega⟩
  rcases result with ⟨result, reaches⟩ | ⟨result, beyond⟩
  · have ahead : ∃ g ∈ gap :: after, frame.offset + frame.data.length < g.stop := by
      refine ⟨g, ?_, past⟩
      rw [split] at member
      refine (mem_append.mp member).resolve_left fun earlier => ?_
      have := behind g earlier
      omega
    obtain ⟨start, stop, filled, fills, shape, pushed⟩ := pushIntoGap_fills flag timeStamp split
      tidy.gapped small behind reaches high nonempty ahead
    exact Or.inr ⟨before, gap, after, start, stop, filled, result, fills, shape, pushed⟩
  · refine Or.inl ⟨result, fun p inFrame isMissing => ?_⟩
    obtain ⟨low, early⟩ := inFrame
    rcases isMissing with ⟨g, member, first, last⟩ | never
    · have separated := tidy.gapped
      rw [split] at member separated
      have gapNonempty := separated.nonempty gap (by simp)
      rcases mem_append.mp member with earlier | later
      · have := behind g earlier
        omega
      · rcases mem_cons.mp later with rfl | later
        · omega
        · have := (pairwise_cons.mp separated.append_right.separated).1 g later
          omega
    · have := Set.mem_Ici.mp never
      omega

/-- What is cut off was received, so it is in no gap. -/
theorem gapsWithout_dropFront {n : ℕ} (gapped : Gapped s.gaps) (few : n < frame.data.length)
    (needed : ∀ p ∈ frame.bytes, p ∈ s.missing → p ∈ (frame.dropFront n).bytes) :
    gapsWithout (frame.dropFront n) s.gaps = gapsWithout frame s.gaps := by
  refine flatMap_congr fun g member => ?_
  have nonempty := gapped.nonempty g member
  rw [without_eq, without_eq, dropFront_stop (le_of_lt few)]
  refine congrArg (· ++ _) ?_
  have offset : (frame.dropFront n).offset = frame.offset + n := rfl
  rw [offset]
  rcases lt_or_ge frame.offset g.stop with before | behind
  · have late : frame.offset + n ≤ max g.start frame.offset := by
      by_contra early
      have new := needed (max g.start frame.offset) ⟨by omega, by omega⟩
        (Or.inl ⟨g, member, by omega, by omega⟩)
      exact early new.1
    rcases le_total frame.offset g.start with inGap | outside
    · rw [piece_of_le (by omega), piece_of_le (by omega)]
    · rw [show n = 0 by omega, add_zero]
  · rw [min_eq_left behind, min_eq_left (Nat.le_add_right_of_le behind)]

/-- Filling with what is left of a frame is filling with the frame. -/
theorem Fills.of_dropFront {n start stop : ℕ} {filled : StreamFrameSorter}
    (fills : s.Fills (frame.dropFront n) start stop filled) (few : n < frame.data.length)
    (needed : ∀ p ∈ frame.bytes, p ∈ s.missing → p ∈ (frame.dropFront n).bytes)
    (uncut : start ∉ s.missing → n = 0) : s.Fills frame start stop filled where
  low := Nat.le_trans (Nat.le_add_right _ _) fills.low
  within := dropFront_stop (le_of_lt few) ▸ fills.within
  ordered := fills.ordered
  high := dropFront_stop (le_of_lt few) ▸ fills.high
  missing := fills.missing
  needed := fun p member isMissing => fills.needed p (needed p member isMissing) isMissing
  first := by
    rcases fills.first with new | ⟨same, behind⟩
    · exact Or.inl new
    · by_cases new : start ∈ s.missing
      · exact Or.inl new
      · refine Or.inr ⟨?_, behind⟩
        rw [same, uncut new]
        rfl
  last := fills.last
  gapped := fills.gapped
  bounded := fills.bounded
  count := fills.count
  queued := fills.queued
  position := fills.position
  unreliableMarker := fills.unreliableMarker
  recorded := fills.recorded

/-- A frame with data is a duplicate, or fills the gaps from its first to its last missing byte. -/
theorem Tidy.push_cases (tidy : s.Tidy) (small : frame.offset + frame.data.length < maxByteCount)
    (nonempty : frame.data ≠ []) (flag : Bool) (timeStamp : Int) :
    s.AllReceived frame ∧ s.push frame flag timeStamp = (s, some .errDuplicateStreamData) ∨
      ∃ start stop filled, s.Fills frame start stop filled ∧
        (∃ queuedFrames, filled = { s with gaps := gapsWithout frame s.gaps, queuedFrames }) ∧
        (start ∈ s.missing ∨ (∃ g ∈ s.gaps, g.stop = start) ∧ s.NoData start) ∧
        s.push frame flag timeStamp =
          if filled.gaps.length > maxStreamFrameSorterGaps then
            (filled, some .errTooManyGapsInReceivedStreamData)
          else (filled.enqueue (frame.between start stop) flag timeStamp, none) := by
  have length : ¬ frame.dataLen = 0 := fun zero => nonempty (length_eq_zero_iff.mp zero)
  unfold StreamFrameSorter.push
  rw [if_neg length]
  rcases tidy.cutQueued small nonempty with ⟨result, received⟩ | ⟨n, few, result, needed, cut⟩
  · rw [result]
    exact Or.inl ⟨received, rfl⟩
  · have stopEq := dropFront_stop (le_of_lt few)
    have rest : (frame.dropFront n).data ≠ [] := by
      refine length_pos_iff.mp ?_
      simp only [dropFront, length_drop]
      omega
    have sum : addUint64 (frame.dropFront n).offset (frame.dropFront n).dataLen =
        (frame.dropFront n).offset + (frame.dropFront n).data.length :=
      addUint64_of_lt (by unfold maxByteCount at small; unfold dataLen; omega)
    simp only [result, sum]
    rcases tidy.findGap (stopEq ▸ small) rest flag timeStamp with
      ⟨found, received⟩ | ⟨before, gap, after, start, stop, filled, found, fills, shape, pushed⟩
    · rw [found]
      refine Or.inl ⟨fun p inFrame isMissing => ?_, rfl⟩
      exact received p (needed p inFrame isMissing) isMissing
    · have behind (received : start ∉ s.missing) :
          frame.offset + n = start ∧ ∃ g ∈ s.gaps, g.stop = start :=
        (fills.first.resolve_left received).imp_left Eq.symm
      have uncut (received : start ∉ s.missing) : n = 0 ∧ s.NoData frame.offset := by
        obtain ⟨same, g, member, stopAt⟩ := behind received
        refine cut ?_
        rw [same, ← stopAt]
        exact mem_missing_pred tidy.gapped member
      have whole := fills.of_dropFront few needed fun received => (uncut received).1
      have same : (frame.dropFront n).between start stop = frame.between start stop :=
        dropFront_between stop fills.low
      rw [gapsWithout_dropFront tidy.gapped few needed] at shape
      refine Or.inr ⟨start, stop, filled, whole, shape, ?_, ?_⟩
      · by_cases new : start ∈ s.missing
        · exact Or.inl new
        · obtain ⟨atStart, stopAt⟩ := behind new
          obtain ⟨zero, noData⟩ := uncut new
          rw [zero, add_zero] at atStart
          exact Or.inr ⟨stopAt, atStart ▸ noData⟩
      · simp only [found, pushed, same]

/-- What a push does. -/
theorem Tidy.push (tidy : s.Tidy) (small : frame.offset + frame.data.length < maxByteCount)
    (flag : Bool) (timeStamp : Int) :
    PushResult s frame flag timeStamp (s.push frame flag timeStamp) := by
  by_cases empty : frame.data = []
  · have zero : frame.dataLen = 0 := length_eq_zero_iff.mpr empty
    unfold StreamFrameSorter.push
    rw [if_pos zero]
    split
    · rename_i fin
      exact .marked empty fin
    · rename_i noFin
      exact .refused _ (by decide) (allReceived_of_empty empty) fun fin => absurd fin noFin
  · rcases tidy.push_cases small empty flag timeStamp with
      ⟨received, pushed⟩ | ⟨start, stop, filled, fills, -, first, pushed⟩
    · rw [pushed]
      exact .refused _ (by decide) received fun _ => empty
    · rw [pushed]
      split
      · rename_i many
        exact .tooManyGaps start stop filled fills many
      · rename_i few
        exact .stored start stop filled empty fills first (not_lt.mp few)

end Push

/-! ## Keeping order -/

/-- A tidy sorter whose gaps end with the largest offset. -/
structure Sound (s : StreamFrameSorter) : Prop extends Tidy s where
  bounded : ∀ g ∈ s.gaps, g.stop ≤ maxByteCount

section Sound

variable {s s' filled : StreamFrameSorter} {frame : StreamFrame} {flag : Bool} {timeStamp : Int}
  {start stop : ℕ} {err : Option SorterError}

theorem sound_new (unreliable : Bool) :
    Sound { newStreamFrameSorter with unreliableMarker := unreliable } where
  gapped := ⟨fun g member => (by obtain rfl := mem_singleton.mp member; decide),
    pairwise_singleton _ _⟩
  last := ⟨_, mem_cons_self, by decide⟩
  keyed := fun _ _ found => (by cases found)
  received := fun _ _ found => (by cases found)
  bounded := fun g member => (by obtain rfl := mem_singleton.mp member; exact le_refl _)

/-- What is missing after the gaps were filled was missing before. -/
theorem Fills.missing_subset (fills : s.Fills frame start stop filled) :
    filled.missing ⊆ s.missing := by
  rw [fills.missing]
  exact Set.sdiff_subset

theorem Fills.sound (fills : s.Fills frame start stop filled) (sound : s.Sound)
    (small : frame.offset + frame.data.length < maxByteCount) : filled.Sound where
  gapped := fills.gapped
  last := by
    have stays : maxByteCount - 1 ∈ filled.missing := by
      rw [fills.missing]
      refine ⟨Or.inl sound.last, fun inside => ?_⟩
      have := inside.2
      have := fills.high
      omega
    rcases stays with inGap | never
    · exact inGap
    · have := Set.mem_Ici.mp never
      omega
  keyed := fun k f found => by
    rcases fills.queued k with same | ⟨gone, -⟩
    · exact sound.keyed k f (same ▸ found)
    · rw [gone] at found
      cases found
  received := fun k f found p inFrame isMissing => by
    rcases fills.queued k with same | ⟨gone, -⟩
    · exact sound.received k f (same ▸ found) p inFrame (fills.missing_subset isMissing)
    · rw [gone] at found
      cases found
  bounded := fun g member => by
    obtain ⟨g', member', le⟩ := fills.bounded g member
    exact le_trans le (sound.bounded g' member')

/-- A frame whose bytes are received is queued. -/
theorem Sound.insert (sound : s.Sound) (received : s.AllReceived frame) (gaps : s'.gaps = s.gaps)
    (queued : s'.queuedFrames = s.queuedFrames.insert frame.offset frame) : s'.Sound := by
  have missing : s'.missing = s.missing := by
    rw [StreamFrameSorter.missing, StreamFrameSorter.missing, gaps]
  have lookup {k : ℕ} {f : StreamFrame} (found : s'.queuedFrames.lookup k = some f) :
      k = frame.offset ∧ f = frame ∨ s.queuedFrames.lookup k = some f := by
    rw [queued] at found
    exact (MapSum.lookup_of_insert found).imp_right And.right
  refine ⟨⟨gaps ▸ sound.gapped, gaps ▸ sound.last, fun k f found => ?_, fun k f found => ?_⟩,
    gaps ▸ sound.bounded⟩
  · rcases lookup found with ⟨rfl, rfl⟩ | old
    · rfl
    · exact sound.keyed k f old
  · unfold AllReceived
    rw [missing]
    rcases lookup found with ⟨rfl, rfl⟩ | old
    · exact received
    · exact sound.received k f old

theorem Fills.sound_stored (fills : s.Fills frame start stop filled) (sound : s.Sound)
    (small : frame.offset + frame.data.length < maxByteCount) (flag : Bool) (timeStamp : Int) :
    (filled.enqueue (frame.between start stop) flag timeStamp).Sound := by
  refine (fills.sound sound small).insert (fun p inside isMissing => ?_)
    (enqueue_rest _ _ _ _).1 (enqueue_queuedFrames _ _ _ _)
  rw [StreamFrame.bytes, between_length fills.low fills.high] at inside
  rw [fills.missing] at isMissing
  have ordered := fills.ordered
  refine isMissing.2 ⟨inside.1, lt_of_lt_of_le inside.2 ?_⟩
  simp only [between]
  omega

theorem Sound.push (sound : s.Sound) (small : frame.offset + frame.data.length < maxByteCount)
    (pushed : s.push frame flag timeStamp = (s', err)) : s'.Sound := by
  have result := sound.toTidy.push small flag timeStamp
  rw [pushed] at result
  cases result with
  | refused => exact sound
  | marked empty fin => exact sound.insert (allReceived_of_empty empty) rfl rfl
  | tooManyGaps start stop _ fills => exact fills.sound sound small
  | stored start stop filled nonempty fills => exact fills.sound_stored sound small flag timeStamp

end Sound

/-! ## Padding -/

/-- Zeros from an offset on. -/
def zeros (start size : ℕ) : StreamFrame :=
  { streamID := 0, offset := start, data := List.replicate size 0 }

/-- The zeros that fill a gap. -/
def padding (gap : ByteInterval) : StreamFrame := zeros gap.start (gap.stop - gap.start)

section Padding

variable {s s' : StreamFrameSorter} {gap : ByteInterval} {rest : List ByteInterval}
  {size : ℕ} {timeStamp : Int} {frame : Option StreamFrame}

theorem padding_stop (nonempty : gap.start < gap.stop) :
    (padding gap).offset + (padding gap).data.length = gap.stop := by
  simp only [padding, zeros, length_replicate]
  omega

theorem padding_between (gap : ByteInterval) :
    (padding gap).between gap.start gap.stop = padding gap := by
  simp [between, padding, zeros, slice]

/-- Nothing is queued in front of a gap, apart from the mark of the end. -/
theorem Tidy.noData (tidy : s.Tidy) {p : ℕ} (isMissing : p ∈ s.missing) : s.NoData p := by
  intro f found
  by_contra data
  have := length_pos_iff.mpr data
  refine tidy.received _ f found p ?_ isMissing
  rw [StreamFrame.bytes, tidy.keyed _ f found, Set.mem_Ico]
  omega

theorem cutQueued_zeros (noData : s.NoData gap.start) (small : gap.start < 2 ^ 64)
    (positive : 0 < size) : s.cutQueued (zeros gap.start size) = some (zeros gap.start size) := by
  unfold StreamFrameSorter.cutQueued
  cases queued : s.queuedFrames.lookup (zeros gap.start size).offset with
  | none => rfl
  | some f =>
    have empty := noData f queued
    have offset : addUint64 (zeros gap.start size).offset 0 = (zeros gap.start size).offset :=
      addUint64_of_lt small
    simp only [dataLen, empty, length_nil, drop_zero, offset]
    rw [if_neg (by simp only [zeros, length_replicate]; omega)]

/-- The zeros are one byte too many, and are cut back to the first gap. -/
theorem Tidy.push_zeros (tidy : s.Tidy) (gaps : s.gaps = gap :: rest)
    (finite : gap.stop < maxByteCount) (timeStamp : Int) :
    s.push (zeros gap.start (gap.stop - gap.start + 1)) false timeStamp =
      if rest.length > maxStreamFrameSorterGaps then
        ({ s with gaps := rest }, some .errTooManyGapsInReceivedStreamData)
      else ({ s with gaps := rest }.enqueue (padding gap) false timeStamp, none) := by
  have gapped := tidy.gapped
  have last := tidy.last
  rw [gaps] at gapped last
  have nonempty := gapped.nonempty gap mem_cons_self
  have noData := tidy.noData (Or.inl ⟨gap, by simp [gaps], le_refl _, nonempty⟩)
  have length : (zeros gap.start (gap.stop - gap.start + 1)).dataLen =
      gap.stop - gap.start + 1 := length_replicate
  have stopEq : addUint64 gap.start (gap.stop - gap.start + 1) = gap.stop + 1 := by
    rw [addUint64_of_lt (by unfold maxByteCount at finite; omega)]
    omega
  obtain ⟨next, after, rfl⟩ : ∃ next after, rest = next :: after := by
    cases rest with
    | nil =>
      obtain ⟨g, member, -, high⟩ := last
      obtain rfl := mem_singleton.mp member
      omega
    | cons next after => exact ⟨next, after, rfl⟩
  have apart : gap.stop < next.start := (pairwise_cons.mp gapped.separated).1 next
    mem_cons_self
  have offset : (zeros gap.start (gap.stop - gap.start + 1)).offset = gap.start := rfl
  have found : MPQuic.findGap gap.start (gap.stop + 1) [] (gap :: next :: after) =
      .found [] gap (next :: after) := by
    rw [MPQuic.findGap, if_neg (by omega), if_pos (by omega)]
  have ends : findEndGap (gap.stop + 1) false gap (next :: after) s.queuedFrames =
      { endGap := gap, moved := false, removed := false, rest := next :: after,
        queuedFrames := s.queuedFrames, found := true } := by
    rw [findEndGap, if_neg (by omega), if_pos (by omega)]
  have cut : (zeros gap.start (gap.stop - gap.start + 1)).data.take
      (gap.stop - gap.start + 1 - (gap.stop + 1 - gap.stop)) = (padding gap).data := by
    rw [zeros, padding, zeros, take_replicate]
    congr 1
    omega
  unfold StreamFrameSorter.push
  rw [cutQueued_zeros noData (by unfold maxByteCount at finite; omega) (Nat.succ_pos _), length,
    if_neg (Nat.succ_ne_zero _)]
  simp only [length, offset, stopEq, gaps, found, pushIntoGap, ends, lt_irrefl, if_false,
    gt_iff_lt, Nat.lt_succ_self, if_true, cut, Bool.not_true, Bool.false_eq_true, fillGaps,
    min_eq_right (Nat.le_succ gap.stop), ge_iff_le, le_refl, nil_append]
  rfl

/-- Filling the first gap with zeros. -/
theorem Sound.fills_padding (sound : s.Sound) (gaps : s.gaps = gap :: rest) (cntZero : ℕ) :
    s.Fills (padding gap) gap.start gap.stop { s with cntZero, gaps := rest } := by
  have gapped := sound.gapped
  have bound := sound.bounded gap (by simp [gaps])
  rw [gaps] at gapped
  have nonempty := gapped.nonempty gap mem_cons_self
  have separated := pairwise_cons.mp gapped.separated
  have stopEq := padding_stop nonempty
  have data : (padding gap).data ≠ [] :=
    length_pos_iff.mp (Nat.lt_of_add_lt_add_left (stopEq.symm ▸ nonempty))
  have first : ∀ p ∈ Set.Ico gap.start gap.stop, p ∈ s.missing := fun p inside =>
    Or.inl ⟨gap, by simp [gaps], inside⟩
  have left : gapsWithout (padding gap) s.gaps = rest := by
    have others : gapsWithout (padding gap) rest = rest :=
      gapsWithout_of_apart data (fun g member => gapped.nonempty g (mem_cons_of_mem _ member))
        fun g member => Or.inr (stopEq ▸ le_of_lt (separated.1 g member))
    have filled : gap.without gap.start gap.stop = [] := by
      rw [without_eq, piece_of_le (min_le_right _ _), piece_of_le (le_max_right _ _)]
      rfl
    unfold gapsWithout at others ⊢
    rw [gaps, flatMap_cons, others, stopEq]
    exact congrArg (· ++ rest) filled
  have missing : ({ s with cntZero, gaps := rest } : StreamFrameSorter).missing =
      s.missing \ (padding gap).bytes := missing_gapsWithout left.symm (stopEq ▸ bound)
  rw [bytes, stopEq] at missing
  exact ⟨le_refl _, stopEq.symm ▸ nonempty, le_of_lt nonempty, le_of_eq stopEq.symm,
    missing, fun p inside _ => stopEq ▸ inside, Or.inl (first _ ⟨le_refl _, nonempty⟩),
    fun _ => first _ ⟨by omega, by omega⟩,
    ⟨fun g member => gapped.nonempty g (mem_cons_of_mem _ member), separated.2⟩,
    fun g member => ⟨g, gaps ▸ mem_cons_of_mem _ member, le_refl _⟩,
    gaps ▸ Nat.le_succ_of_le (Nat.le_succ _), fun k => Or.inl rfl, rfl, rfl, rfl, rfl⟩

/-- Zeros up to the largest offset are refused: the end of the frame wraps around. -/
theorem Tidy.push_wrapping (tidy : s.Tidy) (gaps : s.gaps = gap :: rest)
    (wraps : addUint64 gap.start size = 0) (small : gap.start < 2 ^ 64) (timeStamp : Int) :
    (s.push (zeros gap.start size) false timeStamp).1 = s := by
  have nonempty := tidy.gapped.nonempty gap (by simp [gaps])
  have noData := tidy.noData (Or.inl ⟨gap, by simp [gaps], le_refl _, nonempty⟩)
  have length : (zeros gap.start size).dataLen = size := length_replicate
  have offset : (zeros gap.start size).offset = gap.start := rfl
  unfold StreamFrameSorter.push
  split
  · rfl
  · rename_i positive
    rw [length] at positive
    rw [cutQueued_zeros noData small (Nat.pos_of_ne_zero positive)]
    simp only [length, offset, wraps, gaps, MPQuic.findGap, zero_le, if_true]

/-- What asking for the head makes of the sorter. -/
inductive HeadResult (s : StreamFrameSorter) (timeStamp : Int) : StreamFrameSorter → Prop where
  | kept (cntZero : ℕ) : HeadResult s timeStamp { s with cntZero }
  | padded (gap : ByteInterval) (rest : List ByteInterval) (cntZero : ℕ)
      (gaps : s.gaps = gap :: rest) (finite : gap.stop < maxByteCount)
      (few : rest.length ≤ maxStreamFrameSorterGaps) :
      HeadResult s timeStamp
        ({ s with cntZero, gaps := rest }.enqueue (padding gap) false timeStamp)
  | dropped (gap : ByteInterval) (rest : List ByteInterval) (cntZero : ℕ)
      (gaps : s.gaps = gap :: rest) (finite : gap.stop < maxByteCount)
      (many : rest.length > maxStreamFrameSorterGaps) :
      HeadResult s timeStamp { s with cntZero, gaps := rest }

theorem Sound.padFirstGap (sound : s.Sound)
    (padded : s.padFirstGap timeStamp = .ok s') : HeadResult s timeStamp s' := by
  unfold StreamFrameSorter.padFirstGap at padded
  split at padded
  · cases padded
  · rename_i gap rest gaps
    have counted (cntZero : ℕ) : ({ s with cntZero } : StreamFrameSorter).Tidy :=
      ⟨sound.gapped, sound.last, sound.keyed, sound.received⟩
    have bound := sound.bounded gap (by simp [gaps])
    have nonempty := sound.gapped.nonempty gap (by simp [gaps])
    simp only at padded
    split at padded
    · cases padded
    · cases padded
      rcases lt_or_ge gap.stop maxByteCount with finite | unbounded
      · have size : addUint64 (subUint64 gap.stop gap.start) 1 = gap.stop - gap.start + 1 := by
          unfold maxByteCount at finite
          rw [subUint64_of_le (le_of_lt nonempty) (by omega), addUint64_of_lt (by omega)]
        rw [size]
        have pushed := (counted (addUint64 s.cntZero (gap.stop - gap.start + 1))).push_zeros gaps
          finite timeStamp
        unfold zeros at pushed
        rw [pushed]
        split
        · exact .dropped gap rest _ gaps finite (by assumption)
        · exact .padded gap rest _ gaps finite (by omega)
      · have wraps : addUint64 gap.start (addUint64 (subUint64 gap.stop gap.start) 1) = 0 := by
          rw [le_antisymm bound unbounded]
          unfold addUint64 subUint64 maxByteCount
          omega
        have refused := (counted (addUint64 s.cntZero
          (addUint64 (subUint64 gap.stop gap.start) 1))).push_wrapping gaps wraps
            (by unfold maxByteCount at bound; omega) timeStamp
        unfold zeros at refused
        rw [refused]
        exact .kept _

/-- The sorter is the same or a gap was filled, and the head is the one that is queued then. -/
theorem head_cases (headed : s.head timeStamp = .ok (s', frame)) :
    (s' = s ∨ s.padFirstGap timeStamp = .ok s') ∧
      frame = s'.queuedFrames.lookup s'.readPosition := by
  unfold StreamFrameSorter.head at headed
  split at headed
  · rename_i f found
    cases headed
    exact ⟨Or.inl rfl, found.symm⟩
  · rename_i absent
    split at headed
    · split at headed
      · cases headed
        exact ⟨Or.inl rfl, absent.symm⟩
      · split at headed
        · cases headed
          exact ⟨Or.inl rfl, absent.symm⟩
        · cases padded : s.padFirstGap timeStamp with
          | error panic =>
            rw [padded] at headed
            cases headed
          | ok after =>
            rw [padded] at headed
            cases headed
            exact ⟨Or.inr rfl, rfl⟩
    · cases headed
      exact ⟨Or.inl rfl, absent.symm⟩

theorem Sound.head (sound : s.Sound) (headed : s.head timeStamp = .ok (s', frame)) :
    HeadResult s timeStamp s' ∧ frame = s'.queuedFrames.lookup s'.readPosition := by
  obtain ⟨rfl | padded, isHead⟩ := head_cases headed
  · exact ⟨.kept s'.cntZero, isHead⟩
  · exact ⟨sound.padFirstGap padded, isHead⟩

theorem HeadResult.sound (headed : HeadResult s timeStamp s') (sound : s.Sound) : s'.Sound := by
  have small {gap : ByteInterval} {rest : List ByteInterval} (gaps : s.gaps = gap :: rest)
      (finite : gap.stop < maxByteCount) :
      (padding gap).offset + (padding gap).data.length < maxByteCount := by
    rw [padding_stop (sound.gapped.nonempty gap (by simp [gaps]))]
    exact finite
  cases headed with
  | kept cntZero => exact ⟨⟨sound.gapped, sound.last, sound.keyed, sound.received⟩, sound.bounded⟩
  | padded gap rest cntZero gaps finite =>
    have stored := (sound.fills_padding gaps cntZero).sound_stored sound (small gaps finite) false
      timeStamp
    rw [padding_between] at stored
    exact stored
  | dropped gap rest cntZero gaps finite =>
    exact (sound.fills_padding gaps cntZero).sound sound (small gaps finite)

end Padding

/-! ## Taking frames out -/

section Dequeue

theorem dequeue_rest (f : StreamFrame) :
    (s.dequeue f).readPosition = addUint64 s.readPosition f.data.length ∧
      (s.dequeue f).queuedFrames = s.queuedFrames.erase f.offset ∧
      (s.dequeue f).gaps = s.gaps ∧ (s.dequeue f).unreliableMarker = s.unreliableMarker := by
  unfold dequeue
  simp only
  split
  · exact ⟨rfl, rfl, rfl, rfl⟩
  · split <;> exact ⟨rfl, rfl, rfl, rfl⟩

theorem dequeue_missing (f : StreamFrame) : (s.dequeue f).missing = s.missing := by
  unfold missing
  rw [(dequeue_rest s f).2.2.1]

variable {s s' : StreamFrameSorter} {f : StreamFrame}

theorem dequeue_lookup (key : f.offset = s.readPosition) (k : ℕ) :
    (s.dequeue f).queuedFrames.lookup k =
      if k = s.readPosition then none else s.queuedFrames.lookup k := by
  rw [(dequeue_rest s f).2.1, key]
  split
  · rename_i same
    rw [same, AList.lookup_erase]
  · rename_i other
    rw [AList.lookup_erase_ne other]

/-- What is queued afterwards was queued before, at another offset. -/
theorem Tidy.lookup_of_dequeue (tidy : s.Tidy)
    (found : s.queuedFrames.lookup s.readPosition = some f) {k : ℕ} {f' : StreamFrame}
    (found' : (s.dequeue f).queuedFrames.lookup k = some f') :
    k ≠ s.readPosition ∧ s.queuedFrames.lookup k = some f' := by
  rw [dequeue_lookup (tidy.keyed _ f found)] at found'
  split at found'
  · cases found'
  · rename_i other
    exact ⟨other, found'⟩

theorem Sound.dequeue (sound : s.Sound)
    (found : s.queuedFrames.lookup s.readPosition = some f) : (s.dequeue f).Sound := by
  have gaps := (dequeue_rest s f).2.2.1
  have kept {k : ℕ} {f' : StreamFrame} (found' : (s.dequeue f).queuedFrames.lookup k = some f') :=
    (sound.lookup_of_dequeue found found').2
  refine ⟨⟨gaps ▸ sound.gapped, gaps ▸ sound.last, fun k f' found' => ?_, fun k f' found' => ?_⟩,
    gaps ▸ sound.bounded⟩
  · exact sound.keyed k f' (kept found')
  · unfold AllReceived
    rw [dequeue_missing]
    exact sound.received k f' (kept found')

/-- Without padding, the head is the frame at the read position. -/
theorem head_reliable (reliable : s.unreliableMarker = false) (timeStamp : Int) :
    s.head timeStamp = .ok (s, s.queuedFrames.lookup s.readPosition) := by
  unfold head
  cases s.queuedFrames.lookup s.readPosition with
  | none =>
    rw [reliable]
    rfl
  | some frame => rfl

/-- Once the head is known, it is the frame that is taken out. -/
theorem pop_of_lookup (found : s.queuedFrames.lookup s.readPosition = some f) (timeStamp : Int) :
    s.pop timeStamp = .ok (s.dequeue f, some f) := by
  unfold pop head
  rw [found]
  rfl

end Dequeue

end StreamFrameSorter

end MPQuic
