import MPQuic.Lib.Runs
import MPQuic.Stream.Unread

/-!
# What the reader of an unreliable stream pads

Runs of the sorter of an unreliable stream: frames are pushed in any order and at any time, and
the head is asked for and taken out. `Head` fills the first gap with zeros when it finds the
times of at least two frames, in `sortedOffset`, and 70 ms between them.

An offset leaves `sortedOffset` only when its frame is taken out. So as long as no frame is
dropped from the queue (`SorterOp.Safe`), the listed offsets are queued behind the first gap,
and the gap that is padded is bounded (`padding_bounded`). A frame that covers a queued one
drops it and leaves its offset in the list; the next time it is the unbounded last gap that is
padded.
-/

namespace MPQuic

open List

/-! ## Runs -/

/-- The calls on a sorter. -/
inductive SorterOp where
  | push (frame : StreamFrame) (timeStamp : Int)
  | head (timeStamp : Int)
  | pop (timeStamp : Int)

namespace StreamFrameSorter

/-- The sorter of an unreliable stream. -/
def newUnreliable : StreamFrameSorter := { newStreamFrameSorter with unreliableMarker := true }

variable (s : StreamFrameSorter)

/-- The sorter after a call. -/
def step : SorterOp → Except RuntimePanic StreamFrameSorter
  | .push frame timeStamp => .ok (s.push frame true timeStamp).1
  | .head timeStamp => (s.head timeStamp).map Prod.fst
  | .pop timeStamp => (s.pop timeStamp).map Prod.fst

/-- A run of an unreliable stream's sorter. -/
def run (ops : List SorterOp) : Except RuntimePanic StreamFrameSorter :=
  ops.foldlM step newUnreliable

/-- `Head` generates zeros. -/
def GeneratesPadding : Prop :=
  s.queuedFrames.lookup s.readPosition = none ∧ s.unreliableMarker = true ∧
    ∃ span, s.queuedSpan = some span ∧ lenTime < span

/-- If `Head` generates zeros, then the first gap ends before a queued frame, and the
allocation succeeds. -/
def BoundedPadding : Prop :=
  s.GeneratesPadding → ∃ gap rest, s.gaps = gap :: rest ∧ gap.stop < maxByteCount ∧
    (∃ k f, s.queuedFrames.lookup k = some f ∧ gap.stop ≤ k) ∧
    ∀ timeStamp, ∃ s', s.padFirstGap timeStamp = .ok s'

theorem head_of_generates {s : StreamFrameSorter} (generates : s.GeneratesPadding)
    (timeStamp : Int) :
    s.head timeStamp = (s.padFirstGap timeStamp).map fun padded =>
      (padded, padded.queuedFrames.lookup padded.readPosition) := by
  obtain ⟨absent, unreliable, span, spans, long⟩ := generates
  simp only [head, absent, unreliable, spans, if_true, if_neg (Int.not_le.mpr long)]

theorem head_of_not_generates {s : StreamFrameSorter} (generates : ¬s.GeneratesPadding)
    (timeStamp : Int) : s.head timeStamp = .ok (s, s.queuedFrames.lookup s.readPosition) := by
  unfold head
  cases found : s.queuedFrames.lookup s.readPosition with
  | some frame => rfl
  | none =>
    by_cases unreliable : s.unreliableMarker = true
    · cases spans : s.queuedSpan with
      | none => simp only [unreliable, if_true]
      | some span =>
        have short : span ≤ lenTime := by
          by_contra long
          exact generates ⟨found, unreliable, span, spans, Int.not_le.mp long⟩
        simp only [unreliable, short, if_true]
    · simp only [unreliable, Bool.false_eq_true, if_false]

end StreamFrameSorter

/-- The frame ends below the limit of an allocation, it covers no queued frame, there is room
for one more gap, and a frame that only marks the end of the stream does not replace data. -/
def SorterOp.Safe (s : StreamFrameSorter) : SorterOp → Prop
  | .push frame _ =>
    frame.offset + frame.data.length ≤ StreamFrameSorter.maxAlloc ∧ s.OnePiece frame ∧
      s.gaps.length < maxStreamFrameSorterGaps ∧ (frame.data = [] → s.NoData frame.offset)
  | _ => True

namespace StreamFrameSorter

/-! ## The listed offsets -/

/-- The queued frames are the received bytes that were not read yet, and the listed offsets are
among them. -/
structure Recorded (s : StreamFrameSorter) : Prop extends Unread s where
  few : s.gaps.length ≤ maxStreamFrameSorterGaps
  position : s.readPosition ≤ maxAlloc
  small : ∀ k f, s.queuedFrames.lookup k = some f → k + f.data.length ≤ maxAlloc
  sorted : s.sortedOffset.Pairwise (· < ·)
  listed : ∀ k ∈ s.sortedOffset, k ≤ s.maxOffset ∧
    ∃ f, s.queuedFrames.lookup k = some f ∧ f.data ≠ []

section Recorded

variable {s filled : StreamFrameSorter} {frame f : StreamFrame} {start stop : ℕ}

theorem recorded_new : Recorded newUnreliable :=
  ⟨unread_new true, by decide, Nat.zero_le _, fun _ _ found => (by cases found),
    List.Pairwise.nil, fun _ member => (by cases member)⟩

section Store

variable (recorded : s.Recorded) (fills : s.Fills frame start stop filled) (inside : start < stop)
  (new : ∀ p ∈ Set.Ico start stop, p ∈ s.missing)

include recorded fills inside new

/-- The stored offset follows the listed ones. -/
theorem Recorded.listed_stored (flag : Bool) (timeStamp : Int) :
    (filled.enqueue (frame.between start stop) flag timeStamp).sortedOffset.Pairwise (· < ·) ∧
      ∀ k ∈ (filled.enqueue (frame.between start stop) flag timeStamp).sortedOffset,
        k ≤ (filled.enqueue (frame.between start stop) flag timeStamp).maxOffset ∧
          (k ∈ s.sortedOffset ∨ k = start) := by
  obtain ⟨listEq, maxEq⟩ := fills.recorded
  have before : ∀ k ∈ s.sortedOffset, k ≤ s.maxOffset ∧ k ≠ start := fun k member => by
    obtain ⟨le, f, found, nonempty⟩ := recorded.listed k member
    exact ⟨le, (recorded.toUnread.kept fills inside new flag timeStamp found nonempty).1⟩
  unfold enqueue
  simp only [StreamFrame.between, listEq, maxEq]
  split
  · rename_i record
    simp only [Bool.and_eq_true, decide_eq_true_eq] at record
    refine ⟨pairwise_append.mpr ⟨recorded.sorted, pairwise_singleton _ _,
      fun k member m last => ?_⟩, fun k member => ?_⟩
    · obtain rfl := mem_singleton.mp last
      have := before k member
      omega
    · rcases mem_append.mp member with old | last
      · have := before k old
        exact ⟨(by omega : k ≤ start), Or.inl old⟩
      · obtain rfl := mem_singleton.mp last
        exact ⟨le_refl _, Or.inr rfl⟩
  · exact ⟨recorded.sorted, fun k member => ⟨(before k member).1, Or.inl member⟩⟩

theorem Recorded.store (small : frame.offset + frame.data.length < maxByteCount)
    (few : filled.gaps.length ≤ maxStreamFrameSorterGaps) (high : stop ≤ maxAlloc) (flag : Bool)
    (timeStamp : Int) : (filled.enqueue (frame.between start stop) flag timeStamp).Recorded := by
  have unread := recorded.toUnread.store fills inside new small flag timeStamp
  obtain ⟨gaps, position, -⟩ := enqueue_rest filled (frame.between start stop) flag timeStamp
  have length := StreamFrame.between_length fills.low fills.high
  have nonempty : (frame.between start stop).data ≠ [] :=
    length_pos_iff.mp (by rw [length]; omega)
  obtain ⟨sorted, listed⟩ := recorded.listed_stored fills inside new flag timeStamp
  have readPosition := position.trans fills.position
  refine ⟨unread, gaps ▸ few, readPosition ▸ recorded.position, fun k f found => ?_, sorted,
    fun k member => ?_⟩
  · rcases fills.lookup_stored flag timeStamp found with ⟨rfl, rfl⟩ | old
    · rw [length]
      omega
    · exact recorded.small k f old
  · obtain ⟨le, old | rfl⟩ := listed k member
    · obtain ⟨-, f, found, data⟩ := recorded.listed k old
      exact ⟨le, f, (recorded.toUnread.kept fills inside new flag timeStamp found data).2, data⟩
    · exact ⟨le, _, stored_lookup filled frame k stop flag timeStamp, nonempty⟩

end Store

/-! ## One step -/

section

variable (recorded : s.Recorded) (timeStamp : Int)

include recorded

/-- The first gap that is padded ends before a queued frame. -/
theorem Recorded.firstGap (generates : s.GeneratesPadding) :
    ∃ gap rest k f, s.gaps = gap :: rest ∧ s.queuedFrames.lookup k = some f ∧ f.data ≠ [] ∧
      gap.stop ≤ k := by
  obtain ⟨absent, -, span, spans, -⟩ := generates
  obtain ⟨first, second, more, list⟩ : ∃ first second more,
      s.sortedOffset = first :: second :: more := by
    unfold queuedSpan at spans
    split at spans
    · exact ⟨_, _, _, by assumption⟩
    · cases spans
  have increasing := recorded.sorted
  rw [list] at increasing
  have order : first < second := (pairwise_cons.mp increasing).1 second mem_cons_self
  obtain ⟨-, f₁, found₁, data₁⟩ := recorded.listed first (by simp [list])
  obtain ⟨-, f, found, data⟩ := recorded.listed second (by simp [list])
  have unread := recorded.ahead first f₁ found₁ data₁
  have received : second ∉ s.missing :=
    recorded.received second f found second
      (recorded.keyed second f found ▸ mem_bytes_offset data)
  have small := recorded.small second f found
  obtain ⟨gap, rest, gaps⟩ : ∃ gap rest, s.gaps = gap :: rest := by
    obtain ⟨g, member, -⟩ := recorded.last
    exact exists_cons_of_ne_nil (ne_nil_of_mem member)
  refine ⟨gap, rest, second, f, gaps, found, data, ?_⟩
  have atPosition := recorded.toUnread.start_of_absent absent gaps
  by_contra reaches
  exact received (Or.inl ⟨gap, by simp [gaps], by omega, by omega⟩)

theorem Recorded.boundedPadding : s.BoundedPadding := by
  intro generates
  obtain ⟨gap, rest, k, f, gaps, found, data, behind⟩ := recorded.firstGap generates
  have positive := length_pos_iff.mpr data
  have small := recorded.small k f found
  have nonempty := recorded.gapped.nonempty gap (by simp [gaps])
  unfold maxAlloc at small
  refine ⟨gap, rest, gaps, by unfold maxByteCount; omega, ⟨k, f, found, behind⟩,
    fun timeStamp => ?_⟩
  have size : addUint64 (subUint64 gap.stop gap.start) 1 = gap.stop - gap.start + 1 := by
    rw [subUint64_of_le (le_of_lt nonempty) (by omega), addUint64_of_lt (by omega)]
  unfold padFirstGap
  rw [gaps]
  simp only [size]
  rw [if_neg (by unfold maxAlloc; omega)]
  exact ⟨_, rfl⟩

theorem Recorded.head :
    ∃ s' frame, s.head timeStamp = .ok (s', frame) ∧ s'.Recorded ∧
      frame = s'.queuedFrames.lookup s'.readPosition := by
  by_cases generates : s.GeneratesPadding
  · obtain ⟨gap, rest, k, f, gaps, found, data, behind⟩ := recorded.firstGap generates
    obtain ⟨-, -, -, -, -, allocates⟩ := recorded.boundedPadding generates
    obtain ⟨s', padded⟩ := allocates timeStamp
    refine ⟨s', s'.queuedFrames.lookup s'.readPosition, ?_, ?_, rfl⟩
    · rw [head_of_generates generates, padded]
      rfl
    · have small := recorded.small k f found
      have nonempty := recorded.gapped.nonempty gap (by simp [gaps])
      have positive := length_pos_iff.mpr data
      have few := recorded.few
      rw [gaps, length_cons] at few
      cases recorded.toSound.padFirstGap padded with
      | kept cntZero =>
        exact ⟨⟨⟨⟨recorded.gapped, recorded.last, recorded.keyed, recorded.received⟩,
          recorded.bounded⟩, recorded.read, recorded.ahead, recorded.held, recorded.apart⟩,
          recorded.few, recorded.position, recorded.small, recorded.sorted, recorded.listed⟩
      | padded gap' rest' cntZero gaps' finite =>
        obtain ⟨rfl, rfl⟩ := List.cons.inj (gaps.symm.trans gaps')
        have stored := recorded.store (recorded.toSound.fills_padding gaps cntZero) nonempty
          (fun p inside => Or.inl ⟨gap, by simp [gaps], inside⟩)
          (by rw [padding_stop nonempty]; exact finite) (Nat.le_of_succ_le few) (by omega) false
          timeStamp
        rw [padding_between] at stored
        exact stored
      | dropped gap' rest' cntZero gaps' finite many =>
        obtain ⟨rfl, rfl⟩ := List.cons.inj (gaps.symm.trans gaps')
        omega
  · exact ⟨s, _, head_of_not_generates generates timeStamp, recorded, rfl⟩

/-- The recorded offsets without the one at the head. An offset that is taken out of the queue
comes first in the record, since a frame with data stands at every recorded one. -/
theorem Recorded.listed_dequeue (key : f.offset = s.readPosition) :
    (s.dequeue f).sortedOffset.Pairwise (· < ·) ∧
      (∀ k ∈ (s.dequeue f).sortedOffset, k ∈ s.sortedOffset ∧ k ≠ s.readPosition) ∧
      (s.dequeue f).maxOffset = s.maxOffset := by
  have increasing := recorded.sorted
  unfold StreamFrameSorter.dequeue
  simp only [key]
  cases sorted : s.sortedOffset with
  | nil => exact ⟨List.Pairwise.nil, fun k member => (by cases member), rfl⟩
  | cons first more =>
    rw [sorted] at increasing
    obtain ⟨below, rest⟩ := pairwise_cons.mp increasing
    simp only
    split
    · rename_i isFirst
      refine ⟨rest, fun k member => ⟨mem_cons_of_mem _ member, ?_⟩, rfl⟩
      have := below k member
      omega
    · rename_i other
      refine ⟨sorted ▸ recorded.sorted, fun k member => ?_, rfl⟩
      simp only at member
      refine ⟨member, fun same => ?_⟩
      rcases mem_cons.mp member with rfl | later
      · exact other same
      · obtain ⟨-, f', found', data⟩ := recorded.listed first (by simp [sorted])
        have := recorded.ahead first f' found' data
        have := below k later
        omega

theorem Recorded.dequeue
    (found : s.queuedFrames.lookup s.readPosition = some f) : (s.dequeue f).Recorded := by
  have unread := recorded.toUnread.dequeue found
  have position := recorded.toUnread.position_dequeue found
  have small := recorded.small _ f found
  obtain ⟨sorted, listed, maxOffset⟩ := recorded.listed_dequeue (recorded.keyed _ f found)
  refine ⟨unread, (dequeue_rest s f).2.2.1 ▸ recorded.few, by omega, fun k f' found' => ?_, sorted,
    fun k member => ?_⟩
  · exact recorded.small k f' (recorded.toUnread.lookup_of_dequeue found found').2
  · obtain ⟨old, other⟩ := listed k member
    obtain ⟨le, f', found', data⟩ := recorded.listed k old
    exact ⟨maxOffset ▸ le, f',
      (recorded.toUnread.lookup_dequeue_of_ne found other).trans found', data⟩

theorem Recorded.pop : ∃ s' frame, s.pop timeStamp = .ok (s', frame) ∧ s'.Recorded := by
  obtain ⟨s', frame, headed, recorded', isHead⟩ := recorded.head timeStamp
  unfold StreamFrameSorter.pop
  rw [headed]
  cases frame with
  | none => exact ⟨s', none, rfl, recorded'⟩
  | some f => exact ⟨s'.dequeue f, some f, rfl, recorded'.dequeue isHead.symm⟩

/-- An empty frame at an offset without data is queued. -/
theorem Recorded.mark (empty : frame.data = [])
    (noData : s.NoData frame.offset) (small : frame.offset ≤ maxAlloc) :
    ({ s with queuedFrames := s.queuedFrames.insert frame.offset frame } :
      StreamFrameSorter).Recorded := by
  have unread := recorded.toUnread.mark empty noData
  refine ⟨unread, recorded.few, recorded.position, fun k f found => ?_, recorded.sorted,
    fun k member => ?_⟩
  · rcases MapSum.lookup_of_insert found with ⟨rfl, rfl⟩ | ⟨-, old⟩
    · rw [empty]
      exact small
    · exact recorded.small k f old
  · obtain ⟨le, f, found, data⟩ := recorded.listed k member
    exact ⟨le, f, (lookup_mark empty noData data).mpr found, data⟩

theorem Recorded.push {timeStamp : Int} (safe : (SorterOp.push frame timeStamp).Safe s) :
    (s.push frame true timeStamp).1.Recorded := by
  obtain ⟨below, onePiece, room, noData⟩ := safe
  have small : frame.offset + frame.data.length < maxByteCount := by
    unfold maxAlloc at below
    unfold maxByteCount
    omega
  have result := recorded.toTidy.push small true timeStamp
  generalize s.push frame true timeStamp = pushed at result ⊢
  cases result with
  | refused => exact recorded
  | marked empty fin => exact recorded.mark empty (noData empty) (by omega)
  | tooManyGaps start stop filled fills many =>
    have := fills.count
    omega
  | stored start stop filled nonempty fills first few =>
    have low := fills.low
    have high := fills.high
    have within := fills.within
    have new := recorded.toUnread.first_missing (by omega) first
    have inside : start < stop := (fills.needed start ⟨low, within⟩ new).2
    exact recorded.store fills inside (onePiece.filled_missing fills new) small few (by omega)
      true timeStamp

theorem Recorded.step {op : SorterOp} (safe : op.Safe s) :
    ∃ s', s.step op = .ok s' ∧ s'.Recorded := by
  cases op with
  | push frame timeStamp => exact ⟨_, rfl, recorded.push safe⟩
  | head timeStamp =>
    obtain ⟨s', frame, headed, recorded', -⟩ := recorded.head timeStamp
    exact ⟨s', by rw [StreamFrameSorter.step, headed]; rfl, recorded'⟩
  | pop timeStamp =>
    obtain ⟨s', frame, popped, recorded'⟩ := recorded.pop timeStamp
    exact ⟨s', by rw [StreamFrameSorter.step, popped]; rfl, recorded'⟩

end

end Recorded

/-! ## Whole runs -/

/-- The condition on a run: every step is safe in the state before it. -/
def SafeRun (ops : List SorterOp) : Prop :=
  ∀ front op back, ops = front ++ op :: back → ∀ s, run front = .ok s → op.Safe s

theorem recorded_run {ops : List SorterOp} (safe : SafeRun ops) :
    ∃ s, run ops = .ok s ∧ s.Recorded := by
  have each : Runs.EachOk step (fun s op => op.Safe s) newUnreliable ops := safe
  exact each.invariant (fun _ s => s.Recorded) recorded_new fun _ _ _ recorded safe =>
    recorded.step safe

/-- In a safe run `Head` and `Pop` never fail, and they only pad a bounded gap, in front of a
frame that is still queued. -/
theorem padding_bounded (ops : List SorterOp) (safe : SafeRun ops) :
    ∃ s, run ops = .ok s ∧ s.BoundedPadding := by
  obtain ⟨s, ran, recorded⟩ := recorded_run safe
  exact ⟨s, ran, recorded.boundedPadding⟩

/-- Two frames, 100 ms apart, with a gap before each of them. -/
def waitingOps : List SorterOp :=
  [.push { streamID := 5, offset := 1, data := [1] } 0,
    .push { streamID := 5, offset := 3, data := [3] } 100000000]

theorem onePiece_singleton (s : StreamFrameSorter) {frame : StreamFrame}
    (single : frame.data.length = 1) : s.OnePiece frame := by
  intro p inside isMissing r inside' _ q low high
  rw [StreamFrame.bytes, single, Set.mem_Ico] at inside inside'
  obtain rfl : q = p := by omega
  exact isMissing

theorem padding_bounded_waiting :
    SafeRun waitingOps ∧ ∃ s, run waitingOps = .ok s ∧ s.GeneratesPadding ∧ s.BoundedPadding := by
  have safe : SafeRun waitingOps := by
    intro front op back split s ran
    rcases front with _ | ⟨_, _ | ⟨_, front⟩⟩
    · cases split
      cases ran
      exact ⟨by decide, onePiece_singleton _ rfl, by decide, fun empty => (by cases empty)⟩
    · cases split
      cases ran
      exact ⟨by decide, onePiece_singleton _ rfl, by decide, fun empty => (by cases empty)⟩
    · have lengths := congrArg List.length split
      simp only [waitingOps, cons_append, length_cons, length_append,
        length_nil] at lengths
      omega
  obtain ⟨s, ran, bounded⟩ := padding_bounded waitingOps safe
  refine ⟨safe, s, ran, ?_, bounded⟩
  cases ran
  exact ⟨by decide, rfl, 100000000, by decide, by decide⟩

/-- A third frame covers the other two, and is read. -/
def coveringOps : List SorterOp :=
  waitingOps ++ [.push { streamID := 5, offset := 0, data := [0, 1, 2, 3, 4] } 100000000,
    .pop 100000000]

theorem padding_unbounded_covering :
    ∃ s, run coveringOps = .ok s ∧ s.GeneratesPadding ∧
      s.gaps = [{ start := 5, stop := maxByteCount }] ∧ ¬s.BoundedPadding ∧
      s.head 100000000 = .error .makeslice := by
  refine ⟨_, rfl, ⟨by decide, rfl, 100000000, by decide, by decide⟩, rfl, fun bounded => ?_, rfl⟩
  obtain ⟨gap, rest, gaps, finite, -⟩ := bounded ⟨by decide, rfl, 100000000, by decide, by decide⟩
  cases gaps
  exact absurd finite (by decide)

end StreamFrameSorter

end MPQuic
