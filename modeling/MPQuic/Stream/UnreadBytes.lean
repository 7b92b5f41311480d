import MPQuic.Stream.RefusedPush
import Mathlib.Data.Set.Finite.Lattice
import Mathlib.Order.Interval.Finset.Nat

/-!
# Every unread byte is held once

As long as what is missing of each pushed frame is one piece, the queued frames hold each received
byte that was not read yet exactly once, and `cnt` is their number (`Ledger`). The frame that a pop
pads an unreliable stream with is taken out at once, so it never counts.

A frame that covers received bytes between two missing ones is stored whole. Of the frames that it
covers only the one right behind each gap is dropped, and `cnt` keeps counting all of them: then
some byte is counted twice. So the condition is exact (`unreadOnce_iff`).
-/

namespace MPQuic

open List StreamFrameSorter

/-! ## Sets of bytes -/

/-- The bytes of the frames from a position on. -/
def unreadBytes (position : ℕ) (frames : List StreamFrame) : Set ℕ :=
  {p | position ≤ p ∧ ∃ frame ∈ frames, p ∈ frame.bytes}

theorem ncard_Ico (start stop : ℕ) : (Set.Ico start stop).ncard = stop - start := by
  rw [← Finset.coe_Ico, Set.ncard_coe_finset, Nat.card_Ico]

theorem StreamFrame.ncard_bytes (frame : StreamFrame) : frame.bytes.ncard = frame.data.length := by
  rw [StreamFrame.bytes, ncard_Ico]
  omega

theorem finite_unreadBytes (position : ℕ) (frames : List StreamFrame) :
    (unreadBytes position frames).Finite := by
  refine ((finite_toSet frames).biUnion fun frame _ =>
    Set.finite_Ico frame.offset (frame.offset + frame.data.length)).subset ?_
  rintro p ⟨-, frame, member, inside⟩
  exact Set.mem_biUnion member inside

theorem ncard_lt_of_below {bytes : Set ℕ} (below : ∀ p ∈ bytes, p < maxByteCount) :
    bytes.ncard < 2 ^ 64 := by
  have sub : bytes ⊆ Set.Ico 0 maxByteCount := fun p member => ⟨Nat.zero_le p, below p member⟩
  have le := Set.ncard_le_ncard sub (Set.finite_Ico 0 maxByteCount)
  rw [ncard_Ico] at le
  unfold maxByteCount at le
  omega

/-- A counter that gained `n` can only have gained the right amount, even if it wrapped around. -/
theorem eq_of_addUint64 {c n m : ℕ} (limited : n < 2 ^ 64) (le : m ≤ n)
    (same : addUint64 c n = c + m) : m = n := by
  unfold addUint64 at same
  omega

namespace StreamFrameSorter

/-- The queued frames hold every received byte that was not read yet exactly once, and `cnt` is the
number of these bytes. -/
structure UnreadOnce (s : StreamFrameSorter) (frames : List StreamFrame) : Prop where
  keyed : ∀ k f, s.queuedFrames.lookup k = some f → f.offset = k
  ahead : ∀ k f, s.queuedFrames.lookup k = some f → s.readPosition ≤ k
  apart : ∀ k f k' f', s.queuedFrames.lookup k = some f → s.queuedFrames.lookup k' = some f' →
    k ≠ k' → ∀ p ∈ f.bytes, p ∉ f'.bytes
  exactly : {p | ∃ k f, s.queuedFrames.lookup k = some f ∧ p ∈ f.bytes} =
    unreadBytes s.readPosition frames
  memory : MapSum.total (fun f => f.data.length) s.queuedFrames =
    (unreadBytes s.readPosition frames).ncard
  counted : s.cnt = (unreadBytes s.readPosition frames).ncard

/-- The state that keeps this: what is missing, from the read position on, is what no frame has. -/
structure Ledger (s : StreamFrameSorter) (frames : List StreamFrame) : Prop extends Unread s where
  few : s.gaps.length ≤ maxStreamFrameSorterGaps
  data : ∀ k f, s.queuedFrames.lookup k = some f → f.data ≠ []
  known : ∀ p, s.readPosition ≤ p → (p ∉ s.missing ↔ ∃ frame ∈ frames, p ∈ frame.bytes)
  counted : s.cnt = (unreadBytes s.readPosition frames).ncard

section Ledger

variable {s filled : StreamFrameSorter} {frame f : StreamFrame} {frames : List StreamFrame}
  {start stop : ℕ} {flag : Bool} {timeStamp : Int}

theorem ledger_new (unreliable : Bool) :
    Ledger { newStreamFrameSorter with unreliableMarker := unreliable } [] where
  toUnread := unread_new unreliable
  few := show 1 ≤ maxStreamFrameSorterGaps by decide
  data := fun _ _ found => (by cases found)
  known := fun p notRead => by
    refine iff_of_false (fun received => ?_) fun ⟨_, member, _⟩ => absurd member not_mem_nil
    obtain ⟨_, _, found, -⟩ := (unread_new unreliable).held p notRead received
    cases found
  counted := by
    have empty : unreadBytes 0 [] = ∅ := by
      refine Set.eq_empty_iff_forall_notMem.mpr ?_
      rintro p ⟨-, _, member, -⟩
      cases member
    exact (empty ▸ Set.ncard_empty ℕ).symm

section

variable (ledger : s.Ledger frames)

include ledger

theorem Ledger.mem_unread {p : ℕ} :
    p ∈ unreadBytes s.readPosition frames ↔ s.readPosition ≤ p ∧ p ∉ s.missing :=
  and_congr_right fun notRead => (ledger.known p notRead).symm

theorem Ledger.unread_lt {p : ℕ} (unread : p ∈ unreadBytes s.readPosition frames) :
    p < maxByteCount :=
  not_le.mp fun beyond => (ledger.mem_unread.mp unread).2 (Or.inr beyond)

theorem Ledger.cnt_lt : s.cnt < 2 ^ 64 := by
  rw [ledger.counted]
  exact ncard_lt_of_below fun p => ledger.unread_lt

theorem Ledger.unreadOnce : s.UnreadOnce frames := by
  have exactly : {p | ∃ k f, s.queuedFrames.lookup k = some f ∧ p ∈ f.bytes} =
      unreadBytes s.readPosition frames := by
    ext p
    rw [ledger.mem_unread]
    constructor
    · rintro ⟨k, f, found, inside⟩
      have ahead := ledger.ahead k f found (ledger.data k f found)
      have low := inside.1
      rw [ledger.keyed k f found] at low
      exact ⟨le_trans ahead low, ledger.received k f found p inside⟩
    · rintro ⟨notRead, received⟩
      exact ledger.held p notRead received
  refine ⟨ledger.keyed, fun k f found => ledger.ahead k f found (ledger.data k f found),
    ledger.apart, exactly, ?_, ledger.counted⟩
  rw [← exactly, ← (MapSum.total_ncard StreamFrame.bytes s.queuedFrames
    (fun f => Set.finite_Ico _ _) ledger.apart).2]
  exact congrArg (MapSum.total · s.queuedFrames) (funext fun f => f.ncard_bytes.symm)

end

/-! ## Pushing -/

theorem enqueue_cnt (s : StreamFrameSorter) (frame : StreamFrame) (flag : Bool) (timeStamp : Int) :
    (s.enqueue frame flag timeStamp).cnt = addUint64 s.cnt frame.data.length := by
  unfold enqueue
  simp only
  split <;> rfl

theorem Fills.cnt_stored (fills : s.Fills frame start stop filled) (counted : filled.cnt = s.cnt) :
    (filled.enqueue (frame.between start stop) flag timeStamp).cnt =
      addUint64 s.cnt (stop - start) := by
  rw [enqueue_cnt, counted, StreamFrame.between_length fills.low fills.high]

section Stored

variable (ledger : s.Ledger frames) (fills : s.Fills frame start stop filled)

include ledger fills

/-- The unread bytes gain what was missing of the part that is stored. -/
theorem Ledger.ncard_unread_stored :
    (unreadBytes s.readPosition (frames ++ [frame])).ncard =
      s.cnt + (Set.Ico start stop ∩ s.missing).ncard := by
  have union : unreadBytes s.readPosition (frames ++ [frame]) =
      unreadBytes s.readPosition frames ∪ (Set.Ico start stop ∩ s.missing) := by
    ext p
    constructor
    · rintro ⟨notRead, frame', member, inside⟩
      rcases mem_append.mp member with old | last
      · exact Or.inl ⟨notRead, frame', old, inside⟩
      · obtain rfl := mem_singleton.mp last
        by_cases isMissing : p ∈ s.missing
        · exact Or.inr ⟨fills.needed p inside isMissing, isMissing⟩
        · exact Or.inl (ledger.mem_unread.mpr ⟨notRead, isMissing⟩)
    · rintro (⟨notRead, frame', old, inside⟩ | ⟨inside, isMissing⟩)
      · exact ⟨notRead, frame', mem_append_left _ old, inside⟩
      · refine ⟨not_lt.mp fun read => ledger.read p read isMissing, frame, by simp, ?_⟩
        exact ⟨le_trans fills.low inside.1, lt_of_lt_of_le inside.2 fills.high⟩
  have disjoint : Disjoint (unreadBytes s.readPosition frames)
      (Set.Ico start stop ∩ s.missing) :=
    Set.disjoint_left.mpr fun p unread new => (ledger.mem_unread.mp unread).2 new.2
  rw [union, Set.ncard_union_eq disjoint (finite_unreadBytes _ _)
    ((Set.finite_Ico start stop).inter_of_left _), ← ledger.counted]

variable (small : frame.offset + frame.data.length < maxByteCount) (kept : filled.cnt = s.cnt)

include small kept

/-- The counter is right only if everything that was stored was missing. -/
theorem Ledger.onePiece_of_counted
    (once : (filled.enqueue (frame.between start stop) flag timeStamp).UnreadOnce
      (frames ++ [frame])) : s.OnePiece frame := by
  have counted := once.counted
  have position := (enqueue_rest filled (frame.between start stop) flag timeStamp).2.1.trans
    fills.position
  have high := fills.high
  rw [position, ledger.ncard_unread_stored fills, fills.cnt_stored kept] at counted
  have sub : Set.Ico start stop ∩ s.missing ⊆ Set.Ico start stop := Set.inter_subset_left
  have finite := Set.finite_Ico start stop
  have le := Set.ncard_le_ncard sub finite
  rw [ncard_Ico] at le
  have all : Set.Ico start stop ∩ s.missing = Set.Ico start stop := by
    refine Set.eq_of_subset_of_ncard_le sub ?_ finite
    rw [ncard_Ico]
    refine le_of_eq (eq_of_addUint64 ?_ le counted).symm
    unfold maxByteCount at small
    omega
  intro p inP missingP r inR missingR q low high
  have first := fills.needed p inP missingP
  have last := fills.needed r inR missingR
  have between : q ∈ Set.Ico start stop :=
    ⟨le_trans first.1 low, lt_of_le_of_lt high last.2⟩
  exact (all.symm.subset between).2

theorem Ledger.store (left : filled.gaps = gapsWithout frame s.gaps) (new : start ∈ s.missing)
    (onePiece : s.OnePiece frame) (few : filled.gaps.length ≤ maxStreamFrameSorterGaps) :
    (filled.enqueue (frame.between start stop) flag timeStamp).Ledger (frames ++ [frame]) := by
  have inside : start < stop := (fills.needed start ⟨fills.low, fills.within⟩ new).2
  have all := onePiece.filled_missing fills new
  obtain ⟨gaps, position, -⟩ := enqueue_rest filled (frame.between start stop) flag timeStamp
  have readPosition := position.trans fills.position
  have missing : (filled.enqueue (frame.between start stop) flag timeStamp).missing =
      s.missing \ frame.bytes := missing_gapsWithout (gaps.trans left) (le_of_lt small)
  refine ⟨ledger.toUnread.store fills inside all small flag timeStamp, gaps ▸ few,
    fun k f found => ?_, fun p notRead => ?_, ?_⟩
  · rcases fills.lookup_stored flag timeStamp found with ⟨-, rfl⟩ | old
    · refine length_pos_iff.mp ?_
      rw [StreamFrame.between_length fills.low fills.high]
      omega
    · exact ledger.data k f old
  · rw [readPosition] at notRead
    have before := ledger.known p notRead
    rw [missing, Set.mem_sdiff]
    simp only [mem_append, mem_singleton, or_and_right, exists_or, exists_eq_left]
    rw [← before]
    tauto
  · have whole : Set.Ico start stop ∩ s.missing = Set.Ico start stop :=
      Set.inter_eq_left.mpr all
    have total := ledger.ncard_unread_stored fills
    rw [whole, ncard_Ico] at total
    rw [readPosition, total, fills.cnt_stored kept]
    refine addUint64_of_lt ?_
    rw [← total]
    refine ncard_lt_of_below ?_
    rintro p ⟨notRead, frame', member, inFrame⟩
    rcases mem_append.mp member with old | last
    · exact ledger.unread_lt ⟨notRead, frame', old, inFrame⟩
    · obtain rfl := mem_singleton.mp last
      exact lt_trans inFrame.2 small

end Stored

/-- A duplicate brings no new bytes. -/
theorem Ledger.duplicate (ledger : s.Ledger frames) (received : s.AllReceived frame) :
    s.Ledger (frames ++ [frame]) := by
  have covered (p : ℕ) (notRead : s.readPosition ≤ p) :
      (∃ frame' ∈ frames ++ [frame], p ∈ frame'.bytes) ↔ ∃ frame' ∈ frames, p ∈ frame'.bytes := by
    rw [← ledger.known p notRead]
    constructor
    · rintro ⟨frame', member, inside⟩
      rcases mem_append.mp member with old | last
      · exact (ledger.known p notRead).mpr ⟨frame', old, inside⟩
      · obtain rfl := mem_singleton.mp last
        exact received p inside
    · intro isReceived
      obtain ⟨frame', old, inside⟩ := (ledger.known p notRead).mp isReceived
      exact ⟨frame', mem_append_left _ old, inside⟩
  have same : unreadBytes s.readPosition (frames ++ [frame]) =
      unreadBytes s.readPosition frames :=
    Set.ext fun p => and_congr_right (covered p)
  refine ⟨ledger.toUnread, ledger.few, ledger.data, fun p notRead => ?_, ?_⟩
  · rw [covered p notRead]
    exact ledger.known p notRead
  · rw [same]
    exact ledger.counted

/-! ## Taking frames out -/

theorem dequeue_cnt (s : StreamFrameSorter) (f : StreamFrame) :
    (s.dequeue f).cnt = subUint64 s.cnt f.data.length := by
  unfold dequeue
  simp only
  split
  · rfl
  · split <;> rfl

theorem Ledger.dequeue (ledger : s.Ledger frames)
    (found : s.queuedFrames.lookup s.readPosition = some f) : (s.dequeue f).Ledger frames := by
  have position := ledger.toUnread.position_dequeue found
  have bytes : f.bytes = Set.Ico s.readPosition (s.readPosition + f.data.length) := by
    rw [StreamFrame.bytes, ledger.keyed _ f found]
  refine ⟨ledger.toUnread.dequeue found, (dequeue_rest s f).2.2.1 ▸ ledger.few,
    fun k f' found' => ledger.data k f' (ledger.toUnread.lookup_of_dequeue found found').2,
    fun p notRead => ?_, ?_⟩
  · rw [dequeue_missing]
    exact ledger.known p (by omega)
  · have union : unreadBytes s.readPosition frames =
        f.bytes ∪ unreadBytes (s.readPosition + f.data.length) frames := by
      ext p
      constructor
      · rintro ⟨notRead, inFrames⟩
        rcases lt_or_ge p (s.readPosition + f.data.length) with now | later
        · exact Or.inl (bytes ▸ ⟨notRead, now⟩)
        · exact Or.inr ⟨later, inFrames⟩
      · rintro (now | ⟨later, inFrames⟩)
        · refine ledger.mem_unread.mpr ⟨?_, ledger.received _ f found p now⟩
          rw [bytes] at now
          exact now.1
        · exact ⟨by omega, inFrames⟩
    have disjoint : Disjoint f.bytes (unreadBytes (s.readPosition + f.data.length) frames) := by
      rw [bytes]
      exact Set.disjoint_left.mpr fun p now later => not_le.mpr now.2 later.1
    have limited := ledger.cnt_lt
    have total := ledger.counted
    rw [union, Set.ncard_union_eq disjoint (Set.finite_Ico _ _) (finite_unreadBytes _ _),
      f.ncard_bytes] at total
    rw [dequeue_cnt, position, subUint64_of_le (by omega) (by omega)]
    omega

section Padded

variable {gap : ByteInterval} {rest : List ByteInterval}

/-- The zeros that fill the first gap are taken out at once. -/
theorem Ledger.padded (ledger : s.Ledger frames)
    (absent : s.queuedFrames.lookup s.readPosition = none) (gaps : s.gaps = gap :: rest)
    (finite : gap.stop < maxByteCount) (few : rest.length ≤ maxStreamFrameSorterGaps)
    (cntZero : ℕ) (timeStamp : Int) :
    let t := { s with cntZero, gaps := rest }.enqueue (padding gap) false timeStamp
    t.queuedFrames.lookup t.readPosition = some (padding gap) ∧
      (t.dequeue (padding gap)).Ledger frames := by
  intro t
  have atPosition := ledger.toUnread.start_of_absent absent gaps
  have nonempty := ledger.gapped.nonempty gap (by simp [gaps])
  have fills := ledger.toSound.fills_padding gaps cntZero
  have new : ∀ p ∈ Set.Ico gap.start gap.stop, p ∈ s.missing := fun p inside =>
    Or.inl ⟨gap, by simp [gaps], inside⟩
  have stored : t.Unread := by
    have unread := ledger.toUnread.store fills nonempty new
      (by rw [padding_stop nonempty]; exact finite) false timeStamp
    rwa [padding_between] at unread
  obtain ⟨gapsEq, positionEq, -⟩ :=
    enqueue_rest { s with cntZero, gaps := rest } (padding gap) false timeStamp
  have readPosition : t.readPosition = s.readPosition := positionEq
  have found : t.queuedFrames.lookup t.readPosition = some (padding gap) := by
    rw [readPosition, ← atPosition, enqueue_queuedFrames]
    exact AList.lookup_insert _
  have length : (padding gap).data.length = gap.stop - gap.start := length_replicate
  have position : (t.dequeue (padding gap)).readPosition = gap.stop := by
    rw [stored.position_dequeue found, readPosition, length]
    omega
  have missing : t.missing = s.missing \ Set.Ico gap.start gap.stop := by
    have stays := fills.stored_missing false timeStamp
    rwa [padding_between] at stays
  have same : unreadBytes gap.stop frames = unreadBytes s.readPosition frames := by
    ext p
    constructor
    · rintro ⟨notRead, inFrames⟩
      exact ⟨by omega, inFrames⟩
    · rintro ⟨notRead, inFrames⟩
      refine ⟨not_lt.mp fun inGap => ?_, inFrames⟩
      exact (ledger.known p notRead).mpr inFrames (new p ⟨by omega, inGap⟩)
  refine ⟨found, stored.dequeue found, ?_, fun k f' found' => ?_, fun p notRead => ?_, ?_⟩
  · rw [(dequeue_rest t _).2.2.1, gapsEq]
    exact few
  · obtain ⟨other, old⟩ := stored.lookup_of_dequeue found found'
    rw [enqueue_queuedFrames] at old
    rcases MapSum.lookup_of_insert old with ⟨atStart, -⟩ | ⟨-, old⟩
    · exact absurd (atStart.trans (atPosition.trans readPosition.symm)) other
    · exact ledger.data k f' old
  · rw [position] at notRead
    rw [dequeue_missing, missing, ← ledger.known p (by omega), Set.mem_sdiff]
    refine not_congr (and_iff_left fun inGap => ?_)
    exact not_le.mpr inGap.2 notRead
  · have limited := ledger.cnt_lt
    rw [position, same, ← ledger.counted, dequeue_cnt, enqueue_cnt, length]
    unfold maxByteCount at finite
    unfold addUint64 subUint64
    simp only
    omega

end Padded

theorem Ledger.counter (ledger : s.Ledger frames) (cntZero : ℕ) :
    ({ s with cntZero } : StreamFrameSorter).Ledger frames :=
  ⟨⟨⟨⟨ledger.gapped, ledger.last, ledger.keyed, ledger.received⟩, ledger.bounded⟩, ledger.read,
    ledger.ahead, ledger.held, ledger.apart⟩, ledger.few, ledger.data, ledger.known,
    ledger.counted⟩

theorem Ledger.pop (ledger : s.Ledger frames) {s' : StreamFrameSorter}
    (popped : (s.pop timeStamp).map Prod.fst = .ok s') : s'.Ledger frames := by
  unfold StreamFrameSorter.pop at popped
  by_cases generates : s.GeneratesPadding
  · have absent := generates.1
    rw [head_of_generates generates] at popped
    cases padded : s.padFirstGap timeStamp with
    | error panic =>
      rw [padded] at popped
      cases popped
    | ok t =>
      rw [padded] at popped
      cases ledger.toSound.padFirstGap padded with
      | kept cntZero =>
        simp only [Except.map, absent] at popped
        cases popped
        exact ledger.counter cntZero
      | padded gap rest cntZero gaps finite few =>
        obtain ⟨found, next⟩ := ledger.padded absent gaps finite few cntZero timeStamp
        simp only [Except.map, found] at popped
        cases popped
        exact next
      | dropped gap rest cntZero gaps finite many =>
        have few := ledger.few
        rw [gaps, length_cons] at few
        omega
  · rw [head_of_not_generates generates] at popped
    cases found : s.queuedFrames.lookup s.readPosition with
    | none =>
      simp only [Except.map, found] at popped
      cases popped
      exact ledger
    | some f =>
      simp only [Except.map, found] at popped
      cases popped
      exact ledger.dequeue found

end Ledger

end StreamFrameSorter

/-! ## Runs -/

/-- A push of data whose end is an offset and that is accepted or found to be a duplicate, or a
pop. -/
def SorterOp.Answered (s : StreamFrameSorter) : SorterOp → Prop
  | .push frame timeStamp =>
    frame.data ≠ [] ∧ frame.offset + frame.data.length ≤ maxByteCount ∧
      ((s.push frame true timeStamp).2 = none ∨
        (s.push frame true timeStamp).2 = some .errDuplicateStreamData)
  | .head _ => False
  | .pop _ => True

instance (s : StreamFrameSorter) : ∀ op, Decidable (SorterOp.Answered s op)
  | .push _ _ => inferInstanceAs (Decidable (_ ∧ _))
  | .head _ => .isFalse not_false
  | .pop _ => .isTrue trivial

/-- What is missing of a pushed frame is one piece. -/
def SorterOp.InOnePiece (s : StreamFrameSorter) : SorterOp → Prop
  | .push frame _ => s.OnePiece frame
  | .head _ => True
  | .pop _ => True

namespace StreamFrameSorter

section Step

variable {s : StreamFrameSorter} {frame : StreamFrame} {frames : List StreamFrame}
  {timeStamp : Int}

/-- An answered push of a frame whose missing bytes are one piece keeps the ledger, and any other
one miscounts. -/
theorem Ledger.push (ledger : s.Ledger frames)
    (answered : SorterOp.Answered s (.push frame timeStamp)) :
    (s.OnePiece frame → (s.push frame true timeStamp).1.Ledger (frames ++ [frame])) ∧
      ((s.push frame true timeStamp).1.UnreadOnce (frames ++ [frame]) → s.OnePiece frame) := by
  obtain ⟨nonempty, fits, result⟩ := answered
  have small : frame.offset + frame.data.length < maxByteCount := by
    refine lt_of_le_of_ne fits fun limit => ?_
    obtain ⟨_, _, _, swept⟩ := ledger.toSound.sweptBy nonempty limit
    rw [swept.pushed] at result
    rcases result with result | result <;> cases result
  rcases ledger.toTidy.push_cases small nonempty true timeStamp with
    ⟨received, pushed⟩ | ⟨start, stop, _, fills, ⟨_, rfl⟩, first, pushed⟩
  · rw [pushed]
    refine ⟨fun _ => ledger.duplicate received, fun _ p inFrame isMissing => ?_⟩
    exact absurd isMissing (received p inFrame)
  · rw [pushed] at result ⊢
    split at result
    · rcases result with result | result <;> cases result
    · rename_i many
      have within := fills.within
      have new := ledger.toUnread.first_missing (by omega) first
      rw [if_neg many]
      exact ⟨fun onePiece => ledger.store fills small rfl rfl new onePiece (not_lt.mp many),
        ledger.onePiece_of_counted fills small rfl⟩

end Step

end StreamFrameSorter

/-- Let frames with data be pushed, each of them accepted or found to be a duplicate, and let frames
be taken out. In all states that are reached the queued frames hold every received byte that was not
read yet exactly once and `cnt` is the number of these bytes, exactly if what was missing of each
frame when it was pushed was one piece. -/
theorem unreadOnce_iff (unreliable : Bool) (ops : List SorterOp)
    (answered : Runs.EachOk step (fun s op => op.Answered s)
      { newStreamFrameSorter with unreliableMarker := unreliable } ops) :
    (∀ front, front <+: ops → ∀ s, front.foldlM step
        { newStreamFrameSorter with unreliableMarker := unreliable } = .ok s →
        s.UnreadOnce (front.filterMap SorterOp.frame?)) ↔
      Runs.EachOk step (fun s op => op.InOnePiece s)
        { newStreamFrameSorter with unreliableMarker := unreliable } ops := by
  refine Runs.prefixes_iff_eachOk answered
    (fun front s => s.Ledger (front.filterMap SorterOp.frame?))
    (fun front s => s.UnreadOnce (front.filterMap SorterOp.frame?))
    (ledger_new unreliable) (fun _ _ ledger => ledger.unreadOnce) ?_ ?_ ?_
  · intro front s op next ledger answered onePiece stepped
    rw [filterMap_append]
    cases op with
    | push frame timeStamp =>
      cases stepped
      exact (ledger.push answered).1 onePiece
    | head timeStamp => exact answered.elim
    | pop timeStamp =>
      have same : [SorterOp.pop timeStamp].filterMap SorterOp.frame? = [] := rfl
      rw [same, append_nil]
      exact ledger.pop stepped
  · intro front s op next ledger answered stepped once
    rw [filterMap_append] at once
    cases op with
    | push frame timeStamp =>
      cases stepped
      exact (ledger.push answered).2 once
    | _ => exact trivial
  · intro front s op panic ledger answered failed
    cases op with
    | push frame timeStamp => cases failed
    | _ => exact trivial

/-- Single bytes in any order, one of them twice, with a pop in between. -/
theorem unreadOnce_singleBytes :
    let ops : List SorterOp :=
      [.push (byteAt 1) 0, .push (byteAt 0) 0, .pop 0, .push (byteAt 3) 0, .push (byteAt 1) 0]
    ∃ s, ops.foldlM step newStreamFrameSorter = .ok s ∧
      s.UnreadOnce (ops.filterMap SorterOp.frame?) ∧ s.cnt = 2 := by
  intro ops
  have pieces : Runs.EachOk step (fun s op => op.InOnePiece s)
      newStreamFrameSorter ops := by
    refine .of_mem fun op member s => ?_
    simp only [ops, mem_cons, not_mem_nil, or_false] at member
    rcases member with rfl | rfl | rfl | rfl | rfl
    all_goals first
      | exact onePiece_singleton s rfl
      | trivial
  refine ⟨_, rfl, ?_, rfl⟩
  exact (unreadOnce_iff false ops (by decide)).mpr pieces ops (prefix_refl _) _ rfl

/-- Two frames with no gap between them, and a third one that covers both: only the first is
dropped. The other one stays behind the read position, and both stay counted. -/
theorem unreadOnce_covered :
    let ops : List SorterOp :=
      [.push (byteAt 1) 0, .push (byteAt 2) 0,
        .push { streamID := 5, offset := 0, data := [0, 1, 2, 3, 4] } 0, .pop 0]
    Runs.EachOk step (fun s op => op.Answered s) newStreamFrameSorter ops ∧
      ∃ s, ops.foldlM step newStreamFrameSorter = .ok s ∧
        s.readPosition = 5 ∧ s.queuedFrames.lookup 2 = some (byteAt 2) ∧ s.cnt = 2 ∧
        ¬ s.UnreadOnce (ops.filterMap SorterOp.frame?) := by
  intro ops
  refine ⟨by decide, _, rfl, rfl, rfl, rfl, fun once => ?_⟩
  exact absurd (once.ahead 2 (byteAt 2) rfl) (by decide)

end MPQuic
