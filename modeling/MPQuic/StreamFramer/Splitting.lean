import MPQuic.StreamFramer.PacketRoom

/-!
# Splitting frames for their retransmission

A frame that waits for its retransmission and does not fit into the room is cut in two. The front
goes out, and the back stays at the head of the queue, where later calls may cut it again
(`Splits`). After any number of calls with any rooms, what went out and what is still queued are
the pieces of the frames that were queued at the start, in their order and with nothing lost or
sent twice (`retransmission_conserved`).
-/

namespace MPQuic

open List

namespace StreamFrame

/-! ## Cutting a frame -/

variable (frame : StreamFrame)

/-- The first `n` bytes. -/
def front (n : Nat) : StreamFrame :=
  { frame with finBit := false, data := frame.data.take n }

/-- What is left without the first `n` bytes. -/
def back (n : Nat) : StreamFrame :=
  { frame with data := frame.data.drop n, offset := addUint64 frame.offset n }

/-- The frame with the length of its data, as it is sent again. -/
def marked : StreamFrame := { frame with dataLenPresent := true }

/-- A frame is kept whole, or it is cut and both parts may be cut again. The presence of the data
length is of no account. -/
inductive Splits : StreamFrame → List StreamFrame → Prop where
  | whole {frame piece : StreamFrame} (same : piece.marked = frame.marked) : Splits frame [piece]
  | cut {frame : StreamFrame} {fronts backs : List StreamFrame} (n : Nat) (positive : 0 < n)
      (less : n < frame.dataLen) (first : Splits (frame.front n) fronts)
      (second : Splits (frame.back n) backs) : Splits frame (fronts ++ backs)

/-- The pieces of a frame, in the order of their data. -/
structure Pieces (frame : StreamFrame) (pieces : List StreamFrame) : Prop where
  stream : ∀ piece ∈ pieces, piece.streamID = frame.streamID ∧
    piece.unreliableMarker = frame.unreliableMarker
  bytes : pieces.flatMap data = frame.data
  /-- the first piece starts where the frame starts -/
  starts : ∀ piece ∈ pieces.head?, piece.offset = frame.offset
  /-- each piece starts where the one before it ends -/
  adjacent : pieces.IsChain fun piece next => next.offset = addUint64 piece.offset piece.dataLen
  /-- no piece but the last one ends the stream -/
  fin : ∃ front last, pieces = front ++ [last] ∧ last.finBit = frame.finBit ∧
    ∀ piece ∈ front, piece.finBit = false
  nonempty : frame.data ≠ [] → ∀ piece ∈ pieces, piece.data ≠ []

namespace Splits

variable {frame frame' : StreamFrame} {pieces : List StreamFrame}

/-- A frame of one piece is that piece. -/
theorem of_marked (splits : Splits frame pieces) (same : frame'.marked = frame.marked) :
    Splits frame' pieces := by
  induction splits generalizing frame' with
  | whole whole => exact .whole (whole.trans same.symm)
  | @cut frame fronts backs n positive less first second ihFirst ihSecond =>
    obtain ⟨streamID, unreliable, fin, -, offset, data⟩ := StreamFrame.mk.inj same
    have length : frame'.dataLen = frame.dataLen := congrArg List.length data
    refine .cut n positive (length ▸ less) (ihFirst ?_) (ihSecond ?_)
    · simp only [marked, front, streamID, unreliable, offset, data]
    · simp only [marked, back, streamID, unreliable, fin, offset, data]

theorem ne_nil (splits : Splits frame pieces) : pieces ≠ [] := by
  induction splits with
  | whole same => exact cons_ne_nil _ _
  | cut n positive less first second ihFirst ihSecond =>
    exact append_ne_nil_of_left_ne_nil ihFirst _

theorem dataLen_front {n : Nat} (less : n < frame.dataLen) : (frame.front n).dataLen = n :=
  length_take_of_le (Nat.le_of_lt less)

/-- The last piece ends where the frame ends. -/
theorem ends (splits : Splits frame pieces) (last : StreamFrame)
    (isLast : pieces.getLast? = some last) :
    addUint64 last.offset last.dataLen = addUint64 frame.offset frame.dataLen := by
  induction splits with
  | @whole frame piece same =>
    obtain rfl : piece = last := Option.some.inj isLast
    obtain ⟨-, -, -, -, offset, data⟩ := StreamFrame.mk.inj same
    rw [offset, dataLen, dataLen, data]
  | @cut frame fronts backs n positive less first second ihFirst ihSecond =>
    rw [getLast?_append_of_ne_nil _ second.ne_nil] at isLast
    rw [ihSecond isLast]
    have length : (frame.back n).dataLen = frame.dataLen - n := length_drop
    have offset : (frame.back n).offset = addUint64 frame.offset n := rfl
    rw [length, offset]
    unfold addUint64
    omega

/-- The first piece starts where the frame starts. -/
theorem starts (splits : Splits frame pieces) (piece : StreamFrame)
    (isFirst : pieces.head? = some piece) : piece.offset = frame.offset := by
  induction splits with
  | @whole frame whole same =>
    obtain rfl : whole = piece := Option.some.inj isFirst
    exact (StreamFrame.mk.inj same).2.2.2.2.1
  | @cut frame fronts backs n positive less first second ihFirst ihSecond =>
    rw [head?_append_of_ne_nil _ first.ne_nil] at isFirst
    exact ihFirst isFirst

theorem isPieces (splits : Splits frame pieces) : Pieces frame pieces := by
  induction splits with
  | @whole frame piece same =>
    obtain ⟨streamID, unreliable, fin, -, offset, data⟩ := StreamFrame.mk.inj same
    constructor
    · rintro _ (_ | ⟨_, ⟨⟩⟩)
      exact ⟨streamID, unreliable⟩
    · exact (flatMap_singleton ..).trans data
    · rintro _ ⟨⟩
      exact offset
    · exact isChain_singleton piece
    · exact ⟨[], piece, rfl, fin, forall_mem_nil _⟩
    · rintro nonempty _ (_ | ⟨_, ⟨⟩⟩)
      rwa [data]
  | @cut frame fronts backs n positive less first second fronts_pieces backs_pieces =>
    obtain ⟨finFront, finLast, split, finEq, finFalse⟩ := fronts_pieces.fin
    obtain ⟨backFront, last, backSplit, lastFin, backFalse⟩ := backs_pieces.fin
    constructor
    · intro piece mem
      rcases mem_append.mp mem with inFront | inBack
      · exact fronts_pieces.stream piece inFront
      · exact backs_pieces.stream piece inBack
    · rw [flatMap_append, fronts_pieces.bytes, backs_pieces.bytes]
      exact take_append_drop n frame.data
    · exact (Splits.cut n positive less first second).starts
    · refine isChain_append.mpr ⟨fronts_pieces.adjacent, backs_pieces.adjacent, ?_⟩
      intro before isLast after isFirst
      rw [first.ends before isLast, second.starts after isFirst, dataLen_front less]
      rfl
    · refine ⟨fronts ++ backFront, last, ?_, lastFin, fun piece mem => ?_⟩
      · rw [backSplit, append_assoc]
      · rcases mem_append.mp mem with inFront | inBack
        · rw [split] at inFront
          rcases mem_append.mp inFront with earlier | final
          · exact finFalse piece earlier
          · rw [mem_singleton.mp final]
            exact finEq
        · exact backFalse piece inBack
    · intro _ piece mem
      have long : n < frame.data.length := less
      rcases mem_append.mp mem with inFront | inBack
      · refine fronts_pieces.nonempty (fun empty => ?_) piece inFront
        have taken : (frame.data.take n).length = 0 := congrArg List.length empty
        rw [length_take] at taken
        omega
      · refine backs_pieces.nonempty (fun empty => ?_) piece inBack
        have dropped : (frame.data.drop n).length = 0 := congrArg List.length empty
        rw [length_drop] at dropped
        omega

end Splits

/-! ## Lists of frames -/

/-- The frames of the second list are the pieces of those of the first one, in their order. -/
def Refines (frames pieces : List StreamFrame) : Prop :=
  ∃ groups, List.Forall₂ Splits frames groups ∧ groups.flatten = pieces

section Refines

variable {frame : StreamFrame} {frames frames' pieces pieces' : List StreamFrame}

theorem refines_nil : Refines [] [] := ⟨[], .nil, rfl⟩

theorem Refines.cons (first : Splits frame pieces) (later : Refines frames pieces') :
    Refines (frame :: frames) (pieces ++ pieces') := by
  obtain ⟨groups, split, flat⟩ := later
  exact ⟨pieces :: groups, .cons first split, congrArg (pieces ++ ·) flat⟩

theorem refines_refl (frames : List StreamFrame) : Refines frames frames := by
  induction frames with
  | nil => exact refines_nil
  | cons frame frames ih => exact Refines.cons (.whole rfl) ih

theorem Refines.append (first : Refines frames pieces) (second : Refines frames' pieces') :
    Refines (frames ++ frames') (pieces ++ pieces') := by
  obtain ⟨groups, split, rfl⟩ := first
  obtain ⟨groups', split', rfl⟩ := second
  exact ⟨groups ++ groups', rel_append split split', flatten_append⟩

theorem Refines.of_append (both : Refines (frames ++ frames') pieces) :
    ∃ fronts backs, pieces = fronts ++ backs ∧ Refines frames fronts ∧ Refines frames' backs := by
  induction frames generalizing pieces with
  | nil => exact ⟨[], pieces, rfl, refines_nil, both⟩
  | cons frame frames ih =>
    obtain ⟨groups, split, rfl⟩ := both
    cases split with
    | @cons _ group _ groups first later =>
      obtain ⟨fronts, backs, flat, front, back⟩ := ih ⟨groups, later, rfl⟩
      refine ⟨group ++ fronts, backs, ?_, Refines.cons first front, back⟩
      rw [flatten_cons, flat, append_assoc]

/-- Pieces may be cut again. -/
theorem Splits.trans (splits : Splits frame pieces) (again : Refines pieces pieces') :
    Splits frame pieces' := by
  induction splits generalizing pieces' with
  | whole same =>
    obtain ⟨groups, split, rfl⟩ := again
    cases split with
    | @cons _ group _ groups first later =>
      cases later
      rw [flatten_cons, flatten_nil, append_nil]
      exact first.of_marked same.symm
  | cut n positive less first second ihFirst ihSecond =>
    obtain ⟨fronts, backs, rfl, front, back⟩ := again.of_append
    exact .cut n positive less (ihFirst front) (ihSecond back)

theorem Refines.trans (once : Refines frames pieces) (again : Refines pieces pieces') :
    Refines frames pieces' := by
  obtain ⟨groups, split, rfl⟩ := once
  induction split generalizing pieces' with
  | nil =>
    obtain ⟨groups, split, rfl⟩ := again
    cases split
    exact refines_nil
  | cons first later ih =>
    obtain ⟨fronts, backs, rfl, front, back⟩ := again.of_append
    exact Refines.cons (first.trans front) (ih back)

end Refines

end StreamFrame

/-! ## Runs -/

namespace StreamFramer

open StreamFrame

theorem splits_of_maybeSplitOffFrame {frame first rest : StreamFrame} {n : Nat} (positive : 0 < n)
    (split : maybeSplitOffFrame frame n = some (first, rest)) : Splits frame [first, rest] := by
  unfold maybeSplitOffFrame at split
  split at split
  · cases split
  · rename_i longer
    cases split
    exact .cut n positive (Nat.lt_of_not_le longer) (.whole rfl) (.whole rfl)

/-- The loop takes frames from the head of the queue, the last one perhaps in part. -/
theorem popRetransmissionLoop_refines (maxLen : Nat) :
    ∀ (queue : List StreamFrame) (flow : FlowControlManager) (res : List StreamFrame)
      (currentLen : Nat), ∃ popped,
      (popRetransmissionLoop maxLen queue flow res currentLen).res = res ++ popped ∧
        Refines queue
          (popped ++ (popRetransmissionLoop maxLen queue flow res currentLen).queue) := by
  intro queue
  induction queue with
  | nil => exact fun _ res _ => ⟨[], (append_nil res).symm, refines_nil⟩
  | cons frame queue ih =>
    intro flow res currentLen
    have whole : Splits frame [frame.marked] := .whole rfl
    rw [popRetransmissionLoop]
    simp only
    split
    · have kept : Refines (frame :: queue) (frame.marked :: queue) :=
        Refines.cons whole (refines_refl queue)
      exact ⟨[], (append_nil res).symm, kept⟩
    · rename_i fits
      split
      · rename_i first rest split
        have room := Nat.sub_pos_of_lt (Nat.lt_of_not_le fits)
        have cut : Splits frame [first, rest] :=
          (splits_of_maybeSplitOffFrame room split).of_marked rfl
        have both : Refines (frame :: queue) ([first, rest] ++ queue) :=
          Refines.cons cut (refines_refl queue)
        exact ⟨[first], rfl, both⟩
      · obtain ⟨popped, res', refines⟩ := ih
          (flow.addBytesRetrans frame.streamID frame.dataLen) (res ++ [frame.marked])
          (currentLen + frame.marked.minLength + frame.dataLen)
        refine ⟨[frame.marked] ++ popped, res'.trans (append_assoc ..), ?_⟩
        rw [append_assoc]
        exact Refines.cons whole refines

/-- The framer after calls of `maybePopFramesForRetransmission`, and what each call returned. -/
structure RetransmissionRun where
  framer : StreamFramer
  flow : FlowControlManager
  returned : List (List StreamFrame) := []

namespace RetransmissionRun

variable (run : RetransmissionRun)

def step (maxLen : Nat) : RetransmissionRun :=
  let popped := run.framer.maybePopFramesForRetransmission run.flow maxLen
  { framer := popped.1, flow := popped.2.flow, returned := run.returned ++ [popped.2.res] }

/-- The frames that have gone out and those that wait. -/
def frames : List StreamFrame :=
  run.returned.flatten ++ run.framer.retransmissionQueue

theorem frames_step (maxLen : Nat) : Refines run.frames (run.step maxLen).frames := by
  obtain ⟨popped, res, refines⟩ :=
    popRetransmissionLoop_refines maxLen run.framer.retransmissionQueue run.flow [] 0
  have returned : (run.step maxLen).returned.flatten = run.returned.flatten ++ popped := by
    rw [← nil_append popped, ← res]
    exact (flatten_append ..).trans (congrArg (_ ++ ·) (flatten_singleton ..))
  rw [frames, frames, returned, append_assoc]
  exact (refines_refl _).append refines

end RetransmissionRun

/-- Splitting frames for their retransmission conserves the data. The frames that went out in any
number of calls, followed by those still queued, are the pieces of the queued frames, in their
order; and what each call returns fits into its room, with the data lengths present. -/
theorem retransmission_conserved (framer : StreamFramer) (flow : FlowControlManager)
    (maxLens : List Nat) :
    let run := maxLens.foldl RetransmissionRun.step { framer, flow }
    (∃ groups, List.Forall₂ Pieces framer.retransmissionQueue groups ∧
      groups.flatten = run.returned.flatten ++ run.framer.retransmissionQueue) ∧
      List.Forall₂ (fun maxLen frames => sizes frames ≤ maxLen ∧
        ∀ frame ∈ frames, frame.dataLenPresent = true) maxLens run.returned := by
  intro run
  constructor
  · have refines : Refines framer.retransmissionQueue run.frames :=
      List.foldlRecOn
        (motive := fun run : RetransmissionRun => Refines framer.retransmissionQueue run.frames)
        maxLens _ (refines_refl _) fun run before maxLen _ => before.trans (run.frames_step maxLen)
    obtain ⟨groups, split, flat⟩ := refines
    exact ⟨groups, split.imp fun _ _ splits => splits.isPieces, flat⟩
  · induction maxLens using List.reverseRecOn with
    | nil => exact .nil
    | append_singleton maxLens maxLen ih =>
      simp only [run, foldl_append]
      refine rel_append ih (.cons ?_ .nil)
      have measured := StreamFramer.maybePopFramesForRetransmission_measured
        (maxLens.foldl RetransmissionRun.step { framer, flow }).framer
        (maxLens.foldl RetransmissionRun.step { framer, flow }).flow maxLen
      exact ⟨measured.sizes ▸ measured.within, measured.lengths⟩

/-- The header of the second piece is longer by the encoded offset. -/
example :
    let framer : StreamFramer :=
      { retransmissionQueue := [{ streamID := 5, finBit := true, data := [1, 2, 3] }] }
    let flow := newFlowControlManager (serverParameters 0 0)
    ([6, 4, 7].foldl RetransmissionRun.step { framer, flow }).returned =
      [[{ streamID := 5, dataLenPresent := true, data := [1, 2] }], [],
        [{ streamID := 5, dataLenPresent := true, finBit := true, offset := 2, data := [3] }]] := by
  decide

end StreamFramer

end MPQuic
