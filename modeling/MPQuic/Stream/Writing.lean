import MPQuic.StreamFramer.Taking
import MPQuic.Lib.Segments

/-!
# The sending half of a stream

The frames that leave a stream are segments of what is written to it: each starts where the one
before stopped, and nothing follows the one with the fin bit (`InOrder`). A frame that takes
data keeps this (`InOrder.takes`), and so does every other call on the stream, since none of
them touches the offset or opens a stream again that was closed (`KeepsSending`).
-/

namespace MPQuic

open Segments

def StreamFrame.segment (frame : StreamFrame) : Segment UInt8 :=
  { start := frame.offset, data := frame.data, last := frame.finBit }

namespace Stream

variable {s s' s'' : Stream} {sent : List StreamFrame} {frame : StreamFrame}

/-! ## Frames in order -/

/-- The frames `sent` of the stream so far are in order, and the stream goes on after them. -/
structure InOrder (s : Stream) (sent : List StreamFrame) : Prop where
  contiguous : Contiguous (2 ^ 64) (sent.map StreamFrame.segment)
  endsOnce : EndsOnce (sent.map StreamFrame.segment)
  writeOffset : s.writeOffset = (content (sent.map StreamFrame.segment)).length % 2 ^ 64
  fin : ∀ frame ∈ sent, frame.finBit = true → s.finSent = true
  closed : s.finSent = true → s.finishedWriting = true ∧ s.dataForWriting = none

/-- A stream that was just opened. -/
theorem InOrder.of_new (writeOffset : s.writeOffset = 0) (finSent : s.finSent = false) :
    s.InOrder [] := by
  refine ⟨contiguous_nil _, endsOnce_nil, writeOffset, ?_, ?_⟩
  · exact List.forall_mem_nil _
  · intro ended
    rw [finSent] at ended
    cases ended

section

variable (order : s.InOrder sent)

include order

/-- A frame that starts at the offset of a stream whose end was not sent. -/
theorem InOrder.snoc (offset : frame.offset = s.writeOffset) (unfinished : s.finSent = false)
    (writeOffset : s'.writeOffset = addUint64 s.writeOffset frame.data.length)
    (fin : frame.finBit = true → s'.finSent = true)
    (closed : s'.finSent = true → s'.finishedWriting = true ∧ s'.dataForWriting = none) :
    s'.InOrder (sent ++ [frame]) := by
  have noFin : ∀ old ∈ sent, old.finBit = false := by
    intro old mem
    by_contra ended
    rw [order.fin old mem (Bool.not_eq_false _ ▸ ended)] at unfinished
    cases unfinished
  have extended : (sent ++ [frame]).map StreamFrame.segment =
      sent.map StreamFrame.segment ++ [frame.segment] := by
    rw [List.map_append, List.map_singleton]
  refine ⟨?_, ?_, ?_, ?_, closed⟩
  · rw [extended]
    exact order.contiguous.snoc (offset.trans order.writeOffset)
  · rw [extended]
    apply EndsOnce.snoc
    intro segment mem
    obtain ⟨old, oldMem, rfl⟩ := List.mem_map.mp mem
    exact noFin old oldMem
  · rw [writeOffset, order.writeOffset, extended, content_append, List.length_append,
      content_singleton, addUint64, Nat.mod_add_mod]
    rfl
  · intro old mem ended
    rcases List.mem_append.mp mem with before | new
    · rw [noFin old before] at ended
      cases ended
    · rw [List.mem_singleton.mp new] at ended
      exact fin ended

/-- A stream whose end was sent has nothing to take. -/
theorem Takes.unfinished (takes : s.Takes frame s') : s.finSent = false := by
  by_contra ended
  have sentFin : s.finSent = true := Bool.not_eq_false _ ▸ ended
  have empty : frame.data = [] := by
    have data := takes.data
    rw [(order.closed sentFin).2] at data
    exact (List.append_eq_nil_iff.mp data.symm).1
  have noFin : frame.finBit = false := by
    by_contra fin
    exact ended (takes.fin (Bool.not_eq_false _ ▸ fin)).2.1
  rcases takes.carries with data | fin
  · exact data empty
  · rw [noFin] at fin
    cases fin

theorem InOrder.takes (takes : s.Takes frame s') : s'.InOrder (sent ++ [frame]) := by
  have unfinished := takes.unfinished order
  have finSent : s'.finSent = frame.finBit := by rw [takes.rest, unfinished, Bool.false_or]
  have finishedWriting : s'.finishedWriting = s.finishedWriting := by rw [takes.rest]
  apply order.snoc takes.offset unfinished (by rw [takes.rest]) finSent.trans
  intro ended
  obtain ⟨finished, -, empty⟩ := takes.fin (finSent.symm.trans ended)
  exact ⟨finishedWriting.trans finished, empty⟩

theorem InOrder.takesAll {frames : List StreamFrame} (takes : s.TakesAll frames s') :
    s'.InOrder (sent ++ frames) := by
  induction takes with
  | nil =>
    rw [List.append_nil]
    exact order
  | snoc _ last ih =>
    rw [← List.append_assoc]
    exact ih.takes last

end

/-! ## Everything else -/

/-- What a call that sends nothing may do to a stream. -/
structure KeepsSending (s s' : Stream) : Prop where
  streamID : s'.streamID = s.streamID
  writeOffset : s'.writeOffset = s.writeOffset
  finSent : s'.finSent = s.finSent
  closed : s.finishedWriting = true → s.dataForWriting = none →
    s'.finishedWriting = true ∧ s'.dataForWriting = none

theorem KeepsSending.refl (s : Stream) : s.KeepsSending s :=
  ⟨rfl, rfl, rfl, fun finished empty => ⟨finished, empty⟩⟩

theorem KeepsSending.trans (first : s.KeepsSending s') (second : s'.KeepsSending s'') :
    s.KeepsSending s'' := by
  refine ⟨second.streamID.trans first.streamID, second.writeOffset.trans first.writeOffset,
    second.finSent.trans first.finSent, ?_⟩
  intro finished empty
  obtain ⟨finished', empty'⟩ := first.closed finished empty
  exact second.closed finished' empty'

theorem InOrder.keeps (order : s.InOrder sent) (keeps : s.KeepsSending s') : s'.InOrder sent := by
  refine ⟨order.contiguous, order.endsOnce, keeps.writeOffset.trans order.writeOffset, ?_, ?_⟩
  · exact fun frame mem ended => keeps.finSent.trans (order.fin frame mem ended)
  · intro ended
    obtain ⟨finished, empty⟩ := order.closed (keeps.finSent.symm.trans ended)
    exact keeps.closed finished empty

/-- The sending half is the same. -/
theorem KeepsSending.of_eq (streamID : s'.streamID = s.streamID)
    (writeOffset : s'.writeOffset = s.writeOffset) (finSent : s'.finSent = s.finSent)
    (finishedWriting : s'.finishedWriting = s.finishedWriting)
    (dataForWriting : s'.dataForWriting = s.dataForWriting) : s.KeepsSending s' :=
  ⟨streamID, writeOffset, finSent,
    fun finished empty => ⟨finishedWriting.trans finished, dataForWriting.trans empty⟩⟩

theorem keepsSending_write (s : Stream) (p : List UInt8) : s.KeepsSending (s.write p).1 := by
  unfold write
  split
  · exact .refl s
  · split
    · exact .refl s
    · rename_i unfinished
      split
      · exact .refl s
      · exact ⟨rfl, rfl, rfl, fun finished => absurd finished unfinished⟩

theorem keepsSending_close (s : Stream) : s.KeepsSending s.close :=
  ⟨rfl, rfl, rfl, fun _ empty => ⟨rfl, empty⟩⟩

theorem keepsSending_cancel (s : Stream) (err : StreamError) : s.KeepsSending (s.cancel err) :=
  .of_eq rfl rfl rfl rfl rfl

theorem keepsSending_sendReset (s : Stream) : s.KeepsSending s.sendReset.1 := by
  unfold sendReset
  split
  · exact .of_eq rfl rfl rfl rfl rfl
  · exact .refl s

theorem keepsSending_reset (s : Stream) (err : StreamError) : s.KeepsSending (s.reset err).1 := by
  unfold reset
  split
  · exact .refl s
  · refine KeepsSending.trans ?_ (keepsSending_sendReset _)
    exact .of_eq rfl rfl rfl rfl rfl

theorem keepsSending_registerRemoteError (s : Stream) (err : StreamError) :
    s.KeepsSending (s.registerRemoteError err).1 := by
  unfold registerRemoteError
  split
  · exact .refl s
  · refine KeepsSending.trans ?_ (keepsSending_sendReset _)
    exact .of_eq rfl rfl rfl rfl rfl

/-! ## The receiving half -/

theorem keepsSending_addStreamFrame (s : Stream) (flow : FlowControlManager)
    (frame : StreamFrame) (timeStamp : Int) :
    s.KeepsSending (s.addStreamFrame flow frame timeStamp).1 := by
  simp only [addStreamFrame]
  split
  · exact .refl s
  · split
    · exact .of_eq rfl rfl rfl rfl rfl
    · split <;> exact .of_eq rfl rfl rfl rfl rfl

theorem keepsSending_readFrame {flow flow' : FlowControlManager} {env : FlowEnv} {room : Nat}
    {copied : List UInt8} (read : s.readFrame flow env frame room = .ok (s', flow', copied)) :
    s.KeepsSending s' := by
  obtain ⟨-, -, rfl | ⟨-, popped, -, rfl⟩⟩ := readFrame_cases read
  · exact .of_eq rfl rfl rfl rfl rfl
  · exact .of_eq rfl rfl rfl rfl rfl

theorem keepsSending_rounds (s : Stream) : ReadKeeps fun s' _ => s.KeepsSending s' where
  headed keeps _ := keeps.trans (.of_eq rfl rfl rfl rfl rfl)
  placed _ keeps := keeps.trans (.of_eq rfl rfl rfl rfl rfl)
  copied keeps _ _ _ _ read := keeps.trans (keepsSending_readFrame read)

theorem keepsSending_read {flow : FlowControlManager} {clock : Nat → FlowEnv} {length : Nat}
    {r : ReadResult} (read : s.read flow clock length = .ok r) : s.KeepsSending r.stream :=
  (keepsSending_rounds s).read (.refl s) read

end Stream

end MPQuic
