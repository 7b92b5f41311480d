import MPQuic.Wire.StreamFrame

/-!
# Unpacking STREAM frames

The part of `packet_unpacker.go` that STREAM frames go through: the dispatch on the
type byte, the parser, and the reliability mark that the unpacker itself takes from
the lowest bit of the type byte.

The writer folds two things into that bit: the reliability marker and the low bit of
the encoded length of the stream identifier. The last section says which frames
survive the trip.
-/

namespace MPQuic

open StreamFrame

variable {offsetLen streamIDLen t : UInt8} {f g : StreamFrame} {rest : List UInt8}
  {version : VersionNumber}

open ByteCodec

/-- The branches of the frame loop of `Unpack`, in the order of its tests. -/
inductive FrameBranch where
  | padding
  | stream
  | ack
  | congestionFeedback
  | other
  deriving DecidableEq, Repr

/-- The branch of `Unpack` for a type byte. -/
def frameBranch (typeByte : UInt8) : FrameBranch :=
  if typeByte = 0x0 then .padding
  else if typeByte &&& 0x80 = 0x80 then .stream
  else if typeByte &&& 0xc0 = 0x40 then .ack
  else if typeByte &&& 0xe0 = 0x20 then .congestionFeedback
  else .other

/-- The STREAM branch: the frame, and whether the stream is marked unreliable. -/
def unpackStreamBranch (version : VersionNumber) (typeByte : UInt8) :
    Reader WireError (StreamFrame × Bool) := do
  let frame ← parseStreamFrame version
  return (frame, typeByte &&& 0x01 = 0x01)

/-- One round of the frame loop on a type byte that is peeked at, for the frames
that take the STREAM branch; `none` when another branch is taken. -/
def unpackStreamFrame (version : VersionNumber) :
    Reader WireError (Option (StreamFrame × Bool)) := do
  let input ← unread
  match input with
  | [] => throw .eof
  | typeByte :: _ =>
    match frameBranch typeByte with
    | .stream => do
      let result ← unpackStreamBranch version typeByte
      return some result
    | _ => return none

/-! ## The type byte -/

/-- What the parser and the unpacker read out of a type byte. -/
structure TypeByteReads (t : UInt8) (finBit dataLenPresent : Bool)
    (offsetLen streamIDLen : UInt8) : Prop where
  fin : decide (t &&& 0xFE &&& 0x40 > 0) = finBit
  dataLen : decide (t &&& 0xFE &&& 0x20 > 0) = dataLenPresent
  offset : (if (t &&& 0xFE &&& 0x1c) >>> 2 ≠ 0 then (t &&& 0xFE &&& 0x1c) >>> 2 + 1
    else (t &&& 0xFE &&& 0x1c) >>> 2) = offsetLen
  streamID : (t &&& 0xFE &&& 0x3) + 1 = streamIDLen

variable (unreliableMarker finBit dataLenPresent : Bool)

section

variable (offsetMem : offsetLen ∈ [0, 2, 3, 4, 5, 6, 7, 8])

include offsetMem

/-- Identifiers of one and of three bytes leave the lowest bit to the marker. -/
theorem streamTypeByte_reads_of_odd (idMem : streamIDLen ∈ [1, 3]) :
    TypeByteReads
      (streamTypeByte unreliableMarker finBit dataLenPresent offsetLen streamIDLen)
      finBit dataLenPresent offsetLen streamIDLen := by
  have table : ∀ u fin len : Bool, ∀ o ∈ [(0 : UInt8), 2, 3, 4, 5, 6, 7, 8],
      ∀ n ∈ [(1 : UInt8), 3],
        decide (streamTypeByte u fin len o n &&& 0xFE &&& 0x40 > 0) = fin ∧
        decide (streamTypeByte u fin len o n &&& 0xFE &&& 0x20 > 0) = len ∧
        (if (streamTypeByte u fin len o n &&& 0xFE &&& 0x1c) >>> 2 ≠ 0 then
          (streamTypeByte u fin len o n &&& 0xFE &&& 0x1c) >>> 2 + 1
          else (streamTypeByte u fin len o n &&& 0xFE &&& 0x1c) >>> 2) = o ∧
        (streamTypeByte u fin len o n &&& 0xFE &&& 0x3) + 1 = n := by
    decide +kernel
  obtain ⟨fin, len, offset, streamID⟩ :=
    table unreliableMarker finBit dataLenPresent offsetLen offsetMem streamIDLen idMem
  exact ⟨fin, len, offset, streamID⟩

/-- The lowest bit of the type byte is the marker exclusive-or the parity of the
encoded identifier length. -/
theorem streamTypeByte_lowBit (idMem : streamIDLen ∈ [1, 2, 3, 4]) :
    decide (streamTypeByte unreliableMarker finBit dataLenPresent offsetLen streamIDLen
        &&& 0x01 = 0x01) =
      (unreliableMarker ^^ decide (streamIDLen ∈ [2, 4])) := by
  have table : ∀ u fin len : Bool, ∀ o ∈ [(0 : UInt8), 2, 3, 4, 5, 6, 7, 8],
      ∀ n ∈ [(1 : UInt8), 2, 3, 4],
        decide (streamTypeByte u fin len o n &&& 0x01 = 0x01) =
          (u ^^ decide (n ∈ [(2 : UInt8), 4])) := by
    decide +kernel
  exact table _ _ _ _ offsetMem _ idMem

theorem frameBranch_streamTypeByte (idMem : streamIDLen ∈ [1, 2, 3, 4]) :
    frameBranch (streamTypeByte unreliableMarker finBit dataLenPresent offsetLen streamIDLen) =
      .stream := by
  have table : ∀ u fin len : Bool, ∀ o ∈ [(0 : UInt8), 2, 3, 4, 5, 6, 7, 8],
      ∀ n ∈ [(1 : UInt8), 2, 3, 4],
        frameBranch (streamTypeByte u fin len o n) = .stream := by
    decide +kernel
  exact table _ _ _ _ offsetMem _ idMem

end

/-! ## The round trip -/

/-- The frames the sender may write: values within the source's types, data that fits
a packet, and no empty frame without FIN. -/
structure StreamFrame.Encodable (f : StreamFrame) : Prop where
  streamID : f.streamID < 2 ^ 32
  offset : f.offset + f.data.length < 2 ^ 64
  data : f.data.length ≤ maxPacketSize
  nonempty : f.data ≠ [] ∨ f.finBit = true

theorem StreamFrame.Encodable.write_eq (ok : f.Encodable) (version : VersionNumber) :
    f.write version = .ok (f.typeByte ::
      ((getByteOrder version).bytes f.calculateStreamIDLength f.streamID ++
        (getByteOrder version).bytes f.getOffsetLength f.offset ++
        f.lengthBytes (getByteOrder version) ++ f.data)) := by
  have offset := ok.offset
  have data := ok.data
  unfold maxPacketSize at data
  exact StreamFrame.write_eq version ok.streamID (by omega) (by omega) ok.nonempty

theorem StreamFrame.ofNat_calculateStreamIDLength_mem (f : StreamFrame) :
    UInt8.ofNat f.calculateStreamIDLength ∈ [1, 2, 3, 4] := by
  have mem := List.mem_map_of_mem (f := UInt8.ofNat) f.calculateStreamIDLength_mem
  exact mem

theorem StreamFrame.ofNat_getOffsetLength_mem (f : StreamFrame) :
    UInt8.ofNat f.getOffsetLength ∈ [0, 2, 3, 4, 5, 6, 7, 8] := by
  have mem := List.mem_map_of_mem (f := UInt8.ofNat) f.getOffsetLength_mem
  exact mem

theorem StreamFrame.toNat_calculateStreamIDLength (f : StreamFrame) :
    (UInt8.ofNat f.calculateStreamIDLength).toNat = f.calculateStreamIDLength := by
  have table : ∀ n ∈ [1, 2, 3, 4], (UInt8.ofNat n).toNat = n := by decide
  exact table _ f.calculateStreamIDLength_mem

theorem StreamFrame.toNat_getOffsetLength (f : StreamFrame) :
    (UInt8.ofNat f.getOffsetLength).toNat = f.getOffsetLength := by
  have table : ∀ n ∈ [0, 2, 3, 4, 5, 6, 7, 8], (UInt8.ofNat n).toNat = n := by decide
  exact table _ f.getOffsetLength_mem

/-- The length field, present or not, and the bytes after it. -/
theorem StreamFrame.Encodable.reads_length (ok : f.Encodable)
    (order : ByteOrder) (rest : List UInt8) :
    Reads (readIf f.dataLenPresent order.readUint16 0)
      (f.lengthBytes order ++ (f.data ++ rest))
      (if f.dataLenPresent then f.data.length else 0) (f.data ++ rest) := by
  have small : f.data.length < 2 ^ 16 := by
    have data := ok.data
    unfold maxPacketSize at data
    omega
  unfold lengthBytes
  cases f.dataLenPresent with
  | false => exact Reads.readIf_false _
  | true =>
    have run := order.readUint16_bytes f.data.length (f.data ++ rest)
    rw [Nat.mod_eq_of_lt small] at run
    exact Reads.readIf_true run

theorem reads_data (data rest : List UInt8) :
    Reads (readIf (data.length ≠ 0) (ioReadFull data.length) []) (data ++ rest)
      data rest := by
  cases data with
  | nil => exact Reads.readIf_false _
  | cons b bs => exact Reads.readIf_true (Reads.full _ (b :: bs) rest)

/-- The parser on the bytes of an encodable frame, under any type byte that announces
the lengths the fields were written with. -/
theorem StreamFrame.Encodable.parses (ok : f.Encodable) (version : VersionNumber)
    (announced : TypeByteReads t f.finBit f.dataLenPresent (UInt8.ofNat f.getOffsetLength)
      (UInt8.ofNat f.calculateStreamIDLength)) (tail : f.dataLenPresent = false → rest = []) :
    Reads (parseStreamFrame version)
      (t :: ((getByteOrder version).bytes f.calculateStreamIDLength f.streamID ++
        ((getByteOrder version).bytes f.getOffsetLength f.offset ++
          (f.lengthBytes (getByteOrder version) ++ (f.data ++ rest)))))
      { f with unreliableMarker := false } rest := by
  have data := ok.data
  have offset := ok.offset
  unfold maxPacketSize at data
  have sentLen : decide ((if f.dataLenPresent then f.data.length else 0) > maxPacketSize) =
      false := by
    unfold maxPacketSize
    split <;> simp
    omega
  have dataLen : (if f.dataLenPresent then (if f.dataLenPresent then f.data.length else 0)
      else (f.data ++ rest).length % 2 ^ 16) = f.data.length := by
    cases present : f.dataLenPresent with
    | true => rfl
    | false =>
      rw [tail present, List.append_nil]
      exact Nat.mod_eq_of_lt (by omega)
  have overflow : decide ((f.offset + f.data.length) % 2 ^ 64 < f.offset) = false := by
    rw [Nat.mod_eq_of_lt offset]
    simp
  have notEmpty : (!f.finBit && f.data.length == 0) = false := by
    rcases ok.nonempty with data | fin
    · simp [data]
    · simp [fin]
  unfold parseStreamFrame
  refine Reads.bind (Reads.byte _ _ _) ?_
  simp only [announced.fin, announced.dataLen, announced.offset, announced.streamID,
    toNat_calculateStreamIDLength, toNat_getOffsetLength]
  refine Reads.bind (ByteOrder.readUintN_bytes_of_lt _ _ (streamID_lt ok.streamID)) ?_
  refine Reads.bind
    (ByteOrder.readUintN_bytes_of_lt _ _ (offset_lt (by omega))) ?_
  refine Reads.bind (ok.reads_length _ rest) ?_
  refine Reads.bind (Reads.failIf sentLen _) ?_
  refine Reads.bind (Reads.unread _) ?_
  simp only [dataLen]
  refine Reads.bind (reads_data f.data rest) ?_
  refine Reads.bind (Reads.failIf overflow _) ?_
  refine Reads.bind (Reads.failIf notEmpty _) ?_
  rw [Nat.mod_eq_of_lt ok.streamID]
  exact Reads.pure _ _

/-- The unpacker on a STREAM frame: the parsed frame, and the mark the type byte shows. -/
theorem reads_unpackStreamFrame {input rest : List UInt8} (branch : frameBranch t = .stream)
    (parsed : Reads (parseStreamFrame version) (t :: input) g rest) :
    Reads (unpackStreamFrame version) (t :: input)
      (some (g, decide (t &&& 0x01 = 0x01))) rest := by
  have marked : Reads (unpackStreamBranch version t) (t :: input)
      (g, decide (t &&& 0x01 = 0x01)) rest := Reads.bind parsed (Reads.pure _ _)
  refine Reads.bind (Reads.unread _) ?_
  simp only [branch]
  exact Reads.bind marked (Reads.pure _ _)

/-- Whatever the unpacker returns for a STREAM frame, the mark is the lowest bit of
the first byte. -/
theorem mark_of_reads_unpackStreamFrame {mark : Bool} {input rest : List UInt8}
    (run : Reads (unpackStreamFrame version) (t :: input) (some (g, mark)) rest) :
    mark = decide (t &&& 0x01 = 0x01) := by
  change ((match frameBranch t with
    | .stream => do
      let result ← unpackStreamBranch version t
      return some result
    | _ => return none : Reader WireError _).run (t :: input)) = _ at run
  cases branch : frameBranch t with
  | stream =>
    simp only [branch, unpackStreamBranch, StateT.run_bind, StateT.run_pure] at run
    cases parsed : (parseStreamFrame version).run (t :: input) with
    | error e => rw [parsed] at run; cases run
    | ok result => rw [parsed] at run; cases run; rfl
  | _ => rw [branch] at run; cases run

/-- Sending `f` before `rest`: whatever `Write` produces, the receiver gets the same
stream, offset, data, FIN and reliability back and is left with `rest`. -/
def StreamFrame.Survives (f : StreamFrame) (version : VersionNumber) (rest : List UInt8) :
    Prop :=
  ∀ bytes, f.write version = .ok bytes →
    ∃ g : StreamFrame,
      Reads (unpackStreamFrame version) (bytes ++ rest) (some (g, f.unreliableMarker)) rest ∧
        g.streamID = f.streamID ∧ g.offset = f.offset ∧ g.data = f.data ∧ g.finBit = f.finBit

theorem StreamFrame.calculateStreamIDLength_odd_iff (f : StreamFrame) :
    UInt8.ofNat f.calculateStreamIDLength ∈ [1, 3] ↔
      f.streamID < 2 ^ 8 ∨ 2 ^ 16 ≤ f.streamID ∧ f.streamID < 2 ^ 24 := by
  unfold calculateStreamIDLength
  split_ifs with one two three
  · exact iff_of_true (by decide) (Or.inl one)
  · exact iff_of_false (by decide) (by omega)
  · exact iff_of_true (by decide) (Or.inr ⟨by omega, three⟩)
  · exact iff_of_false (by decide) (by omega)

/-- The mark that the unpacker takes from the type byte. -/
theorem StreamFrame.mark_typeByte (f : StreamFrame) :
    decide (f.typeByte &&& 0x01 = 0x01) =
      (f.unreliableMarker ^^ decide (UInt8.ofNat f.calculateStreamIDLength ∈ [2, 4])) :=
  streamTypeByte_lowBit f.unreliableMarker f.finBit f.dataLenPresent
    f.ofNat_getOffsetLength_mem f.ofNat_calculateStreamIDLength_mem

/-- One or three bytes for the identifier: the parser reads the frame back. -/
theorem StreamFrame.Encodable.survives (ok : f.Encodable)
    (version : VersionNumber) (tail : f.dataLenPresent = false → rest = [])
    (odd : UInt8.ofNat f.calculateStreamIDLength ∈ [1, 3]) : f.Survives version rest := by
  intro bytes written
  obtain rfl := Except.ok.inj ((ok.write_eq version).symm.trans written)
  have branch := frameBranch_streamTypeByte f.unreliableMarker f.finBit f.dataLenPresent
    f.ofNat_getOffsetLength_mem f.ofNat_calculateStreamIDLength_mem
  have announced := streamTypeByte_reads_of_odd f.unreliableMarker f.finBit
    f.dataLenPresent f.ofNat_getOffsetLength_mem odd
  have mark : decide (f.typeByte &&& 0x01 = 0x01) = f.unreliableMarker := by
    have notEven : decide (UInt8.ofNat f.calculateStreamIDLength ∈ [2, 4]) = false := by
      simp only [List.mem_cons, List.not_mem_nil, or_false] at odd
      rcases odd with one | three
      · rw [one]; decide
      · rw [three]; decide
    rw [f.mark_typeByte, notEven, Bool.xor_false]
  have run := reads_unpackStreamFrame branch (ok.parses version announced tail)
  refine ⟨{ f with unreliableMarker := false }, ?_, rfl, rfl, rfl, rfl⟩
  rw [List.cons_append, List.append_assoc, List.append_assoc, List.append_assoc, ← mark]
  exact run

/-- A STREAM frame survives the trip through the unpacker exactly when its identifier
is encoded in one or in three bytes: for two and four bytes the length bits and the
reliability marker fall on the same bit of the type byte. -/
theorem streamFrame_survives_iff (version : VersionNumber) (f : StreamFrame)
    (rest : List UInt8) (ok : f.Encodable) (tail : f.dataLenPresent = false → rest = []) :
    f.Survives version rest ↔
      f.streamID < 2 ^ 8 ∨ 2 ^ 16 ≤ f.streamID ∧ f.streamID < 2 ^ 24 := by
  rw [← f.calculateStreamIDLength_odd_iff]
  constructor
  · intro survives
    obtain ⟨g, run, -⟩ := survives _ (ok.write_eq version)
    rw [List.cons_append] at run
    have mark : f.unreliableMarker =
        (f.unreliableMarker ^^ decide (UInt8.ofNat f.calculateStreamIDLength ∈ [2, 4])) :=
      (mark_of_reads_unpackStreamFrame run).trans f.mark_typeByte
    have notEven : UInt8.ofNat f.calculateStreamIDLength ∉ [2, 4] := by
      intro even
      cases marker : f.unreliableMarker <;> simp [marker, even] at mark
    have mem := f.ofNat_calculateStreamIDLength_mem
    simp only [List.mem_cons, List.not_mem_nil, or_false] at mem notEven ⊢
    tauto
  · exact ok.survives version tail

/-- An unreliable frame of stream 70000 in front of the next frame of its packet. -/
theorem streamFrame_survives_threeBytes :
    StreamFrame.Survives
      { streamID := 70000, unreliableMarker := true, dataLenPresent := true, offset := 3,
        data := [7, 8] } version39 [0x07] :=
  (streamFrame_survives_iff version39 _ _
    ⟨by decide, by decide, by decide, Or.inl (by decide)⟩ (by decide)).mpr
    (Or.inr ⟨by decide, by decide⟩)

/-- A reliable frame of stream 256 reaches the receiver as unreliable data of stream 1,
with one more byte. -/
theorem streamFrame_not_survives_twoBytes :
    ¬StreamFrame.Survives { streamID := 256, data := [7] } version39 [] := by
  intro survives
  obtain ⟨g, run, sameID, -⟩ := survives [0x81, 0x01, 0x00, 0x07] rfl
  have actual : Reads (unpackStreamFrame version39) [0x81, 0x01, 0x00, 0x07]
      (some ({ streamID := 1, data := [0x00, 0x07] }, true)) [] := rfl
  obtain ⟨same, -⟩ := Reads.unique actual run
  have gEq := congrArg (Option.map fun r => r.1.streamID) same
  simp only [Option.map_some, sameID, Option.some.injEq] at gEq
  exact absurd gEq (by decide)

end MPQuic
