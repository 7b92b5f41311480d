import MPQuic.PacketUnpacker
import MPQuic.Wire.FrameParser
import MPQuic.Wire.PublicHeader

/-!
# Unpacking a payload

The frame loop of `packetUnpacker.Unpack`: look at the type byte, skip it if it is padding, else let
the parser of the frame read it again. Type bytes are told apart by overlapping masks.

* `unpackFrames_written`: control frames that are written one after the other, with padding before,
  between and after them, come back one by one, up to what their formats do not carry.
-/

namespace MPQuic

open ByteCodec List

/-- The errors of the frame loop. A parser's error is wrapped with the code of the frame, except
for the last four kinds of control frames. -/
inductive PayloadError where
  | invalidStreamData (err : WireError)
  /-- "received unencrypted stream data on stream %d" -/
  | unencryptedStreamData (streamID : Nat)
  | invalidAckData (err : WireError)
  /-- "unimplemented: CONGESTION_FEEDBACK" -/
  | congestionFeedback
  | invalidRstStreamData (err : WireError)
  | invalidConnectionCloseData (err : WireError)
  | invalidGoawayData (err : WireError)
  | invalidWindowUpdateData (err : WireError)
  | invalidBlockedData (err : WireError)
  | invalidStopWaitingData (err : WireError)
  | unwrapped (err : WireError)
  /-- "unknown type byte 0x%x" -/
  | unknownTypeByte (typeByte : UInt8)
  deriving DecidableEq, Repr

variable {α : Type} {code : WireError → PayloadError} {hdr : PublicHeader} {toFrame : α → Frame}
  {f : α} {rest bytes : List UInt8} {frame : Frame}

/-- What the unpacker has done with a payload: the streams it has marked as unreliable, and the
frames or an error. A mark stays when a later frame does not parse. -/
abbrev UnpackResult (α : Type) := List Nat × Except PayloadError α

/-- A reader of frames, its errors reported with a code and its result as a frame. -/
def readAs {α : Type} (toFrame : α → Frame) (code : WireError → PayloadError)
    (p : Reader WireError α) : Reader PayloadError Frame := do
  let f ← withError code p
  return toFrame f

variable (version : VersionNumber)

/-- The `switch` over the type bytes of control frames. -/
def parseControlFrame (hdr : PublicHeader) (typeByte : UInt8) : Reader PayloadError Frame :=
  if typeByte = 0x01 then
    readAs .rstStream .invalidRstStreamData (parseRstStreamFrame version)
  else if typeByte = 0x02 then
    readAs .connectionClose .invalidConnectionCloseData (parseConnectionCloseFrame version)
  else if typeByte = 0x03 then
    readAs .goaway .invalidGoawayData (parseGoawayFrame version)
  else if typeByte = 0x04 then
    readAs .windowUpdate .invalidWindowUpdateData (parseWindowUpdateFrame version)
  else if typeByte = 0x05 then
    readAs .blocked .invalidBlockedData (parseBlockedFrame version)
  else if typeByte = 0x06 then
    readAs .stopWaiting .invalidStopWaitingData
      (parseStopWaitingFrame hdr.packetNumber hdr.packetNumberLen version)
  else if typeByte = 0x07 then readAs (fun _ => .ping) .unwrapped parsePingFrame
  else if typeByte = 0x10 then readAs .addAddress .unwrapped (parseAddAddressFrame version)
  else if typeByte = 0x11 then readAs .closePath .unwrapped (parseClosePathFrame version)
  else if typeByte = 0x12 then readAs .paths .unwrapped (parsePathsFrame version)
  else throw (.unknownTypeByte typeByte)

/-- A frame whose type byte is not looked at any more, and the bytes behind it. -/
def UnpackResult.ofReader (p : Reader PayloadError Frame) (input : List UInt8) :
    UnpackResult (Frame × List UInt8) :=
  ([], p.run input)

/-- The STREAM branch. Data of streams other than the crypto stream must be encrypted; the stream
is marked all the same. -/
def unpackStream (encryptionLevel : EncryptionLevel) (typeByte : UInt8)
    (input : List UInt8) : UnpackResult (Frame × List UInt8) :=
  match (unpackStreamBranch version typeByte).run input with
  | .error err => ([], .error (.invalidStreamData err))
  | .ok ((frame, unreliable), rest) =>
    (if unreliable then [frame.streamID] else [],
      if frame.streamID ≠ 1 ∧ encryptionLevel.rank ≤ EncryptionLevel.unencrypted.rank then
        .error (.unencryptedStreamData frame.streamID)
      else .ok (.stream frame, rest))

/-- One round of the loop behind the test for padding. -/
def unpackFrame (hdr : PublicHeader) (encryptionLevel : EncryptionLevel)
    (typeByte : UInt8) (input : List UInt8) : UnpackResult (Frame × List UInt8) :=
  match frameBranch typeByte with
  | .stream => unpackStream version encryptionLevel typeByte input
  | .ack => .ofReader (readAs .ack .invalidAckData (parseAckFrame version)) input
  | .congestionFeedback => ([], .error .congestionFeedback)
  | _ => .ofReader (parseControlFrame version hdr typeByte) input

/-- The loop. Every round consumes the type byte at least, so the number of bytes bounds the number
of rounds. -/
def frameLoop (version : VersionNumber) (hdr : PublicHeader) (encryptionLevel : EncryptionLevel) :
    Nat → List UInt8 → UnpackResult (List Frame)
  | 0, _ => ([], .ok [])
  | _ + 1, [] => ([], .ok [])
  | rounds + 1, typeByte :: rest =>
    if typeByte = 0x0 then frameLoop version hdr encryptionLevel rounds rest
    else
      match unpackFrame version hdr encryptionLevel typeByte (typeByte :: rest) with
      | (marked, .error err) => (marked, .error err)
      | (marked, .ok (frame, rest)) =>
        let more := frameLoop version hdr encryptionLevel rounds rest
        (marked ++ more.1, more.2.map (frame :: ·))

/-- The frames of a decrypted payload. -/
def unpackFrames (hdr : PublicHeader)
    (encryptionLevel : EncryptionLevel) (payload : List UInt8) : UnpackResult (List Frame) :=
  frameLoop version hdr encryptionLevel payload.length payload

/-! ## Control frames -/

/-- The control frames whose fields are within their types, and that are valid in a packet with the
given header. -/
def Frame.ControlFrame (hdr : PublicHeader) : Frame → Prop
  | .rstStream f => f.streamID < 2 ^ 32 ∧ f.byteOffset < 2 ^ 64 ∧ f.errorCode < 2 ^ 32
  | .connectionClose f => f.errorCode < 2 ^ 32 ∧ f.reasonPhrase.length ≤ maxPacketSize
  | .goaway f => f.errorCode < 2 ^ 32 ∧ f.lastGoodStream < 2 ^ 32 ∧
    f.reasonPhrase.length ≤ maxPacketSize
  | .windowUpdate f => f.streamID < 2 ^ 32 ∧ f.byteOffset < 2 ^ 64
  | .blocked f => f.streamID < 2 ^ 32
  | .stopWaiting f => f.packetNumber = hdr.packetNumber ∧ f.packetNumberLen = hdr.packetNumberLen ∧
    hdr.packetNumberLen ∈ packetNumberLens ∧ 0 < f.leastUnacked ∧
    f.leastUnacked ≤ f.packetNumber ∧
    f.packetNumber - f.leastUnacked < 2 ^ (8 * f.packetNumberLen)
  | .ping => True
  | .addAddress f => f.Consistent ∧ f.addr.port < 2 ^ 16
  | .paths f => f.WellFormed
  | _ => False

/-- What the receiver gets of a frame: a STOP_WAITING frame has one field only, an address has
sixteen bytes, and the RTTs of paths are rounded. -/
def Frame.received : Frame → Frame
  | .stopWaiting f => .stopWaiting { leastUnacked := f.leastUnacked }
  | .addAddress f => .addAddress f.to16
  | .paths f => .paths { f with remoteRTTs := f.remoteRTTs.map roundRTT }
  | f => f

/-- Bytes that the loop takes for a control frame: the type byte is not padding and leads to the
`switch`, and the parser there reads the frame. -/
def Unpacks (hdr : PublicHeader) (frame : Frame) (bytes : List UInt8) : Prop :=
  ∃ typeByte more, bytes = typeByte :: more ∧ typeByte ≠ 0x0 ∧ frameBranch typeByte = .other ∧
    ∀ rest, Reads (parseControlFrame version hdr typeByte) (bytes ++ rest) frame rest

theorem reads_readAs {p : Reader WireError α} {input : List UInt8} (run : Reads p input f rest) :
    Reads (readAs toFrame code p) input (toFrame f) rest :=
  Reads.bind (run.withError code) (Reads.pure _ _)

/-- A frame that its parser reads is unpacked, if its type byte leads to that parser. -/
theorem ParsesAs.unpacks {p : Reader WireError α} {typeByte : UInt8} {version : VersionNumber}
    (parses : ParsesAs p typeByte bytes f)
    (switch : parseControlFrame version hdr typeByte = readAs toFrame code p)
    (branch : typeByte ≠ 0x0 ∧ frameBranch typeByte = .other) :
    Unpacks version hdr (toFrame f) bytes := by
  obtain ⟨more, begins⟩ := parses.typeByte
  refine ⟨typeByte, more, begins, branch.1, branch.2, ?_⟩
  intro rest
  rw [switch]
  exact reads_readAs (parses.reads rest)

/-- Every control frame is written, and the loop takes its bytes for that frame. -/
theorem Frame.ControlFrame.unpacks (control : frame.ControlFrame hdr) (version : VersionNumber)
    (now : Int) :
    ∃ bytes, frame.write version now = .ok bytes ∧ Unpacks version hdr frame.received bytes := by
  cases frame with
  | rstStream f =>
    obtain ⟨streamID, byteOffset, errorCode⟩ := control
    exact ⟨_, rfl, (RstStreamFrame.parses version streamID byteOffset errorCode).unpacks rfl
      (by decide)⟩
  | connectionClose f =>
    obtain ⟨bytes, written, parses⟩ := ConnectionCloseFrame.parses version control.1 control.2
    exact ⟨bytes, written, parses.unpacks rfl (by decide)⟩
  | goaway f =>
    obtain ⟨errorCode, lastGoodStream, reasonPhrase⟩ := control
    exact ⟨_, rfl, (GoawayFrame.parses version errorCode lastGoodStream reasonPhrase).unpacks rfl
      (by decide)⟩
  | windowUpdate f =>
    exact ⟨_, rfl, (WindowUpdateFrame.parses version control.1 control.2).unpacks rfl
      (by decide)⟩
  | blocked f =>
    exact ⟨_, rfl, (BlockedFrame.parses version control).unpacks rfl (by decide)⟩
  | stopWaiting f =>
    obtain ⟨number, len, chosen, least, le, fits⟩ := control
    obtain ⟨bytes, written, parses⟩ :=
      StopWaitingFrame.parses version (len ▸ chosen) least le fits
    rw [number, len] at parses
    exact ⟨bytes, written, parses.unpacks rfl (by decide)⟩
  | ping =>
    have parses : ParsesAs parsePingFrame 0x07 [0x07] () :=
      ⟨⟨[], rfl⟩, fun rest => Reads.bind (Reads.byte _ _ _) (Reads.pure _ _)⟩
    exact ⟨_, rfl, parses.unpacks rfl (by decide)⟩
  | addAddress f =>
    obtain ⟨bytes, written, parses⟩ := AddAddressFrame.parses version control.1 control.2
    exact ⟨bytes, written, parses.unpacks rfl (by decide)⟩
  | paths f =>
    obtain ⟨bytes, written, parses⟩ := PathsFrame.parses version control
    exact ⟨bytes, written, parses.unpacks rfl (by decide)⟩
  | _ => exact control.elim

/-! ## Whole payloads -/

/-- Frames that are written one after the other, each behind some padding. -/
def writePadded (version : VersionNumber) (now : Int) :
    List (Nat × Frame) → Except FrameError (List UInt8)
  | [] => .ok []
  | (padding, frame) :: rest =>
    match frame.write version now, writePadded version now rest with
    | .error err, _ => .error err
    | .ok _, .error err => .error err
    | .ok bytes, .ok more => .ok (List.replicate padding 0 ++ (bytes ++ more))

section Loop

variable {version : VersionNumber} {hdr : PublicHeader} {encryptionLevel : EncryptionLevel}

/-- Padding costs one round for each byte. -/
theorem frameLoop_padding (padding rounds : Nat) (input : List UInt8) :
    frameLoop version hdr encryptionLevel (padding + rounds)
        (List.replicate padding 0 ++ input) =
      frameLoop version hdr encryptionLevel rounds input := by
  induction padding with
  | zero => rw [zero_add, replicate_zero, nil_append]
  | succ padding ih =>
    rw [add_right_comm, replicate_succ, cons_append, frameLoop, if_pos rfl, ih]

/-- A control frame costs one round. -/
theorem frameLoop_frame (unpacks : Unpacks version hdr frame bytes) (rounds : Nat)
    {frames : List Frame}
    (more : frameLoop version hdr encryptionLevel rounds rest = ([], .ok frames)) :
    frameLoop version hdr encryptionLevel (rounds + 1) (bytes ++ rest) =
      ([], .ok (frame :: frames)) := by
  obtain ⟨typeByte, tail, rfl, notPadding, branch, reads⟩ := unpacks
  have round : unpackFrame version hdr encryptionLevel typeByte (typeByte :: (tail ++ rest)) =
      ([], .ok (frame, rest)) := by
    unfold unpackFrame
    rw [branch]
    exact Prod.ext rfl (reads rest)
  rw [cons_append, frameLoop, if_neg notPadding, round]
  simp only [more]
  rfl

theorem length_pos_of_unpacks (unpacks : Unpacks version hdr frame bytes) : 0 < bytes.length := by
  obtain ⟨typeByte, tail, rfl, -⟩ := unpacks
  exact Nat.succ_pos _

/-- The loop gives back the frames, as long as there are enough rounds for the bytes. -/
theorem frameLoop_written (now : Int) (tail : Nat) {frames : List (Nat × Frame)}
    (control : ∀ entry ∈ frames, entry.2.ControlFrame hdr) :
    ∃ payload, writePadded version now frames = .ok payload ∧
      ∀ rounds, payload.length + tail ≤ rounds →
        frameLoop version hdr encryptionLevel rounds (payload ++ List.replicate tail 0) =
          ([], .ok (frames.map fun entry => entry.2.received)) := by
  induction frames with
  | nil =>
    refine ⟨[], rfl, ?_⟩
    intro rounds enough
    obtain ⟨spare, rfl⟩ := Nat.exists_eq_add_of_le enough
    rw [length_nil, zero_add, nil_append,
      ← append_nil (List.replicate tail 0), frameLoop_padding]
    cases spare <;> rfl
  | cons entry frames ih =>
    obtain ⟨padding, frame⟩ := entry
    obtain ⟨more, writtenMore, loopMore⟩ := ih fun e mem => control e (mem_cons_of_mem _ mem)
    obtain ⟨bytes, written, unpacks⟩ :=
      (control (padding, frame) mem_cons_self).unpacks version now
    have nonempty := length_pos_of_unpacks unpacks
    refine ⟨List.replicate padding 0 ++ (bytes ++ more), ?_, ?_⟩
    · simp only [writePadded, written, writtenMore]
    · intro rounds enough
      rw [length_append, length_append, length_replicate] at enough
      obtain ⟨spare, rfl⟩ := Nat.exists_eq_add_of_le (show padding + 1 ≤ rounds by omega)
      rw [append_assoc, append_assoc, add_assoc, frameLoop_padding, add_comm 1]
      exact frameLoop_frame unpacks spare (loopMore spare (by omega))

end Loop

/-- Control frames with any padding between them survive the way through a payload: the frame loop
returns each of them in its place. STOP_WAITING frames come back with the least unacked number only
and addresses in sixteen bytes. RTTs are cut to microseconds and lose less than one part in 2048. -/
theorem unpackFrames_written (now : Int) (hdr : PublicHeader)
    (encryptionLevel : EncryptionLevel) (frames : List (Nat × Frame)) (tail : Nat)
    (control : ∀ entry ∈ frames, entry.2.ControlFrame hdr) :
    (∃ payload, writePadded version now frames = .ok payload ∧
      unpackFrames version hdr encryptionLevel (payload ++ List.replicate tail 0) =
        ([], .ok (frames.map fun entry => entry.2.received))) ∧
      ∀ rtt : Int, 0 ≤ rtt → rtt ≤ uFloat16MaxValue * 1000 →
        roundRTT rtt ≤ rtt ∧ 2 ^ 11 * (rtt - roundRTT rtt) < rtt + 2 ^ 11 * 1000 := by
  refine ⟨?_, fun rtt nonneg small => roundRTT_bounds nonneg small⟩
  obtain ⟨payload, written, loop⟩ := frameLoop_written now tail control
  refine ⟨payload, written, ?_⟩
  unfold unpackFrames
  rw [length_append, length_replicate]
  exact loop _ le_rfl

/-- Padding, a STOP_WAITING frame in packet 7, padding, and an address. -/
theorem unpackFrames_written_twoFrames :
    let hdr : PublicHeader := { connectionID := 1, packetNumberLen := 2, packetNumber := 7 }
    let stopWaiting : StopWaitingFrame :=
      { leastUnacked := 5, packetNumberLen := 2, packetNumber := 7 }
    let addAddress : AddAddressFrame :=
      { ipVersion := 4, addr := { ip := [10, 0, 0, 1], port := 4433 } }
    (∃ payload,
      writePadded version39 0 [(1, .stopWaiting stopWaiting), (3, .addAddress addAddress)] =
          .ok payload ∧
        unpackFrames version39 hdr .forwardSecure (payload ++ List.replicate 2 0) =
          ([], .ok [.stopWaiting { leastUnacked := 5 }, .addAddress addAddress.to16])) ∧
      ∀ rtt : Int, 0 ≤ rtt → rtt ≤ uFloat16MaxValue * 1000 →
        roundRTT rtt ≤ rtt ∧ 2 ^ 11 * (rtt - roundRTT rtt) < rtt + 2 ^ 11 * 1000 := by
  intro hdr stopWaiting addAddress
  refine unpackFrames_written version39 0 hdr .forwardSecure
    [(1, .stopWaiting stopWaiting), (3, .addAddress addAddress)] 2 ?_
  intro entry mem
  simp only [mem_cons, not_mem_nil, or_false] at mem
  rcases mem with rfl | rfl
  · exact ⟨rfl, rfl, by decide, by decide, by decide, by decide⟩
  · exact ⟨Or.inl ⟨rfl, rfl⟩, by decide⟩

/-- A STOP_WAITING frame does not come back as it was, and a PATHS frame about more paths than it
allows is written but refused by the parser. -/
theorem unpackFrames_written_notSame :
    let hdr : PublicHeader := { connectionID := 1, packetNumberLen := 1, packetNumber := 7 }
    let stopWaiting : StopWaitingFrame :=
      { leastUnacked := 5, packetNumberLen := 1, packetNumber := 7 }
    let paths : PathsFrame :=
      { maxNumPaths := 0, numPaths := 1, pathIDs := [3], remoteRTTs := [0] }
    (Frame.stopWaiting stopWaiting).write version39 0 = .ok [0x06, 2] ∧
      unpackFrames version39 hdr .forwardSecure [0x06, 2] =
        ([], .ok [.stopWaiting { leastUnacked := 5, packetNumberLen := 0, packetNumber := 0 }]) ∧
      (Frame.paths paths).write version39 0 = .ok [0x12, 0, 1, 3, 0, 0] ∧
      unpackFrames version39 hdr .forwardSecure [0x12, 0, 1, 3, 0, 0] =
        ([], .error (.unwrapped .errTooManyPaths)) :=
  ⟨rfl, rfl, rfl, rfl⟩

end MPQuic
