import MPQuic.PacketUnpacker
import MPQuic.Scheduler.Retransmission
import MPQuic.StreamsMap.Limits
import MPQuic.Wire.PathsFrame

/-!
# Handling frames

`session.handleFrames` goes through the frames of a packet and hands each one to the part of the
session it is for. Three kinds of frames name a path. A CLOSE_PATH frame for an unknown path is
answered by an error, which is ignored. The path of an ACK frame, and a path that a PATHS frame
reports with an RTT of thirty minutes or more, are used without a check.

* `handleFrame_nilPath_iff`: which frames make the session use a path it does not have.
* `handleFrames_nilPath_iff`: the same for a whole packet.
-/

namespace MPQuic

open ByteCodec

/-- What handling one frame reads from its surroundings. -/
structure FrameEnv where
  now : Int := 0
  /-- for the sent packet handler -/
  ack : AckEnv := default
  /-- the RTT estimate of the path and its congestion window after an acknowledgement -/
  smoothedRTT : Int := 0
  congestionWindow : Nat := 0
  /-- for the paths that an ADD_ADDRESS frame leads to -/
  create : CreateEnv
  /-- the order of the paths in a PATHS frame -/
  order : List PathID := []

namespace Session

variable {s s' : Session} {frame : PathsFrame} {i : Nat} {abort : Abort} {p : PathID}

/-- The session after a call, and the error that the call returned. -/
abbrev Handled := Session × Option SessionError

/-! ## Frames for streams -/

/-- `streamsMap.GetOrOpenStream`, and then what is done with the stream. -/
def withStream (s : Session) (id : Nat) (nilStream : Option SessionError)
    (use : Session → Stream → Handled) : Except Abort Handled :=
  match s.streamsMap.getOrOpenStream s.flowControlManager id StreamsMap.callRounds with
  | none => .error .loops
  | some opened =>
    let s := { s with streamsMap := opened.map, flowControlManager := opened.flow }
    match opened.outcome with
    | .error err => .ok (s, some (.streamsMap err))
    | .ok none => .ok (s, nilStream)
    | .ok (some stream) => .ok (use s stream)

/-- Frames of a stream that is closed already are ignored. -/
def handleStreamFrame (s : Session) (frame : StreamFrame) (now : Int) : Except Abort Handled :=
  s.withStream frame.streamID none fun s stream =>
    let added := stream.addStreamFrame s.flowControlManager frame now
    ({ s with
      streamsMap := s.streamsMap.setStream frame.streamID added.1
      flowControlManager := added.2.1 }, added.2.2.map .stream)

/-- `flowControlManager.UpdateWindow` -/
def updateWindow (s : Session) (frame : WindowUpdateFrame) : Handled :=
  if frame.streamID ≠ 0 ∧ s.flowControlManager.getFlowController frame.streamID = none then
    (s, some (.flowControl .errMapAccess))
  else
    ({ s with
      flowControlManager := s.flowControlManager.updateWindow frame.streamID frame.byteOffset },
      none)

/-- Stream 0 stands for the connection. -/
def handleWindowUpdateFrame (s : Session) (frame : WindowUpdateFrame) : Except Abort Handled :=
  if frame.streamID = 0 then .ok (s.updateWindow frame)
  else
    s.withStream frame.streamID (some .errWindowUpdateOnClosedStream) fun s _ =>
      s.updateWindow frame

def queueResetStreamFrame (s : Session) (id offset : Nat) : Session :=
  s.queueControlFrame (.rstStream { streamID := id, errorCode := 0, byteOffset := offset })
    initialPathID

def handleRstStreamFrame (s : Session) (frame : RstStreamFrame) : Except Abort Handled :=
  s.withStream frame.streamID (some .errRstStreamOnInvalidStream) fun s stream =>
    let registered := stream.registerRemoteError
      (.closed s!"RST_STREAM received with code {frame.errorCode}")
    let s := { s with streamsMap := s.streamsMap.setStream frame.streamID registered.1 }
    let s := match registered.2 with
      | some offset => s.queueResetStreamFrame frame.streamID offset
      | none => s
    let reset := s.flowControlManager.resetStream frame.streamID frame.byteOffset
    ({ s with flowControlManager := reset.1 }, reset.2.map .flowControl)

/-! ## Frames that name a path -/

/-- The session takes over an RTT that is larger than its own, which is the one of the initial
path. -/
def updateSessionRTT (s : Session) (smoothedRTT : Int) : Session :=
  s.modifyPath initialPathID fun pth => { pth with smoothedRTT := max pth.smoothedRTT smoothedRTT }

/-- `handleAckFrame`. It is not checked that the path exists. -/
def handleAckFrame (s : Session) (frame : AckFrame) (env : FrameEnv) : Except Abort Handled :=
  match s.paths.lookup frame.pathID with
  | none => .error .nilPath
  | some pth =>
    let acked := pth.sentPacketHandler.receivedAck env.ack frame pth.lastRcvdPacketNumber
      pth.lastNetworkActivityTime
    let s := s.setPath { pth with
      sentPacketHandler := acked.1
      smoothedRTT := env.smoothedRTT
      congestionWindow := env.congestionWindow }
    match acked.2 with
    | some err => .ok (s, some (.ackHandler err))
    | none => .ok (s.updateSessionRTT env.smoothedRTT, none)

/-- `closePath` without a CLOSE_PATH frame in return, as `handleClosePathFrame` calls it. The path
manager tells the goroutine of the path, if it still runs. -/
def closePath (s : Session) (pathID : PathID) : Handled :=
  match s.paths.lookup pathID with
  | none => (s, some .unknownPathToClose)
  | some pth =>
    if pathID ∈ s.closedPaths then (s, none)
    else
      let s := if s.pathManager.isSome && pth.isOpen then
        s.setPath { pth with closeChan := true } else s
      ({ s with closedPaths := pathID :: s.closedPaths }, none)

/-- The caller ignores the errors. -/
def handleClosePathFrame (s : Session) (frame : ClosePathFrame) (env : FrameEnv) :
    Except Abort Session :=
  match s.closePath frame.pathID with
  | (s, some _) => .ok s
  | (s, none) =>
    match s.paths.lookup frame.pathID with
    | none => .error .nilPath
    | some pth =>
      let closed := pth.sentPacketHandler.receivedClosePath frame pth.lastRcvdPacketNumber
      .ok (s.setPath { pth with
        sentPacketHandler := closed.1
        congestionWindow := env.congestionWindow })

/-- thirty minutes, in nanoseconds -/
def thirtyMinutes : Int := 1800000000000

/-- One round of the loop over the entries of a PATHS frame. -/
def handlePathsEntry (frame : PathsFrame) (s : Session) (i : Nat) : Except Abort Session :=
  match frame.pathIDs[i]?, frame.remoteRTTs[i]? with
  | some pathID, some remoteRTT =>
    let s := { s with remoteRTTs := s.remoteRTTs.insert pathID remoteRTT }
    if remoteRTT ≥ thirtyMinutes then
      match s.paths.lookup pathID with
      | none => .error .nilPath
      | some pth => .ok (s.setPath { pth with potentiallyFailed := true })
    else .ok s
  | _, _ => .error (.runtime .indexOutOfRange)

/-- `handlePathsFrame`: an entry for each path of the peer. -/
def handlePathsFrame (s : Session) (frame : PathsFrame) : Except Abort Session :=
  (List.range frame.numPaths.toNat).foldlM (handlePathsEntry frame) s

/-! ## All frames -/

def handleAddAddressFrame (s : Session) (frame : AddAddressFrame) (env : FrameEnv) :
    Except Abort Handled :=
  match s.pathManager with
  | none => .ok (s, none)
  | some pm =>
    match pm.handleAddAddressFrame s frame env.create with
    | .error panic => .error (.runtime panic)
    | .ok managed =>
      let s := { managed.session with pathManager := some managed.pm }
      .ok (s.schedulePathsFrame env.now env.order, managed.err)

/-- The `switch` of `handleFrames`, for a frame that was received on the path `p`. -/
def handleFrame (s : Session) (p : PathID) (frame : Frame) (env : FrameEnv) :
    Except Abort Handled :=
  match frame with
  | .stream f => s.handleStreamFrame f env.now
  | .ack f => s.handleAckFrame f env
  | .connectionClose f => .ok ({ s with closeErr := s.closeErr <|> some (.byRemote f) }, none)
  | .goaway _ => .ok (s, some .goawayUnimplemented)
  | .stopWaiting f =>
    .ok (s.modifyPath p fun pth =>
      { pth with receivedPacketHandler :=
          pth.receivedPacketHandler.setLowerLimit (subUint64 f.leastUnacked 1) }, none)
  | .rstStream f => s.handleRstStreamFrame f
  | .windowUpdate f => s.handleWindowUpdateFrame f
  | .blocked _ => .ok ({ s with peerBlocked := true }, none)
  | .ping => .ok (s, none)
  | .addAddress f => s.handleAddAddressFrame f env
  | .closePath f => (s.handleClosePathFrame f env).map (·, none)
  | .paths f => (s.handlePathsFrame f).map (·, none)

/-- The errors that `handleFrames` goes on after. -/
def isIgnored : SessionError → Bool
  | .ackHandler .errDuplicateOrOutOfOrderAck => true
  | .errRstStreamOnInvalidStream => true
  | .errWindowUpdateOnClosedStream => true
  | _ => false

/-- The body of the loop of `handleFrames`. Each frame comes with its surroundings. -/
def handleNext (p : PathID) (s : Session) (next : Frame × FrameEnv) :
    Except Abort (Loop.Outcome Session Handled) :=
  match s.handleFrame p next.1 next.2 with
  | .error abort => .error abort
  | .ok (s, err) =>
    match err.filter fun err => !isIgnored err with
    | some err => .ok (.returns (s, some err))
    | none => .ok (.goesOn s)

/-- The frames of a packet that was received on the path `p`. -/
def handleFrames (s : Session) (p : PathID) (frames : List (Frame × FrameEnv)) :
    Except Abort Handled :=
  match Loop.run (handleNext p) frames s with
  | .error abort => .error abort
  | .ok (.returns result) => .ok result
  | .ok (.goesOn s) => .ok (s, none)

/-! ## Unknown paths -/

/-- The frame needs a path that the session does not have. -/
def NamesUnknownPath (s : Session) : Frame → Prop
  | .ack f => s.paths.lookup f.pathID = none
  | .paths f => ∃ i pathID remoteRTT, i < f.numPaths.toNat ∧ f.pathIDs[i]? = some pathID ∧
    f.remoteRTTs[i]? = some remoteRTT ∧ thirtyMinutes ≤ remoteRTT ∧
    s.paths.lookup pathID = none
  | _ => False

theorem withStream_ne_nilPath (s : Session) (id : Nat) (nilStream : Option SessionError)
    (use : Session → Stream → Handled) : s.withStream id nilStream use ≠ .error .nilPath := by
  unfold withStream
  split
  · simp
  · simp only
    split <;> simp

theorem handleAckFrame_nilPath_iff (s : Session) (frame : AckFrame) (env : FrameEnv) :
    s.handleAckFrame frame env = .error .nilPath ↔ s.paths.lookup frame.pathID = none := by
  unfold handleAckFrame
  cases s.paths.lookup frame.pathID with
  | none => simp
  | some pth =>
    simp only
    split <;> simp

/-- `closePath` succeeds for known paths only, and they stay known. -/
theorem lookup_of_closePath {pathID : PathID}
    (closed : s.closePath pathID = (s', none)) : s'.paths.lookup pathID ≠ none := by
  unfold closePath at closed
  cases found : s.paths.lookup pathID with
  | none =>
    rw [found] at closed
    cases closed
  | some pth =>
    have known : s.paths.lookup pathID ≠ none := found ▸ Option.some_ne_none pth
    rw [found] at closed
    simp only at closed
    split at closed
    · cases closed
      exact known
    · cases closed
      split
      · have foundAt := PathTable.lookup_pathID_of_lookup found
        exact mt (PathTable.lookup_set_eq_none_iff { pth with closeChan := true } foundAt
          pathID).mp known
      · exact known

theorem handleClosePathFrame_ne_nilPath (s : Session) (frame : ClosePathFrame) (env : FrameEnv) :
    s.handleClosePathFrame frame env ≠ .error .nilPath := by
  unfold handleClosePathFrame
  split
  · simp
  · rename_i s' closed
    split
    · rename_i missing
      exact absurd missing (lookup_of_closePath closed)
    · simp

/-- A round of the loop neither adds nor removes paths. -/
theorem lookup_eq_none_handlePathsEntry (handled : handlePathsEntry frame s i = .ok s')
    (pathID : PathID) : s'.paths.lookup pathID = none ↔ s.paths.lookup pathID = none := by
  unfold handlePathsEntry at handled
  split at handled
  · rename_i entryID remoteRTT _ _
    simp only at handled
    split at handled
    · split at handled
      · cases handled
      · rename_i pth found
        cases handled
        have foundAt : s.paths.lookup pth.pathID = some pth :=
          PathTable.lookup_pathID_of_lookup found
        exact PathTable.lookup_set_eq_none_iff { pth with potentiallyFailed := true } foundAt
          pathID
    · cases handled
      rfl
  · cases handled

/-- An entry that is there has no other way to abort. -/
theorem abort_of_handlePathsEntry (inIDs : i < frame.pathIDs.length)
    (inRTTs : i < frame.remoteRTTs.length) (aborted : handlePathsEntry frame s i = .error abort) :
    abort = .nilPath := by
  unfold handlePathsEntry at aborted
  rw [List.getElem?_eq_getElem inIDs, List.getElem?_eq_getElem inRTTs] at aborted
  simp only at aborted
  split at aborted
  · split at aborted
    · cases aborted
      rfl
    · cases aborted
  · cases aborted

theorem handlePathsEntry_nilPath_iff (frame : PathsFrame) (s : Session) (i : Nat) :
    handlePathsEntry frame s i = .error .nilPath ↔
      ∃ pathID remoteRTT, frame.pathIDs[i]? = some pathID ∧
        frame.remoteRTTs[i]? = some remoteRTT ∧ thirtyMinutes ≤ remoteRTT ∧
        s.paths.lookup pathID = none := by
  unfold handlePathsEntry
  cases frame.pathIDs[i]? with
  | none => simp
  | some pathID =>
    cases frame.remoteRTTs[i]? with
    | none => simp
    | some remoteRTT =>
      simp only [Option.some.injEq, exists_and_left, exists_eq_left']
      split
      · rename_i failed
        cases s.paths.lookup pathID with
        | none => simp [failed]
        | some pth => simp
      · rename_i alive
        simp [alive]

/-- The entries are handled in order, and an index out of range ends the loop in another way. -/
theorem foldlM_handlePathsEntry_nilPath_iff (frame : PathsFrame) (count : Nat) :
    ∀ (start : Nat) (s : Session),
      (List.range' start count).foldlM (handlePathsEntry frame) s = .error .nilPath ↔
        ∃ i pathID remoteRTT, (start ≤ i ∧ i < start + count) ∧
          frame.pathIDs[i]? = some pathID ∧ frame.remoteRTTs[i]? = some remoteRTT ∧
          thirtyMinutes ≤ remoteRTT ∧ s.paths.lookup pathID = none := by
  induction count with
  | zero =>
    intro start s
    constructor
    · intro nil
      cases nil
    · rintro ⟨i, _, _, ⟨_, _⟩, _⟩
      omega
  | succ count ih =>
    intro start s
    have first := handlePathsEntry_nilPath_iff frame s start
    rw [List.range'_succ, List.foldlM_cons]
    cases entry : handlePathsEntry frame s start with
    | ok s' =>
      rw [entry] at first
      refine (ih (start + 1) s').trans ?_
      constructor
      · rintro ⟨i, pathID, remoteRTT, range, idAt, rttAt, failed, missing⟩
        exact ⟨i, pathID, remoteRTT, by omega, idAt, rttAt, failed,
          (lookup_eq_none_handlePathsEntry entry pathID).mp missing⟩
      · rintro ⟨i, pathID, remoteRTT, range, idAt, rttAt, failed, missing⟩
        by_cases atStart : i = start
        · subst atStart
          cases first.mpr ⟨pathID, remoteRTT, idAt, rttAt, failed, missing⟩
        · exact ⟨i, pathID, remoteRTT, by omega, idAt, rttAt, failed,
            (lookup_eq_none_handlePathsEntry entry pathID).mpr missing⟩
    | error abort =>
      rw [entry] at first
      constructor
      · intro nil
        obtain ⟨pathID, remoteRTT, found⟩ := first.mp nil
        exact ⟨start, pathID, remoteRTT, by omega, found⟩
      · rintro ⟨i, pathID, remoteRTT, range, idAt, rttAt, failed, missing⟩
        -- the entry at `start` is in range, because a later one is
        have inIDs : start < frame.pathIDs.length := by
          have := (List.getElem?_eq_some_iff.mp idAt).1
          omega
        have inRTTs : start < frame.remoteRTTs.length := by
          have := (List.getElem?_eq_some_iff.mp rttAt).1
          omega
        rw [abort_of_handlePathsEntry inIDs inRTTs entry]
        rfl

theorem handlePathsFrame_nilPath_iff (s : Session) (frame : PathsFrame) :
    s.handlePathsFrame frame = .error .nilPath ↔ s.NamesUnknownPath (.paths frame) := by
  unfold handlePathsFrame NamesUnknownPath
  rw [List.range_eq_range', foldlM_handlePathsEntry_nilPath_iff]
  simp

/-- A PATHS frame that the parser has accepted can do no other harm. -/
theorem abort_of_handlePathsFrame (wellFormed : frame.WellFormed)
    (aborted : s.handlePathsFrame frame = .error abort) : abort = .nilPath := by
  obtain ⟨reached, i, member, aborts⟩ := Loop.exists_of_foldlM_eq_error _ s aborted
  have inRange := List.mem_range.mp member
  have inIDs : i < frame.pathIDs.length := wellFormed.pathIDs.symm ▸ inRange
  have inRTTs : i < frame.remoteRTTs.length := wellFormed.remoteRTTs.symm ▸ inRange
  exact abort_of_handlePathsEntry inIDs inRTTs aborts

/-- Whatever bytes it came in, a PATHS frame aborts the session exactly if it names an unknown path
as failed, and then by the use of a nil path. -/
theorem parsedPathsFrame_aborts_iff {version : VersionNumber} {input rest : List UInt8}
    {frame : PathsFrame} (parsed : Reads (parsePathsFrame version) input frame rest)
    (s : Session) (abort : Abort) :
    s.handlePathsFrame frame = .error abort ↔
      abort = .nilPath ∧ s.NamesUnknownPath (.paths frame) := by
  constructor
  · intro aborted
    obtain rfl := abort_of_handlePathsFrame (wellFormed_of_parsePathsFrame parsed) aborted
    exact ⟨rfl, (handlePathsFrame_nilPath_iff s frame).mp aborted⟩
  · rintro ⟨rfl, unknown⟩
    exact (handlePathsFrame_nilPath_iff s frame).mpr unknown

theorem parsedPathsFrame_aborts_onePath : ∃ frame,
    Reads (parsePathsFrame versionMP) [0x12, 1, 1, 9, 0xaa, 0x00] frame [] ∧
      ∀ abort, earlyClient.handlePathsFrame frame = .error abort ↔
        abort = .nilPath ∧ earlyClient.NamesUnknownPath (.paths frame) := by
  obtain ⟨frame, parsed⟩ : ∃ frame,
      Reads (parsePathsFrame versionMP) [0x12, 1, 1, 9, 0xaa, 0x00] frame [] := ⟨_, rfl⟩
  exact ⟨frame, parsed, parsedPathsFrame_aborts_iff parsed earlyClient⟩

theorem map_eq_nilPath_iff {α β : Type} (result : Except Abort α) (f : α → β) :
    result.map f = .error .nilPath ↔ result = .error .nilPath := by
  cases result <;> simp [Except.map]

/-- A frame makes the session use a path it does not have exactly if it is an ACK frame for an
unknown path, or a PATHS frame that reports an unknown path as failed. -/
theorem handleFrame_nilPath_iff (s : Session) (p : PathID) (frame : Frame) (env : FrameEnv) :
    s.handleFrame p frame env = .error .nilPath ↔ s.NamesUnknownPath frame := by
  cases frame with
  | ack f => exact handleAckFrame_nilPath_iff s f env
  | paths f => exact (map_eq_nilPath_iff _ _).trans (handlePathsFrame_nilPath_iff s f)
  | closePath f =>
    refine (map_eq_nilPath_iff _ _).trans ?_
    simp [handleClosePathFrame_ne_nilPath, NamesUnknownPath]
  | stream f =>
    simp [handleFrame, handleStreamFrame, withStream_ne_nilPath, NamesUnknownPath]
  | rstStream f =>
    simp [handleFrame, handleRstStreamFrame, withStream_ne_nilPath, NamesUnknownPath]
  | windowUpdate f =>
    simp only [handleFrame, handleWindowUpdateFrame, NamesUnknownPath, iff_false]
    split
    · simp
    · exact withStream_ne_nilPath _ _ _ _
  | addAddress f =>
    simp only [handleFrame, handleAddAddressFrame, NamesUnknownPath, iff_false]
    split
    · simp
    · split <;> simp
  | _ => simp [handleFrame, NamesUnknownPath]

theorem handleNext_nilPath_iff (p : PathID) (s : Session) (next : Frame × FrameEnv) :
    handleNext p s next = .error .nilPath ↔ s.NamesUnknownPath next.1 := by
  rw [← handleFrame_nilPath_iff s p next.1 next.2]
  unfold handleNext
  cases s.handleFrame p next.1 next.2 with
  | error abort => simp
  | ok result =>
    simp only
    split <;> simp

/-- The loop is left early only with an error. -/
theorem handleNext_returns {next : Frame × FrameEnv} {err : Option SessionError}
    (returned : handleNext p s next = .ok (.returns (s', err))) : err ≠ none := by
  unfold handleNext at returned
  split at returned
  · cases returned
  · split at returned
    · cases returned
      exact Option.some_ne_none _
    · cases returned

theorem handleFrames_eq_none_iff {frames : List (Frame × FrameEnv)} :
    s.handleFrames p frames = .ok (s', none) ↔
      Loop.run (handleNext p) frames s = .ok (.goesOn s') := by
  unfold handleFrames
  rcases result : Loop.run (handleNext p) frames s with abort | last | ⟨last, err⟩
  · simp
  · simp
  · obtain ⟨reached, input, returned⟩ := Loop.exists_of_run_returns frames s result
    have failed := handleNext_returns returned
    simp [failed]

/-- `handleFrames` uses a path that the session does not have exactly if it comes to a frame that
names one, in the state that the frames before it have left. -/
theorem handleFrames_nilPath_iff (s : Session) (p : PathID) (frames : List (Frame × FrameEnv)) :
    s.handleFrames p frames = .error .nilPath ↔
      ∃ front frame env back s', frames = front ++ (frame, env) :: back ∧
        s.handleFrames p front = .ok (s', none) ∧ s'.NamesUnknownPath frame := by
  have loop : s.handleFrames p frames = .error .nilPath ↔
      Loop.run (handleNext p) frames s = .error .nilPath := by
    unfold handleFrames
    rcases Loop.run (handleNext p) frames s with abort | last | result <;> simp
  rw [loop, Loop.run_eq_error_iff]
  simp only [handleFrames_eq_none_iff, handleNext_nilPath_iff]
  constructor
  · rintro ⟨front, ⟨frame, env⟩, back, s', split, before, unknown⟩
    exact ⟨front, frame, env, back, s', split, before, unknown⟩
  · rintro ⟨front, frame, env, back, s', split, before, unknown⟩
    exact ⟨front, (frame, env), back, s', split, before, unknown⟩

/-! ## Two packets with unknown paths -/

/-- The surroundings of a frame that opens no paths. -/
def quietFrameEnv : FrameEnv where
  create := { send := fun _ => atTimeZero, now := 0 }

/-- An ACK frame for path 7, and a PATHS frame that reports path 9 with an RTT of three quarters of
an hour, both as the parsers return them, reach a session whose only path is the initial one. -/
theorem handleFrames_uses_nilPath :
    (∃ ack, frameBranch 0x50 = .ack ∧
      Reads (parseAckFrame versionMP) [0x50, 7, 1, 0, 0, 1, 0] ack [] ∧
      earlyClient.handleFrames initialPathID [(.ack ack, quietFrameEnv)] = .error .nilPath) ∧
    ∃ paths, frameBranch 0x12 = .other ∧
      Reads (parsePathsFrame versionMP) [0x12, 1, 1, 9, 0xaa, 0x00] paths [] ∧
      earlyClient.handleFrames initialPathID [(.paths paths, quietFrameEnv)] =
        .error .nilPath :=
  ⟨⟨_, by decide, rfl, rfl⟩, _, by decide, rfl, rfl⟩

end Session

end MPQuic
