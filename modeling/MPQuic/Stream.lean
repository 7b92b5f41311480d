import MPQuic.FlowControl.FlowControlManager
import MPQuic.StreamFrameSorter

/-!
# Streams

`stream.go`: the two halves of a stream. The flow control manager belongs to the session,
so calls that use it take it and return it.

A call that waits on a channel has not changed the stream, apart from the buffered data of
`Write`. Waiting is an outcome of its own here, and waking up is calling again.
-/

namespace MPQuic

/-- The errors of a stream. -/
inductive StreamError where
  /-- `io.EOF` -/
  | eof
  | errDeadline
  /-- the error that the stream was cancelled or reset with -/
  | closed (reason : String)
  /-- "write on closed stream %d" -/
  | writeOnClosedStream (streamID : Nat)
  /-- "BUG: readPosInFrame (%d) > frame.DataLen (%d) in stream.Read" -/
  | readPosInFrameTooLarge (readPosInFrame dataLen : Int)
  | flowControl (err : FlowError)
  | sorter (err : SorterError)
  deriving DecidableEq, Repr

/-- Both halves of a stream. -/
structure Stream where
  streamID : Nat
  readPosInFrame : Int := 0
  writeOffset : Nat := 0
  readOffset : Nat := 0
  err : Option StreamError := none
  cancelled : Bool := false
  /-- a frame with the fin bit was read -/
  finishedReading : Bool := false
  /-- `Close` was called -/
  finishedWriting : Bool := false
  resetLocally : Bool := false
  resetRemotely : Bool := false
  frameQueue : StreamFrameSorter := newStreamFrameSorter
  /-- `none` is the zero time -/
  readDeadline : Option Int := none
  /-- `none` is a nil slice -/
  dataForWriting : Option (List UInt8) := none
  finSent : Bool := false
  rstSent : Bool := false
  unreliableMarker : Bool := false

/-- `unreliable` is the mark of the stream in the streams map. -/
def newStreamType (streamID : Nat) (unreliable : Bool) : Stream where
  streamID
  frameQueue := { newStreamFrameSorter with unreliableMarker := unreliable }
  unreliableMarker := unreliable

namespace Stream

variable {s : Stream} {flow : FlowControlManager} {Keeps : Stream → FlowControlManager → Prop}

/-! ## Reading -/

/-- The conversion from `uint64` to `int`. -/
def intOfUint64 (n : Nat) : Int := if n < 2 ^ 63 then n else (n : Int) - 2 ^ 64

/-- How a call of `Read` ends. -/
inductive ReadOutcome where
  | returned (data : List UInt8) (err : Option StreamError)
  /-- nothing was read, and there is nothing to read yet -/
  | waits
  /-- the rounds that the model allows were used up -/
  | outOfFuel
  deriving DecidableEq, Repr

/-- What a call of `Read` leaves and returns. -/
structure ReadResult where
  stream : Stream
  flow : FlowControlManager
  outcome : ReadOutcome

/-- Copy from the frame at the head of the queue into a buffer with `room` bytes left. A
frame that was read to its end is taken from the queue. -/
def readFrame (s : Stream) (flow : FlowControlManager) (env : FlowEnv) (frame : StreamFrame)
    (room : Nat) : Except RuntimePanic (Stream × FlowControlManager × List UInt8) :=
  if s.readPosInFrame < 0 then .error .indexOutOfRange
  else
    let unread := frame.data.drop s.readPosInFrame.toNat
    let m := min room unread.length
    let s := { s with
      readPosInFrame := s.readPosInFrame + m
      readOffset := addUint64 s.readOffset m }
    -- after a RST_STREAM the final offset is known already
    let flow := if s.resetRemotely then flow else flow.addBytesRead env s.streamID m
    if s.readPosInFrame ≥ (frame.dataLen : Int) then
      (s.frameQueue.pop env.now).map fun popped =>
        ({ s with
          frameQueue := popped.1
          finishedReading := s.finishedReading || frame.finBit }, flow, unread.take m)
    else .ok (s, flow, unread.take m)

/-- What was copied moved the position; a frame that was read to its end is gone. -/
theorem readFrame_cases {s s' : Stream} {flow flow' : FlowControlManager} {env : FlowEnv}
    {frame : StreamFrame} {room : Nat} {data : List UInt8}
    (read : s.readFrame flow env frame room = .ok (s', flow', data)) :
    0 ≤ s.readPosInFrame ∧
      flow' = (if s.resetRemotely then flow
        else flow.addBytesRead env s.streamID
          (min room (frame.data.drop s.readPosInFrame.toNat).length)) ∧
      let moved := { s with
        readPosInFrame :=
          s.readPosInFrame + ↑(min room (frame.data.drop s.readPosInFrame.toNat).length)
        readOffset :=
          addUint64 s.readOffset (min room (frame.data.drop s.readPosInFrame.toNat).length) }
      (s' = moved ∨ (frame.dataLen : Int) ≤ moved.readPosInFrame ∧
        ∃ popped, s.frameQueue.pop env.now = .ok popped ∧ s' =
          { moved with
            frameQueue := popped.1
            finishedReading := s.finishedReading || frame.finBit }) := by
  unfold readFrame at read
  split at read
  · cases read
  · rename_i nonneg
    refine ⟨Int.not_lt.mp nonneg, ?_⟩
    simp only at read
    split at read
    · rename_i ends
      cases popped : s.frameQueue.pop env.now with
      | error panic =>
        rw [popped] at read
        cases read
      | ok result =>
        rw [popped] at read
        cases read
        exact ⟨rfl, Or.inr ⟨ends, result, rfl, rfl⟩⟩
    · cases read
      exact ⟨rfl, Or.inl rfl⟩

/-- The loop of `Read`. `clock` gives the time and the round-trip times in each round. -/
def readLoop (clock : Nat → FlowEnv) (length : Nat) :
    (fuel : Nat) → Stream → FlowControlManager → (bytesRead : List UInt8) →
      Except RuntimePanic ReadResult
  | 0, s, flow, _ => .ok { stream := s, flow, outcome := .outOfFuel }
  | fuel + 1, s, flow, bytesRead =>
    if bytesRead.length ≥ length then
      .ok { stream := s, flow, outcome := .returned bytesRead none }
    else
      let env := clock fuel
      match s.frameQueue.head env.now with
      | .error panic => .error panic
      | .ok headed =>
        let s := { s with frameQueue := headed.1 }
        if headed.2 = none ∧ bytesRead ≠ [] then
          .ok { stream := s, flow, outcome := .returned bytesRead s.err }
        else if s.readDeadline.any (· ≤ env.now) then
          .ok { stream := s, flow, outcome := .returned bytesRead (some .errDeadline) }
        else
          match headed.2 with
          | none => .ok { stream := s, flow, outcome := .waits }
          | some frame =>
            let s := { s with
              readPosInFrame := intOfUint64 (subUint64 s.readOffset frame.offset) }
            if s.readPosInFrame > (frame.dataLen : Int) then
              .ok {
                stream := s, flow
                outcome := .returned bytesRead
                  (some (.readPosInFrameTooLarge s.readPosInFrame frame.dataLen)) }
            else
              match s.readFrame flow env frame (length - bytesRead.length) with
              | .error panic => .error panic
              | .ok (s, flow, copied) =>
                if s.finishedReading then
                  .ok { stream := s, flow,
                        outcome := .returned (bytesRead ++ copied) (some .eof) }
                else readLoop clock length fuel s flow (bytesRead ++ copied)

/-- What each part of a round keeps, `Read` keeps: asking the queue for its head, finding the
position in the frame, and copying from the frame. -/
structure ReadKeeps (Keeps : Stream → FlowControlManager → Prop) : Prop where
  headed : ∀ {s : Stream} {flow : FlowControlManager} {now : Int} {queue : StreamFrameSorter}
    {frame : Option StreamFrame}, Keeps s flow → s.frameQueue.head now = .ok (queue, frame) →
    Keeps { s with frameQueue := queue } flow
  placed : ∀ {s : Stream} {flow : FlowControlManager} (pos : Int), Keeps s flow →
    Keeps { s with readPosInFrame := pos } flow
  copied : ∀ {s s' : Stream} {flow flow' : FlowControlManager} {env : FlowEnv}
    {frame : StreamFrame} {room : Nat} {data : List UInt8}, Keeps s flow →
    s.finishedReading = false →
    (∃ queue : StreamFrameSorter, queue.head env.now = .ok (s.frameQueue, some frame)) →
    s.readPosInFrame = intOfUint64 (subUint64 s.readOffset frame.offset) →
    s.readPosInFrame ≤ (frame.dataLen : Int) →
    s.readFrame flow env frame room = .ok (s', flow', data) → Keeps s' flow'

theorem ReadKeeps.readLoop (rounds : ReadKeeps Keeps) (clock : Nat → FlowEnv) (length : Nat) :
    ∀ (fuel : Nat) {s : Stream} {flow : FlowControlManager} {bytesRead : List UInt8}
      {r : ReadResult}, Keeps s flow → s.finishedReading = false →
      readLoop clock length fuel s flow bytesRead = .ok r → Keeps r.stream r.flow := by
  intro fuel
  induction fuel with
  | zero =>
    intro s flow bytesRead r keeps unfinished loop
    cases loop
    exact keeps
  | succ fuel ih =>
    intro s flow bytesRead r keeps unfinished loop
    simp only [Stream.readLoop] at loop
    split at loop
    · cases loop
      exact keeps
    · split at loop
      · cases loop
      · rename_i headed head
        have keeps' := rounds.headed keeps head
        split at loop
        · cases loop
          exact keeps'
        · split at loop
          · cases loop
            exact keeps'
          · split at loop
            · cases loop
              exact keeps'
            · rename_i frame isFrame
              split at loop
              · cases loop
                exact rounds.placed _ keeps'
              · rename_i inside
                split at loop
                · cases loop
                · -- a round that copied something
                  rename_i s' flow' data frameRead
                  have source : s.frameQueue.head (clock fuel).now =
                      .ok (headed.1, some frame) := by
                    rw [head, ← isFrame]
                  have keeps'' := rounds.copied (rounds.placed _ keeps') unfinished ⟨_, source⟩
                    rfl (Int.not_lt.mp inside) frameRead
                  split at loop
                  · cases loop
                    exact keeps''
                  · rename_i unfinished'
                    exact ih keeps'' (Bool.not_eq_true _ ▸ unfinished') loop

/-- Each round takes a frame from the queue or copies a byte. -/
def readFuel (s : Stream) (length : Nat) : Nat :=
  length + s.frameQueue.queuedFrames.entries.length + 2

/-- The source looks for a reset in every round; here no other call comes in between. -/
def read (s : Stream) (flow : FlowControlManager) (clock : Nat → FlowEnv) (length : Nat) :
    Except RuntimePanic ReadResult :=
  if s.cancelled || s.resetLocally then
    .ok { stream := s, flow, outcome := .returned [] s.err }
  else if s.finishedReading then .ok { stream := s, flow, outcome := .returned [] (some .eof) }
  else readLoop clock length (s.readFuel length) s flow []

theorem ReadKeeps.read (rounds : ReadKeeps Keeps) {clock : Nat → FlowEnv} {length : Nat}
    {r : ReadResult} (keeps : Keeps s flow) (read : s.read flow clock length = .ok r) :
    Keeps r.stream r.flow := by
  unfold Stream.read at read
  split at read
  · cases read
    exact keeps
  · split at read
    · cases read
      exact keeps
    · rename_i unfinished
      exact rounds.readLoop clock length _ keeps (Bool.not_eq_true _ ▸ unfinished) read

variable (s)

/-- The stream, the flow control manager and the error that is returned. -/
def addStreamFrame (flow : FlowControlManager) (frame : StreamFrame)
    (timeStamp : Int) : Stream × FlowControlManager × Option StreamError :=
  let maxOffset := addUint64 frame.offset frame.dataLen
  let updated := flow.updateHighestReceived s.streamID maxOffset
  match updated.2 with
  | some err => (s, updated.1, some (.flowControl err))
  | none =>
    let pushed := s.frameQueue.push frame true timeStamp
    let s := { s with frameQueue := pushed.1 }
    match pushed.2 with
    | none => (s, updated.1, none)
    | some err =>
      -- on an unreliable stream every error of the sorter is ignored
      if s.unreliableMarker ∨ err = .errDuplicateStreamData then (s, updated.1, none)
      else (s, updated.1, some (.sorter err))

/-! ## Writing -/

/-- `lenOfDataForWriting`; a stream that failed has nothing to send. -/
def lenOfDataForWriting : Nat :=
  if s.err = none then (s.dataForWriting.getD []).length else 0

/-- The stream and the data, `none` for nil. -/
def getDataForWriting (maxBytes : Nat) : Stream × Option (List UInt8) :=
  match s.err, s.dataForWriting with
  | none, some data =>
    if data.length > maxBytes then
      ({ s with
        dataForWriting := some (data.drop maxBytes)
        writeOffset := addUint64 s.writeOffset maxBytes }, some (data.take maxBytes))
    else
      ({ s with
        dataForWriting := none
        writeOffset := addUint64 s.writeOffset data.length }, some data)
  | _, _ => (s, none)

/-- The first part of `Write`, until it waits for the data to be sent: the stream, and the
error if the data is not accepted. -/
def write (p : List UInt8) : Stream × Option StreamError :=
  if s.resetLocally ∨ s.err ≠ none then (s, s.err)
  else if s.finishedWriting then (s, some (.writeOnClosedStream s.streamID))
  else if p = [] then (s, none)
  else ({ s with dataForWriting := some p }, none)

def close : Stream := { s with finishedWriting := true }

/-- `shouldSendFin`: all data was taken. -/
def shouldSendFin : Bool :=
  s.finishedWriting && !s.finSent && s.err = none && s.dataForWriting = none

def sentFin : Stream := { s with finSent := true }

def finishedWriteAndSentFin : Bool := s.finishedWriting && s.finSent

def shouldSendReset : Bool :=
  !s.rstSent && (s.resetLocally || s.resetRemotely) && !s.finishedWriteAndSentFin

/-- An error is never changed once it is set. -/
def setErr (err : StreamError) : Stream :=
  { s with err := some (s.err.getD err) }

/-- `Cancel`: the session ends. -/
def cancel (err : StreamError) : Stream :=
  { s with cancelled := true }.setErr err

/-- The stream, and the offset of the RST_STREAM frame if one is sent. -/
def sendReset : Stream × Option Nat :=
  if s.shouldSendReset then ({ s with rstSent := true }, some s.writeOffset) else (s, none)

/-- `Reset` and the offset of the RST_STREAM frame that is queued. -/
def reset (err : StreamError) : Stream × Option Nat :=
  if s.resetLocally then (s, none)
  else ({ s with resetLocally := true }.setErr err).sendReset

/-- `RegisterRemoteError`: the peer has reset the stream. -/
def registerRemoteError (err : StreamError) : Stream × Option Nat :=
  if s.resetRemotely then (s, none)
  else ({ s with resetRemotely := true }.setErr err).sendReset

/-- `finished`: both halves are done. -/
def finished : Bool :=
  s.cancelled || (s.finishedReading && s.finishedWriteAndSentFin) ||
    (s.resetRemotely && s.rstSent) || (s.finishedReading && s.rstSent) ||
    (s.finishedWriteAndSentFin && s.resetRemotely)

variable {s}

end Stream

end MPQuic
