import MPQuic.StreamsMap
import MPQuic.Wire.Frame

/-!
# The stream framer

`stream_framer.go`: the STREAM frames that go into a packet. First come the frames that wait
for their retransmission, then new data of the open streams as far as there is room.

New data is collected by one closure that the round robin calls for every stream. The closure
keeps a pointer `frame` to the frame that it fills next. When a frame is appended to the result
the pointer moves on to a new frame, except if that frame filled the room exactly. So the
pointer either stands at a frame of its own or at the last frame of the result, and in the
second case a write through it changes the result (`CurrentFrame`, `PopState.updateFrame`).

Byte counts of one packet are far below the width of the machine word and are not reduced.
-/

namespace MPQuic

/-- The queues that other parts of the session fill. The queues for ADD_ADDRESS and CLOSE_PATH
frames take no part here. -/
structure StreamFramer where
  retransmissionQueue : List StreamFrame := []
  blockedFrameQueue : List BlockedFrame := []
  pathsFrame : Option PathsFrame := none

namespace StreamFramer

variable (f : StreamFramer)

def addFrameForRetransmission (frame : StreamFrame) : StreamFramer :=
  { f with retransmissionQueue := f.retransmissionQueue ++ [frame] }

def hasFramesForRetransmission : Bool := 0 < f.retransmissionQueue.length

def popBlockedFrame : StreamFramer × Option BlockedFrame :=
  match f.blockedFrameQueue with
  | [] => (f, none)
  | frame :: queue => ({ f with blockedFrameQueue := queue }, some frame)

/-! ## Retransmissions -/

/-- The first `n` bytes as a frame of their own and the rest; nothing if all bytes fit. -/
def maybeSplitOffFrame (frame : StreamFrame) (n : Nat) : Option (StreamFrame × StreamFrame) :=
  if n ≥ frame.dataLen then none
  else some ({ frame with finBit := false, data := frame.data.take n },
    { frame with data := frame.data.drop n, offset := addUint64 frame.offset n })

/-- What the loop over the retransmission queue leaves. -/
structure RetransmissionPop where
  queue : List StreamFrame
  flow : FlowControlManager
  res : List StreamFrame
  currentLen : Nat

/-- The loop over the queue. The frame at the head of the queue is changed in place. -/
def popRetransmissionLoop (maxLen : Nat) :
    List StreamFrame → FlowControlManager → List StreamFrame → Nat → RetransmissionPop
  | [], flow, res, currentLen => { queue := [], flow, res, currentLen }
  | frame :: queue, flow, res, currentLen =>
    let frame := { frame with dataLenPresent := true }
    if currentLen + frame.minLength ≥ maxLen then
      { queue := frame :: queue, flow, res, currentLen }
    else
      let currentLen := currentLen + frame.minLength
      match maybeSplitOffFrame frame (maxLen - currentLen) with
      | some (splitFrame, rest) =>
        { queue := rest :: queue
          flow := flow.addBytesRetrans splitFrame.streamID splitFrame.dataLen
          res := res ++ [splitFrame]
          currentLen := currentLen + splitFrame.dataLen }
      | none =>
        popRetransmissionLoop maxLen queue (flow.addBytesRetrans frame.streamID frame.dataLen)
          (res ++ [frame]) (currentLen + frame.dataLen)

def maybePopFramesForRetransmission (flow : FlowControlManager)
    (maxLen : Nat) : StreamFramer × RetransmissionPop :=
  let popped := popRetransmissionLoop maxLen f.retransmissionQueue flow [] 0
  ({ f with retransmissionQueue := popped.queue }, popped)

/-! ## New data -/

/-- Where the pointer of the closure stands. -/
inductive CurrentFrame where
  | fresh (frame : StreamFrame)
  /-- at the last frame of the result -/
  | lastOfResult
  deriving DecidableEq, Repr

/-- The variables that the closure captures, and what it changes in the framer. -/
structure PopState where
  flow : FlowControlManager
  blockedFrameQueue : List BlockedFrame
  frame : CurrentFrame
  res : List StreamFrame
  currentLen : Nat
  /-- a copy of each frame from the time when it was appended; the source has no such list -/
  appended : List StreamFrame

def newFrame : StreamFrame := { streamID := 0, dataLenPresent := true }

namespace PopState

variable (st : PopState)

/-- Write through the pointer. -/
def updateFrame (change : StreamFrame → StreamFrame) : PopState :=
  match st.frame with
  | .fresh frame => { st with frame := .fresh (change frame) }
  | .lastOfResult =>
    { st with res := st.res.dropLast ++ (st.res.getLast?.map change).toList }

/-- Read through the pointer. -/
def current : StreamFrame :=
  match st.frame with
  | .fresh frame => frame
  | .lastOfResult => st.res.getLast?.getD newFrame

/-- BLOCKED frames tell the peer that a window is used up. -/
def queueBlocked (streamID sendWindowSize : Nat) : PopState :=
  if st.flow.remainingConnectionWindowSize = 0 then
    { st with blockedFrameQueue := st.blockedFrameQueue ++ [{ streamID := 0 }] }
  else if st.current.finBit = false ∧ subUint64 sendWindowSize st.current.dataLen = 0 then
    { st with blockedFrameQueue := st.blockedFrameQueue ++ [{ streamID }] }
  else st

/-- Append the frame. It is not replaced by a new one if the room is used up exactly. -/
def appendFrame (maxBytes frameHeaderBytes : Nat) : PopState :=
  let currentLen := st.currentLen + (frameHeaderBytes + st.current.dataLen)
  { st with
    res := st.res ++ [st.current]
    appended := st.appended ++ [st.current]
    currentLen
    frame := if currentLen = maxBytes then .lastOfResult else .fresh newFrame }

/-- The end of the closure, for a stream that has data or its end to send. -/
def sendFrame (mark : Option Bool) (maxBytes frameHeaderBytes : Nat)
    (sendWindowSize : Nat) (s : Stream) (data : Option (List UInt8)) :
    StreamsMap.LambdaResult PopState :=
  let fin := s.shouldSendFin
  let s := if fin then s.sentFin else s
  let st := st.updateFrame fun frame =>
    { frame with finBit := frame.finBit || fin, data := data.getD [] }
  let st := { st with flow := st.flow.addBytesSent s.streamID (data.getD []).length }
  let st := st.queueBlocked s.streamID sendWindowSize
  let st := st.updateFrame fun frame =>
    { frame with unreliableMarker := mark.getD frame.unreliableMarker }
  let st := st.appendFrame maxBytes frameHeaderBytes
  { state := st, stream := s, cont := st.currentLen ≠ maxBytes }

/-- The middle of the closure, for a stream whose header fits: ask for data as far as the room
and the windows allow. The window is only looked up for a stream with buffered data. -/
def fillFrame (mark : Option Bool) (maxBytes frameHeaderBytes : Nat)
    (s : Stream) : StreamsMap.LambdaResult PopState :=
  let room := maxBytes - st.currentLen - frameHeaderBytes
  let lenStreamData := s.lenOfDataForWriting
  let sendWindowSize :=
    if lenStreamData ≠ 0 then (st.flow.sendWindowSize s.streamID).getD 0 else 0
  let maxLen := if lenStreamData ≠ 0 then min room sendWindowSize else room
  if maxLen = 0 then { state := st, stream := s, cont := true }
  else
    let popped := if lenStreamData ≠ 0 then s.getDataForWriting maxLen else (s, none)
    if popped.2 = none ∧ popped.1.shouldSendFin = false then
      { state := st, stream := popped.1, cont := true }
    else st.sendFrame mark maxBytes frameHeaderBytes sendWindowSize popped.1 popped.2

end PopState

/-- The closure of `maybePopNormalFrames`. The crypto stream is handled separately. -/
def popFromStream (marks : AList fun _ : Nat => Bool) (maxBytes : Nat) (st : PopState)
    (s : Stream) : StreamsMap.LambdaResult PopState :=
  if s.streamID = 1 then { state := st, stream := s, cont := true }
  else
    let st := st.updateFrame fun frame =>
      { frame with streamID := s.streamID, offset := s.writeOffset }
    let frameHeaderBytes := st.current.minLength
    if st.currentLen + frameHeaderBytes > maxBytes then { state := st, stream := s, cont := false }
    else st.fillFrame (marks.lookup s.streamID) maxBytes frameHeaderBytes s

/-- What `maybePopNormalFrames` leaves and returns. -/
structure NormalPop where
  map : StreamsMap
  flow : FlowControlManager
  framer : StreamFramer
  res : List StreamFrame
  /-- the frames as they were appended -/
  appended : List StreamFrame

/-- The variables of the closure at the start. -/
def initialPopState (flow : FlowControlManager) : PopState where
  flow
  blockedFrameQueue := f.blockedFrameQueue
  frame := .fresh newFrame
  res := []
  currentLen := 0
  appended := []

/-- `sendingAllowed` is what the path's sent packet handler says. An error of the iteration is
ignored. -/
def maybePopNormalFrames (m : StreamsMap) (flow : FlowControlManager)
    (maxBytes : Nat) (sendingAllowed : Bool) : NormalPop :=
  let visit := m.roundRobinIterate2 (popFromStream m.unreliableStreamMark maxBytes)
    sendingAllowed (initialPopState f flow)
  { map := visit.map
    flow := visit.state.flow
    framer := { f with blockedFrameQueue := visit.state.blockedFrameQueue }
    res := visit.state.res
    appended := visit.state.appended }

/-- The new frames, and all frames that are returned. -/
def popStreamFrames2 (m : StreamsMap) (flow : FlowControlManager)
    (maxLen : Nat) (sendingAllowed : Bool) : NormalPop × List StreamFrame :=
  let retransmissions := f.maybePopFramesForRetransmission flow maxLen
  let popped := retransmissions.1.maybePopNormalFrames m retransmissions.2.flow
    (maxLen - retransmissions.2.currentLen) sendingAllowed
  (popped, retransmissions.2.res ++ popped.res)

/-! ## The crypto stream -/

structure CryptoPop where
  map : StreamsMap
  flow : FlowControlManager
  frame : Option StreamFrame

/-- The crypto stream is opened if it was not yet, which takes one round of the loop. After it was
removed the source dereferences a nil pointer. -/
def cryptoStream (m : StreamsMap) (flow : FlowControlManager) :
    Except RuntimePanic (StreamsMap × FlowControlManager × Stream) :=
  match m.getOrOpenStream flow 1 2 with
  | some { map, flow, outcome := .ok (some s) } => .ok (map, flow, s)
  | _ => .error .nilDereference

def popCryptoStreamFrame (m : StreamsMap) (flow : FlowControlManager) (maxLen : Nat) :
    Except RuntimePanic CryptoPop :=
  match cryptoStream m flow with
  | .error err => .error err
  | .ok (m, flow, cs) =>
    if cs.lenOfDataForWriting = 0 then .ok { map := m, flow, frame := none }
    else
      let frame : StreamFrame := { streamID := 1, offset := cs.writeOffset }
      let popped := cs.getDataForWriting (subUint64 maxLen frame.minLength)
      .ok
        { map := m.setStream 1 popped.1
          flow
          frame := some { frame with data := popped.2.getD [] } }

theorem getOrOpenStream_of_cryptoStream {m m' : StreamsMap} {flow flow' : FlowControlManager}
    {cs : Stream} (opened : cryptoStream m flow = .ok (m', flow', cs)) :
    m.getOrOpenStream flow 1 2 =
      some { map := m', flow := flow', outcome := .ok (some cs) } := by
  unfold cryptoStream at opened
  split at opened
  · rename_i call
    cases opened
    exact call
  · cases opened

/-- The crypto stream is open afterwards, and a frame takes data from it. -/
theorem popCryptoStreamFrame_cases {m : StreamsMap} {flow : FlowControlManager} {maxLen : Nat}
    {popped : CryptoPop} (call : popCryptoStreamFrame m flow maxLen = .ok popped) :
    ∃ m' flow' cs, cryptoStream m flow = .ok (m', flow', cs) ∧
      (popped = { map := m', flow := flow', frame := none } ∨
        ∃ empty data, empty = ({ streamID := 1, offset := cs.writeOffset } : StreamFrame) ∧
          data = cs.getDataForWriting (subUint64 maxLen empty.minLength) ∧
          cs.lenOfDataForWriting ≠ 0 ∧
          popped =
            { map := m'.setStream 1 data.1
              flow := flow'
              frame := some { empty with data := data.2.getD [] } }) := by
  unfold popCryptoStreamFrame at call
  split at call
  · cases call
  · rename_i m' flow' cs opened
    refine ⟨m', flow', cs, opened, ?_⟩
    split at call
    · cases call
      exact .inl rfl
    · rename_i pending
      cases call
      exact .inr ⟨_, _, rfl, rfl, pending, rfl⟩

end StreamFramer

end MPQuic
