import MPQuic.Wire.StreamFrame
import Mathlib.Data.List.AList

/-!
# The stream frame sorter

`stream_frame_sorter.go`: the frames of a stream that were received and not read yet, and
the gaps between them. A new frame is cut so that it starts and ends in a gap; frames in
between that it covers are dropped, but only the first one behind each gap.

The reader of an unreliable stream does not wait for a gap to be filled: once frames
arrived for 70 ms behind it, the gap is filled with zeros.
-/

namespace MPQuic

/-- Why a frame is not queued. -/
inductive SorterError where
  | errTooManyGapsInReceivedStreamData
  | errDuplicateStreamData
  | errEmptyStreamData
  /-- "StreamFrameSorter BUG: no gap found" -/
  | noGapFound
  /-- "StreamFrameSorter BUG: no end gap found" -/
  | noEndGapFound
  deriving DecidableEq, Repr

/-- `utils.ByteInterval`; the last byte is the one before `stop`. -/
structure ByteInterval where
  start : Nat
  stop : Nat
  deriving DecidableEq, Repr

/-- The frames that were not read yet, and the gaps between them. -/
structure StreamFrameSorter where
  queuedFrames : AList fun _ : Nat => StreamFrame := ∅
  maxOffset : Nat := 0
  queuedTime : AList fun _ : Nat => Int := ∅
  sortedOffset : List Nat := []
  cnt : Nat := 0
  cntZero : Nat := 0
  readPosition : Nat := 0
  gaps : List ByteInterval := [{ start := 0, stop := maxByteCount }]
  unreliableMarker : Bool := false

def newStreamFrameSorter : StreamFrameSorter := {}

/-! ## Gaps -/

/-- The outcome of the search for the gap in which a frame starts. -/
inductive GapSearch where
  | duplicate
  | noGap
  | found (before : List ByteInterval) (gap : ByteInterval) (after : List ByteInterval)

/-- Skip all gaps before the frame. -/
def findGap (start stop : Nat) (before : List ByteInterval) : List ByteInterval → GapSearch
  | [] => .noGap
  | gap :: after =>
    if stop ≤ gap.start then .duplicate
    else if start ≤ gap.stop then .found before gap after
    else findGap start stop (before ++ [gap]) after

/-- The outcome of the search for the gap in which a frame ends. -/
structure EndGap where
  endGap : ByteInterval
  /-- it is not the gap in which the frame starts -/
  moved : Bool
  /-- it was taken out of the list -/
  removed : Bool
  rest : List ByteInterval
  queuedFrames : AList fun _ : Nat => StreamFrame
  found : Bool

/-- The end gap itself, if it is an element of the list of its own. -/
def EndGap.element (e : EndGap) : List ByteInterval :=
  if e.moved && !e.removed then [e.endGap] else []

/-- Find the highest gap that starts before the end of the frame. The gaps on the way are
removed, and so is the frame right behind each of them. -/
def findEndGap (stop : Nat) (moved : Bool) (endGap : ByteInterval) :
    (after : List ByteInterval) → (queuedFrames : AList fun _ : Nat => StreamFrame) → EndGap
  | [], queuedFrames =>
    { endGap, moved, removed := false, rest := [], queuedFrames,
      found := stop < endGap.stop }
  | next :: after, queuedFrames =>
    if stop < endGap.stop then
      { endGap, moved, removed := false, rest := next :: after, queuedFrames, found := true }
    else if stop ≤ next.start then
      { endGap, moved, removed := moved, rest := next :: after, queuedFrames, found := true }
    else findEndGap stop true next after (queuedFrames.erase endGap.stop)

/-- The gaps once the bytes from `start` to `stop` are filled. -/
def fillGaps (before : List ByteInterval) (gap : ByteInterval) (e : EndGap) (start stop : Nat) :
    List ByteInterval :=
  if start = gap.start then
    let endGap := if stop < e.endGap.stop then { e.endGap with start := stop } else e.endGap
    if e.moved then
      before ++ (if stop ≥ gap.stop then [] else [gap]) ++
        (if e.removed then [] else [endGap]) ++ e.rest
    else before ++ (if stop ≥ gap.stop then [] else [endGap]) ++ e.rest
  else if stop = e.endGap.stop then
    before ++ { gap with stop := start } :: e.element ++ e.rest
  else if e.moved then
    before ++ { gap with stop := start } ::
      (if e.removed then [] else [{ e.endGap with start := stop }]) ++ e.rest
  else before ++ { gap with stop := start } :: { start := stop, stop := gap.stop } :: e.rest

namespace StreamFrameSorter

/-! ## Receiving frames -/

variable (s : StreamFrameSorter) (frame : StreamFrame)

/-- Drop what a frame at the same offset already holds; `none` if that is everything. -/
def cutQueued : Option StreamFrame :=
  match s.queuedFrames.lookup frame.offset with
  | none => some frame
  | some oldFrame =>
    if frame.dataLen ≤ oldFrame.dataLen then none
    else some { frame with
      data := frame.data.drop oldFrame.dataLen
      offset := addUint64 frame.offset oldFrame.dataLen }

def enqueue (flag : Bool) (timeStamp : Int) : StreamFrameSorter :=
  let s := { s with
    queuedFrames := s.queuedFrames.insert frame.offset frame
    cnt := addUint64 s.cnt frame.dataLen }
  if flag && frame.offset ≥ s.maxOffset then
    { s with
      maxOffset := frame.offset
      sortedOffset := s.sortedOffset ++ [frame.offset]
      queuedTime := s.queuedTime.insert frame.offset timeStamp }
  else s

/-- Push a frame that starts in the given gap, or before it. -/
def pushIntoGap (flag : Bool) (timeStamp : Int)
    (before : List ByteInterval) (gap : ByteInterval) (after : List ByteInterval) :
    StreamFrameSorter × Option SorterError :=
  let stop := addUint64 frame.offset frame.dataLen
  let frame :=
    if frame.offset < gap.start then
      { frame with
        offset := gap.start
        data := frame.data.drop (gap.start - frame.offset) }
    else frame
  let e := findEndGap stop false gap after s.queuedFrames
  if !e.found then
    ({ s with gaps := before ++ gap :: e.element, queuedFrames := e.queuedFrames },
      some .noEndGapFound)
  else
    -- the fin bit stays when the end of the frame is cut off
    let frame :=
      if stop > e.endGap.stop then
        { frame with data := frame.data.take (frame.dataLen - (stop - e.endGap.stop)) }
      else frame
    let stop := min stop e.endGap.stop
    let s := { s with
      gaps := fillGaps before gap e frame.offset stop
      queuedFrames := e.queuedFrames }
    if s.gaps.length > maxStreamFrameSorterGaps then
      (s, some .errTooManyGapsInReceivedStreamData)
    else (s.enqueue frame flag timeStamp, none)

/-- `flag` is not set for the zeros that fill a gap. -/
def push (flag : Bool) (timeStamp : Int) : StreamFrameSorter × Option SorterError :=
  if frame.dataLen = 0 then
    if frame.finBit then
      ({ s with queuedFrames := s.queuedFrames.insert frame.offset frame }, none)
    else (s, some .errEmptyStreamData)
  else
    match s.cutQueued frame with
    | none => (s, some .errDuplicateStreamData)
    | some frame =>
      match findGap frame.offset (addUint64 frame.offset frame.dataLen) [] s.gaps with
      | .duplicate => (s, some .errDuplicateStreamData)
      | .noGap => (s, some .noGapFound)
      | .found before gap after => s.pushIntoGap frame flag timeStamp before gap after

/-! ## Reading frames -/

/-- The zero `time.Time`, in nanoseconds since 1970. -/
def zeroTime : Int := -62135596800000000000

/-- `time.Time.Sub`, which stays within an `int64`. -/
def timeSub (t u : Int) : Int := max (-2 ^ 63) (min (2 ^ 63 - 1) (t - u))

def queuedTimeAt (offset : Nat) : Int :=
  (s.queuedTime.lookup offset).getD zeroTime

/-- The time over which the frames that wait arrived, if there are at least two of them. -/
def queuedSpan : Option Int :=
  match s.sortedOffset with
  | first :: second :: more =>
    some (timeSub (s.queuedTimeAt ((second :: more).getLast (List.cons_ne_nil _ _)))
      (s.queuedTimeAt first))
  | _ => none

/-- 70 ms, in nanoseconds -/
def lenTime : Int := 70000000

/-- The largest allocation that `make` admits. -/
def maxAlloc : Nat := 2 ^ 48

/-- Fill the first gap with zeros. -/
def padFirstGap (timeStamp : Int) : Except RuntimePanic StreamFrameSorter :=
  match s.gaps with
  | [] => .error .nilDereference
  | elem :: _ =>
    -- the gap ends before `stop`, so this is one byte more than the gap has
    let size := addUint64 (subUint64 elem.stop elem.start) 1
    if size > maxAlloc then .error .makeslice
    else
      let res : StreamFrame :=
        { streamID := 0, offset := elem.start, data := List.replicate size 0 }
      .ok ({ s with cntZero := addUint64 s.cntZero size }.push res false timeStamp).1

/-- `Head`: the frame at the read position, or padding for it. -/
def head (timeStamp : Int) : Except RuntimePanic (StreamFrameSorter × Option StreamFrame) :=
  match s.queuedFrames.lookup s.readPosition with
  | some frame => .ok (s, some frame)
  | none =>
    if s.unreliableMarker then
      match s.queuedSpan with
      | none => .ok (s, none)
      | some span =>
        if span ≤ lenTime then .ok (s, none)
        else (s.padFirstGap timeStamp).map fun padded =>
          (padded, padded.queuedFrames.lookup padded.readPosition)
    else .ok (s, none)

/-- The state once the frame at the head was taken out. -/
def dequeue : StreamFrameSorter :=
  let s := { s with
    readPosition := addUint64 s.readPosition frame.dataLen
    cnt := subUint64 s.cnt frame.dataLen
    queuedFrames := s.queuedFrames.erase frame.offset }
  match s.sortedOffset with
  | [] => s
  | first :: more =>
    if first = frame.offset then
      { s with queuedTime := s.queuedTime.erase first, sortedOffset := more }
    else s

/-- `Pop`: take the frame at the read position. -/
def pop (timeStamp : Int) : Except RuntimePanic (StreamFrameSorter × Option StreamFrame) :=
  (s.head timeStamp).map fun result =>
    match result.2 with
    | none => result
    | some frame => (result.1.dequeue frame, some frame)

end StreamFrameSorter

end MPQuic
