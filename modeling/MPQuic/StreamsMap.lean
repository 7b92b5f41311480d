import MPQuic.Lib.MapSum
import MPQuic.Stream

/-!
# The streams map

`streams_map.go`: the open streams of a session, the order in which they were opened, and the
round robin that offers them room in a packet. The map counts the streams of each direction,
and it marks the streams that were opened with a type.

The slice `openStreams` lists the keys of the map `streams`. This is a field of the
structure, so that the index arithmetic of the round robin stays inside the slice. Stream IDs
and counters are unsigned 32-bit words; the round-robin indices are below the number of streams
at the time they were set, and adding to them does not wrap around.

Locks and condition variables are left out: one call is one step, and a call that would wait
says so.
-/

namespace MPQuic

/-- The errors of the map. -/
inductive StreamsMapError where
  /-- "streamsMap: Error accessing the streams map" -/
  | errMapAccess
  | tooManyOpenStreams
  /-- "attempted to open stream %d from client-side", or from server-side -/
  | openedFromSide (streamID : Nat) (side : Perspective)
  /-- "attempted to open stream %d, which is a lot smaller than the highest opened stream, %d" -/
  | lotSmaller (streamID highest : Nat)
  /-- "attempted to remove non-existing stream: %d" -/
  | nonExistingStream (streamID : Nat)
  /-- "a stream with ID %d already exists", for a stream that does not exist -/
  | unknownStreamType (streamID : Nat)
  /-- the error that the map was closed with -/
  | closed (err : StreamError)
  deriving DecidableEq, Repr

/-- The open streams of a session. -/
structure StreamsMap where
  perspective : Perspective
  streams : AList fun _ : Nat => Stream
  openStreams : List Nat
  roundRobinIndex : Nat
  unreliableRobinIndex : Nat
  unreliableStreamMark : AList fun _ : Nat => Bool
  /-- the ID of the next stream that is opened on this side -/
  nextStream : Nat
  highestStreamOpenedByPeer : Nat
  closeErr : Option StreamError
  nextStreamToAccept : Nat
  numOutgoingStreams : Nat
  numIncomingStreams : Nat
  /-- the slice lists the keys of the map -/
  coherent : openStreams.Perm streams.keys

/-- A map without streams. -/
def newStreamsMap (pers : Perspective) : StreamsMap where
  perspective := pers
  streams := ∅
  openStreams := []
  roundRobinIndex := 0
  unreliableRobinIndex := 0
  unreliableStreamMark := ∅
  nextStream := if pers = .client then 1 else 2
  highestStreamOpenedByPeer := 0
  closeErr := none
  nextStreamToAccept := if pers = .client then 2 else 1
  numOutgoingStreams := 0
  numIncomingStreams := 0
  coherent := List.Perm.refl []

namespace StreamsMap

variable {m : StreamsMap} {id other : Nat} {s : Stream}

/-! ## Single streams -/

theorem mem_openStreams : id ∈ m.openStreams ↔ id ∈ m.streams :=
  m.coherent.mem_iff.trans AList.mem_keys

theorem nodup_openStreams (m : StreamsMap) : m.openStreams.Nodup :=
  m.coherent.nodup_iff.mpr m.streams.keys_nodup

/-- A stream of the map was changed in place. -/
def setStream (m : StreamsMap) (id : Nat) (s : Stream) : StreamsMap :=
  if opened : id ∈ m.streams then
    { m with
      streams := m.streams.insert id s
      coherent := by
        rw [AList.keys_insert]
        exact m.coherent.trans (List.perm_cons_erase (AList.mem_keys.mp opened)) }
  else m

theorem lookup_setStream_self (opened : m.streams.lookup id = some s) (s' : Stream) :
    (m.setStream id s').streams.lookup id = some s' := by
  have mem : id ∈ m.streams := MapSum.mem_of_lookup opened
  rw [setStream, dif_pos mem]
  exact AList.lookup_insert _

theorem lookup_setStream_of_ne (differ : other ≠ id)
    (s : Stream) : (m.setStream id s).streams.lookup other = m.streams.lookup other := by
  unfold setStream
  split
  · exact AList.lookup_insert_ne differ
  · rfl

theorem mem_setStream : other ∈ (m.setStream id s).streams ↔ other ∈ m.streams := by
  unfold setStream
  split
  · rename_i opened
    rw [AList.mem_insert]
    exact ⟨fun either => either.elim (fun same => same ▸ opened) (fun mem => mem), Or.inr⟩
  · rfl

/-- A stream that is found after a change is the changed one or another one as it was. -/
theorem lookup_of_setStream {s after : Stream}
    (found : (m.setStream id s).streams.lookup other = some after) :
    other = id ∧ after = s ∨ other ≠ id ∧ m.streams.lookup other = some after := by
  unfold setStream at found
  split at found
  · exact MapSum.lookup_of_insert found
  · rename_i absent
    refine Or.inr ⟨fun same => ?_, found⟩
    rw [same] at found
    exact absent (MapSum.mem_of_lookup found)

/-- Writing back the stream that is there changes no stream. -/
theorem lookup_setStream_same (opened : m.streams.lookup id = some s) (other : Nat) :
    (m.setStream id s).streams.lookup other = m.streams.lookup other := by
  by_cases same : other = id
  · rw [same, lookup_setStream_self opened, opened]
  · exact lookup_setStream_of_ne same s

variable (m) (flow : FlowControlManager)

def modifyStream (id : Nat) (change : Stream → Stream) : StreamsMap :=
  match m.streams.lookup id with
  | none => m
  | some s => m.setStream id (change s)

/-- `GetStreasmType`: whether a stream is unreliable. A stream without a mark is reliable. -/
def getStreasmType (id : Nat) : Except StreamsMapError Bool :=
  if id ∈ m.streams then .ok ((m.unreliableStreamMark.lookup id).getD false)
  else .error (.unknownStreamType id)

/-! ## Opening streams -/

/-- The lambda of the session. The crypto and the header stream do not count for the
connection. The stream reads its own type from the marks. -/
def newStream (id : Nat) : FlowControlManager × Stream :=
  (flow.newStream id (id ≠ 1 ∧ id ≠ 3),
    newStreamType id ((m.unreliableStreamMark.lookup id).getD false))

/-- Enter a stream whose ID is not in use. -/
def enterStream (s : Stream) (unused : s.streamID ∉ m.streams) : StreamsMap :=
  { m with
    streams := m.streams.insert s.streamID s
    openStreams := m.openStreams ++ [s.streamID]
    coherent := by
      rw [AList.keys_insert, List.erase_of_not_mem (mt AList.mem_keys.mp unused)]
      exact (List.perm_append_singleton _ _).trans (m.coherent.cons _) }

/-- Every caller ignores the error for an ID that is in use. -/
def putStream (s : Stream) : StreamsMap :=
  if used : s.streamID ∈ m.streams then m else m.enterStream s used

def putStreamType (s : Stream) (marker : Bool) : StreamsMap :=
  if used : s.streamID ∈ m.streams then m
  else { m.enterStream s used with
    unreliableStreamMark := m.unreliableStreamMark.insert s.streamID marker }

/-- What an attempt to open a stream leaves and returns; `none` is a nil stream. -/
structure OpenResult where
  map : StreamsMap
  flow : FlowControlManager
  outcome : Except StreamsMapError (Option Stream)

/-- The counter that goes up for a stream of the peer. -/
def countRemoteStream : StreamsMap :=
  match m.perspective with
  | .server => { m with numIncomingStreams := addUint32 m.numIncomingStreams 1 }
  | .client => { m with numOutgoingStreams := addUint32 m.numOutgoingStreams 1 }

/-- The counter that goes up for a stream of this side. -/
def countLocalStream : StreamsMap :=
  match m.perspective with
  | .server => { m with numOutgoingStreams := addUint32 m.numOutgoingStreams 1 }
  | .client => { m with numIncomingStreams := addUint32 m.numIncomingStreams 1 }

/-- Open a stream of the peer. `put` enters it into the map. -/
def openRemote (id : Nat) (put : StreamsMap → Stream → StreamsMap) : OpenResult :=
  if m.numIncomingStreams ≥ getMaxIncomingStreams then
    { map := m, flow, outcome := .error .tooManyOpenStreams }
  else if addUint32 id maxNewStreamIDDelta < m.highestStreamOpenedByPeer then
    { map := m, flow, outcome := .error (.lotSmaller id m.highestStreamOpenedByPeer) }
  else
    let m := { m.countRemoteStream with
      highestStreamOpenedByPeer := max m.highestStreamOpenedByPeer id }
    let opened := m.newStream flow id
    { map := put m opened.2, flow := opened.1, outcome := .ok (some opened.2) }

def openRemoteStream (id : Nat) : OpenResult :=
  m.openRemote flow id putStream

def openRemoteStreamType (id : Nat) (marker : Bool) : OpenResult :=
  m.openRemote flow id fun m s => m.putStreamType s marker

/-- Open a stream on this side. -/
def openLocal (unreliable : Bool) : OpenResult :=
  if m.numOutgoingStreams ≥ flow.connectionParameters.getMaxOutgoingStreams then
    { map := m, flow, outcome := .error .tooManyOpenStreams }
  else
    let id := m.nextStream
    let m := { m.countLocalStream with nextStream := addUint32 m.nextStream 2 }
    let opened := m.newStream flow id
    { map := m.putStreamType opened.2 unreliable, flow := opened.1,
      outcome := .ok (some opened.2) }

def openStreamImpl : OpenResult :=
  m.openLocal flow false

def openUnreliableStreamImpl : OpenResult :=
  m.openLocal flow true

/-- Nothing is opened once the map is closed. -/
def unlessClosed (opened : OpenResult) : OpenResult :=
  match m.closeErr with
  | some err => { map := m, flow, outcome := .error (.closed err) }
  | none => opened

def openStream : OpenResult :=
  m.unlessClosed flow (m.openStreamImpl flow)

def openUnreliableStream : OpenResult :=
  m.unlessClosed flow (m.openUnreliableStreamImpl flow)

/-- The answer for an ID that is not open and that the peer cannot open any more, or never
could; `none` if a stream has to be opened. -/
def alreadySettled (id : Nat) : Option (Except StreamsMapError (Option Stream)) :=
  let ownParity := match m.perspective with
    | .server => 0
    | .client => 1
  let peer := match m.perspective with
    | .server => Perspective.client
    | .client => Perspective.server
  if id % 2 = ownParity then
    if id ≤ m.nextStream then some (.ok none) else some (.error (.openedFromSide id peer))
  else if id ≤ m.highestStreamOpenedByPeer then some (.ok none)
  else none

/-- The ID of the next stream of the peer. -/
def nextRemoteStream : Nat :=
  let sid := addUint32 m.highestStreamOpenedByPeer 2
  if sid = 2 ∧ m.perspective = .server then 1 else sid

/-- The loop of `GetOrOpenStream`. Without fuel the call has not returned yet: `none`. -/
def openUpTo (id : Nat) : Nat → Nat → StreamsMap → FlowControlManager → Option OpenResult
  | 0, _, _, _ => none
  | fuel + 1, sid, m, flow =>
    if sid ≤ id then
      let opened := m.openRemoteStream flow sid
      match opened.outcome with
      | .error err => some { opened with outcome := .error err }
      | .ok _ => openUpTo id fuel (addUint32 sid 2) opened.map opened.flow
    else some { map := m, flow, outcome := .ok (m.streams.lookup id) }

/-- `GetOrOpenStream`: all streams of the peer up to the ID are opened. -/
def getOrOpenStream (id fuel : Nat) : Option OpenResult :=
  match m.streams.lookup id with
  | some s => some { map := m, flow, outcome := .ok (some s) }
  | none =>
    match m.alreadySettled id with
    | some outcome => some { map := m, flow, outcome }
    | none => openUpTo id fuel m.nextRemoteStream m flow

/-- Only one stream is opened here, which need not be the one asked for. -/
def getOrOpenStreamType (id : Nat) (marker : Bool) : OpenResult :=
  match m.streams.lookup id with
  | some s => { map := m, flow, outcome := .ok (some s) }
  | none =>
    match m.alreadySettled id with
    | some outcome => { map := m, flow, outcome }
    | none =>
      let opened := m.openRemoteStreamType flow m.nextRemoteStream marker
      match opened.outcome with
      | .error err => { opened with outcome := .error err }
      | .ok _ => { opened with outcome := .ok (opened.map.streams.lookup id) }

/-! ## Removing and closing -/

/-- Only one of the two round-robin indices is adjusted. -/
def removeStream (id : Nat) : StreamsMap × Option StreamsMapError :=
  if id ∈ m.streams then
    ({ m with
      numOutgoingStreams :=
        if id % 2 = 0 then subUint32 m.numOutgoingStreams 1 else m.numOutgoingStreams
      numIncomingStreams :=
        if id % 2 = 0 then m.numIncomingStreams else subUint32 m.numIncomingStreams 1
      openStreams := m.openStreams.erase id
      roundRobinIndex :=
        if m.openStreams.idxOf id < m.roundRobinIndex then m.roundRobinIndex - 1
        else m.roundRobinIndex
      streams := m.streams.erase id
      coherent := by
        rw [AList.keys_erase]
        exact m.coherent.erase id }, none)
  else (m, some (.nonExistingStream id))

/-- `CloseWithError`: every stream is cancelled. -/
def closeWithError (err : StreamError) : StreamsMap :=
  m.openStreams.foldl (fun m id => m.modifyStream id fun s => s.cancel err)
    { m with closeErr := some err }

/-! ## Accepting streams -/

/-- What a call of `AcceptStream` finds. -/
inductive AcceptOutcome where
  | returned (s : Stream)
  | failed (err : StreamError)
  /-- the stream is not there, and the call waits for it -/
  | waits

/-- One round of the loop. -/
def acceptStream : StreamsMap × AcceptOutcome :=
  match m.closeErr with
  | some err => (m, .failed err)
  | none =>
    match m.streams.lookup m.nextStreamToAccept with
    | some s =>
      ({ m with nextStreamToAccept := addUint32 m.nextStreamToAccept 2 }, .returned s)
    | none => (m, .waits)

/-! ## Round robin -/

variable {m}

/-- What a lambda on streams returns: the state it works on, the stream it was given, whether
to go on, and an error. -/
structure LambdaResult (σ : Type) where
  state : σ
  stream : Stream
  cont : Bool
  err : Option StreamsMapError := none

/-- What one call of the lambda, or a loop over several, leaves behind. -/
structure Visit (σ : Type) where
  map : StreamsMap
  state : σ
  cont : Bool
  err : Option StreamsMapError

section RoundRobin

variable {σ : Type} (fn : σ → Stream → LambdaResult σ)

/-- `iterateFunc`: call the lambda on one stream. -/
def iterateFunc (m : StreamsMap) (streamID : Nat) (state : σ) : Visit σ :=
  match m.streams.lookup streamID with
  | none => { map := m, state, cont := true, err := some .errMapAccess }
  | some str =>
    let r := fn state str
    { map := m.setStream streamID r.stream, state := r.state, cont := r.cont, err := r.err }

/-- The loop over the crypto and the header stream, which may be missing. -/
def iteratePriority : List Nat → StreamsMap → σ → Visit σ
  | [], m, state => { map := m, state, cont := true, err := none }
  | id :: ids, m, state =>
    let visit := m.iterateFunc fn id state
    if visit.err ≠ none ∧ visit.err ≠ some .errMapAccess then visit
    else if visit.cont then iteratePriority ids visit.map visit.state
    else { visit with err := none }

/-- One of the loops over the open streams. `advance` moves the index of the loop. -/
def iteratePass (advance : StreamsMap → StreamsMap) : List Nat → StreamsMap → σ → Visit σ
  | [], m, state => { map := m, state, cont := true, err := none }
  | id :: ids, m, state =>
    let visit := m.iterateFunc fn id state
    if visit.err ≠ none then visit
    else
      let visit := { visit with map := advance visit.map }
      if visit.cont then iteratePass advance ids visit.map visit.state else visit

end RoundRobin

variable (m)

/-- The number of open streams. -/
def numStreams : Nat := m.streams.keys.length

theorem length_openStreams : m.openStreams.length = m.numStreams :=
  m.coherent.length_eq

/-- The open streams, from a start index on and around. -/
def rotation (startIndex : Nat) : List Nat :=
  List.ofFn fun i : Fin m.numStreams =>
    m.openStreams.get ⟨(i + startIndex) % m.numStreams, by
      rw [m.length_openStreams]
      exact Nat.mod_lt _ (Nat.zero_lt_of_lt i.isLt)⟩

theorem rotation_eq_rotate (startIndex : Nat) :
    m.rotation startIndex = m.openStreams.rotate startIndex := by
  apply List.ext_getElem
  · rw [rotation, List.length_ofFn, List.length_rotate, m.length_openStreams]
  · intro i inside _
    simp only [rotation, List.getElem_ofFn, List.get_eq_getElem, List.getElem_rotate,
      m.length_openStreams]

def advanceUnreliable : StreamsMap :=
  { m with unreliableRobinIndex := (m.unreliableRobinIndex + 1) % m.numStreams }

def advanceRoundRobin : StreamsMap :=
  { m with roundRobinIndex := (m.roundRobinIndex + 1) % m.numStreams }

/-- The source adds indices as 32-bit words. This makes no difference while an index and the number
of streams add up to at most `2 ^ 32`. -/
theorem index_uint32 {index i : Nat} (small : index + m.numStreams ≤ 2 ^ 32)
    (inside : i < m.numStreams) :
    addUint32 i index % m.numStreams = (i + index) % m.numStreams ∧
      addUint32 index 1 % m.numStreams = (index + 1) % m.numStreams := by
  have sum : addUint32 i index = i + index := Nat.mod_eq_of_lt (by omega)
  refine ⟨by rw [sum], ?_⟩
  by_cases one : m.numStreams = 1
  · rw [one, Nat.mod_one, Nat.mod_one]
  · have next : addUint32 index 1 = index + 1 := Nat.mod_eq_of_lt (by omega)
    rw [next]

/-- The streams without a mark, in the order of the second loop. -/
def unmarkedOrder : List Nat :=
  (m.rotation m.unreliableRobinIndex).filter fun id =>
    id ≠ 1 ∧ id ≠ 3 ∧ id ∉ m.unreliableStreamMark

/-- The streams with a mark, in the order of the third loop. -/
def markedOrder : List Nat :=
  (m.rotation m.roundRobinIndex).filter fun id =>
    id ≠ 1 ∧ id ≠ 3 ∧ id ∈ m.unreliableStreamMark

variable {m}

theorem mem_rotation {startIndex id : Nat} : id ∈ m.rotation startIndex ↔ id ∈ m.streams := by
  rw [rotation_eq_rotate, List.mem_rotate, mem_openStreams]

theorem mem_unmarkedOrder :
    id ∈ m.unmarkedOrder ↔
      id ∈ m.streams ∧ id ≠ 1 ∧ id ≠ 3 ∧ id ∉ m.unreliableStreamMark := by
  simp [unmarkedOrder, mem_rotation]

theorem mem_markedOrder :
    id ∈ m.markedOrder ↔
      id ∈ m.streams ∧ id ≠ 1 ∧ id ≠ 3 ∧ id ∈ m.unreliableStreamMark := by
  simp [markedOrder, mem_rotation]

theorem nodup_rotation (m : StreamsMap) (startIndex : Nat) : (m.rotation startIndex).Nodup := by
  rw [rotation_eq_rotate, List.nodup_rotate]
  exact m.nodup_openStreams

theorem nodup_unmarkedOrder (m : StreamsMap) : m.unmarkedOrder.Nodup :=
  (m.nodup_rotation _).filter _

theorem nodup_markedOrder (m : StreamsMap) : m.markedOrder.Nodup :=
  (m.nodup_rotation _).filter _

/-- A `false` of the lambda ends the call in the first loop, but only the loop in the second.
The lambda gets the streams without a mark only if the path allows sending. -/
def roundRobinIterate2 {σ : Type} (fn : σ → Stream → LambdaResult σ) (m : StreamsMap)
    (sendingAllowed : Bool) (state : σ) : Visit σ :=
  let first := iteratePriority fn [1, 3] m state
  if first.err ≠ none ∨ first.cont = false then first
  else
    let second :=
      if sendingAllowed then
        iteratePass fn advanceUnreliable m.unmarkedOrder first.map first.state
      else first
    if second.err ≠ none then second
    else iteratePass fn advanceRoundRobin m.markedOrder second.map second.state

/-- The same loops without a look at the path. -/
def roundRobinIterate {σ : Type} (fn : σ → Stream → LambdaResult σ) (m : StreamsMap)
    (state : σ) : Visit σ :=
  m.roundRobinIterate2 fn true state

end StreamsMap

end MPQuic
