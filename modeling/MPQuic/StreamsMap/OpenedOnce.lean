import MPQuic.StreamsMap.PeerStreams

/-!
# Which streams were opened

Runs of a streams map with a record of all IDs for which `newStream` was called, in their order.
Whether a stream that is not open was opened before is only known to the map through two
high-water marks, `nextStream` and `highestStreamOpenedByPeer`. In every run the IDs of this side
are opened one after the other, and so are those of the peer (`Tracked`). The ID after the last one
of this side wraps around; until then no stream is opened twice, and the counters of the map are
the numbers of open streams (`streams_openedOnce_iff`).
-/

namespace MPQuic

open List hiding after

namespace StreamsMap

/-! ## The IDs of both sides -/

variable {opened : OpenResult} {parity : Nat}

/-- The first ID of a stream that is opened on this side. -/
def firstStream : Perspective → Nat
  | .server => 2
  | .client => 1

/-- The first ID of a stream of the peer. -/
def firstPeerStream : Perspective → Nat
  | .server => 1
  | .client => 2

/-- The ID of the stream that is opened on this side after `k` others; stream IDs are 32-bit
words. -/
def ownID (pers : Perspective) (k : Nat) : Nat := (firstStream pers + 2 * k) % 2 ^ 32

def peerID (pers : Perspective) (r : Nat) : Nat := firstPeerStream pers + 2 * r

/-- Whether the ID has the parity of the streams of this side. -/
def isOwn (pers : Perspective) (id : Nat) : Bool := id % 2 = firstStream pers % 2

variable {pers : Perspective}

variable (m : StreamsMap)

theorem localParity_eq_firstStream : m.localParity = firstStream m.perspective % 2 := by
  cases side : m.perspective
  all_goals
    rw [localParity, side]
    rfl

theorem isOwn_ownID (pers : Perspective) (k : Nat) : isOwn pers (ownID pers k) = true := by
  unfold isOwn ownID
  rw [decide_eq_true_eq]
  omega

theorem isOwn_peerID (pers : Perspective) (r : Nat) : isOwn pers (peerID pers r) = false := by
  unfold isOwn peerID
  rw [decide_eq_false_iff_not]
  cases pers
  all_goals
    simp only [firstStream, firstPeerStream]
    omega

/-- The IDs of this side go around after `2 ^ 31` streams. -/
theorem ownID_inj {j k : Nat} (near : j < k) (close : k - j < 2 ^ 31) :
    ownID pers j ≠ ownID pers k := by
  unfold ownID
  omega

theorem nodup_ownIDs_iff (pers : Perspective) (k : Nat) :
    ((List.range k).map (ownID pers)).Nodup ↔ k ≤ 2 ^ 31 := by
  constructor
  · intro nodup
    refine Nat.le_of_not_lt fun many => ?_
    have same : ownID pers 0 = ownID pers (2 ^ 31) := by
      unfold ownID
      omega
    have zero := inj_on_of_nodup_map nodup (mem_range.mpr (Nat.zero_lt_of_lt many))
      (mem_range.mpr many) same
    exact absurd zero (by decide)
  · intro few
    refine List.Nodup.map_on (fun i below j below' same => ?_) nodup_range
    have iBelow := mem_range.mp below
    have jBelow := mem_range.mp below'
    rcases Nat.lt_trichotomy i j with less | equal | more
    · exact absurd same (ownID_inj less (by omega))
    · exact equal
    · exact absurd same.symm (ownID_inj more (by omega))

theorem nodup_peerIDs (r : Nat) : ((List.range r).map (peerID pers)).Nodup :=
  nodup_range.map fun i j same => by
    unfold peerID at same
    omega

/-! ## Runs -/

/-- The calls on a map. -/
inductive MapOp where
  | openStream
  | openUnreliableStream
  | getOrOpenStream (id : Nat)
  | getOrOpenStreamType (id : Nat) (marker : Bool)
  | removeStream (id : Nat)
  | acceptStream
  | closeWithError (err : StreamError)
  /-- what a lambda of an iteration does to a stream -/
  | changeStream (id : Nat) (change : Stream → Stream)
      (sameID : ∀ s, (change s).streamID = s.streamID)
  /-- what a round robin does to its indices -/
  | moveIndices (roundRobinIndex unreliableRobinIndex : Nat)

/-- The ID of the one stream that a call may open, if it did. -/
def OpenResult.openedID (opened : OpenResult) (id : Nat) : List Nat :=
  match opened.outcome with
  | .error _ => []
  | .ok _ => [id]

theorem OpenResult.openedID_error {err : StreamsMapError} (refused : opened.outcome = .error err)
    (id : Nat) : opened.openedID id = [] := by
  rw [openedID, refused]

theorem OpenResult.openedID_ok {s : Option Stream} (accepted : opened.outcome = .ok s) (id : Nat) :
    opened.openedID id = [id] := by
  rw [openedID, accepted]

/-- The IDs of the streams that the loop of `GetOrOpenStream` opens. -/
def openedUpTo (id : Nat) : Nat → Nat → StreamsMap → FlowControlManager → List Nat
  | 0, _, _, _ => []
  | fuel + 1, sid, m, flow =>
    if sid ≤ id then
      let opened := m.openRemoteStream flow sid
      match opened.outcome with
      | .error _ => []
      | .ok _ => sid :: openedUpTo id fuel (addUint32 sid 2) opened.map opened.flow
    else []

/-- The map, the flow control manager, and the IDs that `newStream` was called for. The source
keeps no record of them. -/
structure OpeningRun where
  map : StreamsMap
  flow : FlowControlManager
  opened : List Nat

namespace OpeningRun

def start (pers : Perspective) (params : ConnectionParametersManager) : OpeningRun where
  map := newStreamsMap pers
  flow := newFlowControlManager params
  opened := []

variable (st : OpeningRun)

/-- The state after a call that opened streams. -/
def after (result : OpenResult) (ids : List Nat) : OpeningRun where
  map := result.map
  flow := result.flow
  opened := st.opened ++ ids

theorem after_after (result result' : OpenResult) (ids ids' : List Nat) :
    (st.after result ids).after result' ids' = st.after result' (ids ++ ids') := by
  unfold after
  rw [append_assoc]

def getOrOpenStream (id : Nat) : Option OpeningRun :=
  (st.map.getOrOpenStream st.flow id callRounds).map fun result =>
    st.after result
      (if st.map.streams.lookup id = none ∧ st.map.alreadySettled id = none then
        openedUpTo id callRounds st.map.nextRemoteStream st.map st.flow
      else [])

def getOrOpenStreamType (id : Nat) (marker : Bool) : OpeningRun :=
  st.after (st.map.getOrOpenStreamType st.flow id marker)
    (if st.map.streams.lookup id = none ∧ st.map.alreadySettled id = none then
      (st.map.openRemoteStreamType st.flow st.map.nextRemoteStream marker).openedID
        st.map.nextRemoteStream
    else [])

/-- The state after a call; `none` if the call does not return. -/
def step : MapOp → Option OpeningRun
  | .openStream =>
    let result := st.map.openStream st.flow
    some (st.after result (result.openedID st.map.nextStream))
  | .openUnreliableStream =>
    let result := st.map.openUnreliableStream st.flow
    some (st.after result (result.openedID st.map.nextStream))
  | .getOrOpenStream id => st.getOrOpenStream id
  | .getOrOpenStreamType id marker => some (st.getOrOpenStreamType id marker)
  | .removeStream id => some { st with map := (st.map.removeStream id).1 }
  | .acceptStream => some { st with map := st.map.acceptStream.1 }
  | .closeWithError err => some { st with map := st.map.closeWithError err }
  | .changeStream id change _ => some { st with map := st.map.modifyStream id change }
  | .moveIndices roundRobinIndex unreliableRobinIndex =>
    some { st with map := { st.map with roundRobinIndex, unreliableRobinIndex } }

def run (pers : Perspective) (params : ConnectionParametersManager) (ops : List MapOp) :
    Option OpeningRun :=
  ops.foldlM step (start pers params)

/-- The IDs of the streams that were opened on this side. -/
def openedHere : List Nat := st.opened.filter (isOwn st.map.perspective)

/-- No stream was opened twice, and the counters are right. -/
structure Coherent (st : OpeningRun) : Prop where
  once : st.opened.Nodup
  listed : st.map.openStreams.Nodup ∧ ∀ id, id ∈ st.map.openStreams ↔ id ∈ st.map.streams
  incoming : st.map.numIncomingStreams = st.map.openWith 1
  outgoing : st.map.numOutgoingStreams = st.map.openWith 0
  /-- removing a stream does not make a counter wrap around -/
  positive : ∀ id ∈ st.map.streams,
    0 < if id % 2 = 0 then st.map.numOutgoingStreams else st.map.numIncomingStreams
  /-- stream 0 is the connection -/
  peer : ∀ id, 0 < id → id % 2 = 1 - st.map.localParity → id ≤ st.map.highestStreamOpenedByPeer →
    st.opened.count id = 1

end OpeningRun

/-! ## What opening a stream does to the counters -/

/-- A stream was entered, and no counter was changed. -/
structure EntersCounted (m : StreamsMap) (id : Nat) (m' : StreamsMap) : Prop
    extends m.Enters id m' where
  incoming : m'.numIncomingStreams = m.numIncomingStreams
  outgoing : m'.numOutgoingStreams = m.numOutgoingStreams
  openWith : id ∉ m.streams → ∀ parity,
    m'.openWith parity = m.openWith parity + if id % 2 = parity then 1 else 0

theorem openWith_enterStream (s : Stream) (unused : s.streamID ∉ m.streams) (parity : Nat) :
    (m.enterStream s unused).openWith parity =
      m.openWith parity + if s.streamID % 2 = parity then 1 else 0 := by
  simp only [StreamsMap.openWith, enterStream, countP_append, countP_singleton,
    decide_eq_true_eq]

theorem entersCounted_putStream (id : Nat) (mark : Bool) :
    m.EntersCounted id (m.putStream (newStreamType id mark)) := by
  have enters := m.enters_putStream id mark
  unfold putStream at enters ⊢
  split
  · rename_i used
    rw [dif_pos used] at enters
    exact ⟨enters, rfl, rfl, fun unused => absurd used unused⟩
  · rename_i unused
    rw [dif_neg unused] at enters
    exact ⟨enters, rfl, rfl, fun _ => m.openWith_enterStream _ unused⟩

theorem entersCounted_putStreamType (id : Nat) (mark marker : Bool) :
    m.EntersCounted id (m.putStreamType (newStreamType id mark) marker) := by
  have enters := m.enters_putStreamType id mark marker
  unfold putStreamType at enters ⊢
  split
  · rename_i used
    rw [dif_pos used] at enters
    exact ⟨enters, rfl, rfl, fun unused => absurd used unused⟩
  · rename_i unused
    rw [dif_neg unused] at enters
    exact ⟨enters, rfl, rfl, fun _ => m.openWith_enterStream _ unused⟩

theorem counter_countRemoteStream (bit : parity < 2) :
    m.countRemoteStream.counter parity =
      if firstPeerStream m.perspective % 2 = parity then addUint32 (m.counter parity) 1
      else m.counter parity := by
  obtain rfl | rfl : parity = 0 ∨ parity = 1 := by omega
  all_goals
    cases side : m.perspective
    all_goals
      rw [countRemoteStream, side]
      rfl

theorem counter_countLocalStream (bit : parity < 2) :
    m.countLocalStream.counter parity =
      if firstStream m.perspective % 2 = parity then addUint32 (m.counter parity) 1
      else m.counter parity := by
  obtain rfl | rfl : parity = 0 ∨ parity = 1 := by omega
  all_goals
    cases side : m.perspective
    all_goals
      rw [countLocalStream, side]
      rfl

/-- The counters are the numbers of open streams. -/
def Counted (m : StreamsMap) : Prop := ∀ parity, parity < 2 → m.counter parity = m.openWith parity

/-- The counter of a new stream was raised before it was entered. -/
theorem Counted.entered {m counted m' : StreamsMap} {id : Nat} (before : m.Counted)
    (raised : ∀ parity, parity < 2 → counted.counter parity =
      if id % 2 = parity then addUint32 (m.counter parity) 1 else m.counter parity)
    (sameOpen : counted.openStreams = m.openStreams)
    (enters : counted.EntersCounted id m') (unused : id ∉ counted.streams)
    (room : m.openWith (id % 2) < 2 ^ 31 + 1) : m'.Counted := by
  intro parity bit
  have same' : counted.openWith parity = m.openWith parity := by
    unfold StreamsMap.openWith
    rw [sameOpen]
  have same : m'.counter parity = counted.counter parity := by
    unfold counter
    rw [enters.outgoing, enters.incoming]
  rw [same, raised parity bit, enters.openWith unused, same', before parity bit]
  split
  · rename_i parityEq
    rw [← parityEq]
    unfold addUint32
    omega
  · rfl

theorem Counted.removeStream {m : StreamsMap} (before : m.Counted) (id : Nat)
    (small : ∀ parity, m.openWith parity < 2 ^ 32) : (m.removeStream id).1.Counted := by
  by_cases opened : id ∈ m.streams
  · intro parity bit
    have removed := openWith_removeStream opened parity
    have positive := openWith_pos opened
    have bound := small parity
    rw [counter_removeStream opened bit, before parity bit]
    split
    · rename_i parityEq
      rw [parityEq] at positive
      rw [if_pos parityEq] at removed
      unfold subUint32
      omega
    · rename_i other
      rw [if_neg other] at removed
      exact removed.symm
  · unfold StreamsMap.removeStream
    rw [if_neg opened]
    exact before

/-- Nothing was opened or removed. -/
structure SameBooks (m m' : StreamsMap) : Prop where
  perspective : m'.perspective = m.perspective
  nextStream : m'.nextStream = m.nextStream
  highest : m'.highestStreamOpenedByPeer = m.highestStreamOpenedByPeer
  incoming : m'.numIncomingStreams = m.numIncomingStreams
  outgoing : m'.numOutgoingStreams = m.numOutgoingStreams
  openStreams : m'.openStreams = m.openStreams

theorem sameBooks_refl : m.SameBooks m := ⟨rfl, rfl, rfl, rfl, rfl, rfl⟩

theorem SameBooks.trans {m m' m'' : StreamsMap} (first : m.SameBooks m')
    (second : m'.SameBooks m'') : m.SameBooks m'' where
  perspective := second.perspective.trans first.perspective
  nextStream := second.nextStream.trans first.nextStream
  highest := second.highest.trans first.highest
  incoming := second.incoming.trans first.incoming
  outgoing := second.outgoing.trans first.outgoing
  openStreams := second.openStreams.trans first.openStreams

theorem sameBooks_modifyStream (id : Nat) (change : Stream → Stream) :
    m.SameBooks (m.modifyStream id change) := by
  refine modifyStream_rule (sameBooks_refl m) fun s _ => ?_
  unfold setStream
  split <;> exact ⟨rfl, rfl, rfl, rfl, rfl, rfl⟩

theorem sameBooks_closeWithError (err : StreamError) : m.SameBooks (m.closeWithError err) :=
  List.foldlRecOn (motive := fun m' : StreamsMap => m.SameBooks m') m.openStreams _
    ⟨rfl, rfl, rfl, rfl, rfl, rfl⟩
    fun m' kept id _ => kept.trans (m'.sameBooks_modifyStream id fun s => s.cancel err)

theorem PeerOrder.removeStream {m : StreamsMap} (order : m.PeerOrder) (id : Nat) :
    (m.removeStream id).1.PeerOrder := by
  unfold StreamsMap.removeStream
  split
  · exact order.of_named rfl rfl rfl fun _ s found => ⟨s, (MapSum.lookup_of_erase found).2, rfl⟩
  · exact order

/-! ## The invariant -/

namespace OpeningRun

/-- `k` streams were opened on this side and `r` by the peer. -/
structure Tracked (pers : Perspective) (k r : Nat) (st : OpeningRun) : Prop where
  order : st.map.PeerOrder
  perspective : st.map.perspective = pers
  nextStream : st.map.nextStream = ownID pers k
  highest : st.map.highestStreamOpenedByPeer = peerID pers r - 2
  ownIDs : st.opened.filter (isOwn pers) = (List.range k).map (ownID pers)
  peerIDs : st.opened.filter (fun id => !isOwn pers id) = (List.range r).map (peerID pers)
  listed : ∀ id ∈ st.map.streams, id ∈ st.opened
  /-- until the IDs of this side go around -/
  counted : k ≤ 2 ^ 31 → st.map.Counted

namespace Tracked

variable {k r id : Nat} {st : OpeningRun} {flow : FlowControlManager} {m' : StreamsMap}
  {outcome : Except StreamsMapError (Option Stream)}

theorem new (pers : Perspective) (params : ConnectionParametersManager) :
    Tracked pers 0 0 (start pers params) where
  order := by
    refine ⟨fun id s found => ?_, ?_, Or.inl rfl, ?_, fun id mem => ?_⟩
    · cases found
    · cases pers <;> simp [start, newStreamsMap, localParity]
    · show 0 + 400 < 2 ^ 32
      decide
    · exact absurd mem (AList.notMem_empty id)
  perspective := rfl
  nextStream := by cases pers <;> rfl
  highest := by cases pers <;> rfl
  ownIDs := rfl
  peerIDs := rfl
  listed id mem := absurd mem (AList.notMem_empty id)
  counted _ parity _ := by
    unfold counter
    split <;> rfl

/-! ### What is known of the IDs -/

theorem ownID_mod_two (pers : Perspective) (k : Nat) : ownID pers k % 2 = firstStream pers % 2 := by
  unfold ownID
  omega

theorem peerID_mod_two (pers : Perspective) (r : Nat) :
    peerID pers r % 2 = firstPeerStream pers % 2 := by
  unfold peerID
  omega

theorem addUint32_ownID (pers : Perspective) (k : Nat) :
    addUint32 (ownID pers k) 2 = ownID pers (k + 1) := by
  unfold ownID addUint32
  omega

variable (tracked : Tracked pers k r st)

include tracked

theorem mem_own_iff (own : isOwn pers id = true) : id ∈ st.opened ↔ ∃ j < k, ownID pers j = id := by
  have mem : id ∈ st.opened ↔ id ∈ st.opened.filter (isOwn pers) :=
    ⟨fun mem => mem_filter.mpr ⟨mem, own⟩, fun mem => (mem_filter.mp mem).1⟩
  rw [mem, tracked.ownIDs, mem_map]
  exact exists_congr fun j => and_congr_left fun _ => mem_range

theorem mem_peer_iff (peer : isOwn pers id = false) :
    id ∈ st.opened ↔ ∃ j < r, peerID pers j = id := by
  have mem : id ∈ st.opened ↔ id ∈ st.opened.filter fun id => !isOwn pers id :=
    ⟨fun mem => mem_filter.mpr ⟨mem, by rw [peer]; rfl⟩, fun mem => (mem_filter.mp mem).1⟩
  rw [mem, tracked.peerIDs, mem_map]
  exact exists_congr fun j => and_congr_left fun _ => mem_range

/-- The IDs are distinct as long as those of this side have not gone around. -/
theorem nodup_iff : st.opened.Nodup ↔ k ≤ 2 ^ 31 := by
  rw [← nodup_ownIDs_iff pers, ← tracked.ownIDs]
  refine ⟨fun nodup => nodup.filter _, fun own => nodup_iff_count_le_one.mpr fun id => ?_⟩
  have peer : (st.opened.filter fun id => !isOwn pers id).Nodup := by
    rw [tracked.peerIDs]
    exact nodup_peerIDs r
  cases side : isOwn pers id with
  | true =>
    rw [← count_filter side]
    exact nodup_iff_count_le_one.mp own id
  | false =>
    have other : (!isOwn pers id) = true := by
      rw [side]
      rfl
    rw [← count_filter (p := fun id => !isOwn pers id) other]
    exact nodup_iff_count_le_one.mp peer id

/-- The next stream of the peer is the one after its last. -/
theorem nextRemoteStream : st.map.nextRemoteStream = peerID pers r := by
  have highest := tracked.highest
  have inRange := tracked.order.inRange
  have delta : maxNewStreamIDDelta = 400 := rfl
  unfold StreamsMap.nextRemoteStream
  rw [tracked.perspective]
  unfold peerID addUint32 at *
  cases pers with
  | server =>
    simp only [firstPeerStream, and_true] at *
    split <;> omega
  | client =>
    simp only [firstPeerStream, reduceCtorEq, and_false, if_false] at *
    omega

theorem peerID_notMem : peerID pers r ∉ st.opened := by
  rw [tracked.mem_peer_iff (isOwn_peerID pers r)]
  rintro ⟨j, less, same⟩
  unfold peerID at same
  omega

theorem ownID_notMem (few : k < 2 ^ 31) : ownID pers k ∉ st.opened := by
  rw [tracked.mem_own_iff (isOwn_ownID pers k)]
  rintro ⟨j, less, same⟩
  exact ownID_inj less (by omega) same

/-- The open streams are among the opened ones. -/
theorem countP_le (p : Nat → Bool) : st.map.openStreams.countP p ≤ (st.opened.filter p).length := by
  rw [countP_eq_length_filter]
  refine (subperm_of_subset (st.map.nodup_openStreams.filter p) fun id mem => ?_).length_le
  obtain ⟨opened, holds⟩ := mem_filter.mp mem
  exact mem_filter.mpr ⟨tracked.listed id (mem_openStreams.mp opened), holds⟩

theorem openWith_own_le : st.map.openWith (firstStream pers % 2) ≤ k := by
  have bound := tracked.countP_le (isOwn pers)
  rwa [tracked.ownIDs, length_map, length_range] at bound

theorem openWith_peer_le : st.map.openWith (firstPeerStream pers % 2) ≤ r := by
  have bound := tracked.countP_le fun id => !isOwn pers id
  rw [tracked.peerIDs, length_map, length_range] at bound
  refine le_trans (le_of_eq (countP_congr fun id _ => ?_)) bound
  unfold isOwn
  cases pers <;> simp [firstStream, firstPeerStream]

/-- The IDs of the peer do not go around. -/
theorem peers_le : r ≤ 2 ^ 31 := by
  have highest := tracked.highest
  have inRange := tracked.order.inRange
  unfold peerID at highest
  omega

theorem openWith_lt (few : k ≤ 2 ^ 31) (parity : Nat) : st.map.openWith parity < 2 ^ 32 := by
  have own := tracked.openWith_own_le
  have peer := tracked.openWith_peer_le
  have peers := tracked.peers_le
  by_cases bit : parity < 2
  · obtain same | same : parity = firstStream pers % 2 ∨ parity = firstPeerStream pers % 2 := by
      cases pers <;> simp only [firstStream, firstPeerStream] <;> omega
    · rw [same]
      omega
    · rw [same]
      omega
  · have zero : st.map.openWith parity = 0 := by
      refine countP_eq_zero.mpr fun id _ same => bit ?_
      rw [← of_decide_eq_true same]
      exact Nat.mod_lt _ (by decide)
    omega

/-! ### Opening streams -/

theorem opened_own :
    (st.opened ++ [ownID pers k]).filter (isOwn pers) = (List.range (k + 1)).map (ownID pers) ∧
      (st.opened ++ [ownID pers k]).filter (fun id => !isOwn pers id) =
        (List.range r).map (peerID pers) := by
  rw [filter_append, filter_append, tracked.ownIDs, tracked.peerIDs, range_succ,
    map_append]
  simp [isOwn_ownID]

theorem opened_peer :
    (st.opened ++ [peerID pers r]).filter (isOwn pers) = (List.range k).map (ownID pers) ∧
      (st.opened ++ [peerID pers r]).filter (fun id => !isOwn pers id) =
        (List.range (r + 1)).map (peerID pers) := by
  rw [filter_append, filter_append, tracked.ownIDs, tracked.peerIDs, range_succ,
    map_append]
  simp [isOwn_peerID]

/-- A refused call opens nothing. -/
theorem refused {result : OpenResult} (map : result.map = st.map) :
    Tracked pers k r (st.after result []) := by
  unfold after
  rw [map, append_nil]
  exact { tracked with }

/-- A stream was entered that was not opened before, after its counter was raised. -/
theorem entered {k' r' : Nat} {counted : StreamsMap} (order : m'.PeerOrder)
    (enters : counted.EntersCounted id m') (same : st.map.SameStreams counted)
    (sameOpen : counted.openStreams = st.map.openStreams)
    (nextStream : counted.nextStream = ownID pers k')
    (highest : counted.highestStreamOpenedByPeer = peerID pers r' - 2)
    (ids : (st.opened ++ [id]).filter (isOwn pers) = (List.range k').map (ownID pers) ∧
      (st.opened ++ [id]).filter (fun id => !isOwn pers id) = (List.range r').map (peerID pers))
    (raised : ∀ parity, parity < 2 → counted.counter parity =
      if id % 2 = parity then addUint32 (st.map.counter parity) 1 else st.map.counter parity)
    (more : k ≤ k') (new : k' ≤ 2 ^ 31 → id ∉ st.opened ∧ st.map.openWith (id % 2) < 2 ^ 31 + 1) :
    Tracked pers k' r' (st.after { map := m', flow, outcome } [id]) := by
  refine ⟨order, ?_, enters.nextStream.trans nextStream, enters.highest.trans highest, ids.1, ids.2,
    fun other mem => ?_, fun few => ?_⟩
  · rw [← tracked.perspective]
    exact enters.perspective.trans same.perspective
  · rcases enters.eq_or_mem mem with rfl | old
    · exact mem_append_right _ mem_cons_self
    · exact mem_append_left _ (tracked.listed other (same.streams ▸ old))
  · obtain ⟨unused, room⟩ := new few
    exact (tracked.counted (more.trans few)).entered raised sameOpen enters
      (fun used => unused (tracked.listed id (same.streams ▸ used))) room

/-- A stream of this side was entered. -/
theorem enterLocal (order : m'.PeerOrder)
    (enters : st.map.countedLocal.EntersCounted st.map.nextStream m') :
    Tracked pers (k + 1) r (st.after { map := m', flow, outcome } [st.map.nextStream]) := by
  have raised (p : Nat) (bit : p < 2) := st.map.counter_countLocalStream bit
  have ids := tracked.opened_own
  have parity := ownID_mod_two pers k
  have unused := tracked.ownID_notMem
  have bound := tracked.openWith_own_le
  rw [← tracked.nextStream] at ids parity unused
  rw [← parity] at bound
  rw [tracked.perspective, ← parity] at raised
  have next : addUint32 st.map.nextStream 2 = ownID pers (k + 1) := by
    rw [tracked.nextStream, addUint32_ownID]
  obtain ⟨incoming, outgoing, counted⟩ := st.map.exists_countLocalStream
  unfold countedLocal at enters
  rw [counted] at enters raised
  exact tracked.entered order enters ⟨rfl, rfl, rfl⟩ rfl next tracked.highest ids raised
    (Nat.le_succ k) fun few => ⟨unused few, by omega⟩

/-- A stream of the peer was entered. -/
theorem enterRemote (order : m'.PeerOrder)
    (enters : (st.map.countedRemote st.map.nextRemoteStream).EntersCounted
      st.map.nextRemoteStream m') :
    Tracked pers k (r + 1) (st.after { map := m', flow, outcome } [st.map.nextRemoteStream]) := by
  have raised (p : Nat) (bit : p < 2) := st.map.counter_countRemoteStream bit
  have ids := tracked.opened_peer
  have parity := peerID_mod_two pers r
  have unused := tracked.peerID_notMem
  have bound := tracked.openWith_peer_le
  have peers := tracked.peers_le
  have highest :
      max st.map.highestStreamOpenedByPeer (peerID pers r) = peerID pers (r + 1) - 2 := by
    rw [tracked.highest]
    unfold peerID
    omega
  rw [← tracked.nextRemoteStream] at ids parity unused highest
  rw [← parity] at bound
  rw [tracked.perspective, ← parity] at raised
  obtain ⟨incoming, outgoing, counted⟩ := st.map.exists_countRemoteStream
  unfold countedRemote at enters
  rw [counted] at enters raised
  exact tracked.entered order enters ⟨rfl, rfl, rfl⟩ rfl tracked.nextStream highest ids raised
    le_rfl
    fun _ => ⟨unused, by omega⟩

theorem openLocal (unreliable : Bool) :
    ∃ k', Tracked pers k' r (st.after (st.map.openLocal st.flow unreliable)
      ((st.map.openLocal st.flow unreliable).openedID st.map.nextStream)) := by
  have order := (tracked.order.openLocal st.flow unreliable).order
  unfold StreamsMap.openLocal at order ⊢
  split
  · exact ⟨k, tracked.refused rfl⟩
  · rename_i room
    rw [if_neg room] at order
    exact ⟨k + 1, tracked.enterLocal order (entersCounted_putStreamType _ _ _ _)⟩

theorem unlessClosed (unreliable : Bool) :
    ∃ k', Tracked pers k' r
      (st.after (st.map.unlessClosed st.flow (st.map.openLocal st.flow unreliable))
        ((st.map.unlessClosed st.flow (st.map.openLocal st.flow unreliable)).openedID
          st.map.nextStream)) := by
  unfold StreamsMap.unlessClosed
  split
  · exact ⟨k, tracked.refused rfl⟩
  · exact tracked.openLocal unreliable

theorem openRemote (put : StreamsMap → Stream → StreamsMap)
    (puts : ∀ (m : StreamsMap) (id : Nat) (mark : Bool),
      m.EntersCounted id (put m (newStreamType id mark))) :
    ∃ r', Tracked pers k r' (st.after (st.map.openRemote st.flow st.map.nextRemoteStream put)
      ((st.map.openRemote st.flow st.map.nextRemoteStream put).openedID
        st.map.nextRemoteStream)) := by
  have order := (tracked.order.openRemote st.flow fun m id mark => (puts m id mark).toEnters).order
  unfold StreamsMap.openRemote at order ⊢
  split
  · exact ⟨r, tracked.refused rfl⟩
  · rename_i room
    rw [if_neg room] at order
    split
    · exact ⟨r, tracked.refused rfl⟩
    · rename_i near
      rw [if_neg near] at order
      exact ⟨r + 1, tracked.enterRemote order (puts _ _ _)⟩

/-- The loop of `GetOrOpenStream` returns, since the IDs of the peer stay away from the end of the
range. -/
theorem openUpTo (id : Nat) {fuel : Nat} (enough : 2 ^ 32 < fuel + st.map.nextRemoteStream) :
    ∃ result r', StreamsMap.openUpTo id fuel st.map.nextRemoteStream st.map st.flow = some result ∧
      Tracked pers k r' (st.after result
        (openedUpTo id fuel st.map.nextRemoteStream st.map st.flow)) := by
  induction fuel generalizing r st with
  | zero =>
    obtain ⟨-, -, near⟩ := tracked.order.nextRemoteStream
    have inRange := tracked.order.inRange
    have delta : maxNewStreamIDDelta = 400 := rfl
    omega
  | succ fuel ih =>
    simp only [StreamsMap.openUpTo, openedUpTo]
    split
    · obtain ⟨r', one⟩ := tracked.openRemote putStream entersCounted_putStream
      change Tracked pers k r' (st.after (st.map.openRemoteStream st.flow _)
        ((st.map.openRemoteStream st.flow _).openedID _)) at one
      cases outcome : (st.map.openRemoteStream st.flow st.map.nextRemoteStream).outcome with
      | error err =>
        rw [OpenResult.openedID_error outcome] at one
        exact ⟨_, r', rfl, { one with }⟩
      | ok s =>
        rw [OpenResult.openedID_ok outcome] at one
        have next := nextRemoteStream_of_opened tracked.order outcome
        have further : addUint32 st.map.nextRemoteStream 2 = st.map.nextRemoteStream + 2 := by
          obtain ⟨-, -, near⟩ := tracked.order.nextRemoteStream
          have inRange := tracked.order.inRange
          have delta : maxNewStreamIDDelta = 400 := rfl
          unfold addUint32
          omega
        obtain ⟨result, r'', returned, rest⟩ := ih one (by
          show 2 ^ 32 < fuel +
            (st.map.openRemoteStream st.flow st.map.nextRemoteStream).map.nextRemoteStream
          omega)
        refine ⟨result, r'', ?_, ?_⟩
        · rw [next]
          exact returned
        · rw [after_after] at rest
          rw [next]
          exact rest
    · exact ⟨_, r, rfl, tracked.refused rfl⟩

theorem getOrOpenStream (id : Nat) :
    ∃ st' r', st.getOrOpenStream id = some st' ∧ Tracked pers k r' st' := by
  unfold OpeningRun.getOrOpenStream StreamsMap.getOrOpenStream
  cases found : st.map.streams.lookup id with
  | some s =>
    refine ⟨_, r, rfl, ?_⟩
    rw [if_neg (by rintro ⟨⟨⟩, -⟩)]
    exact tracked.refused rfl
  | none =>
    cases settled : st.map.alreadySettled id with
    | some outcome =>
      refine ⟨_, r, rfl, ?_⟩
      rw [if_neg (by rintro ⟨-, ⟨⟩⟩)]
      exact tracked.refused rfl
    | none =>
      obtain ⟨-, above, -⟩ := tracked.order.nextRemoteStream
      obtain ⟨result, r', returned, tracked'⟩ := tracked.openUpTo id (by
        show 2 ^ 32 < 2 ^ 32 + st.map.nextRemoteStream
        omega)
      refine ⟨_, r', congrArg (Option.map _) returned, ?_⟩
      rw [if_pos ⟨rfl, rfl⟩]
      exact tracked'

theorem getOrOpenStreamType (id : Nat) (marker : Bool) :
    ∃ r', Tracked pers k r' (st.getOrOpenStreamType id marker) := by
  unfold OpeningRun.getOrOpenStreamType StreamsMap.getOrOpenStreamType
  cases found : st.map.streams.lookup id with
  | some s =>
    refine ⟨r, ?_⟩
    rw [if_neg (by rintro ⟨⟨⟩, -⟩)]
    exact tracked.refused rfl
  | none =>
    cases settled : st.map.alreadySettled id with
    | some outcome =>
      refine ⟨r, ?_⟩
      rw [if_neg (by rintro ⟨-, ⟨⟩⟩)]
      exact tracked.refused rfl
    | none =>
      rw [if_pos ⟨rfl, rfl⟩]
      obtain ⟨r', one⟩ := tracked.openRemote (fun m s => m.putStreamType s marker)
        fun m id mark => m.entersCounted_putStreamType id mark marker
      refine ⟨r', ?_⟩
      dsimp only
      split <;> exact { one with }

/-- A call that opens and removes nothing. -/
theorem sameBooks (same : st.map.SameBooks m')
    (order : m'.PeerOrder) : Tracked pers k r { st with map := m' } where
  order := order
  perspective := same.perspective.trans tracked.perspective
  nextStream := same.nextStream.trans tracked.nextStream
  highest := same.highest.trans tracked.highest
  ownIDs := tracked.ownIDs
  peerIDs := tracked.peerIDs
  listed id mem := by
    rw [← mem_openStreams, same.openStreams, mem_openStreams] at mem
    exact tracked.listed id mem
  counted few parity bit := by
    have before := tracked.counted few parity bit
    unfold counter openWith at before ⊢
    rw [same.incoming, same.outgoing, same.openStreams]
    exact before

theorem removeStream (id : Nat) :
    Tracked pers k r { st with map := (st.map.removeStream id).1 } := by
  have kept : (st.map.removeStream id).1.perspective = st.map.perspective ∧
      (st.map.removeStream id).1.nextStream = st.map.nextStream ∧
      (st.map.removeStream id).1.highestStreamOpenedByPeer =
        st.map.highestStreamOpenedByPeer ∧
      ∀ other ∈ (st.map.removeStream id).1.streams, other ∈ st.map.streams := by
    unfold StreamsMap.removeStream
    split
    · exact ⟨rfl, rfl, rfl, fun other mem => (AList.mem_erase.mp mem).2⟩
    · exact ⟨rfl, rfl, rfl, fun other mem => mem⟩
  obtain ⟨side, next, highest, remaining⟩ := kept
  exact {
    order := tracked.order.removeStream id
    perspective := side.trans tracked.perspective
    nextStream := next.trans tracked.nextStream
    highest := highest.trans tracked.highest
    ownIDs := tracked.ownIDs
    peerIDs := tracked.peerIDs
    listed := fun other mem => tracked.listed other (remaining other mem)
    counted := fun few => (tracked.counted few).removeStream id (tracked.openWith_lt few) }

theorem step (op : MapOp) : ∃ st' k' r', st.step op = some st' ∧ Tracked pers k' r' st' := by
  cases op with
  | openStream =>
    obtain ⟨k', tracked'⟩ := tracked.unlessClosed false
    exact ⟨_, k', r, rfl, tracked'⟩
  | openUnreliableStream =>
    obtain ⟨k', tracked'⟩ := tracked.unlessClosed true
    exact ⟨_, k', r, rfl, tracked'⟩
  | getOrOpenStream id =>
    obtain ⟨st', r', returned, tracked'⟩ := tracked.getOrOpenStream id
    exact ⟨st', k, r', returned, tracked'⟩
  | getOrOpenStreamType id marker =>
    obtain ⟨r', tracked'⟩ := tracked.getOrOpenStreamType id marker
    exact ⟨_, k, r', rfl, tracked'⟩
  | removeStream id => exact ⟨_, k, r, rfl, tracked.removeStream id⟩
  | acceptStream =>
    refine ⟨_, k, r, rfl, ?_⟩
    unfold StreamsMap.acceptStream
    split
    · exact tracked
    · split
      · exact tracked.sameBooks ⟨rfl, rfl, rfl, rfl, rfl, rfl⟩ { tracked.order with }
      · exact tracked
  | closeWithError err =>
    exact ⟨_, k, r, rfl, tracked.sameBooks (st.map.sameBooks_closeWithError err)
      (tracked.order.closeWithError err).order⟩
  | changeStream id change sameID =>
    exact ⟨_, k, r, rfl, tracked.sameBooks (st.map.sameBooks_modifyStream id change)
      (tracked.order.modifyStream sameID).order⟩
  | moveIndices roundRobinIndex unreliableRobinIndex =>
    exact ⟨_, k, r, rfl, tracked.sameBooks ⟨rfl, rfl, rfl, rfl, rfl, rfl⟩
      { tracked.order with }⟩

/-- Every call of a run returns. -/
theorem run (ops : List MapOp) :
    ∃ st' k' r', ops.foldlM OpeningRun.step st = some st' ∧ Tracked pers k' r' st' := by
  induction ops generalizing k r st with
  | nil => exact ⟨st, k, r, rfl, tracked⟩
  | cons op ops ih =>
    obtain ⟨next, k', r', stepped, tracked'⟩ := tracked.step op
    obtain ⟨final, k'', r'', rest, tracked''⟩ := ih tracked'
    refine ⟨final, k'', r'', ?_, tracked''⟩
    rw [foldlM_cons, stepped]
    exact rest

theorem length_openedHere : st.openedHere.length = k := by
  rw [openedHere, tracked.perspective, tracked.ownIDs, length_map, length_range]

/-- The IDs of the peer up to the highest one were opened once. -/
theorem count_peer (positive : 0 < id)
    (parity : id % 2 = 1 - st.map.localParity) (below : id ≤ st.map.highestStreamOpenedByPeer) :
    st.opened.count id = 1 := by
  rw [localParity_eq_firstStream, tracked.perspective] at parity
  rw [tracked.highest] at below
  have peer : isOwn pers id = false := by
    unfold isOwn
    rw [decide_eq_false_iff_not]
    omega
  have opened : id ∈ (st.opened.filter fun id => !isOwn pers id) := by
    refine mem_filter.mpr ⟨(tracked.mem_peer_iff peer).mpr ?_, by rw [peer]; rfl⟩
    refine ⟨(id - firstPeerStream pers) / 2, ?_, ?_⟩
    all_goals
      unfold peerID at *
      cases pers
      all_goals
        simp only [firstStream, firstPeerStream] at *
        omega
  have nodup : (st.opened.filter fun id => !isOwn pers id).Nodup := by
    rw [tracked.peerIDs]
    exact nodup_peerIDs r
  rw [← count_filter (p := fun id => !isOwn pers id) (mem_filter.mp opened).2]
  exact count_eq_one_of_mem nodup opened

theorem coherent_iff : st.Coherent ↔ k ≤ 2 ^ 31 := by
  rw [← tracked.nodup_iff]
  refine ⟨Coherent.once, fun once => ?_⟩
  have counted := tracked.counted (tracked.nodup_iff.mp once)
  have incoming : st.map.numIncomingStreams = st.map.openWith 1 := counted 1 (by decide)
  have outgoing : st.map.numOutgoingStreams = st.map.openWith 0 := counted 0 (by decide)
  refine ⟨once, ⟨st.map.nodup_openStreams, fun _ => mem_openStreams⟩, incoming, outgoing,
    fun id opened => ?_, fun id => tracked.count_peer⟩
  have positive := openWith_pos opened
  rw [incoming, outgoing]
  rcases Nat.mod_two_eq_zero_or_one id with even | odd
  · rw [if_pos even]
    rwa [even] at positive
  · rw [if_neg (by omega)]
    rwa [odd] at positive

end Tracked

end OpeningRun

open OpeningRun

/-- No stream is opened twice and the map stays coherent exactly if at most `2 ^ 31` streams were
opened on this side. -/
theorem streams_openedOnce_iff (pers : Perspective) (params : ConnectionParametersManager)
    (ops : List MapOp) :
    ∃ st, OpeningRun.run pers params ops = some st ∧
      (st.Coherent ↔ st.openedHere.length ≤ 2 ^ 31) := by
  obtain ⟨st, k, r, reached, tracked⟩ := (Tracked.new pers params).run ops
  refine ⟨st, reached, ?_⟩
  rw [tracked.length_openedHere]
  exact tracked.coherent_iff

/-! ## A server that opens one stream after the other -/

/-- A server without streams that may open one. -/
structure Idle (st : OpeningRun) : Prop where
  server : st.map.perspective = .server
  none : st.map.openStreams = []
  outgoing : st.map.numOutgoingStreams = 0
  notClosed : st.map.closeErr = .none
  even : st.map.nextStream % 2 = 0
  allowed : 0 < st.flow.connectionParameters.getMaxOutgoingStreams

/-- The server with the stream that it opens. -/
structure OpensOnly (st : OpeningRun) (result : OpenResult) : Prop where
  accepted : ∃ s, result.outcome = .ok s
  server : result.map.perspective = .server
  only : result.map.openStreams = [st.map.nextStream]
  outgoing : result.map.numOutgoingStreams = 1
  notClosed : result.map.closeErr = none
  nextStream : result.map.nextStream = addUint32 st.map.nextStream 2
  allowed : 0 < result.flow.connectionParameters.getMaxOutgoingStreams

theorem Idle.opensOnly {st : OpeningRun} (idle : Idle st) :
    OpensOnly st (st.map.openStream st.flow) := by
  have counted : st.map.countLocalStream =
      { st.map with numOutgoingStreams := addUint32 st.map.numOutgoingStreams 1 } := by
    unfold countLocalStream
    split
    · rfl
    · rename_i client
      rw [idle.server] at client
      cases client
  have unused : st.map.nextStream ∉ st.map.streams := by
    rw [← mem_openStreams, idle.none]
    exact not_mem_nil
  have room : ¬st.map.numOutgoingStreams ≥
      st.flow.connectionParameters.getMaxOutgoingStreams := by
    have allowed := idle.allowed
    rw [idle.outgoing]
    omega
  have allowed := idle.allowed
  rw [← connectionParameters_openLocal st.map st.flow false] at allowed
  unfold openStream unlessClosed openStreamImpl
  rw [idle.notClosed]
  unfold StreamsMap.openLocal at allowed ⊢
  rw [if_neg room] at allowed ⊢
  simp only [counted, putStreamType] at allowed ⊢
  rw [dif_neg (show ¬(StreamsMap.newStream _ st.flow st.map.nextStream).2.streamID ∈ _ from unused)]
  exact {
    accepted := ⟨_, rfl⟩
    server := idle.server
    only := congrArg (· ++ [st.map.nextStream]) idle.none
    outgoing := congrArg (addUint32 · 1) idle.outgoing
    notClosed := idle.notClosed
    nextStream := rfl
    allowed := allowed }

/-- A stream is opened and removed. -/
theorem Idle.round {st : OpeningRun} (idle : Idle st) :
    ∃ st', [MapOp.openStream, .removeStream st.map.nextStream].foldlM OpeningRun.step st =
        some st' ∧
      Idle st' ∧ st'.opened = st.opened ++ [st.map.nextStream] ∧
        st'.map.nextStream = addUint32 st.map.nextStream 2 := by
  have opens := idle.opensOnly
  have even := idle.even
  obtain ⟨s, accepted⟩ := opens.accepted
  have mem : st.map.nextStream ∈ (st.map.openStream st.flow).map.streams := by
    rw [← mem_openStreams, opens.only]
    exact mem_singleton_self _
  refine ⟨_, rfl, ?_, congrArg (st.opened ++ ·) (OpenResult.openedID_ok accepted _), ?_⟩
  · dsimp only [after]
    unfold removeStream
    rw [if_pos mem]
    refine ⟨opens.server, ?_, ?_, opens.notClosed, ?_, opens.allowed⟩
    · dsimp only
      rw [opens.only, erase_cons_head]
    · dsimp only
      rw [if_pos even, opens.outgoing]
      rfl
    · dsimp only
      rw [opens.nextStream]
      unfold addUint32
      omega
  · dsimp only [after]
    unfold removeStream
    rw [if_pos mem]
    exact opens.nextStream

/-- `n` streams are opened, and each one is removed before the next. -/
def openAndRemove (n : Nat) : List MapOp :=
  (List.range n).flatMap fun j => [.openStream, .removeStream (ownID .server j)]

theorem run_openAndRemove (n : Nat) :
    ∃ st, OpeningRun.run .server (serverParameters 0 0) (openAndRemove n) = some st ∧ Idle st ∧
      st.opened = (List.range n).map (ownID .server) ∧ st.map.nextStream = ownID .server n := by
  induction n with
  | zero => exact ⟨_, rfl, ⟨rfl, rfl, rfl, rfl, rfl, by decide⟩, rfl, rfl⟩
  | succ n ih =>
    obtain ⟨st, reached, idle, opened, next⟩ := ih
    obtain ⟨st', round, idle', opened', next'⟩ := idle.round
    rw [next] at round opened' next'
    refine ⟨st', ?_, idle', ?_, ?_⟩
    · have calls : openAndRemove (n + 1) =
          openAndRemove n ++ [.openStream, .removeStream (ownID .server n)] := by
        unfold openAndRemove
        rw [range_succ, flatMap_append, flatMap_singleton]
      unfold OpeningRun.run at reached ⊢
      rw [calls, foldlM_append, reached]
      exact round
    · rw [opened', opened, range_succ, map_append]
      rfl
    · rw [next']
      exact Tracked.addUint32_ownID .server n

/-- A server that opens `2 ^ 31 + 1` streams, one after the other, opens stream 2 twice. -/
theorem streams_openedTwice :
    ∃ st, OpeningRun.run .server (serverParameters 0 0) (openAndRemove (2 ^ 31 + 1)) = some st ∧
      ¬st.opened.Nodup ∧ ¬st.Coherent := by
  obtain ⟨st, reached, -, opened, -⟩ := run_openAndRemove (2 ^ 31 + 1)
  have twice : ¬st.opened.Nodup := by
    rw [opened, nodup_ownIDs_iff]
    omega
  exact ⟨st, reached, twice, fun coherent => twice coherent.once⟩

end StreamsMap

end MPQuic
