import MPQuic.FlowControl.ReceiveWindow
import MPQuic.StreamFramer.Sending

/-!
# The sender keeps to the windows of the peer

The peer grants a limit to every stream and one to the connection, first by the negotiated
parameters and later by WINDOW_UPDATE frames. `granted` is the largest limit that was granted
so far, for a stream or, with ID 0, for the connection. In every run of a session the bytes
sent on a stream, and the bytes sent on all streams that count for the connection, those
included that were removed since (`Sender.removedStreams`), stay within the granted limits
(`sender_keeps_to_windows`).

Only the closure of `maybePopNormalFrames` counts sent bytes, never more than the window it
looked up before (`popFromStream_flow`). Every other call keeps the sending half of the flow
controllers (`KeepsSent`).
-/

namespace MPQuic

open FlowController List

/-! ## Granted limits -/

/-- The negotiated window of a stream; ID 0 stands for the connection. -/
def ConnectionParametersManager.initialSendWindow (params : ConnectionParametersManager)
    (id : Nat) : Nat :=
  if id = 0 then params.sendConnectionFlowControlWindow else params.sendStreamFlowControlWindow

/-- The limits for a stream that come with a call. -/
def SenderOp.grants (id : Nat) : SenderOp → List Nat
  | .updateWindow streamID offset => if streamID = id then [offset] else []
  | .negotiate params => [params.initialSendWindow id]
  | _ => []

/-- The largest limit of a stream so far. -/
def granted (params : ConnectionParametersManager) (ops : List SenderOp) (id : Nat) : Nat :=
  (params.initialSendWindow id :: ops.flatMap (SenderOp.grants id)).foldr max 0

/-- What a controller adds to the bytes sent on the connection. -/
def FlowController.contributedBytes (fc : FlowController) : Nat :=
  if fc.contributesToConnection then fc.bytesSent else 0

/-- The bytes sent on the streams that count for the connection. -/
def FlowControlManager.contributedBytes (f : FlowControlManager) : Nat :=
  MapSum.total FlowController.contributedBytes f.streamFlowController

/-! ## Calls that count no sent bytes -/

/-- The sending half of a controller is the same. -/
structure FlowController.SameSending (fc fc' : FlowController) : Prop where
  streamID : fc'.streamID = fc.streamID
  contributes : fc'.contributesToConnection = fc.contributesToConnection
  bytesSent : fc'.bytesSent = fc.bytesSent
  sendWindow : fc'.sendWindow = fc.sendWindow

theorem FlowController.SameSending.trans {fc fc' fc'' : FlowController}
    (first : fc.SameSending fc') (second : fc'.SameSending fc'') : fc.SameSending fc'' where
  streamID := second.streamID.trans first.streamID
  contributes := second.contributes.trans first.contributes
  bytesSent := second.bytesSent.trans first.bytesSent
  sendWindow := second.sendWindow.trans first.sendWindow

/-- The controllers of the streams that `f'` has none for. -/
def FlowControlManager.removedIn (f f' : FlowControlManager) : List FlowController :=
  (MapSum.without f.streamFlowController f'.streamFlowController).entries.map Sigma.snd

/-- The controllers of the streams that a call removes. -/
def Sender.collected (sender : Sender) : SenderOp → List FlowController
  | .garbageCollectStreams => sender.flow.removedIn (sender.step .garbageCollectStreams).flow
  | _ => []

/-- The controllers of the streams removed in a run, as they were last. The source keeps no
record of them. -/
def Sender.removedStreams (sender : Sender) : List SenderOp → List FlowController
  | [] => []
  | op :: ops => sender.collected op ++ (sender.step op).removedStreams ops

theorem FlowController.SameSending.contributedBytes_eq {fc fc' : FlowController}
    (same : fc.SameSending fc') : fc'.contributedBytes = fc.contributedBytes := by
  unfold contributedBytes
  rw [same.contributes, same.bytesSent]

namespace FlowControlManager

/-- A controller that nothing was sent or granted on yet. -/
structure Unsent (id : Nat) (fc : FlowController) : Prop where
  streamID : fc.streamID = id
  bytesSent : fc.bytesSent = 0
  sendWindow : fc.sendWindow = 0

/-- No bytes were sent and no limits were granted; streams may come and go. -/
structure KeepsSent (f f' : FlowControlManager) : Prop where
  params : f'.connectionParameters = f.connectionParameters
  conn : f.connFlowController.SameSending f'.connFlowController
  streams : ∀ id fc', f'.getFlowController id = some fc' →
    (∃ fc, f.getFlowController id = some fc ∧ fc.SameSending fc') ∨ Unsent id fc'

variable {f f' f'' : FlowControlManager} {id : Nat} {fc fc' : FlowController}

theorem KeepsSent.refl (f : FlowControlManager) : f.KeepsSent f :=
  ⟨rfl, ⟨rfl, rfl, rfl, rfl⟩, fun _ fc found => Or.inl ⟨fc, found, ⟨rfl, rfl, rfl, rfl⟩⟩⟩

theorem KeepsSent.trans (first : f.KeepsSent f') (second : f'.KeepsSent f'') : f.KeepsSent f'' := by
  refine ⟨second.params.trans first.params, first.conn.trans second.conn, ?_⟩
  intro id fc'' found''
  rcases second.streams id fc'' found'' with ⟨fc', found', same'⟩ | new
  · rcases first.streams id fc' found' with ⟨fc, found, same⟩ | new
    · exact Or.inl ⟨fc, found, same.trans same'⟩
    · exact Or.inr ⟨same'.streamID.trans new.streamID, same'.bytesSent.trans new.bytesSent,
        same'.sendWindow.trans new.sendWindow⟩
  · exact Or.inr new

/-- The controllers were changed in their receiving halves. -/
theorem keepsSent_lifts : Lifts (fun _ => FlowController.SameSending) KeepsSent where
  keeps _ _ := ⟨rfl, rfl, rfl, rfl⟩
  connection same := ⟨rfl, same, (KeepsSent.refl _).streams⟩
  both found same connection := by
    refine ⟨rfl, connection, ?_⟩
    intro other changed foundOther
    rcases MapSum.lookup_of_insert foundOther with ⟨rfl, rfl⟩ | ⟨-, before⟩
    · exact Or.inl ⟨_, found, same⟩
    · exact Or.inl ⟨changed, before, ⟨rfl, rfl, rfl, rfl⟩⟩

theorem keepsSent_addBytesRead (f : FlowControlManager) (env : FlowEnv) (id n : Nat) :
    f.KeepsSent (f.addBytesRead env id n) :=
  keepsSent_lifts.onBothLevels f id fun _ _ => ⟨rfl, rfl, rfl, rfl⟩

theorem keepsSent_addBytesRetrans (f : FlowControlManager) (id n : Nat) :
    f.KeepsSent (f.addBytesRetrans id n) :=
  keepsSent_lifts.onBothLevels f id fun _ _ => ⟨rfl, rfl, rfl, rfl⟩

theorem keepsSent_updateHighestReceived (f : FlowControlManager) (id byteOffset : Nat) :
    f.KeepsSent (f.updateHighestReceived id byteOffset).1 := by
  refine keepsSent_lifts.updateHighestReceived (fun fc _ => ?_) fun _ _ _ => ⟨rfl, rfl, rfl, rfl⟩
  unfold FlowController.updateHighestReceived
  split
  · exact ⟨rfl, rfl, rfl, rfl⟩
  · split <;> exact ⟨rfl, rfl, rfl, rfl⟩

theorem keepsSent_newStream (f : FlowControlManager) (id : Nat) (contributes : Bool) :
    f.KeepsSent (f.newStream id contributes) := by
  unfold newStream
  split
  · exact .refl f
  · have unsent : Unsent id (newFlowController id contributes f.connectionParameters) := by
      unfold newFlowController
      split <;> exact ⟨rfl, rfl, rfl⟩
    refine ⟨rfl, ⟨rfl, rfl, rfl, rfl⟩, ?_⟩
    intro other fc' found
    rcases MapSum.lookup_of_insert found with ⟨rfl, rfl⟩ | ⟨-, before⟩
    · exact Or.inr unsent
    · exact Or.inl ⟨fc', before, ⟨rfl, rfl, rfl, rfl⟩⟩

theorem keepsSent_removeStream (f : FlowControlManager) (id : Nat) :
    f.KeepsSent (f.removeStream id) := by
  refine ⟨rfl, ⟨rfl, rfl, rfl, rfl⟩, ?_⟩
  intro other fc' found
  exact Or.inl ⟨fc', (MapSum.lookup_of_erase found).2, ⟨rfl, rfl, rfl, rfl⟩⟩

/-- The streams that are left contribute what they did, and new ones nothing. -/
theorem KeepsSent.contributed (keeps : f.KeepsSent f') :
    f'.contributedBytes + ((f.removedIn f').map FlowController.contributedBytes).sum ≤
      f.contributedBytes := by
  rw [removedIn, map_map]
  refine MapSum.total_without FlowController.contributedBytes fun id fc' found => ?_
  rcases keeps.streams id fc' found with ⟨fc, before, same⟩ | new
  · exact Or.inl ⟨fc, before, same.contributedBytes_eq⟩
  · right
    rw [FlowController.contributedBytes, new.bytesSent, ite_self]

theorem exists_of_mem_removedIn (mem : fc ∈ f.removedIn f') :
    ∃ id, f.getFlowController id = some fc := by
  obtain ⟨entry, member, rfl⟩ := mem_map.mp mem
  have found := Option.mem_def.mp (mem_dlookup (AList.nodupKeys _) member)
  refine ⟨entry.1, ?_⟩
  have before := MapSum.lookup_without f.streamFlowController f'.streamFlowController entry.1
  split at before
  · cases found.symm.trans before
  · exact before.symm.trans found

end FlowControlManager

open FlowControlManager

/-! ## Sessions -/

section Calls

variable {m : StreamsMap} {flow : FlowControlManager}

theorem keepsSent_typedKeeps (flow : FlowControlManager) :
    StreamsMap.TypedKeeps fun _ flow' => flow.KeepsSent flow' :=
  StreamsMap.typedKeeps (fun keeps _ => keeps) fun id keeps =>
    keeps.trans (keepsSent_newStream _ id _)

theorem keepsSent_collectStreams (ids : List Nat) (state : StreamsMap × FlowControlManager) :
    state.2.KeepsSent (ids.foldl collectStream state).2 :=
  collectStreams_rule (motive := fun _ flow => state.2.KeepsSent flow)
    (fun id keeps => keeps.trans (keepsSent_removeStream _ id)) ids (.refl _)

theorem keepsSent_addStreamFrame (s : Stream) (flow : FlowControlManager)
    (frame : StreamFrame) (timeStamp : Int) :
    flow.KeepsSent (s.addStreamFrame flow frame timeStamp).2.1 := by
  have one := keepsSent_updateHighestReceived flow s.streamID
    (addUint64 frame.offset frame.dataLen)
  simp only [Stream.addStreamFrame]
  split
  · exact one
  · split
    · exact one
    · split <;> exact one

theorem keepsSent_readFrame {s s' : Stream} {flow' : FlowControlManager} {env : FlowEnv}
    {frame : StreamFrame} {room : Nat} {copied : List UInt8}
    (read : s.readFrame flow env frame room = .ok (s', flow', copied)) : flow.KeepsSent flow' := by
  obtain ⟨-, counted, -⟩ := Stream.readFrame_cases read
  rw [counted]
  split
  · exact .refl flow
  · exact keepsSent_addBytesRead flow env s.streamID _

theorem keepsSent_read {s : Stream} {clock : Nat → FlowEnv} {length : Nat}
    {r : Stream.ReadResult} (read : s.read flow clock length = .ok r) : flow.KeepsSent r.flow := by
  have rounds : Stream.ReadKeeps fun _ flow' => flow.KeepsSent flow' :=
    { headed := fun keeps _ => keeps
      placed := fun _ keeps => keeps
      copied := fun keeps _ _ _ _ read => keeps.trans (keepsSent_readFrame read) }
  exact rounds.read (.refl flow) read

/-- What counting a retransmission keeps, the loop over the queue keeps. -/
theorem popRetransmissionLoop_rule {R : FlowControlManager → FlowControlManager → Prop}
    (refl : ∀ f, R f f) (trans : ∀ {f f' f''}, R f f' → R f' f'' → R f f'')
    (counted : ∀ f id n, R f (f.addBytesRetrans id n)) (maxLen : Nat) (queue : List StreamFrame) :
    ∀ (flow : FlowControlManager) (res : List StreamFrame) (currentLen : Nat),
      R flow (StreamFramer.popRetransmissionLoop maxLen queue flow res currentLen).flow := by
  induction queue with
  | nil => exact fun flow _ _ => refl flow
  | cons frame queue ih =>
    intro flow res currentLen
    simp only [StreamFramer.popRetransmissionLoop]
    split
    · exact refl flow
    · split
      · exact counted flow _ _
      · exact trans (counted flow _ _) (ih _ _ _)

theorem keepsSent_popRetransmissionLoop (maxLen : Nat) (queue : List StreamFrame)
    (flow : FlowControlManager) (res : List StreamFrame) (currentLen : Nat) :
    flow.KeepsSent (StreamFramer.popRetransmissionLoop maxLen queue flow res currentLen).flow :=
  popRetransmissionLoop_rule .refl .trans keepsSent_addBytesRetrans maxLen queue flow res currentLen

theorem keepsSent_popCryptoStreamFrame {maxLen : Nat} {popped : StreamFramer.CryptoPop}
    (call : StreamFramer.popCryptoStreamFrame m flow maxLen = .ok popped) :
    flow.KeepsSent popped.flow := by
  obtain ⟨m', flow', cs, crypto, taken⟩ := StreamFramer.popCryptoStreamFrame_cases call
  have keeps : flow.KeepsSent flow' := (keepsSent_typedKeeps flow).getOrOpenStream (.refl flow)
    (StreamFramer.getOrOpenStream_of_cryptoStream crypto)
  rcases taken with rfl | ⟨_, _, rfl, rfl, -, rfl⟩
  · exact keeps
  · exact keeps

end Calls

/-! ## Sending within the windows -/

namespace FlowControlManager

/-- The limit granted so far bounds the window of a controller and the bytes it has counted. -/
structure Bounded (limit : Nat → Nat) (id : Nat) (fc : FlowController) : Prop where
  streamID : fc.streamID = id
  sendWindow : fc.sendWindow ≤ limit id
  bytesSent : fc.bytesSent ≤ limit id

/-- The limits granted so far bound all controllers, and the bytes that were sent on the streams
that count for the connection, when removed ones have sent `removed` of them. -/
structure WithinLimits (limit : Nat → Nat) (removed : Nat) (f : FlowControlManager) : Prop where
  params : ∀ id, f.connectionParameters.initialSendWindow id ≤ limit id
  streams : ∀ id fc, f.getFlowController id = some fc → Bounded limit id fc
  conn : Bounded limit 0 f.connFlowController
  contributed : removed + f.contributedBytes ≤ f.connFlowController.bytesSent

variable {limit : Nat → Nat} {f f' : FlowControlManager} {removed id n : Nat}
  {fc fc' : FlowController} {params : ConnectionParametersManager}

theorem Bounded.same (bounded : Bounded limit id fc) (same : fc.SameSending fc') :
    Bounded limit id fc' where
  streamID := same.streamID.trans bounded.streamID
  sendWindow := same.sendWindow ▸ bounded.sendWindow
  bytesSent := same.bytesSent ▸ bounded.bytesSent

theorem Bounded.updateSendWindow {offset : Nat} (bounded : Bounded limit id fc)
    (grants : offset ≤ limit id) : Bounded limit id (fc.updateSendWindow offset).1 := by
  unfold FlowController.updateSendWindow
  split
  · exact { bounded with sendWindow := grants }
  · exact bounded

/-- What a window leaves stays within the limit. -/
theorem Bounded.bytesSent_add_le (bounded : Bounded limit id fc)
    (initial : params.initialSendWindow id ≤ limit id)
    (fits : n ≤ fc.sendWindowSize params) : fc.bytesSent + n ≤ limit id := by
  have window : fc.getSendWindow params ≤ limit id := by
    unfold getSendWindow
    split
    · rw [bounded.streamID]
      exact initial
    · exact bounded.sendWindow
  have bytesSent := bounded.bytesSent
  unfold FlowController.sendWindowSize at fits
  split at fits <;> omega

section

variable (within : f.WithinLimits limit removed)

include within

/-- What removed streams have sent is still counted. -/
theorem WithinLimits.collected (keeps : f.KeepsSent f') :
    f'.WithinLimits limit
      (removed + ((f.removedIn f').map FlowController.contributedBytes).sum) := by
  refine ⟨?_, ?_, within.conn.same keeps.conn, ?_⟩
  · rw [keeps.params]
    exact within.params
  · intro id fc' found
    rcases keeps.streams id fc' found with ⟨fc, before, same⟩ | new
    · exact (within.streams id fc before).same same
    · exact ⟨new.streamID, new.sendWindow ▸ Nat.zero_le _, new.bytesSent ▸ Nat.zero_le _⟩
  · rw [keeps.conn.bytesSent]
    have before := within.contributed
    have after := keeps.contributed
    omega

theorem WithinLimits.keepsSent (keeps : f.KeepsSent f') : f'.WithinLimits limit removed :=
  have collected := within.collected keeps
  { collected with contributed := by have := collected.contributed; omega }

/-- A change of one controller, and of the connection by as much as the stream contributes. -/
theorem WithinLimits.change {conn : FlowController}
    (found : f.getFlowController id = some fc) (stream : Bounded limit id fc')
    (connection : Bounded limit 0 conn)
    (contributed : f.connFlowController.bytesSent + fc'.contributedBytes ≤
      conn.bytesSent + fc.contributedBytes) :
    WithinLimits limit removed
      { f.setFlowController id fc' with connFlowController := conn } := by
  refine ⟨within.params, ?_, connection, ?_⟩
  · intro other changed foundOther
    rcases MapSum.lookup_of_insert foundOther with ⟨rfl, rfl⟩ | ⟨-, before⟩
    · exact stream
    · exact within.streams other changed before
  · have sum : (f.setFlowController id fc').contributedBytes + fc.contributedBytes =
        f.contributedBytes + fc'.contributedBytes :=
      MapSum.total_insert_of_some FlowController.contributedBytes found fc'
    have before := within.contributed
    change removed + (f.setFlowController id fc').contributedBytes ≤ conn.bytesSent
    omega

theorem WithinLimits.updateWindow {offset : Nat} (grants : offset ≤ limit id) :
    (f.updateWindow id offset).WithinLimits limit removed := by
  have sent (fc : FlowController) : (fc.updateSendWindow offset).1.bytesSent = fc.bytesSent ∧
      (fc.updateSendWindow offset).1.contributedBytes = fc.contributedBytes := by
    unfold updateSendWindow
    split <;> exact ⟨rfl, rfl⟩
  unfold FlowControlManager.updateWindow
  split
  · rename_i isConn
    subst isConn
    refine ⟨within.params, within.streams, within.conn.updateSendWindow grants, ?_⟩
    rw [(sent _).1]
    exact within.contributed
  · split
    · exact within
    · rename_i fc found
      exact within.change found ((within.streams id fc found).updateSendWindow grants) within.conn
        (by rw [(sent fc).2])

theorem WithinLimits.negotiate (grants : ∀ id, params.initialSendWindow id ≤ limit id) :
    WithinLimits limit removed { f with connectionParameters := params } :=
  { within with params := grants }

end

/-- Bytes within the window of the stream, and of the connection if it contributes. -/
theorem WithinLimits.addBytesSent (within : f.WithinLimits limit removed)
    (word : limit 0 < 2 ^ 64) (fits : n ≤ (f.sendWindowSize id).getD 0) :
    (f.addBytesSent id n).WithinLimits limit removed := by
  unfold FlowControlManager.addBytesSent onBothLevels
  split
  · exact within
  · rename_i fc found
    have bounded := within.streams id fc found
    unfold FlowControlManager.sendWindowSize at fits
    rw [found] at fits
    simp only [Option.map_some, Option.getD_some] at fits
    have fitsStream : n ≤ fc.sendWindowSize f.connectionParameters := by
      split at fits
      · exact fits.trans (min_le_left _ _)
      · exact fits
    have sum := bounded.bytesSent_add_le (within.params id) fitsStream
    have stream : Bounded limit id (fc.addBytesSent n) :=
      { bounded with bytesSent := (Nat.mod_le _ _).trans sum }
    dsimp only
    split
    · rename_i contributes
      have fitsConn : n ≤ f.connFlowController.sendWindowSize f.connectionParameters := by
        rw [if_pos contributes] at fits
        exact fits.trans (min_le_right _ _)
      have connSum := within.conn.bytesSent_add_le (within.params 0) fitsConn
      have connBytes : (f.connFlowController.addBytesSent n).bytesSent =
          f.connFlowController.bytesSent + n := Nat.mod_eq_of_lt (by omega)
      have streamBytes : (fc.addBytesSent n).contributedBytes ≤ fc.contributedBytes + n := by
        have isSum : (fc.addBytesSent n).bytesSent ≤ fc.bytesSent + n := Nat.mod_le _ _
        have contributes' : (fc.addBytesSent n).contributesToConnection = true := contributes
        rw [FlowController.contributedBytes, FlowController.contributedBytes,
          if_pos contributes, if_pos contributes']
        exact isSum
      refine within.change found stream { within.conn with bytesSent := connBytes ▸ connSum } ?_
      change _ ≤ (f.connFlowController.addBytesSent n).bytesSent + _
      omega
    · rename_i alone
      have same : (fc.addBytesSent n).contributedBytes = fc.contributedBytes := by
        have alone' : ¬(fc.addBytesSent n).contributesToConnection = true := alone
        rw [FlowController.contributedBytes, FlowController.contributedBytes, if_neg alone,
          if_neg alone']
      exact within.change found stream within.conn (by rw [same])

end FlowControlManager

namespace StreamFramer

variable {limit : Nat → Nat} {st : PopState} {s : Stream}

/-! ## The closure -/

theorem PopState.flow_updateFrame (st : PopState) (change : StreamFrame → StreamFrame) :
    (st.updateFrame change).flow = st.flow := by
  unfold updateFrame
  split <;> rfl

theorem PopState.flow_queueBlocked (st : PopState) (streamID sendWindowSize : Nat) :
    (st.queueBlocked streamID sendWindowSize).flow = st.flow := by
  obtain ⟨blocked, same⟩ := st.queueBlocked_eq streamID sendWindowSize
  rw [same]

theorem PopState.flow_sendFrame (st : PopState) (mark : Option Bool)
    (maxBytes header window : Nat) (s : Stream) (data : Option (List UInt8)) :
    (st.sendFrame mark maxBytes header window s data).state.flow =
      st.flow.addBytesSent s.streamID (data.getD []).length := by
  have sameID : (if s.shouldSendFin then s.sentFin else s).streamID = s.streamID := by
    split <;> rfl
  simp only [sendFrame, appendFrame, flow_updateFrame, flow_queueBlocked, sameID]

theorem getDataForWriting_le (s : Stream) (maxBytes : Nat) :
    ((s.getDataForWriting maxBytes).2.getD []).length ≤ maxBytes ∧
      (s.getDataForWriting maxBytes).1.streamID = s.streamID := by
  unfold Stream.getDataForWriting
  split
  · split
    · exact ⟨length_take_le _ _, rfl⟩
    · rename_i fits
      exact ⟨Nat.le_of_not_lt fits, rfl⟩
  · exact ⟨Nat.zero_le _, rfl⟩

/-- One call counts no more bytes than the windows leave, wherever its pointer stands. -/
theorem popFromStream_flow (marks : AList fun _ : Nat => Bool) (maxBytes : Nat) (st : PopState)
    (s : Stream) :
    (popFromStream marks maxBytes st s).state.flow = st.flow ∨
      ∃ n, n ≤ (st.flow.sendWindowSize s.streamID).getD 0 ∧
        (popFromStream marks maxBytes st s).state.flow = st.flow.addBytesSent s.streamID n := by
  unfold popFromStream
  split
  · exact Or.inl rfl
  · dsimp only
    split
    · exact Or.inl (st.flow_updateFrame _)
    · generalize named : st.updateFrame _ = st'
      have sameFlow : st'.flow = st.flow := by
        rw [← named]
        exact st.flow_updateFrame _
      rw [← sameFlow]
      generalize st'.current.minLength = header
      simp only [PopState.fillFrame]
      by_cases buffered : s.lenOfDataForWriting = 0
      · simp only [buffered, ne_eq, not_true_eq_false, if_false]
        split
        · exact Or.inl rfl
        · split
          · exact Or.inl rfl
          · exact Or.inr ⟨0, Nat.zero_le _, PopState.flow_sendFrame _ _ _ _ _ _ _⟩
      · simp only [buffered, ne_eq, not_false_eq_true, if_true]
        split
        · exact Or.inl rfl
        · split
          · exact Or.inl rfl
          · obtain ⟨short, sameID⟩ := getDataForWriting_le s
              (min (maxBytes - st'.currentLen - header)
                ((st'.flow.sendWindowSize s.streamID).getD 0))
            refine Or.inr ⟨_, short.trans (min_le_right _ _), ?_⟩
            rw [PopState.flow_sendFrame, sameID]

theorem withinLimits_maybePopNormalFrames {flow : FlowControlManager} {removed : Nat}
    (within : flow.WithinLimits limit removed) (word : limit 0 < 2 ^ 64) (f : StreamFramer)
    (m : StreamsMap) (maxBytes : Nat) (sendingAllowed : Bool) :
    (f.maybePopNormalFrames m flow maxBytes sendingAllowed).flow.WithinLimits limit removed := by
  have call : StreamsMap.CallKeeps (popFromStream m.unreliableStreamMark maxBytes)
      fun _ st => st.flow.WithinLimits limit removed := by
    intro _ st _ s within _
    rcases popFromStream_flow m.unreliableStreamMark maxBytes st s with same | ⟨n, fits, counted⟩
    · rw [same]
      exact within
    · rw [counted]
      exact within.addBytesSent word fits
  exact StreamsMap.roundRobinIterate2_invariant call (fun _ _ keeps => keeps)
    (fun _ _ keeps => keeps) within sendingAllowed

end StreamFramer

/-! ## Runs -/

namespace Sender

open StreamFramer

variable {limit : Nat → Nat} {removed : Nat} {sender : Sender}

/-- The flow controllers after a step, by the limits that the step brings. -/
theorem withinLimits_step (within : sender.flow.WithinLimits limit removed)
    (word : limit 0 < 2 ^ 64) (op : SenderOp)
    (grants : ∀ id, ∀ offset ∈ op.grants id, offset ≤ limit id) :
    (sender.step op).flow.WithinLimits limit
      (removed + ((sender.collected op).map FlowController.contributedBytes).sum) := by
  cases op with
  | openStream => exact within.keepsSent ((keepsSent_typedKeeps _).openLocal (.refl _) false)
  | openUnreliableStream =>
    exact within.keepsSent ((keepsSent_typedKeeps _).openLocal (.refl _) true)
  | getOrOpenStream id fuel =>
    simp only [Sender.step]
    split
    · exact within
    · rename_i opened call
      exact within.keepsSent ((keepsSent_typedKeeps _).getOrOpenStream (.refl _) call)
  | getOrOpenStreamType id marker =>
    exact within.keepsSent
      ((keepsSent_typedKeeps _).getOrOpenStreamType (.refl _) id marker)
  | addStreamFrame id frame timeStamp =>
    simp only [Sender.step]
    split
    · exact within
    · exact within.keepsSent (keepsSent_addStreamFrame _ _ frame timeStamp)
  | read id clock length =>
    simp only [Sender.step]
    split
    · exact within
    · split
      · exact within
      · rename_i r read
        exact within.keepsSent (keepsSent_read read)
  | garbageCollectStreams =>
    exact within.collected
      (keepsSent_collectStreams sender.streamsMap.openStreams (sender.streamsMap, sender.flow))
  | updateWindow id offset =>
    apply within.updateWindow
    apply grants id
    rw [SenderOp.grants, if_pos rfl]
    exact mem_singleton_self offset
  | negotiate params =>
    apply within.negotiate
    exact fun id => grants id _ (mem_singleton_self _)
  | popFramesForRetransmission maxLen =>
    exact within.keepsSent (keepsSent_popRetransmissionLoop _ _ _ _ _)
  | popNormalFrames maxBytes sendingAllowed =>
    exact withinLimits_maybePopNormalFrames within word _ _ _ _
  | popStreamFrames2 maxLen sendingAllowed =>
    have retransmitted := within.keepsSent
      (keepsSent_popRetransmissionLoop maxLen sender.framer.retransmissionQueue _ [] 0)
    exact withinLimits_maybePopNormalFrames retransmitted word _ _ _ _
  | popCryptoStreamFrame maxLen =>
    simp only [Sender.step]
    split
    · exact within
    · rename_i popped call
      exact within.keepsSent (keepsSent_popCryptoStreamFrame call)
  | _ => exact within

theorem removed_within (within : sender.flow.WithinLimits limit removed) (op : SenderOp) :
    ∀ fc ∈ sender.collected op, fc.bytesSent ≤ limit fc.streamID := by
  intro fc mem
  cases op with
  | garbageCollectStreams =>
    obtain ⟨id, found⟩ := exists_of_mem_removedIn mem
    have bounded := within.streams id fc found
    rw [bounded.streamID]
    exact bounded.bytesSent
  | _ => cases mem

end Sender

theorem le_foldr_max {n : Nat} {limits : List Nat} (mem : n ∈ limits) : n ≤ limits.foldr max 0 := by
  induction limits with
  | nil => exact absurd mem not_mem_nil
  | cons first limits ih =>
    rw [foldr_cons]
    rcases mem_cons.mp mem with rfl | rest
    · exact le_max_left _ _
    · exact (ih rest).trans (le_max_right _ _)

theorem le_granted_of_mem {params : ConnectionParametersManager} {ops : List SenderOp}
    {op : SenderOp} {id offset : Nat} (mem : op ∈ ops) (grants : offset ∈ op.grants id) :
    offset ≤ granted params ops id :=
  le_foldr_max (mem_cons_of_mem _ (mem_flatMap.mpr ⟨op, mem, grants⟩))

theorem withinLimits_newFlowControlManager {params : ConnectionParametersManager}
    {limit : Nat → Nat} (initial : ∀ id, params.initialSendWindow id ≤ limit id) :
    (newFlowControlManager params).WithinLimits limit 0 where
  params := initial
  streams id fc found := by cases found
  conn := ⟨rfl, Nat.zero_le _, Nat.zero_le _⟩
  contributed := Nat.zero_le _

/-- In every run, no stream has sent more bytes than the largest limit it was granted so far, and
the streams that count for the connection, removed or not, together no more than the largest limit
of the connection, which is a 64-bit word. -/
theorem sender_keeps_to_windows (pers : Perspective) (params : ConnectionParametersManager)
    (ops : List SenderOp) (word : granted params ops 0 < 2 ^ 64) :
    let flow := (Sender.run pers (newFlowControlManager params) ops).flow
    let removed := (newSender pers (newFlowControlManager params)).removedStreams ops
    (∀ id fc, flow.getFlowController id = some fc → fc.bytesSent ≤ granted params ops id) ∧
    (∀ fc ∈ removed, fc.bytesSent ≤ granted params ops fc.streamID) ∧
    (removed.map FlowController.contributedBytes).sum + flow.contributedBytes ≤
      flow.connFlowController.bytesSent ∧
    flow.connFlowController.bytesSent ≤ granted params ops 0 := by
  intro flow removed
  -- the limits of the whole run bound every state on the way
  suffices within : ∀ (rest : List SenderOp) (sender : Sender) (before : Nat),
      (∀ op ∈ rest, op ∈ ops) → sender.flow.WithinLimits (granted params ops) before →
      (rest.foldl Sender.step sender).flow.WithinLimits (granted params ops)
        (before + ((sender.removedStreams rest).map FlowController.contributedBytes).sum) ∧
      ∀ fc ∈ sender.removedStreams rest, fc.bytesSent ≤ granted params ops fc.streamID by
    obtain ⟨final, gone⟩ := within ops (newSender pers (newFlowControlManager params)) 0
      (fun _ mem => mem)
      (withinLimits_newFlowControlManager fun id => le_foldr_max mem_cons_self)
    rw [zero_add] at final
    exact ⟨fun id fc found => (final.streams id fc found).bytesSent, gone, final.contributed,
      final.conn.bytesSent⟩
  intro rest
  induction rest with
  | nil => exact fun _ _ _ within => ⟨within, forall_mem_nil _⟩
  | cons op rest ih =>
    intro sender before known within
    have stepped := Sender.withinLimits_step within word op fun id offset grants =>
      le_granted_of_mem (known op mem_cons_self) grants
    obtain ⟨final, gone⟩ := ih _ _ (fun op mem => known op (mem_cons_of_mem _ mem)) stepped
    rw [Sender.removedStreams, map_append, sum_append, ← add_assoc]
    exact ⟨final, forall_mem_append.mpr ⟨Sender.removed_within within op, gone⟩⟩

/-- The peer resets stream 5 when its six bytes are out, and it is removed. -/
def resetAfterSending : List SenderOp :=
  exactFillOps ++ [.popNormalFrames 100 true, .registerRemoteError 5 .eof, .garbageCollectStreams]

theorem sender_keeps_to_windows_removed :
    let flow := newFlowControlManager (serverParameters 0 0)
    let limit := granted (serverParameters 0 0) resetAfterSending 0
    let removed := (newSender .server flow).removedStreams resetAfterSending
    let conn := (Sender.run .server flow resetAfterSending).flow.connFlowController
    limit < 2 ^ 64 ∧ removed.map FlowController.contributedBytes = [6] ∧ conn.bytesSent = 6 ∧
      conn.bytesSent ≤ limit :=
  ⟨by decide, by decide, by decide,
    (sender_keeps_to_windows .server (serverParameters 0 0) _ (by decide)).2.2.2⟩

end MPQuic
