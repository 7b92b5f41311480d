import MPQuic.StreamFramer.SendLimits

/-!
# Calls of the sending side

Most calls of a session only send: they open streams, change the sending half of a stream, or
count what was sent. A property of the streams and of the flow controllers that does not look at
the sending halves, and that a new stream keeps, is kept by all of them (`SendingKeeps.step`).
The streams may be opened in another way as long as `GetOrOpenStream` keeps it
(`SendingOnly.step`).

They leave everything about receiving alone (`sending_keeps_receiving`).
-/

namespace MPQuic

open FlowControlManager StreamFramer

/-! ## Sending halves -/

/-- The stream without what belongs to its sending half. -/
def Stream.receivingHalf (s : Stream) : Stream :=
  { s with
    writeOffset := 0
    err := none
    finishedWriting := false
    resetLocally := false
    dataForWriting := none
    finSent := false
    rstSent := false }

/-- The receiving half is the same. -/
def Stream.SameReceiving (s s' : Stream) : Prop := s'.receivingHalf = s.receivingHalf

namespace Stream

variable {s s' s'' : Stream}

theorem SameReceiving.trans (first : s.SameReceiving s') (second : s'.SameReceiving s'') :
    s.SameReceiving s'' := Eq.trans second first

/-- What can be seen on the receiving half is the same. -/
theorem SameReceiving.seen {α : Type} (same : s.SameReceiving s') {view : Stream → α}
    (half : ∀ s : Stream, view s.receivingHalf = view s) : view s' = view s :=
  (half s').symm.trans ((congrArg view same).trans (half s))

theorem SameReceiving.streamID (same : s.SameReceiving s') : s'.streamID = s.streamID :=
  same.seen fun _ => rfl

theorem sameReceiving_write (s : Stream) (p : List UInt8) : s.SameReceiving (s.write p).1 := by
  unfold write
  split
  · rfl
  · split
    · rfl
    · split <;> rfl

theorem sameReceiving_sendReset (s : Stream) : s.SameReceiving s.sendReset.1 := by
  unfold sendReset
  split <;> rfl

theorem sameReceiving_reset (s : Stream) (err : StreamError) : s.SameReceiving (s.reset err).1 := by
  unfold reset
  split
  · rfl
  · have marked : s.SameReceiving ({ s with resetLocally := true }.setErr err) := rfl
    exact marked.trans (sameReceiving_sendReset _)

theorem sameReceiving_getDataForWriting (s : Stream) (maxBytes : Nat) :
    s.SameReceiving (s.getDataForWriting maxBytes).1 := by
  unfold getDataForWriting
  split
  · split <;> rfl
  · rfl

end Stream

/-- The controller without what belongs to its sending half. -/
def FlowController.receivingHalf (fc : FlowController) : FlowController :=
  { fc with bytesSent := 0, sendWindow := 0, bytesRetrans := 0 }

theorem FlowController.seen_of_receivingHalf {α : Type} {fc fc' : FlowController}
    (same : fc'.receivingHalf = fc.receivingHalf) {view : FlowController → α}
    (half : ∀ fc : FlowController, view fc.receivingHalf = view fc) : view fc' = view fc :=
  (half fc').symm.trans ((congrArg view same).trans (half fc))

namespace FlowControlManager

variable {f f' f'' : FlowControlManager} {id : Nat} {fc fc' : FlowController}

/-- The receiving halves of all controllers are the same. -/
structure SameReceiving (f f' : FlowControlManager) : Prop where
  streams : ∀ id, (f'.getFlowController id).map FlowController.receivingHalf =
    (f.getFlowController id).map FlowController.receivingHalf
  conn : f'.connFlowController.receivingHalf = f.connFlowController.receivingHalf
  totals : ∀ weight : FlowController → Nat,
    MapSum.total (fun fc => weight fc.receivingHalf) f'.streamFlowController =
      MapSum.total (fun fc => weight fc.receivingHalf) f.streamFlowController

theorem SameReceiving.refl (f : FlowControlManager) : f.SameReceiving f :=
  ⟨fun _ => rfl, rfl, fun _ => rfl⟩

theorem SameReceiving.trans (first : f.SameReceiving f') (second : f'.SameReceiving f'') :
    f.SameReceiving f'' :=
  ⟨fun id => (second.streams id).trans (first.streams id), second.conn.trans first.conn,
    fun weight => (second.totals weight).trans (first.totals weight)⟩

theorem sameReceiving_lifts :
    Lifts (fun _ fc fc' => fc'.receivingHalf = fc.receivingHalf) SameReceiving where
  keeps _ _ := rfl
  connection same := ⟨fun _ => rfl, same, fun _ => rfl⟩
  both {f id fc fc' _} found same connection := by
    refine ⟨fun other => ?_, connection, fun weight => ?_⟩
    · change ((f.setFlowController id fc').getFlowController other).map _ = _
      by_cases isID : other = id
      · rw [isID, getFlowController_setFlowController_self, found, Option.map_some,
          Option.map_some, same]
      · rw [getFlowController_setFlowController_of_ne isID]
    · have sum := MapSum.total_insert_of_some (fun fc => weight fc.receivingHalf) found fc'
      simp only [same] at sum
      exact Nat.add_right_cancel sum

theorem sameReceiving_addBytesSent (f : FlowControlManager) (id n : Nat) :
    f.SameReceiving (f.addBytesSent id n) :=
  sameReceiving_lifts.onBothLevels f id fun _ _ => rfl

theorem sameReceiving_addBytesRetrans (f : FlowControlManager) (id n : Nat) :
    f.SameReceiving (f.addBytesRetrans id n) :=
  sameReceiving_lifts.onBothLevels f id fun _ _ => rfl

theorem sameReceiving_updateWindow (f : FlowControlManager) (id offset : Nat) :
    f.SameReceiving (f.updateWindow id offset) := by
  refine sameReceiving_lifts.onController f id (fun c => (c.updateSendWindow offset).1)
    fun fc => ?_
  unfold FlowController.updateSendWindow
  split <;> rfl

theorem sameReceiving_popRetransmissionLoop (maxLen : Nat) (queue : List StreamFrame)
    (flow : FlowControlManager) (res : List StreamFrame) (currentLen : Nat) :
    flow.SameReceiving (popRetransmissionLoop maxLen queue flow res currentLen).flow :=
  popRetransmissionLoop_rule .refl .trans sameReceiving_addBytesRetrans maxLen queue flow res
    currentLen

end FlowControlManager

/-! ## The closure of the framer -/

namespace StreamFramer

theorem sameReceiving_sendFrame (st : PopState) (mark : Option Bool)
    (maxBytes header window : Nat) (s : Stream) (data : Option (List UInt8)) :
    s.SameReceiving (st.sendFrame mark maxBytes header window s data).stream := by
  simp only [PopState.sendFrame]
  split <;> rfl

theorem sameReceiving_fillFrame (st : PopState) (mark : Option Bool) (maxBytes header : Nat)
    (s : Stream) : s.SameReceiving (st.fillFrame mark maxBytes header s).stream := by
  simp only [PopState.fillFrame]
  by_cases buffered : s.lenOfDataForWriting = 0
  · simp only [buffered, ne_eq, not_true_eq_false, if_false]
    split
    · rfl
    · split
      · rfl
      · exact sameReceiving_sendFrame _ _ _ _ _ s _
  · simp only [buffered, ne_eq, not_false_eq_true, if_true]
    split
    · rfl
    · split
      · exact s.sameReceiving_getDataForWriting _
      · exact (s.sameReceiving_getDataForWriting _).trans (sameReceiving_sendFrame _ _ _ _ _ _ _)

theorem sameReceiving_popFromStream (marks : AList fun _ : Nat => Bool) (maxBytes : Nat)
    (st : PopState) (s : Stream) : s.SameReceiving (popFromStream marks maxBytes st s).stream := by
  unfold popFromStream
  split
  · rfl
  · dsimp only
    split
    · rfl
    · exact sameReceiving_fillFrame _ _ _ _ s

end StreamFramer

/-! ## The rule -/

/-- The call belongs to the sending side, or opens a stream. -/
def SenderOp.sends : SenderOp → Bool
  | .registerRemoteError _ _ => false
  | .addStreamFrame _ _ _ => false
  | .read _ _ _ => false
  | .closeWithError _ => false
  | .garbageCollectStreams => false
  | _ => true

/-- It does not open a stream of a given type or enter a mark. -/
def SenderOp.sendsOnly : SenderOp → Bool
  | .openStream => false
  | .openUnreliableStream => false
  | .getOrOpenStreamType _ _ => false
  | .markUnreliable _ => false
  | op => op.sends

/-- The property says nothing about the sending halves. -/
structure SentKeeps (Keeps : StreamsMap → FlowControlManager → Prop) : Prop where
  sent : ∀ {m : StreamsMap} {flow : FlowControlManager} {id : Nat} {s s' : Stream},
    Keeps m flow → m.streams.lookup id = some s → s.SameReceiving s' →
    Keeps (m.setStream id s') flow
  counted : ∀ {m : StreamsMap} {flow flow' : FlowControlManager}, Keeps m flow →
    flow.SameReceiving flow' → Keeps m flow'

/-- The property is kept by `GetOrOpenStream`, and by everything that only sends. -/
structure SendingOnly (Keeps : StreamsMap → FlowControlManager → Prop) : Prop extends
    SentKeeps Keeps where
  opened : ∀ {m : StreamsMap} {flow : FlowControlManager} {id fuel : Nat}
    {opened : StreamsMap.OpenResult}, Keeps m flow →
    m.getOrOpenStream flow id fuel = some opened → Keeps opened.map opened.flow
  moved : ∀ {m : StreamsMap} {flow : FlowControlManager} (index index' : Nat), Keeps m flow →
    Keeps { m with roundRobinIndex := index, unreliableRobinIndex := index' } flow

/-- The property is about the streams and the receiving halves, and holds for new streams. -/
structure SendingKeeps (Keeps : StreamsMap → FlowControlManager → Prop) : Prop extends
    SentKeeps Keeps where
  map : ∀ {m m' : StreamsMap} {flow : FlowControlManager}, Keeps m flow →
    m'.streams = m.streams → Keeps m' flow
  opened : ∀ {m : StreamsMap} {flow : FlowControlManager} (id : Nat) (mark : Bool),
    Keeps m flow →
    Keeps (m.putStream (newStreamType id mark)) (flow.newStream id (id ≠ 1 ∧ id ≠ 3))

variable {Keeps : StreamsMap → FlowControlManager → Prop} {m : StreamsMap}
  {flow : FlowControlManager} {sender : Sender} {op : SenderOp}

namespace SendingOnly

variable (rule : SendingOnly Keeps)

include rule

theorem maybePopNormalFrames (f : StreamFramer) (maxBytes : Nat) (sendingAllowed : Bool)
    (keeps : Keeps m flow) :
    Keeps (f.maybePopNormalFrames m flow maxBytes sendingAllowed).map
      (f.maybePopNormalFrames m flow maxBytes sendingAllowed).flow := by
  have call : StreamsMap.CallKeeps (popFromStream m.unreliableStreamMark maxBytes)
      fun m st => Keeps m st.flow := by
    intro m' st id s keeps opened
    have sent := rule.sent keeps opened
      (sameReceiving_popFromStream m.unreliableStreamMark maxBytes st s)
    rcases popFromStream_flow m.unreliableStreamMark maxBytes st s with same | ⟨n, -, counted⟩
    · rw [same]
      exact sent
    · rw [counted]
      exact rule.counted sent (sameReceiving_addBytesSent _ _ n)
  exact StreamsMap.roundRobinIterate2_invariant call (fun _ _ keeps => rule.moved _ _ keeps)
    (fun _ _ keeps => rule.moved _ _ keeps) keeps sendingAllowed

theorem popCryptoStreamFrame {maxLen : Nat} {popped : CryptoPop} (keeps : Keeps m flow)
    (call : StreamFramer.popCryptoStreamFrame m flow maxLen = .ok popped) :
    Keeps popped.map popped.flow := by
  obtain ⟨m', flow', cs, crypto, taken⟩ := popCryptoStreamFrame_cases call
  have found := getOrOpenStream_of_cryptoStream crypto
  have keeps' := rule.opened keeps found
  rcases taken with rfl | ⟨_, _, rfl, rfl, -, rfl⟩
  · exact keeps'
  · exact rule.sent keeps' (lookup_of_getOrOpenStream found rfl)
      (cs.sameReceiving_getDataForWriting _)

theorem modifyStream {id : Nat} {change : Stream → Stream} (keeps : Keeps m flow)
    (same : ∀ s : Stream, s.SameReceiving (change s)) : Keeps (m.modifyStream id change) flow :=
  StreamsMap.modifyStream_rule (motive := fun m => Keeps m flow) keeps fun s opened =>
    rule.sent keeps opened (same s)

/-- Every call that only sends keeps the property. -/
theorem step (sends : op.sendsOnly = true) (keeps : Keeps sender.streamsMap sender.flow) :
    Keeps (sender.step op).streamsMap (sender.step op).flow := by
  cases op with
  | getOrOpenStream id fuel =>
    simp only [Sender.step]
    split
    · exact keeps
    · rename_i opened call
      exact rule.opened keeps call
  | write id p => exact rule.modifyStream keeps fun s => s.sameReceiving_write p
  | close id => exact rule.modifyStream keeps fun _ => rfl
  | reset id err => exact rule.modifyStream keeps fun s => s.sameReceiving_reset err
  | updateWindow id offset =>
    exact rule.counted keeps (sameReceiving_updateWindow _ id offset)
  | negotiate params => exact rule.counted keeps ⟨fun _ => rfl, rfl, fun _ => rfl⟩
  | addFrameForRetransmission frame => exact keeps
  | popBlockedFrame => exact keeps
  | popFramesForRetransmission maxLen =>
    exact rule.counted keeps (sameReceiving_popRetransmissionLoop _ _ _ _ _)
  | popNormalFrames maxBytes sendingAllowed =>
    exact rule.maybePopNormalFrames _ maxBytes sendingAllowed keeps
  | popStreamFrames2 maxLen sendingAllowed =>
    have retransmitted := rule.counted keeps
      (sameReceiving_popRetransmissionLoop maxLen
        sender.framer.retransmissionQueue _ [] 0)
    exact rule.maybePopNormalFrames _ _ sendingAllowed retransmitted
  | popCryptoStreamFrame maxLen =>
    simp only [Sender.step]
    split
    · exact keeps
    · rename_i popped call
      exact rule.popCryptoStreamFrame keeps call
  | _ => cases sends

end SendingOnly

/-- Every call of the sending side keeps the property. -/
theorem SendingKeeps.step (rule : SendingKeeps Keeps) (sends : op.sends = true)
    (keeps : Keeps sender.streamsMap sender.flow) :
    Keeps (sender.step op).streamsMap (sender.step op).flow := by
  have typed : StreamsMap.TypedKeeps Keeps :=
    StreamsMap.typedKeeps rule.map fun id keeps => rule.opened id _ keeps
  have only : SendingOnly Keeps :=
    { rule.toSentKeeps with
      opened := typed.getOrOpenStream
      moved := fun _ _ keeps => rule.map keeps rfl }
  cases op with
  | openStream => exact typed.openLocal keeps false
  | openUnreliableStream => exact typed.openLocal keeps true
  | getOrOpenStreamType id marker => exact typed.getOrOpenStreamType keeps id marker
  | markUnreliable id => exact rule.map keeps rfl
  | _ => exact only.step sends keeps

/-! ## Sending and receiving -/

/-- The receiving halves that `sender` had are the same. -/
structure KeepsReceiving (sender : Sender) (m : StreamsMap) (flow : FlowControlManager) : Prop where
  streams : ∀ id ∈ sender.streamsMap.streams, (m.streams.lookup id).map Stream.receivingHalf =
    (sender.streamsMap.streams.lookup id).map Stream.receivingHalf
  controllers : ∀ id ∈ sender.flow.streamFlowController,
    (flow.getFlowController id).map FlowController.receivingHalf =
      (sender.flow.getFlowController id).map FlowController.receivingHalf
  connection :
    flow.connFlowController.receivingHalf = sender.flow.connFlowController.receivingHalf

theorem sendingKeeps_receiving (sender : Sender) : SendingKeeps (KeepsReceiving sender) where
  map keeps same := ⟨same ▸ keeps.streams, keeps.controllers, keeps.connection⟩
  opened := fun {m flow} other mark keeps => by
    refine ⟨fun id known => ?_, fun id known => ?_, ?_⟩
    · have same := keeps.streams id known
      obtain ⟨s, found⟩ := MapSum.exists_lookup known
      rw [found] at same ⊢
      obtain ⟨s', opened, -⟩ := Option.map_eq_some_iff.mp same
      rw [(opens_putStream m other mark).kept id s' opened, ← opened, same]
    · have same := keeps.controllers id known
      unfold newStream
      split
      · exact same
      · rename_i missing
        have differ : id ≠ other := by
          rintro rfl
          rw [missing, eq_comm, Option.map_none, Option.map_eq_none_iff] at same
          exact AList.lookup_eq_none.mp same known
        rw [getFlowController_setFlowController_of_ne differ, same]
    · unfold newStream
      split <;> exact keeps.connection
  sent := fun {m flow other s s'} keeps opened same => by
    refine ⟨fun id known => ?_, keeps.controllers, keeps.connection⟩
    rw [← keeps.streams id known]
    by_cases isOther : id = other
    · rw [isOther, StreamsMap.lookup_setStream_self opened, opened]
      exact congrArg some same
    · rw [StreamsMap.lookup_setStream_of_ne isOther]
  counted keeps same := ⟨keeps.streams,
    fun id known => (same.streams id).trans (keeps.controllers id known),
    same.conn.trans keeps.connection⟩

/-- Sending leaves receiving alone. Whatever calls of the sending side a session gets, from any
state, the receiving halves of its streams and of its windows stay as they are. -/
theorem sending_keeps_receiving (sender : Sender) (ops : List SenderOp) :
    let after := (ops.filter SenderOp.sends).foldl Sender.step sender
    KeepsReceiving sender after.streamsMap after.flow := by
  refine List.foldlRecOn _ _
    (motive := fun st : Sender => KeepsReceiving sender st.streamsMap st.flow)
    ⟨fun _ _ => rfl, fun _ _ => rfl, rfl⟩ ?_
  intro st keeps op mem
  exact (sendingKeeps_receiving sender).step (List.mem_filter.mp mem).2 keeps

end MPQuic
