import MPQuic.FlowControl.StreamCredit
import MPQuic.StreamsMap.StreamTypes

/-!
# The credit that streams return to the connection

Runs of the receiving side of a session: frames and resets arrive on any number of streams, the
streams are read, and finished streams are removed. The connection counts what the streams
receive in `highestReceived` and what is read from them in `bytesRead`; the difference is taken
from the window that the peer may use.

A stream that is removed should have been read, for the connection, up to all that it received.
This holds as long as a reset comes at an offset that was read already, the final offset of a
stream is not passed, and no fin bit comes with data whose last byte was received before
(`connection_credit_returned`). After a reset `Read` counts nothing, so the bytes that were
received and not read before are lost to the connection (`credit_lost_after_reset`).
-/

namespace MPQuic

open List StreamFrameSorter FlowController FlowControlManager MapSum

/-! ## Runs -/

/-- A session with a record of its removed streams. -/
structure CreditState where
  sender : Sender
  /-- the controllers of the removed streams that counted for the connection; the source keeps
  no such record -/
  removed : List FlowController

/-- The calls of both sides of a session. -/
inductive CreditOp where
  /-- a call of the sending side, or one that opens streams -/
  | sending (op : SenderOp) (sends : op.sends = true)
  | addStreamFrame (id : Nat) (frame : StreamFrame) (timeStamp : Int)
  | read (id : Nat) (clock : Nat → FlowEnv) (length : Nat)
  | rstStream (id : Nat) (err : StreamError) (byteOffset : Nat)
  | garbageCollectStreams

/-- The controller of a stream if it is gone and counted for the connection. -/
def removedController (id : Nat) (before after : FlowControlManager) : List FlowController :=
  match before.getFlowController id, after.getFlowController id with
  | some fc, none => if fc.contributesToConnection then [fc] else []
  | _, _ => []

/-- `collectStream`, with a record of what it removes. -/
def collectRecorded (state : (StreamsMap × FlowControlManager) × List FlowController) (id : Nat) :
    (StreamsMap × FlowControlManager) × List FlowController :=
  let collected := collectStream state.1 id
  (collected, removedController id state.1.2 collected.2 ++ state.2)

theorem fst_foldl_collectRecorded (ids : List Nat)
    (state : (StreamsMap × FlowControlManager) × List FlowController) :
    (ids.foldl collectRecorded state).1 = ids.foldl collectStream state.1 := by
  induction ids generalizing state with
  | nil => rfl
  | cons id ids ih => exact ih (collectRecorded state id)

namespace CreditState

/-- The run ends with an error of `AddStreamFrame` or of `ResetStream`, which closes the
session. -/
def step (st : CreditState) : CreditOp → Option CreditState
  | .sending op _ => some { st with sender := st.sender.step op }
  | .addStreamFrame id frame timeStamp =>
    match st.sender.streamsMap.streams.lookup id with
    | none => some st
    | some s =>
      if (s.addStreamFrame st.sender.flow frame timeStamp).2.2 = none then
        some { st with sender := st.sender.step (.addStreamFrame id frame timeStamp) }
      else none
  | .read id clock length => some { st with sender := st.sender.step (.read id clock length) }
  | .rstStream id err byteOffset =>
    let opened := st.sender.openFor id
    if id ∈ opened.streamsMap.streams ∧ (opened.flow.resetStream id byteOffset).2 ≠ none then
      none
    else some { st with sender := st.sender.handleRstStreamFrame id err byteOffset }
  | .garbageCollectStreams =>
    some
      { sender := st.sender.step .garbageCollectStreams
        removed := (st.sender.streamsMap.openStreams.foldl collectRecorded
          ((st.sender.streamsMap, st.sender.flow), st.removed)).2 }

/-- A new session. -/
def start (pers : Perspective) (params : ConnectionParametersManager) : CreditState where
  sender := newSender pers (newFlowControlManager params)
  removed := []

/-- A run from a new session, `none` if it ends with an error. -/
def run (pers : Perspective) (params : ConnectionParametersManager) (ops : List CreditOp) :
    Option CreditState :=
  ops.foldlM step (start pers params)

end CreditState

/-! ## The condition -/

/-- The bytes that were read on a stream. -/
def FlowControlManager.bytesReadOn (f : FlowControlManager) (id : Nat) : Nat :=
  ((f.getFlowController id).map bytesRead).getD 0

/-- The condition on a call in the state before it. Streams that do not count for the
connection are free. -/
def CreditOp.Safe (st : CreditState) : CreditOp → Prop
  | .addStreamFrame id frame _ => ∀ s fc, st.sender.streamsMap.streams.lookup id = some s →
    st.sender.flow.getFlowController id = some fc → fc.contributesToConnection = true →
    FrameFits s fc frame
  | .rstStream id _ byteOffset =>
    id = 1 ∨ id = 3 ∨ byteOffset ≤ st.sender.flow.bytesReadOn id
  | _ => True

/-! ## All streams -/

/-- The bytes read that count for the connection. -/
def FlowController.contributedRead (fc : FlowController) : Nat :=
  if fc.contributesToConnection then fc.bytesRead else 0

/-- The bytes received that count for the connection. -/
def FlowController.contributedReceived (fc : FlowController) : Nat :=
  if fc.contributesToConnection then fc.highestReceived else 0

/-- The two totals of the connection, and the streams they come from. -/
structure Accounts (removed : List FlowController) (m : StreamsMap) (flow : FlowControlManager) :
    Prop where
  full : ∀ fc ∈ removed, fc.bytesRead = fc.highestReceived
  streamID : ∀ id s, m.streams.lookup id = some s → s.streamID = id
  uncancelled : ∀ id s, m.streams.lookup id = some s → s.cancelled = false
  controlled : ∀ id, id ∈ m.streams ↔ id ∈ flow.streamFlowController
  contributes : ∀ id fc, flow.getFlowController id = some fc →
    fc.contributesToConnection = decide (id ≠ 1 ∧ id ≠ 3)
  credit : ∀ id s fc, m.streams.lookup id = some s → flow.getFlowController id = some fc →
    fc.contributesToConnection = true → Credit s fc
  bytesRead : flow.connFlowController.bytesRead =
    ((removed.map FlowController.highestReceived).sum +
      MapSum.total contributedRead flow.streamFlowController) % 2 ^ 64
  highestReceived : flow.connFlowController.highestReceived =
    ((removed.map FlowController.highestReceived).sum +
      MapSum.total FlowController.contributedReceived flow.streamFlowController) % 2 ^ 64

namespace Accounts

variable {removed : List FlowController} {m m' : StreamsMap} {flow flow' : FlowControlManager}
  {id : Nat} {s s' : Stream} {fc fc' conn : FlowController} {frame : StreamFrame}

theorem exists_controller (accounts : Accounts removed m flow)
    (opened : m.streams.lookup id = some s) : ∃ fc, flow.getFlowController id = some fc := by
  have mem : id ∈ m.streams := mem_of_lookup opened
  exact exists_lookup ((accounts.controlled id).mp mem)

/-- The streams are the same. -/
theorem congr_map (accounts : Accounts removed m flow)
    (same : ∀ id, m'.streams.lookup id = m.streams.lookup id) : Accounts removed m' flow :=
  { accounts with
    streamID := fun id s opened => accounts.streamID id s (same id ▸ opened)
    uncancelled := fun id s opened => accounts.uncancelled id s (same id ▸ opened)
    controlled := fun id => by
      rw [← AList.lookup_isSome, same id, AList.lookup_isSome]
      exact accounts.controlled id
    credit := fun id s fc opened => accounts.credit id s fc (same id ▸ opened) }

/-- One controller was changed, and the totals by as much. -/
structure Changes (flow flow' : FlowControlManager) (id : Nat) (fc fc' : FlowController) :
    Prop where
  self : flow'.getFlowController id = some fc'
  others : ∀ other, other ≠ id → flow'.getFlowController other = flow.getFlowController other
  totals : ∀ weight : FlowController → Nat,
    MapSum.total weight flow'.streamFlowController + weight fc =
      MapSum.total weight flow.streamFlowController + weight fc'

theorem changes_refl (found : flow.getFlowController id = some fc) : Changes flow flow id fc fc :=
  ⟨found, fun _ _ => rfl, fun _ => rfl⟩

theorem changes_set (found : flow.getFlowController id = some fc) (fc' conn : FlowController) :
    Changes flow { flow.setFlowController id fc' with connFlowController := conn } id fc fc' :=
  ⟨getFlowController_setFlowController_self flow id fc', fun _ other =>
    getFlowController_setFlowController_of_ne other flow fc',
    fun weight => total_insert_of_some weight found fc'⟩

section

variable (accounts : Accounts removed m flow)

include accounts

/-- A stream and its controller were changed, and the connection by as much. -/
theorem update (opened : m.streams.lookup id = some s)
    (found : flow.getFlowController id = some fc) (changes : Changes flow flow' id fc fc')
    (sameID : s'.streamID = s.streamID) (uncancelled : s'.cancelled = s.cancelled)
    (contributes : fc'.contributesToConnection = fc.contributesToConnection)
    (credit : fc.contributesToConnection = true → Credit s' fc')
    {read received : Nat} (streamRead : fc'.contributedRead = fc.contributedRead + read)
    (connRead : flow'.connFlowController.bytesRead =
      addUint64 flow.connFlowController.bytesRead read)
    (streamReceived : fc'.contributedReceived = fc.contributedReceived + received)
    (connReceived : flow'.connFlowController.highestReceived =
      addUint64 flow.connFlowController.highestReceived received) :
    Accounts removed (m.setStream id s') flow' := by
  have controller {other : Nat} {fc'' : FlowController}
      (foundOther : flow'.getFlowController other = some fc'') :
      other = id ∧ fc'' = fc' ∨ other ≠ id ∧ flow.getFlowController other = some fc'' := by
    by_cases isID : other = id
    · rw [isID, changes.self] at foundOther
      exact Or.inl ⟨isID, (Option.some.inj foundOther).symm⟩
    · rw [changes.others other isID] at foundOther
      exact Or.inr ⟨isID, foundOther⟩
  refine ⟨accounts.full, fun other s'' openedOther => ?_, fun other s'' openedOther => ?_,
    fun other => ?_, fun other fc'' foundOther => ?_,
    fun other s'' fc'' openedOther foundOther contributing => ?_, ?_, ?_⟩
  · rcases StreamsMap.lookup_of_setStream openedOther with ⟨rfl, rfl⟩ | ⟨-, old⟩
    · exact sameID.trans (accounts.streamID _ s opened)
    · exact accounts.streamID other s'' old
  · rcases StreamsMap.lookup_of_setStream openedOther with ⟨rfl, rfl⟩ | ⟨-, old⟩
    · exact uncancelled.trans (accounts.uncancelled _ s opened)
    · exact accounts.uncancelled other s'' old
  · rw [StreamsMap.mem_setStream, accounts.controlled, ← AList.lookup_isSome,
      ← AList.lookup_isSome]
    by_cases isID : other = id
    · rw [isID, show flow.streamFlowController.lookup id = some fc from found,
        show flow'.streamFlowController.lookup id = some fc' from changes.self]
      exact Iff.rfl
    · exact iff_of_eq (congrArg (fun found => found.isSome = true)
        (changes.others other isID).symm)
  · rcases controller foundOther with ⟨rfl, rfl⟩ | ⟨-, old⟩
    · exact contributes.trans (accounts.contributes _ fc found)
    · exact accounts.contributes other fc'' old
  · rcases StreamsMap.lookup_of_setStream openedOther with ⟨rfl, rfl⟩ | ⟨other, oldStream⟩
    · rcases controller foundOther with ⟨-, rfl⟩ | ⟨other, -⟩
      · exact credit (contributes ▸ contributing)
      · exact absurd rfl other
    · rcases controller foundOther with ⟨isID, -⟩ | ⟨-, oldController⟩
      · exact absurd isID other
      · exact accounts.credit _ s'' fc'' oldStream oldController contributing
  · have sum := changes.totals contributedRead
    rw [streamRead] at sum
    rw [connRead, accounts.bytesRead, addUint64_mod]
    congr 1
    omega
  · have sum := changes.totals FlowController.contributedReceived
    rw [streamReceived] at sum
    rw [connReceived, accounts.highestReceived, addUint64_mod]
    congr 1
    omega

theorem add_zero_bytesRead :
    flow.connFlowController.bytesRead = addUint64 flow.connFlowController.bytesRead 0 := by
  rw [accounts.bytesRead, addUint64_mod, add_zero]

theorem add_zero_highestReceived :
    flow.connFlowController.highestReceived =
      addUint64 flow.connFlowController.highestReceived 0 := by
  rw [accounts.highestReceived, addUint64_mod, add_zero]

section

variable (opened : m.streams.lookup id = some s)

include opened

/-- Only a stream was changed. -/
theorem setStream (sameID : s'.streamID = s.streamID) (uncancelled : s'.cancelled = s.cancelled)
    (credit : ∀ fc, Credit s fc → Credit s' fc) : Accounts removed (m.setStream id s') flow := by
  obtain ⟨fc, found⟩ := accounts.exists_controller opened
  exact accounts.update opened found (changes_refl found) sameID uncancelled rfl
    (fun contributing => credit fc (accounts.credit id s fc opened found contributing))
    rfl accounts.add_zero_bytesRead rfl accounts.add_zero_highestReceived

/-! ### Frames and resets -/

/-- The highest offset of a stream went up, and that of the connection by as much. -/
theorem received (found : flow.getFlowController id = some fc) (sameID : s'.streamID = s.streamID)
    (uncancelled : s'.cancelled = s.cancelled) {offset : Nat}
    (credit : fc.contributesToConnection = true →
      Credit s' { fc with highestReceived := max fc.highestReceived offset })
    (checked : (flow.checkReceived id offset (fc.updateHighestReceived offset).2.1
      (fc.updateHighestReceived offset).1).2 = none) :
    Accounts removed (m.setStream id s')
      (flow.checkReceived id offset (fc.updateHighestReceived offset).2.1
        (fc.updateHighestReceived offset).1).1 := by
  rw [fc.updateHighestReceived_eq offset] at checked ⊢
  simp only [checkReceived] at checked ⊢
  split at checked
  · cases checked
  · rename_i allowed
    rw [if_neg allowed]
    split at checked
    · rename_i contributing
      rw [if_pos contributing]
      exact accounts.update opened found (changes_set found _ _) sameID uncancelled rfl credit
        rfl accounts.add_zero_bytesRead
        (by simp only [FlowController.contributedReceived, contributing, if_true]; omega) rfl
    · rename_i alone
      rw [if_neg alone]
      exact accounts.update opened found (changes_set found _ flow.connFlowController) sameID
        uncancelled rfl credit rfl accounts.add_zero_bytesRead
        (by simp only [FlowController.contributedReceived, alone, if_false, add_zero,
          Bool.false_eq_true])
        accounts.add_zero_highestReceived

theorem addStreamFrame {timeStamp : Int}
    (fits : ∀ fc, flow.getFlowController id = some fc → fc.contributesToConnection = true →
      FrameFits s fc frame)
    (ok : (s.addStreamFrame flow frame timeStamp).2.2 = none) :
    Accounts removed (m.setStream id (s.addStreamFrame flow frame timeStamp).1)
      (s.addStreamFrame flow frame timeStamp).2.1 := by
  obtain ⟨fc, found⟩ := accounts.exists_controller opened
  obtain ⟨updated, queued, counted⟩ := Stream.addStreamFrame_ok ok
  rw [accounts.streamID id s opened] at updated counted
  rw [queued, counted]
  simp only [FlowControlManager.updateHighestReceived, found] at updated ⊢
  apply accounts.received opened found ?_ ?_ ?_ updated
  · rfl
  · rfl
  intro contributing
  have fits := fits fc found contributing
  have small := fits.small
  unfold maxByteCount at small
  refine (accounts.credit id s fc opened found contributing).push fits timeStamp ?_ rfl
  rw [addUint64_of_lt (by unfold StreamFrame.dataLen; omega)]
  rfl

/-- A reset at an offset that was read. -/
theorem resetStream (err : StreamError) {byteOffset : Nat}
    (safe : id = 1 ∨ id = 3 ∨ byteOffset ≤ flow.bytesReadOn id)
    (ok : (flow.resetStream id byteOffset).2 = none) :
    Accounts removed (m.setStream id (s.registerRemoteError err).1)
      (flow.resetStream id byteOffset).1 := by
  obtain ⟨fc, found⟩ := accounts.exists_controller opened
  simp only [FlowControlManager.resetStream, found] at ok ⊢
  split at ok
  · cases ok
  · rename_i notSmaller
    rw [if_neg notSmaller]
    rw [fc.updateHighestReceived_eq byteOffset] at notSmaller
    simp only [decide_eq_true_eq] at notSmaller
    obtain ⟨sameID, uncancelled, registered⟩ := s.registerRemoteError_receiving err
    refine accounts.received opened found sameID uncancelled (fun contributing => ?_) ok
    have credit := accounts.credit id s fc opened found contributing
    have below : byteOffset ≤ fc.bytesRead := by
      have counts := accounts.contributes id fc found
      rw [contributing] at counts
      have isStream := of_decide_eq_true counts.symm
      have safe := (safe.resolve_left isStream.1).resolve_left isStream.2
      rw [bytesReadOn, found] at safe
      exact safe
    have within := credit.within
    exact (credit.reset (by omega) byteOffset (by omega)).sameReceiving registered rfl

end

end

/-! ### Reading -/

theorem setStream_setStream (accounts : Accounts removed ((m.setStream id s).setStream id s') flow)
    (mem : id ∈ m.streams) : Accounts removed (m.setStream id s') flow := by
  refine accounts.congr_map fun other => ?_
  have inside : id ∈ (m.setStream id s).streams := StreamsMap.mem_setStream.mpr mem
  obtain ⟨before, opened⟩ := exists_lookup mem
  obtain ⟨between, opened'⟩ := exists_lookup inside
  by_cases isID : other = id
  · rw [isID, StreamsMap.lookup_setStream_self opened, StreamsMap.lookup_setStream_self opened']
  · rw [StreamsMap.lookup_setStream_of_ne isID, StreamsMap.lookup_setStream_of_ne isID,
      StreamsMap.lookup_setStream_of_ne isID]

section

variable (accounts : Accounts removed m flow)

include accounts

/-- Copying from the frame at the head. -/
theorem readFrame {s' : Stream} {env : FlowEnv} {room : Nat} {data : List UInt8}
    (opened : m.streams.lookup id = some s) (unfinished : s.finishedReading = false)
    (head : s.frameQueue.queuedFrames.lookup s.frameQueue.readPosition = some frame)
    (position : s.readPosInFrame = Stream.intOfUint64 (subUint64 s.readOffset frame.offset))
    (inside : s.readPosInFrame ≤ (frame.dataLen : Int))
    (read : s.readFrame flow env frame room = .ok (s', flow', data)) :
    Accounts removed (m.setStream id s') flow' := by
  obtain ⟨fc, found⟩ := accounts.exists_controller opened
  obtain ⟨nonneg, counted, result⟩ := Stream.readFrame_cases read
  have fits : min room (frame.data.drop s.readPosInFrame.toNat).length ≤
      frame.data.length - s.readPosInFrame.toNat := by
    rw [length_drop]
    exact min_le_right _ _
  generalize min room (frame.data.drop s.readPosInFrame.toNat).length = n at counted result fits
  have same : s'.streamID = s.streamID ∧ s'.cancelled = s.cancelled := by
    rcases result with rfl | ⟨-, popped, -, rfl⟩ <;> exact ⟨rfl, rfl⟩
  have dequeued {popped : StreamFrameSorter × Option StreamFrame}
      (pop : s.frameQueue.pop env.now = .ok popped) : popped.1 = s.frameQueue.dequeue frame := by
    rw [pop_of_lookup head] at pop
    cases pop
    rfl
  cases reset : s.resetRemotely with
  | true =>
    rw [counted, reset, if_pos rfl]
    refine accounts.setStream opened same.1 same.2 fun fc credit => ?_
    have moved := credit.movedUncounted reset (s.readPosInFrame + n) (addUint64 s.readOffset n)
    rcases result with rfl | ⟨-, popped, pop, rfl⟩
    · exact moved
    · rw [dequeued pop]
      exact moved.popped head (fun _ => credit.returned (Or.inr reset)) unfinished
  | false =>
    rw [accounts.streamID id s opened, reset] at counted
    simp only [Bool.false_eq_true, if_false, FlowControlManager.addBytesRead,
      FlowControlManager.onBothLevels, found] at counted
    have credit (contributing : fc.contributesToConnection = true) :
        Credit s' (fc.addBytesRead env n) ∧
          (fc.addBytesRead env n).bytesRead = fc.bytesRead + n := by
      have credit := accounts.credit id s fc opened found contributing
      obtain ⟨below, full⟩ :=
        credit.read_le reset unfinished head position nonneg inside fits
      have moved := credit.moved reset unfinished env below (s.readPosInFrame + n)
      have small := credit.small
      unfold maxByteCount at small
      have exact : (fc.addBytesRead env n).bytesRead = fc.bytesRead + n :=
        addUint64_of_lt (by omega)
      refine ⟨?_, exact⟩
      rcases result with rfl | ⟨ends, popped, pop, rfl⟩
      · exact moved
      · rw [dequeued pop, unfinished, Bool.false_or]
        exact moved.popped head (fun fin => exact.trans (full ends fin)) unfinished
    cases contributing : fc.contributesToConnection with
    | true =>
      obtain ⟨credit', exact⟩ := credit contributing
      rw [contributing, if_pos rfl] at counted
      rw [counted]
      exact accounts.update opened found (changes_set found _ _) same.1 same.2 rfl
        (fun _ => credit')
        (by
          unfold contributedRead
          rw [contributing, show (fc.addBytesRead env n).contributesToConnection = true from
            contributing, if_pos rfl, if_pos rfl]
          exact exact)
        rfl rfl accounts.add_zero_highestReceived
    | false =>
      rw [contributing, if_neg Bool.false_ne_true] at counted
      rw [counted]
      refine accounts.update opened found
        (changes_set found (fc.addBytesRead env n) flow.connFlowController) same.1 same.2 rfl
        (fun counts => (by rw [contributing] at counts; cases counts)) ?_
        accounts.add_zero_bytesRead rfl accounts.add_zero_highestReceived
      unfold contributedRead
      rw [contributing, show (fc.addBytesRead env n).contributesToConnection = false from
        contributing]
      rfl

theorem read (opened : m.streams.lookup id = some s) {clock : Nat → FlowEnv} {length : Nat}
    {r : Stream.ReadResult} (read : s.read flow clock length = .ok r) :
    Accounts removed (m.setStream id r.stream) r.flow := by
  have mem : id ∈ m.streams := mem_of_lookup opened
  have again {s : Stream} := StreamsMap.lookup_setStream_self opened s
  have rounds : Stream.ReadKeeps fun s flow => Accounts removed (m.setStream id s) flow :=
    { headed := fun {s flow now queue frame} accounts head => by
        refine setStream_setStream (accounts.setStream again rfl rfl fun fc credit => ?_) mem
        exact credit.head (credit.sound.head head).1
      placed := fun {s flow} pos accounts => by
        refine setStream_setStream (accounts.setStream again rfl rfl fun fc credit => ?_) mem
        exact ⟨credit.sound, credit.small, credit.beyond, credit.offset, credit.within,
          credit.returned, credit.ends⟩
      copied := fun {s s' flow flow' env frame room data} accounts unfinished source position
          inside read => by
        obtain ⟨queue, headed⟩ := source
        exact setStream_setStream (accounts.readFrame again unfinished
          (head_cases headed).2.symm position inside read) mem }
  exact rounds.read (accounts.congr_map (StreamsMap.lookup_setStream_same opened)) read

/-! ### Opening and removing -/

theorem opened (id : Nat) (mark : Bool) :
    Accounts removed (m.putStream (newStreamType id mark))
      (flow.newStream id (id ≠ 1 ∧ id ≠ 3)) := by
  have newID : (newStreamType id mark).streamID = id := rfl
  unfold StreamsMap.putStream
  split
  · rename_i used
    have controlled : id ∈ flow.streamFlowController := (accounts.controlled id).mp used
    obtain ⟨fc, found⟩ := exists_lookup controlled
    have same : flow.newStream id (id ≠ 1 ∧ id ≠ 3) = flow := by
      rw [newStream,
        show flow.getFlowController id = some fc from found]
    rw [same]
    exact accounts
  · rename_i unused
    have uncontrolled : flow.getFlowController id = none :=
      AList.lookup_eq_none.mpr fun controlled => unused ((accounts.controlled id).mpr controlled)
    have isNew : flow.newStream id (id ≠ 1 ∧ id ≠ 3) = flow.setFlowController id
        (newFlowController id (id ≠ 1 ∧ id ≠ 3) flow.connectionParameters) := by
      rw [newStream, uncontrolled]
    have credit := Credit.new id mark (id ≠ 1 ∧ id ≠ 3) flow.connectionParameters
    obtain ⟨contributes, unread, unreceived⟩ :=
      newFlowController_receiving id (id ≠ 1 ∧ id ≠ 3) flow.connectionParameters
    rw [isNew]
    generalize newFlowController id (id ≠ 1 ∧ id ≠ 3) flow.connectionParameters = new at *
    refine ⟨accounts.full, fun other s openedOther => ?_, fun other s openedOther => ?_,
      fun other => ?_, fun other fc foundOther => ?_,
      fun other s fc openedOther foundOther contributing => ?_, ?_, ?_⟩
    · rcases lookup_of_insert openedOther with ⟨rfl, rfl⟩ | ⟨-, old⟩
      · rfl
      · exact accounts.streamID other s old
    · rcases lookup_of_insert openedOther with ⟨rfl, rfl⟩ | ⟨-, old⟩
      · rfl
      · exact accounts.uncancelled other s old
    · refine (AList.mem_insert _).trans (Iff.trans ?_ (AList.mem_insert _).symm)
      exact or_congr Iff.rfl (accounts.controlled other)
    · rcases lookup_of_insert foundOther with ⟨rfl, rfl⟩ | ⟨-, old⟩
      · exact contributes
      · exact accounts.contributes other fc old
    · rcases lookup_of_insert openedOther with ⟨rfl, rfl⟩ | ⟨other, oldStream⟩
      · rcases lookup_of_insert foundOther with ⟨-, rfl⟩ | ⟨other, -⟩
        · exact credit
        · exact absurd rfl other
      · rcases lookup_of_insert foundOther with ⟨isID, -⟩ | ⟨-, oldController⟩
        · exact absurd isID other
        · exact accounts.credit _ s fc oldStream oldController contributing
    · have sum := total_insert_of_none contributedRead uncontrolled new
      rw [contributedRead, unread, ite_self, zero_add] at sum
      exact accounts.bytesRead.trans (by rw [← sum]; rfl)
    · have sum := total_insert_of_none FlowController.contributedReceived uncontrolled new
      rw [FlowController.contributedReceived, unreceived, ite_self, zero_add] at sum
      exact accounts.highestReceived.trans (by rw [← sum]; rfl)

/-- Everything that a finished stream received is read. -/
theorem full_of_finished {id : Nat} {s : Stream} {fc : FlowController}
    (opened : m.streams.lookup id = some s) (found : flow.getFlowController id = some fc)
    (finished : s.finished = true) (contributing : fc.contributesToConnection = true) :
    fc.bytesRead = fc.highestReceived := by
  refine (accounts.credit id s fc opened found contributing).returned ?_
  have uncancelled := accounts.uncancelled id s opened
  unfold Stream.finished at finished
  rw [uncancelled] at finished
  cases read : s.finishedReading with
  | true => exact Or.inl rfl
  | false =>
    cases reset : s.resetRemotely with
    | true => exact Or.inr rfl
    | false => simp [read, reset] at finished

end

/-- What is recorded of a controller that is removed. -/
theorem removedController_removeStream {id : Nat} {fc : FlowController}
    (found : flow.getFlowController id = some fc)
    (full : fc.contributesToConnection = true → fc.bytesRead = fc.highestReceived) :
    ((removedController id flow (flow.removeStream id)).map
        FlowController.highestReceived).sum = fc.contributedReceived ∧
      fc.contributedRead = fc.contributedReceived ∧
      ∀ fc' ∈ removedController id flow (flow.removeStream id),
        fc'.bytesRead = fc'.highestReceived := by
  have gone : (flow.removeStream id).getFlowController id = none := AList.lookup_erase id _
  rw [removedController, found, gone]
  cases contributing : fc.contributesToConnection with
  | true =>
    simp [contributedRead, FlowController.contributedReceived, contributing,
      full contributing]
  | false =>
    simp [contributedRead, FlowController.contributedReceived, contributing]

/-- A finished stream is removed, with everything that it received read. -/
theorem collected (accounts : Accounts removed m flow) (id : Nat) :
    Accounts (collectRecorded ((m, flow), removed) id).2
      (collectRecorded ((m, flow), removed) id).1.1
      (collectRecorded ((m, flow), removed) id).1.2 := by
  simp only [collectRecorded, collectStream]
  split
  · rename_i absent
    have uncontrolled : flow.getFlowController id = none :=
      AList.lookup_eq_none.mpr fun controlled =>
        AList.lookup_eq_none.mp absent ((accounts.controlled id).mpr controlled)
    rw [removedController, uncontrolled]
    exact accounts
  · rename_i s opened
    obtain ⟨fc, found⟩ := accounts.exists_controller opened
    split
    · rename_i finished
      have mem : id ∈ m.streams := mem_of_lookup opened
      have read := total_erase contributedRead found
      have received := total_erase FlowController.contributedReceived found
      obtain ⟨recordedSum, sameSum, recordedFull⟩ :=
        removedController_removeStream found (accounts.full_of_finished opened found finished)
      have isRemoved : (m.removeStream id).1.streams = m.streams.erase id := by
        rw [StreamsMap.removeStream, if_pos mem]
      refine ⟨fun fc' member => ?_, fun other s' openedOther => ?_, fun other s' openedOther => ?_,
        fun other => ?_, fun other fc' foundOther => ?_,
        fun other s' fc' openedOther foundOther contributing => ?_, ?_, ?_⟩
      · rcases mem_append.mp member with now | before
        · exact recordedFull fc' now
        · exact accounts.full fc' before
      · exact accounts.streamID other s' (lookup_of_erase (isRemoved ▸ openedOther)).2
      · exact accounts.uncancelled other s' (lookup_of_erase (isRemoved ▸ openedOther)).2
      · rw [isRemoved]
        refine AList.mem_erase.trans (Iff.trans ?_ AList.mem_erase.symm)
        exact and_congr Iff.rfl (accounts.controlled other)
      · exact accounts.contributes other fc' (lookup_of_erase foundOther).2
      · exact accounts.credit other s' fc' (lookup_of_erase (isRemoved ▸ openedOther)).2
          (lookup_of_erase foundOther).2 contributing
      · have before := accounts.bytesRead
        rw [map_append, sum_append, recordedSum]
        change flow.connFlowController.bytesRead =
          (_ + MapSum.total _ (flow.streamFlowController.erase id)) % _
        rw [before]
        congr 1
        omega
      · have before := accounts.highestReceived
        rw [map_append, sum_append, recordedSum]
        change flow.connFlowController.highestReceived =
          (_ + MapSum.total _ (flow.streamFlowController.erase id)) % _
        rw [before]
        congr 1
        omega
    · rw [removedController, found]
      exact accounts

theorem collectedAll (accounts : Accounts removed m flow) (ids : List Nat) :
    Accounts (ids.foldl collectRecorded ((m, flow), removed)).2
      (ids.foldl collectRecorded ((m, flow), removed)).1.1
      (ids.foldl collectRecorded ((m, flow), removed)).1.2 := by
  induction ids generalizing m flow removed with
  | nil => exact accounts
  | cons id ids ih => exact ih (accounts.collected id)

/-! ## Whole runs -/

/-- The sending side does not touch the accounts. -/
theorem sendingKeeps (removed : List FlowController) : SendingKeeps (Accounts removed) where
  map accounts same := accounts.congr_map fun id => congrArg (AList.lookup id) same
  opened id mark accounts := accounts.opened id mark
  sent accounts opened same := accounts.setStream opened (same.seen fun _ => rfl)
    (same.seen fun _ => rfl) fun _ credit => credit.sameReceiving same rfl
  counted := fun {m flow flow'} accounts same => by
    have controller {id : Nat} {fc' : FlowController}
        (found : flow'.getFlowController id = some fc') :
        ∃ fc, flow.getFlowController id = some fc ∧ fc'.receivingHalf = fc.receivingHalf := by
      have half := same.streams id
      rw [found, Option.map_some] at half
      obtain ⟨fc, before, sameHalf⟩ := Option.map_eq_some_iff.mp half.symm
      exact ⟨fc, before, sameHalf.symm⟩
    refine ⟨accounts.full, accounts.streamID, accounts.uncancelled, fun id => ?_,
      fun id fc' found => ?_, fun id s fc' opened found contributing => ?_, ?_, ?_⟩
    · have half := congrArg Option.isSome (same.streams id)
      rw [Option.isSome_map, Option.isSome_map] at half
      rw [accounts.controlled, ← AList.lookup_isSome, ← AList.lookup_isSome]
      exact iff_of_eq (congrArg (· = true) half.symm)
    · obtain ⟨fc, before, half⟩ := controller found
      exact (seen_of_receivingHalf half fun _ => rfl).trans
        (accounts.contributes id fc before)
    · obtain ⟨fc, before, half⟩ := controller found
      refine (accounts.credit id s fc opened before ?_).sameReceiving rfl half
      exact (seen_of_receivingHalf half fun _ => rfl).symm.trans contributing
    · have conn : flow'.connFlowController.bytesRead = flow.connFlowController.bytesRead :=
        seen_of_receivingHalf same.conn fun _ => rfl
      rw [conn, accounts.bytesRead]
      exact congrArg (fun total => (_ + total) % 2 ^ 64)
        (same.totals contributedRead).symm
    · have conn : flow'.connFlowController.highestReceived =
          flow.connFlowController.highestReceived :=
        seen_of_receivingHalf same.conn fun _ => rfl
      rw [conn, accounts.highestReceived]
      exact congrArg (fun total => (_ + total) % 2 ^ 64)
        (same.totals FlowController.contributedReceived).symm

theorem new (pers : Perspective) (params : ConnectionParametersManager) :
    Accounts [] (newStreamsMap pers) (newFlowControlManager params) where
  full := fun _ member => (by cases member)
  streamID := fun _ _ opened => (by cases opened)
  uncancelled := fun _ _ opened => (by cases opened)
  controlled := fun _ => Iff.rfl
  contributes := fun _ _ found => (by cases found)
  credit := fun _ _ _ opened => (by cases opened)
  bytesRead := (newFlowController_receiving 0 false params).2.1
  highestReceived := (newFlowController_receiving 0 false params).2.2

end Accounts

/-- The bytes that were read on a stream stay when the sending side is called. -/
theorem bytesReadOn_sendingKeeps (id n : Nat) :
    SendingKeeps fun _ flow => flow.bytesReadOn id = n where
  map read _ := read
  opened := fun {m flow} other mark read => by
    unfold newStream
    split
    · exact read
    · rename_i uncontrolled
      unfold bytesReadOn at read ⊢
      by_cases isID : id = other
      · rw [isID, uncontrolled] at read
        rw [isID, getFlowController_setFlowController_self]
        exact (newFlowController_receiving other _ _).2.1.trans read
      · rw [getFlowController_setFlowController_of_ne isID]
        exact read
  sent read _ _ := read
  counted := fun {m flow flow'} read same => by
    have half := congrArg (Option.map bytesRead) (same.streams id)
    rw [Option.map_map, Option.map_map] at half
    exact (congrArg (Option.getD · 0) half).trans read

namespace CreditState

variable {st st' : CreditState}

/-- What the state of a run has to do with its accounts. -/
def Balanced (st : CreditState) : Prop :=
  Accounts st.removed st.sender.streamsMap st.sender.flow

theorem Balanced.step (balanced : st.Balanced) {op : CreditOp} (safe : op.Safe st)
    (stepped : st.step op = some st') : st'.Balanced := by
  cases op with
  | sending op sends =>
    cases stepped
    exact (Accounts.sendingKeeps st.removed).step sends balanced
  | addStreamFrame id frame timeStamp =>
    simp only [CreditState.step] at stepped
    split at stepped
    · cases stepped
      exact balanced
    · rename_i s opened
      split at stepped
      · rename_i ok
        cases stepped
        unfold Balanced
        simp only [Sender.step, opened]
        exact balanced.addStreamFrame opened (fun fc found => safe s fc opened found) ok
      · cases stepped
  | read id clock length =>
    cases stepped
    unfold Balanced
    simp only [Sender.step]
    split
    · exact balanced
    · rename_i s opened
      split
      · exact balanced
      · rename_i r read
        exact balanced.read opened read
  | rstStream id err byteOffset =>
    have sends : (SenderOp.getOrOpenStream id StreamsMap.callRounds).sends = true := rfl
    have openFor : Accounts st.removed (st.sender.openFor id).streamsMap
        (st.sender.openFor id).flow :=
      (Accounts.sendingKeeps st.removed).step sends balanced
    have sameRead : (st.sender.openFor id).flow.bytesReadOn id = st.sender.flow.bytesReadOn id :=
      (bytesReadOn_sendingKeeps id _).step sends rfl
    simp only [CreditState.step] at stepped
    split at stepped
    · cases stepped
    · rename_i ok
      cases stepped
      unfold Balanced
      simp only [Sender.handleRstStreamFrame]
      split
      · rename_i mem
        obtain ⟨s, opened⟩ := exists_lookup mem
        have returned := openFor.resetStream opened err (sameRead.symm ▸ safe)
          (by_contra fun failed => ok ⟨mem, failed⟩)
        have registered : (st.sender.openFor id).streamsMap.modifyStream id
            (fun s => (s.registerRemoteError err).1) =
            (st.sender.openFor id).streamsMap.setStream id (s.registerRemoteError err).1 := by
          rw [StreamsMap.modifyStream, opened]
        rw [← registered] at returned
        exact returned
      · exact openFor
  | garbageCollectStreams =>
    cases stepped
    have collected := balanced.collectedAll st.sender.streamsMap.openStreams
    rw [fst_foldl_collectRecorded] at collected
    exact collected

end CreditState

/-- The condition on a run: every call is safe in the state before it. -/
def SafeCredit (pers : Perspective) (params : ConnectionParametersManager)
    (ops : List CreditOp) : Prop :=
  ∀ front op back, ops = front ++ op :: back →
    ∀ st, CreditState.run pers params front = some st → op.Safe st

theorem balanced_run {pers : Perspective} {params : ConnectionParametersManager}
    {ops : List CreditOp} (safe : SafeCredit pers params ops) {st : CreditState}
    (ran : CreditState.run pers params ops = some st) : st.Balanced := by
  induction ops using List.reverseRecOn generalizing st with
  | nil =>
    cases ran
    exact Accounts.new pers params
  | append_singleton front op ih =>
    unfold CreditState.run at ran
    rw [foldlM_append] at ran
    obtain ⟨before, ranFront, stepped⟩ := Option.bind_eq_some_iff.mp ran
    have balanced := ih (fun earlier op' back split =>
      safe earlier op' (back ++ [op]) (by rw [split, append_assoc, cons_append]))
      ranFront
    exact balanced.step (safe front op [] rfl before ranFront)
      ((bind_pure (before.step op)).symm.trans stepped)

/-- In a safe run every removed stream was read, for the connection, up to all that it received.
When no contributing stream is left, the connection has read all that it received. -/
theorem connection_credit_returned (pers : Perspective) (params : ConnectionParametersManager)
    (ops : List CreditOp) (safe : SafeCredit pers params ops) (st : CreditState)
    (ran : CreditState.run pers params ops = some st) :
    (∀ fc ∈ st.removed, fc.bytesRead = fc.highestReceived) ∧
      st.sender.flow.connFlowController.bytesRead =
        ((st.removed.map FlowController.highestReceived).sum +
          MapSum.total contributedRead st.sender.flow.streamFlowController) %
          2 ^ 64 ∧
      ((∀ id fc, st.sender.flow.getFlowController id = some fc →
          fc.contributesToConnection = false) →
        st.sender.flow.connFlowController.bytesRead =
          st.sender.flow.connFlowController.highestReceived) := by
  have balanced := balanced_run safe ran
  refine ⟨balanced.full, balanced.bytesRead, fun noneLeft => ?_⟩
  have same : MapSum.total contributedRead st.sender.flow.streamFlowController =
      MapSum.total FlowController.contributedReceived st.sender.flow.streamFlowController := by
    refine total_congr fun id fc found => ?_
    rw [contributedRead, FlowController.contributedReceived, noneLeft id fc found]
    rfl
  rw [balanced.bytesRead, balanced.highestReceived, same]

/-- Data arrives on stream 5, is read, and the stream is reset at the end of it. -/
def readThenReset : List CreditOp :=
  [.sending (.getOrOpenStream 5 StreamsMap.callRounds) rfl,
    .addStreamFrame 5 { streamID := 5, data := [1, 2] } 0,
    .read 5 (fun _ => { now := 0, smoothedRTT := 0 }) 2,
    .rstStream 5 (.closed "RST_STREAM received with code 0") 2, .garbageCollectStreams]

theorem connection_credit_returned_readThenReset :
    SafeCredit .server (serverParameters 0 0) readThenReset ∧
      ∃ st, CreditState.run .server (serverParameters 0 0) readThenReset = some st ∧
        (st.removed.map fun fc => (fc.bytesRead, fc.highestReceived)) = [(2, 2)] ∧
        ∀ fc ∈ st.removed, fc.bytesRead = fc.highestReceived := by
  have safe : SafeCredit .server (serverParameters 0 0) readThenReset := by
    intro front op back split st ran
    rcases front with _ | ⟨_, _ | ⟨_, _ | ⟨_, _ | ⟨_, _ | ⟨_, front⟩⟩⟩⟩⟩
    · cases split
      trivial
    · cases split
      cases ran
      intro s fc opened found _
      cases opened
      cases found
      refine ⟨by decide, fun known => ?_, fun fin => (by cases fin)⟩
      rcases known with finished | reset | ⟨k, f, queued, -⟩
      · cases finished
      · cases reset
      · cases queued
    · cases split
      trivial
    · cases split
      cases ran
      exact Or.inr (Or.inr (by decide))
    · cases split
      trivial
    · have lengths := congrArg List.length split
      simp only [readThenReset, cons_append, length_cons, length_append,
        length_nil] at lengths
      omega
  refine ⟨safe, _, rfl, by decide, ?_⟩
  exact (connection_credit_returned _ _ _ safe _ rfl).1

/-- Ten bytes arrive on stream 5, and the stream is reset before they are read. -/
def resetUnread : List CreditOp :=
  [.sending (.getOrOpenStream 5 StreamsMap.callRounds) rfl,
    .addStreamFrame 5 { streamID := 5, data := [1, 2, 3, 4, 5, 6, 7, 8, 9, 10] } 0,
    .rstStream 5 (.closed "RST_STREAM received with code 0") 10, .garbageCollectStreams]

theorem credit_lost_after_reset :
    ∃ st, CreditState.run .server (serverParameters 0 0) resetUnread = some st ∧
      (st.removed.map fun fc => (fc.bytesRead, fc.highestReceived)) = [(0, 10)] ∧
      (st.sender.flow.streamFlowController.entries.all fun e =>
        !e.2.contributesToConnection) = true ∧
      st.sender.flow.connFlowController.bytesRead = 0 ∧
      st.sender.flow.connFlowController.highestReceived = 10 :=
  ⟨_, rfl, by decide, by decide, by decide, by decide⟩

end MPQuic
