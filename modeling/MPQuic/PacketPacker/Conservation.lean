import MPQuic.PacketPacker

/-!
# What becomes of queued frames

A control frame or an ACK frame that was queued in the packer should either still be queued after a
call or be in the packet that the call returns, and in one of the two places only.

The control frames that `composeNextPacket` takes from the queue all go into the packet, and it
puts the frames of the path's two slots in front of them, so that clearing the slots loses nothing.
A PING at the head of the queue bypasses it: the packet is the PING alone, but what follows still
treats the slots as sent, and a STOP_WAITING frame in its slot makes the PING look like a packet
that is not worth sending. `packed_frames_conserved` says that this is the only way to lose a frame.
-/

namespace MPQuic

open List PackResult

variable {frame : Frame}

/-- Control frames and ACK frames. STREAM frames come from the framer, and STOP_WAITING frames are
made anew for every packet. -/
def Frame.isQueued : Frame → Bool
  | .stream _ => false
  | .stopWaiting _ => false
  | _ => true

/-- The control frames, and the ACK frame for the path. -/
def PackState.queued (st : PackState) : List Frame :=
  st.packer.controlFrames ++ (st.packer.ackFrame st.pth.pathID).toList.map .ack

/-- The frames of the packet that was returned, if one was. -/
def PackResult.frames (result : PackResult) : List Frame :=
  match result.outcome with
  | .ok (some packet) => packet.frames
  | _ => []

/-- Each frame that was queued, or that came from the framer during the call, is queued or sent,
as often as it was there. The ACK frames of other paths stay where they are. -/
structure PackResult.Conserves (before : PackState) (result : PackResult) : Prop where
  counts : ∀ frame : Frame, frame.isQueued = true →
    (before.queued ++ result.blocked.map Frame.blocked).count frame =
      result.state.queued.count frame + result.frames.count frame
  otherPaths : ∀ pathID, pathID ≠ before.pth.pathID →
    result.state.packer.ackFrame pathID = before.packer.ackFrame pathID

/-- `HasCryptoStreamFrame` -/
def PackState.hasCryptoStreamFrame (st : PackState) : Bool :=
  match StreamFramer.cryptoStream st.streams st.flow with
  | .ok (_, _, cs) => 0 < cs.lenOfDataForWriting
  | .error _ => false

theorem count_map_of_not_queued {α : Type} (make : α → Frame) (queued : frame.isQueued = true)
    (made : ∀ x, (make x).isQueued = false) (fs : List α) : (fs.map make).count frame = 0 := by
  apply count_eq_zero.mpr
  intro mem
  obtain ⟨f, -, rfl⟩ := mem_map.mp mem
  cases queued.symm.trans (made f)

namespace PackState

variable {st : PackState} {env : PackEnv} {publicHeader : PublicHeader} {encLevel : EncryptionLevel}
  {sealer : Sealer} {packet : Option PackedPacket} {result : PackResult} {payload : List Frame}
  (maxFrameSize : Nat)

/-! ## Sealing -/

section Sealing

variable (st env publicHeader encLevel sealer) (frames : List Frame)

/-- Sealing takes a packet number and changes nothing else. -/
theorem writeAndSealPacket_state : ∃ generator,
    (st.writeAndSealPacket env publicHeader frames encLevel sealer).state =
      { st with pth := { st.pth with packetNumberGenerator := generator } } := by
  unfold writeAndSealPacket
  split
  · exact ⟨_, rfl⟩
  · exact ⟨_, rfl⟩
  · split <;> exact ⟨_, rfl⟩

theorem writeAndSealPacket_packer :
    (st.writeAndSealPacket env publicHeader frames encLevel sealer).state.packer = st.packer := by
  obtain ⟨_, state⟩ := writeAndSealPacket_state st env publicHeader encLevel sealer frames
  rw [state]

theorem writeAndSealPacket_queued :
    (st.writeAndSealPacket env publicHeader frames encLevel sealer).state.queued = st.queued := by
  obtain ⟨_, state⟩ := writeAndSealPacket_state st env publicHeader encLevel sealer frames
  rw [state]
  rfl

theorem writeAndSealPacket_blocked :
    (st.writeAndSealPacket env publicHeader frames encLevel sealer).blocked = [] := by
  unfold writeAndSealPacket
  split
  · rfl
  · rfl
  · split <;> rfl

end Sealing

/-- A packet that was sealed has all frames it was composed of. -/
theorem writeAndSealPacket_frames {frames : List Frame}
    (sealed : (st.writeAndSealPacket env publicHeader frames encLevel sealer).outcome =
      .ok packet) :
    (st.writeAndSealPacket env publicHeader frames encLevel sealer).frames = frames := by
  unfold PackResult.frames
  rw [sealed]
  unfold writeAndSealPacket at sealed
  split at sealed
  · cases sealed
  · cases sealed
  · split at sealed
    · cases sealed
    · simp only at sealed
      split at sealed
      · cases sealed
      · cases sealed
        rfl

/-! ## Composing -/

/-- The loop splits the queue: what it takes goes into the packet, the rest stays. -/
theorem popControlFrames_append (frames : List Frame) (payloadLength : Nat) :
    (popControlFrames maxFrameSize frames payloadLength).taken ++
      (popControlFrames maxFrameSize frames payloadLength).rest = frames := by
  induction frames generalizing payloadLength with
  | nil => rfl
  | cons frame rest ih =>
    rw [popControlFrames]
    split
    · rfl
    · split
      · rfl
      · exact congrArg (frame :: ·) (ih _)

/-- What a composed payload is made of. -/
structure Composes (st : PackState) (composed : Composed) (payload : List Frame) : Prop where
  packer : ∃ kept taken : List Frame, ∃ streams : List StreamFrame,
    st.packer.controlFrames.Perm (kept ++ taken) ∧
    payload = st.slotFrames ++ taken ++ streams.map .stream ∧
    composed.state.packer =
      { st.packer with controlFrames := kept ++ composed.blocked.map .blocked }
  pathID : composed.state.pth.pathID = st.pth.pathID

theorem composeNextPacket_ok {maxFrameSize : Nat} {canSendStreamFrames : Bool}
    (composed : (st.composeNextPacket maxFrameSize canSendStreamFrames).outcome = .ok payload) :
    Composes st (st.composeNextPacket maxFrameSize canSendStreamFrames) payload := by
  unfold composeNextPacket at composed ⊢
  cases lengths : minLengths st.slotFrames with
  | error err =>
    rw [lengths] at composed
    cases composed
  | ok payloadLength =>
    have parts := popControlFrames_append maxFrameSize st.packer.controlFrames.reverse
      payloadLength
    simp only [lengths] at composed ⊢
    generalize popControlFrames maxFrameSize st.packer.controlFrames.reverse payloadLength =
      popped at parts composed ⊢
    have queue : st.packer.controlFrames.Perm (popped.rest.reverse ++ popped.taken) := by
      have reversed := (reverse_perm st.packer.controlFrames).symm
      rw [← parts] at reversed
      have turned := (reverse_perm popped.rest).symm.append_right popped.taken
      exact reversed.trans (perm_append_comm.trans turned)
    cases failed : popped.err with
    | some err =>
      rw [failed] at composed
      cases composed
    | none =>
      simp only [failed] at composed ⊢
      split at composed
      · cases composed
      · rename_i fits
        rw [if_neg fits]
        split at composed
        · rename_i allowed
          rw [if_pos allowed]
          cases composed
          exact ⟨⟨popped.rest.reverse, popped.taken, _, queue, rfl, rfl⟩, rfl⟩
        · rename_i refused
          rw [if_neg refused]
          cases composed
          refine ⟨⟨popped.rest.reverse, popped.taken, [], queue, ?_, ?_⟩, rfl⟩
          · rw [map_nil, append_nil]
          · rw [map_nil, append_nil]

@[simp] theorem composeNextPacket_pth (canSendStreamFrames : Bool) :
    (st.composeNextPacket maxFrameSize canSendStreamFrames).state.pth = st.pth := by
  unfold composeNextPacket
  split
  · rfl
  · simp only
    split
    · rfl
    · split
      · rfl
      · split <;> rfl

@[simp] theorem choosePayload_pth (maxSize : Nat) (encLevel : EncryptionLevel) :
    (st.choosePayload maxSize encLevel).state.pth = st.pth := by
  unfold choosePayload
  split
  · rfl
  · exact composeNextPacket_pth _ _

/-! ## The slots -/

@[simp] theorem numberStopWaiting_pth (publicHeader : PublicHeader) :
    (st.numberStopWaiting publicHeader).pth = st.pth := rfl

@[simp] theorem numberStopWaiting_controlFrames (publicHeader : PublicHeader) :
    (st.numberStopWaiting publicHeader).packer.controlFrames = st.packer.controlFrames := rfl

theorem numberStopWaiting_stopWaiting (publicHeader : PublicHeader) :
    (st.numberStopWaiting publicHeader).packer.stopWaiting st.pth.pathID = none ↔
      st.packer.stopWaiting st.pth.pathID = none := by
  simp [numberStopWaiting, PacketPacker.setStopWaiting]

/-- The number in a STOP_WAITING frame makes no difference. -/
theorem numberStopWaiting_conserves (publicHeader : PublicHeader) :
    result.Conserves (st.numberStopWaiting publicHeader) ↔ result.Conserves st :=
  ⟨fun conserves => ⟨conserves.counts, conserves.otherPaths⟩,
    fun conserves => ⟨conserves.counts, conserves.otherPaths⟩⟩

/-- After the slots were cleared only control frames are queued for the path. -/
@[simp] theorem clearSlots_queued : st.clearSlots.queued = st.packer.controlFrames := by
  simp [queued, clearSlots, PacketPacker.setAckFrame, PacketPacker.setStopWaiting]

theorem clearSlots_ackFrame {pathID : PathID} (other : pathID ≠ st.pth.pathID) :
    st.clearSlots.packer.ackFrame pathID = st.packer.ackFrame pathID := by
  simp [clearSlots, PacketPacker.setAckFrame, PacketPacker.setStopWaiting, other]

/-- Of the frames in the two slots only the ACK frame counts. -/
theorem count_slotFrames (queued : frame.isQueued = true) :
    st.slotFrames.count frame =
      ((st.packer.ackFrame st.pth.pathID).toList.map Frame.ack).count frame := by
  rw [slotFrames, count_append, count_map_of_not_queued .stopWaiting queued fun _ => rfl,
    zero_add]

/-! ## Packing -/

/-- Packing a payload that was composed from the queue conserves the queue. -/
theorem Composes.conserves {composed : Composed} (composes : Composes st composed payload)
    (chosen : composed.outcome = .ok payload)
    (packed : (sealPayload composed env publicHeader encLevel sealer).outcome = .ok packet) :
    (sealPayload composed env publicHeader encLevel sealer).Conserves st := by
  obtain ⟨⟨kept, taken, streams, queue, payloadEq, packer⟩, pathID⟩ := composes
  have ackFrame : composed.state.packer.ackFrame = st.packer.ackFrame := by rw [packer]
  have before : ∀ frame : Frame,
      (st.queued ++ composed.blocked.map Frame.blocked).count frame =
        kept.count frame + taken.count frame +
          ((st.packer.ackFrame st.pth.pathID).toList.map Frame.ack).count frame +
          (composed.blocked.map Frame.blocked).count frame := by
    intro frame
    rw [count_append, queued, count_append, queue.count_eq, count_append]
  have after : ∀ frame : Frame, composed.state.queued.count frame =
      kept.count frame + (composed.blocked.map Frame.blocked).count frame +
        ((st.packer.ackFrame st.pth.pathID).toList.map Frame.ack).count frame := by
    intro frame
    rw [queued, pathID, packer, count_append, count_append]
  -- nothing was taken if no packet comes of it
  have nothing : taken = [] → (⟨composed.state, .ok none, none, composed.blocked⟩ :
      PackResult).Conserves st := by
    intro empty
    refine ⟨?_, fun pathID _ => congrFun ackFrame pathID⟩
    intro frame _
    rw [before, after, empty]
    simp only [count_nil, frames]
    omega
  unfold sealPayload at packed ⊢
  simp only [chosen] at packed ⊢
  split
  · rename_i empty
    have bare := eq_nil_of_length_eq_zero empty
    rw [payloadEq] at bare
    exact nothing (append_eq_nil_iff.mp (append_eq_nil_iff.mp bare).1).2
  · rename_i nonempty
    rw [if_neg nonempty] at packed
    split
    · -- the slot has its frame in the payload, which leaves no room for another one
      rename_i alone
      obtain ⟨single, waiting⟩ := alone
      apply nothing
      rw [pathID, packer] at waiting
      obtain ⟨swf, slot⟩ := Option.ne_none_iff_exists'.mp waiting
      rw [payloadEq, slotFrames, slot] at single
      simp only [Option.toList_some, map_cons, map_nil, length_append,
        length_cons, length_nil] at single
      exact eq_nil_of_length_eq_zero (by omega)
    · rename_i several
      rw [if_neg several] at packed
      refine ⟨?_, ?_⟩
      · intro frame counted
        have sent := writeAndSealPacket_frames packed
        rw [before]
        simp only [frames] at sent ⊢
        rw [sent, payloadEq, writeAndSealPacket_queued, clearSlots_queued, packer,
          count_append, count_append, count_append, count_slotFrames counted,
          count_map_of_not_queued .stream counted fun _ => rfl]
        omega
      · intro id other
        simp only [writeAndSealPacket_packer]
        rw [← pathID] at other
        rw [clearSlots_ackFrame other, ackFrame]

/-- A PING that is sent alone is lost if a STOP_WAITING frame is queued, and takes an ACK frame
with it otherwise. -/
theorem pingTaken_conserves_iff (st : PackState) {rest : List Frame}
    (queue : st.packer.controlFrames = .ping :: rest)
    (packed : (sealPayload (st.pingTaken rest) env publicHeader encLevel sealer).outcome =
      .ok packet) :
    (sealPayload (st.pingTaken rest) env publicHeader encLevel sealer).Conserves st ↔
      st.packer.stopWaiting st.pth.pathID = none ∧ st.packer.ackFrame st.pth.pathID = none := by
  unfold sealPayload at packed ⊢
  simp only [pingTaken, length_cons, length_nil, zero_add, one_ne_zero,
    if_false, true_and] at packed ⊢
  by_cases waiting : st.packer.stopWaiting st.pth.pathID = none
  · rw [if_neg (not_not.mpr waiting)] at packed ⊢
    have sent := writeAndSealPacket_frames packed
    simp only [frames] at sent
    constructor
    · intro conserves
      refine ⟨waiting, ?_⟩
      cases slot : st.packer.ackFrame st.pth.pathID with
      | none => rfl
      | some ack =>
        -- the ACK frame is queued before, and neither queued nor sent afterwards
        have count := conserves.counts (.ack ack) rfl
        simp only [frames, sent, writeAndSealPacket_queued, clearSlots_queued]
          at count
        rw [queued, queue, slot] at count
        simp at count
    · rintro ⟨-, slot⟩
      refine ⟨?_, ?_⟩
      · intro frame _
        simp only [frames, sent, writeAndSealPacket_queued, clearSlots_queued]
        rw [queued, queue, slot]
        simp [count_cons]
      · intro id other
        simp only [writeAndSealPacket_packer]
        exact clearSlots_ackFrame other
  · rw [if_pos waiting] at packed ⊢
    constructor
    · intro conserves
      have count := conserves.counts .ping rfl
      simp only [frames, returns, queued, queue] at count
      simp at count
    · rintro ⟨free, -⟩
      exact absurd free waiting

/-- A PING bypasses frames that wait in the slots of the path. -/
def PingBypasses (st : PackState) : Prop :=
  st.packer.controlFrames.head? = some .ping ∧
    (st.packer.stopWaiting st.pth.pathID ≠ none ∨ st.packer.ackFrame st.pth.pathID ≠ none)

theorem packQueued_conserves_iff (packed : (st.packQueued env).outcome = .ok packet) :
    (st.packQueued env).Conserves st ↔ ¬ st.PingBypasses := by
  unfold packQueued at packed ⊢
  generalize st.packer.cryptoSetup.getSealer st.packer.perspective = chosen at packed ⊢
  obtain ⟨encLevel, sealer⟩ := chosen
  simp only at packed ⊢
  generalize st.getPublicHeader env encLevel = publicHeader at packed ⊢
  cases length : publicHeader.getLength st.packer.perspective with
  | error err =>
    rw [length] at packed
    cases packed
  | ok publicHeaderLength =>
    simp only [length] at packed ⊢
    generalize subUint64 (subUint64 maxPacketSize sealer.overhead) publicHeaderLength = maxSize
      at packed ⊢
    unfold choosePayload at packed ⊢
    split
    · rename_i rest queue
      rw [numberStopWaiting_controlFrames] at queue
      rw [numberStopWaiting_controlFrames, queue] at packed
      have bypass := pingTaken_conserves_iff (st.numberStopWaiting publicHeader) queue packed
      rw [numberStopWaiting_conserves, numberStopWaiting_pth, numberStopWaiting_stopWaiting]
        at bypass
      refine bypass.trans ?_
      rw [PingBypasses, queue]
      simp [numberStopWaiting, PacketPacker.setStopWaiting]
    · rename_i noPing
      have head : st.packer.controlFrames.head? ≠ some .ping := by
        intro ping
        obtain ⟨rest, queue⟩ := head?_eq_some_iff.mp ping
        exact noPing rest queue
      have kept : ¬ st.PingBypasses := fun bypasses => head bypasses.1
      refine iff_of_true ?_ kept
      split at packed
      · rename_i rest queue
        exact absurd queue (noPing rest)
      · generalize composing : (st.numberStopWaiting publicHeader).composeNextPacket maxSize _ =
          composed at packed ⊢
        cases outcome : composed.outcome with
        | error err =>
          simp only [sealPayload, outcome] at packed
          cases packed
        | ok payload =>
          have composes := composeNextPacket_ok (composing ▸ outcome)
          rw [composing] at composes
          rw [← numberStopWaiting_conserves publicHeader]
          exact composes.conserves outcome packed

/-- A packet with crypto data leaves the queue alone. -/
theorem packCryptoPacket_conserves
    (run : st.packCryptoPacket env = .ok result) (packed : result.outcome = .ok packet) :
    result.Conserves st := by
  unfold packCryptoPacket at run
  generalize st.packer.cryptoSetup.getSealerForCryptoStream st.packer.perspective = chosen at run
  obtain ⟨encLevel, sealer⟩ := chosen
  simp only at run
  split at run
  · cases run
    cases packed
  · split at run
    · cases run
    · cases run
    · cases run
      have sent := writeAndSealPacket_frames packed
      refine ⟨?_, ?_⟩
      · intro frame counted
        rw [sent, writeAndSealPacket_queued, writeAndSealPacket_blocked, map_nil,
          append_nil]
        have zero := count_map_of_not_queued .stream counted fun _ => rfl
        exact (congrArg (List.count frame st.queued + ·) (zero [_])).symm
      · intro id _
        rw [writeAndSealPacket_packer]

theorem packPacket_conserves_iff
    (run : st.packPacket env = .ok result) (packed : result.outcome = .ok packet) :
    result.Conserves st ↔ st.hasCryptoStreamFrame = true ∨ ¬ st.PingBypasses := by
  unfold packPacket at run
  unfold hasCryptoStreamFrame
  split at run
  · cases run
  · rename_i streams flow cs opened
    simp only [opened, decide_eq_true_eq]
    split at run
    · rename_i pending
      have conserves := packCryptoPacket_conserves run packed
      exact iff_of_true ⟨conserves.counts, conserves.otherPaths⟩ (Or.inl pending)
    · rename_i idle
      cases run
      have conserves := packQueued_conserves_iff packed
      constructor
      · intro kept
        exact Or.inr (conserves.mp ⟨kept.counts, kept.otherPaths⟩)
      · intro allowed
        have kept := conserves.mpr (allowed.resolve_left idle)
        exact ⟨kept.counts, kept.otherPaths⟩

end PackState

/-- No queued frame is lost, and none is there twice, exactly if crypto data goes first or no
PING bypasses the frames in the slots of the path. `PackPing` puts a PING in front of the queue,
so for it both slots have to be empty. -/
theorem packed_frames_conserved (st : PackState) (env : PackEnv) (result : PackResult)
    (packet : Option PackedPacket) (packed : result.outcome = .ok packet) :
    (st.packPacket env = .ok result →
      (result.Conserves st ↔ st.hasCryptoStreamFrame = true ∨
        ¬ (st.packer.controlFrames.head? = some .ping ∧
          (st.packer.stopWaiting st.pth.pathID ≠ none ∨
            st.packer.ackFrame st.pth.pathID ≠ none)))) ∧
    (st.packPing env = .ok result →
      (result.Conserves st.queuePing ↔ st.hasCryptoStreamFrame = true ∨
        (st.packer.stopWaiting st.pth.pathID = none ∧
          st.packer.ackFrame st.pth.pathID = none))) := by
  constructor
  · intro run
    exact PackState.packPacket_conserves_iff run packed
  · intro run
    refine (PackState.packPacket_conserves_iff run packed).trans ?_
    apply or_congr Iff.rfl
    simp [PackState.PingBypasses, PackState.queuePing, Path.setLeastUnacked]

/-- A server after the handshake, with nothing to send but the given frames on its first path. -/
def idleServer (controlFrames : List Frame) (swf : Option StopWaitingFrame)
    (ack : Option AckFrame) : PackState where
  packer :=
    { connectionID := 1
      perspective := .server
      version := versionMP
      cryptoSetup := { forwardSecureAEAD := some zeroKeys }
      controlFrames
      stopWaiting := fun _ => swf
      ackFrame := fun _ => ack }
  framer := {}
  streams := newStreamsMap .server
  flow := newFlowControlManager (serverParameters 0 0)
  pth := newPath initialPathID { ip := [], port := 0 } { ip := [], port := 0 } versionMP 0

def afterHandshake : PackEnv where
  now := 0
  handshakeComplete := true

def ackOfThree : AckFrame where
  largestAcked := 3
  lowestAcked := 1
  ackRanges := []

def windowUpdateOfStream5 : Frame := .windowUpdate { streamID := 5, byteOffset := 100 }

theorem packed_frames_conserved_idleServer :
    (∃ result, (idleServer [windowUpdateOfStream5, .ping] none (some ackOfThree)).packPacket
        afterHandshake = .ok result ∧
      result.frames = [.ack ackOfThree, .ping, windowUpdateOfStream5] ∧
      result.Conserves (idleServer [windowUpdateOfStream5, .ping] none (some ackOfThree))) ∧
    ∃ result, (idleServer [windowUpdateOfStream5] none none).packPing afterHandshake =
        .ok result ∧
      result.frames = [.ping] ∧
      result.Conserves (idleServer [windowUpdateOfStream5] none none).queuePing := by
  refine ⟨⟨_, rfl, by decide, ?_⟩, _, rfl, by decide, ?_⟩
  · exact ((packed_frames_conserved _ _ _ _ rfl).1 rfl).mpr
      (Or.inr fun bypasses => absurd bypasses.1 (by decide))
  · exact ((packed_frames_conserved _ _ _ _ rfl).2 rfl).mpr (Or.inr ⟨rfl, rfl⟩)

/-- With a PING at the head of the queue the packet has no room for the ACK frame, which is gone
all the same. With a STOP_WAITING frame in its slot the PING itself is gone, and no packet is
returned. -/
theorem queued_frames_lost_with_ping :
    (∃ result packet, (idleServer [.ping] none (some ackOfThree)).packPacket afterHandshake =
        .ok result ∧
      result.outcome = .ok packet ∧ result.frames = [.ping] ∧ result.state.queued = [] ∧
      ¬ result.Conserves (idleServer [.ping] none (some ackOfThree))) ∧
    ∃ result, (idleServer [] (some { leastUnacked := 1 }) none).packPing afterHandshake =
        .ok result ∧
      result.outcome = .ok none ∧ result.state.queued = [] ∧
      ¬ result.Conserves (idleServer [] (some { leastUnacked := 1 }) none).queuePing := by
  refine ⟨⟨_, _, rfl, rfl, by decide, by decide, ?_⟩, _, rfl, rfl, by decide, ?_⟩
  · intro conserves
    exact absurd (conserves.counts (.ack ackOfThree) rfl) (by decide)
  · intro conserves
    exact absurd (conserves.counts .ping rfl) (by decide)

end MPQuic
