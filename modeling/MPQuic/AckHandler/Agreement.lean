import MPQuic.AckHandler.Changes
import MPQuic.AckHandler.ReceivedRanges

/-!
# Sender and receiver of one path

A sent packet handler and the received packet handler of its peer, joined by a network that
may lose, duplicate and reorder packets and ACK frames: everything that was sent stays
available for delivery, any number of times and in any order. A receiver whose
`ReceivedPacket` fails closes its session and takes no further step.

`Connection.Agreed` holds in every run. What the sender takes as acked was received, and no
ACK frame that the receiver produced is refused except as a duplicate.
-/

namespace MPQuic

open KeyedList List SentPacketHandler

/-! ## STOP_WAITING frames -/

variable {packet : Packet}

/-- All packets that the manager declares done are below `bound`. -/
structure StopWaitingManager.Within (m : StopWaitingManager) (bound : Nat) : Prop where
  next : m.nextLeastUnacked ≤ bound
  sent : m.largestLeastUnackedSent ≤ m.nextLeastUnacked
  unsent : m.lastStopWaitingFrame = none → m.largestLeastUnackedSent = 0
  frame : ∀ swf ∈ m.lastStopWaitingFrame, 1 ≤ swf.leastUnacked ∧ swf.leastUnacked ≤ bound

namespace StopWaitingManager

variable {m : StopWaitingManager} {bound : Nat}

section

variable (within : m.Within bound)

include within

theorem Within.mono {bound' : Nat} (le : bound ≤ bound') : m.Within bound' where
  next := le_trans within.next le
  sent := within.sent
  unsent := within.unsent
  frame := fun swf mem =>
    ⟨(within.frame swf mem).1, le_trans (within.frame swf mem).2 le⟩

theorem Within.queuedRetransmission {p : Nat} (below : p < bound) :
    (m.queuedRetransmissionForPacketNumber p).Within bound := by
  unfold queuedRetransmissionForPacketNumber
  split
  · rename_i newer
    exact ⟨below, le_trans within.sent (Nat.le_succ_of_le newer), within.unsent,
      within.frame⟩
  · exact within

theorem Within.receivedAck {ackFrame : AckFrame} (below : ackFrame.largestAcked < bound) :
    (m.receivedAck ackFrame).Within bound := within.queuedRetransmission below

/-- The frames that are handed out declare packets below the bound done. -/
theorem Within.getStopWaitingFrame (force : Bool) :
    (m.getStopWaitingFrame force).1.Within bound ∧
      ∀ swf ∈ (m.getStopWaitingFrame force).2,
        1 ≤ swf.leastUnacked ∧ swf.leastUnacked ≤ bound := by
  unfold StopWaitingManager.getStopWaitingFrame
  split
  · split
    · split
      · -- no frame was sent yet, so the largest one sent is zero
        rename_i first
        exact absurd first.2 (by rw [within.unsent first.1]; decide)
      · exact ⟨within, within.frame⟩
    · exact ⟨within, fun _ mem => absurd mem (Option.not_mem_none _)⟩
  · rename_i newer
    have fresh : ∀ swf ∈ some ({ leastUnacked := m.nextLeastUnacked } : StopWaitingFrame),
        1 ≤ swf.leastUnacked ∧ swf.leastUnacked ≤ bound := by
      intro swf mem
      obtain rfl := Option.mem_some_iff.mp mem
      exact ⟨Nat.lt_of_le_of_lt (Nat.zero_le _) (Nat.not_le.mp newer), within.next⟩
    exact ⟨⟨within.next, le_refl _, fun absent => (by cases absent), fresh⟩, fresh⟩

end

end StopWaitingManager

/-! ## The sender -/

namespace SentPacketHandler

/-- The state of a sender that put the packet numbers of `onWire` on the wire. -/
structure Honest (h : SentPacketHandler) (onWire : List Nat) : Prop where
  increasing : Increasing Packet.packetNumber h.packetHistory
  history : ∀ p ∈ h.packetHistory, p.packetNumber ≤ h.lastSentPacketNumber
  sent : ∀ n ∈ onWire, n ≠ 0 ∧ n ≤ h.lastSentPacketNumber
  skipped : ∀ n ∈ h.skippedPackets, n ≤ h.lastSentPacketNumber ∧ n ∉ onWire
  manager : h.stopWaitingManager.Within (h.lastSentPacketNumber + 1)

section Steps

variable {h h' : SentPacketHandler} {onWire skipped : List Nat} {ackable : Packet → Prop}

theorem Honest.bookkeeping (honest : h.Honest onWire) (same : Bookkeeping h h') :
    h'.Honest onWire where
  increasing := same.history ▸ honest.increasing
  history := by
    rw [same.history, same.last]
    exact honest.history
  sent := same.last ▸ honest.sent
  skipped := by
    rw [same.last]
    exact fun n mem => honest.skipped n (same.skipped.subset mem)
  manager := by
    rw [same.manager, same.last]
    exact honest.manager

theorem Honest.change (honest : h.Honest onWire) (change : Change ackable h h') :
    h'.Honest onWire := by
  have inc := change.increasing honest.increasing
  cases change with
  | ack p mem =>
    exact ⟨inc, fun q memQ => honest.history q (mem_of_mem_remove memQ), honest.sent,
      honest.skipped, honest.manager⟩
  | queue p mem =>
    exact ⟨inc, fun q memQ => honest.history q (mem_of_mem_remove memQ), honest.sent,
      honest.skipped,
      honest.manager.queuedRetransmission (Nat.lt_succ_of_le (honest.history p mem))⟩
  | bookkeep _ same => exact honest.bookkeeping same
  | managerAck ackFrame below =>
    exact ⟨inc, honest.history, honest.sent, honest.skipped,
      honest.manager.receivedAck (Nat.lt_succ_of_le below)⟩
  | managerFrame force =>
    exact ⟨inc, honest.history, honest.sent, honest.skipped,
      (honest.manager.getStopWaitingFrame force).1⟩

theorem Honest.changes (honest : h.Honest onWire) (changes : Changes ackable h h') :
    h'.Honest onWire :=
  changes.keeps (P := fun h => h.Honest onWire) (fun _ _ change honest => honest.change change)
    honest

/-- Only packets that may be acked are acked. -/
theorem Changes.acked {known : Nat → Prop} (changes : Changes ackable h h')
    (allowed : ∀ p, ackable p → known p.packetNumber) (acked : ∀ n ∈ h.acked, known n) :
    ∀ n ∈ h'.acked, known n := by
  refine changes.keeps (P := fun h => ∀ n ∈ h.acked, known n) ?_ acked
  intro h h' change acked
  cases change with
  | ack p mem ackable =>
    have grown : (h.ackPacket p).acked = h.acked ++ [p.packetNumber] := acked_notify _ _
    rw [grown]
    exact forall_mem_append.mpr ⟨acked, forall_mem_singleton.mpr (allowed p ackable)⟩
  | bookkeep _ same => rw [same.acked]; exact acked
  | _ => exact acked

/-! ### Sending -/

theorem mem_trackSkipped {p n : Nat} (mem : n ∈ trackSkipped skipped p) : n ∈ skipped ∨ n = p := by
  have appended : n ∈ skipped ++ [p] := by
    simp only [trackSkipped] at mem
    split at mem
    · exact mem_of_mem_drop mem
    · exact mem
  rcases mem_append.mp appended with old | new
  · exact Or.inl old
  · exact Or.inr (mem_singleton.mp new)

theorem mem_foldl_trackSkipped {numbers : List Nat} {n : Nat}
    (mem : n ∈ numbers.foldl trackSkipped skipped) : n ∈ skipped ∨ n ∈ numbers := by
  induction numbers generalizing skipped with
  | nil => exact Or.inl mem
  | cons p numbers ih =>
    rcases ih mem with old | new
    · rcases mem_trackSkipped old with older | rfl
      · exact Or.inl older
      · exact Or.inr mem_cons_self
    · exact Or.inr (mem_cons_of_mem _ new)

theorem Honest.recordSent (honest : h.Honest onWire) (env : AckEnv)
    (newer : h.lastSentPacketNumber < packet.packetNumber) :
    (h.recordSent env packet).Honest (onWire ++ [packet.packetNumber]) := by
  have last := recordSent_lastSentPacketNumber h env packet
  have fresh : ∀ p ∈ h.packetHistory, p.packetNumber < packet.packetNumber :=
    fun p mem => lt_of_le_of_lt (honest.history p mem) newer
  refine ⟨?_, ?_, ?_, ?_, ?_⟩
  · rcases recordSent_cases h env packet with ⟨-, p, number, -, history, -⟩ | ⟨-, history, -⟩
    · rw [history]
      exact honest.increasing.append_last (number ▸ fresh)
    · rw [history]
      exact honest.increasing
  · rw [last]
    rcases recordSent_cases h env packet with ⟨-, p, number, -, history, -⟩ | ⟨-, history, -⟩
    · rw [history]
      refine forall_mem_append.mpr ⟨fun q old => ?_, forall_mem_singleton.mpr (le_of_eq number)⟩
      exact le_of_lt (fresh q old)
    · rw [history]
      exact fun q mem => le_of_lt (fresh q mem)
  · rw [last]
    refine forall_mem_append.mpr ⟨fun n old => ?_, forall_mem_singleton.mpr (by omega)⟩
    have sent := honest.sent n old
    omega
  · -- a number skipped now or before is neither an old number nor the new one
    rw [last, recordSent_skippedPackets]
    intro n mem
    rcases mem_foldl_trackSkipped mem with old | between
    · obtain ⟨low, unsent⟩ := honest.skipped n old
      refine ⟨by omega, fun sent => ?_⟩
      rcases mem_append.mp sent with sent | same
      · exact unsent sent
      · have same := mem_singleton.mp same
        omega
    · have bounds := mem_range'_1.mp between
      refine ⟨by omega, fun sent => ?_⟩
      rcases mem_append.mp sent with sent | same
      · have low := (honest.sent n sent).2
        omega
      · have same := mem_singleton.mp same
        omega
  · rw [last, recordSent_stopWaitingManager]
    exact honest.manager.mono (by omega)

/-- A refused packet changes nothing. -/
theorem sentPacket_error {env : AckEnv} {err : AckError}
    (refused : (h.sentPacket env packet).2 = some err) : (h.sentPacket env packet).1 = h := by
  rcases sentPacket_cases h env packet with ⟨_, same⟩ | ⟨-, -, recorded⟩
  · rw [same]
  · rw [recorded] at refused
    cases refused

theorem Honest.sentPacket (honest : h.Honest onWire) (env : AckEnv)
    (accepted : (h.sentPacket env packet).2 = none) :
    (h.sentPacket env packet).1.Honest (onWire ++ [packet.packetNumber]) ∧
      h.lastSentPacketNumber < packet.packetNumber := by
  rcases sentPacket_cases h env packet with ⟨_, refused⟩ | ⟨newer, -, recorded⟩
  · rw [refused] at accepted
    cases accepted
  · rw [recorded]
    have alarm := bookkeeping_updateLossDetectionAlarm (h.recordSent env packet) env
    exact ⟨(honest.recordSent env newer).bookkeeping alarm, newer⟩

theorem sentPacket_acked (h : SentPacketHandler) (env : AckEnv) (packet : Packet) :
    (h.sentPacket env packet).1.acked = h.acked := by
  rcases sentPacket_cases h env packet with ⟨_, refused⟩ | ⟨-, -, recorded⟩
  · rw [refused]
  · rw [recorded]
    exact (bookkeeping_updateLossDetectionAlarm _ env).acked.trans (recordSent_acked h env packet)

/-! ### Acknowledgements of what was received -/

/-- A valid frame that acks only packets on the wire is refused as a duplicate or not at
all. -/
theorem Honest.receivedAck_error (honest : h.Honest onWire) (ackFrame : AckFrame)
    (valid : ackFrame.toAckContent.Valid) (largest : ackFrame.largestAcked ∈ onWire)
    (acks : ∀ n, ackFrame.acksPacket n = true → n ∈ onWire) (env : AckEnv)
    (withPacketNumber : Nat) (rcvTime : Int) :
    (h.receivedAck env ackFrame withPacketNumber rcvTime).2 = none ∨
      (h.receivedAck env ackFrame withPacketNumber rcvTime).2 =
        some .errDuplicateOrOutOfOrderAck := by
  have sent := (honest.sent _ largest).2
  have noneSkipped : ¬ h.skippedPackets.any ackFrame.acksPacket = true := by
    intro any
    obtain ⟨n, mem, acked⟩ := any_eq_true.mp any
    exact (honest.skipped n mem).2 (acks n acked)
  unfold receivedAck
  rw [if_neg (not_lt.mpr sent)]
  split
  · exact Or.inr rfl
  simp only
  split
  · exact Or.inl rfl
  split
  · rename_i skipped
    exact absurd skipped noneSkipped
  have same := bookkeeping_updateRTT
    { h with
      largestReceivedPacketWithAck := withPacketNumber
      largestAcked := ackFrame.largestAcked } ackFrame rcvTime
  rw [determineNewlyAckedPackets_eq (by rw [same.history]; exact honest.increasing) valid]
  exact Or.inl rfl

/-- The packets that the walk finds are acked by the frame. -/
theorem acksPacket_of_newlyAcked (inc : Increasing Packet.packetNumber h.packetHistory)
    {c : AckContent} (valid : c.Valid) {p : Packet} (newly : h.NewlyAcked c p) :
    c.acksPacket p.packetNumber = true := by
  obtain ⟨ackedPackets, walked, mem⟩ := newly
  rw [determineNewlyAckedPackets_eq inc valid] at walked
  obtain rfl := Except.ok.inj walked
  exact (mem_filter.mp mem).2

end Steps

end SentPacketHandler

/-! ## Both ends -/

/-- A sender, a receiver and what is on the way between them. -/
structure Connection where
  sender : SentPacketHandler := {}
  receiver : ReceivedPacketHandler
  /-- `ReceivedPacket` returned an error, on which the session closes -/
  receiverClosed : Bool := false
  /-- the packets sent so far -/
  wire : List Packet := []
  /-- the numbers that `ReceivedPacket` was called with -/
  received : List Nat := []
  /-- the ACK frames produced so far -/
  acks : List AckFrame := []

/-- What the two sides and the network do. -/
inductive NetworkOp where
  /-- Send a packet, with a STOP_WAITING frame from `GetStopWaitingFrame(force)` if asked -/
  | send (packet : Packet) (force : Option Bool) (env : AckEnv)
  /-- Deliver one of the packets sent so far -/
  | deliver (index : Nat) (now : Int)
  | getAckFrame (now : Int)
  /-- Deliver one of the ACK frames produced so far -/
  | deliverAck (index : Nat) (delayTime : Int) (withPacketNumber : Nat) (rcvTime : Int)
      (env : AckEnv)
  | onAlarm (env : AckEnv)
  | setInflightAsLost
  | dequeuePacketForRetransmission
  | duplicatePacket (packet : Packet)

/-- `LeastUnacked - 1`, in unsigned arithmetic. -/
def StopWaitingFrame.lowerLimit (f : StopWaitingFrame) : Nat :=
  if f.leastUnacked = 0 then 2 ^ 64 - 1 else f.leastUnacked - 1

/-- The STOP_WAITING frame, if it is one. -/
def Frame.stopWaiting? : Frame → Option StopWaitingFrame
  | .stopWaiting f => some f
  | _ => none

namespace Connection

variable (c : Connection)

/-- The STOP_WAITING frame of the next packet. -/
def nextStopWaiting (force : Option Bool) : SentPacketHandler × Option StopWaitingFrame :=
  match force with
  | some force => c.sender.getStopWaitingFrame force
  | none => (c.sender, none)

/-- A packet that `SentPacket` accepts goes on the wire. -/
def send (packet : Packet) (force : Option Bool) (env : AckEnv) : Connection :=
  let next := c.nextStopWaiting force
  let packet := { packet with
    frames := next.2.toList.map Frame.stopWaiting ++
      packet.frames.filter fun frame => frame.stopWaiting?.isNone }
  let sent := next.1.sentPacket env packet
  match sent.2 with
  | none => { c with sender := sent.1, wire := c.wire ++ [packet] }
  | some _ => { c with sender := sent.1 }

/-- `ReceivedPacket`, and then the STOP_WAITING frames among the packet's frames. -/
def deliver (packet : Packet) (now : Int) : Connection :=
  let result := c.receiver.receivedPacket now packet.packetNumber
    (hasRetransmittableFrames packet.frames)
  let c := { c with received := c.received ++ [packet.packetNumber] }
  match result.2 with
  | some _ => { c with receiver := result.1, receiverClosed := true }
  | none =>
    { c with
      receiver := (packet.frames.filterMap Frame.stopWaiting?).foldl
        (fun receiver frame => receiver.setLowerLimit frame.lowerLimit) result.1 }

/-- An ACK frame of the receiver is on the way. -/
def getAckFrame (now : Int) : Connection :=
  match c.receiver.getAckFrame now with
  | .ok (receiver, ack) => { c with receiver, acks := c.acks ++ ack.toList }
  | .error _ => { c with receiverClosed := true }

/-- A receiver that has failed takes no more packets and sends no ACKs. -/
def step : NetworkOp → Connection
  | .send packet force env => c.send packet force env
  | .deliver index now =>
    match c.receiverClosed, c.wire[index]? with
    | false, some packet => c.deliver packet now
    | _, _ => c
  | .getAckFrame now => if c.receiverClosed then c else c.getAckFrame now
  | .deliverAck index delayTime withPacketNumber rcvTime env =>
    match c.acks[index]? with
    | some ackFrame =>
      { c with
        sender := (c.sender.receivedAck env { ackFrame with delayTime } withPacketNumber
          rcvTime).1 }
    | none => c
  | .onAlarm env => { c with sender := c.sender.onAlarm env }
  | .setInflightAsLost => { c with sender := c.sender.setInflightAsLost }
  | .dequeuePacketForRetransmission =>
    { c with sender := c.sender.dequeuePacketForRetransmission.1 }
  | .duplicatePacket packet => { c with sender := c.sender.duplicatePacket packet }

/-- A run from two new handlers. -/
def run (version : VersionNumber) (ops : List NetworkOp) : Connection :=
  ops.foldl step { receiver := { version } }

/-- The numbers of the packets sent so far. -/
def sentNumbers : List Nat := c.wire.map Packet.packetNumber

/-- What holds between the two ends at any time. -/
structure Agreed (c : Connection) : Prop where
  sender : c.sender.Honest c.sentNumbers
  receiver : c.receiverClosed = false → c.receiver.Sound c.received
  received : ∀ n ∈ c.received, n ∈ c.sentNumbers
  acked : ∀ n ∈ c.sender.acked, n ∈ c.received
  acks : ∀ ackFrame ∈ c.acks, ackFrame.toAckContent.Valid ∧
    ackFrame.largestAcked ∈ c.received ∧ ∀ n, ackFrame.acksPacket n = true → n ∈ c.received
  limits : ∀ packet ∈ c.wire, ∀ f ∈ packet.frames.filterMap Frame.stopWaiting?,
    1 ≤ f.leastUnacked ∧ f.leastUnacked ≤ packet.packetNumber

variable {c : Connection}

/-- A call of the sender that sends nothing and acks only received packets. -/
theorem Agreed.changes {ackable : Packet → Prop} (agreed : c.Agreed) {h : SentPacketHandler}
    (changes : c.sender.Changes ackable h)
    (allowed : ∀ p, ackable p → p.packetNumber ∈ c.received) : Agreed { c with sender := h } where
  sender := agreed.sender.changes changes
  receiver := agreed.receiver
  received := agreed.received
  acked := changes.acked allowed agreed.acked
  acks := agreed.acks
  limits := agreed.limits

/-! ### Sending -/

theorem nextStopWaiting_spec (honest : c.sender.Honest c.sentNumbers) (force : Option Bool) :
    c.sender.Changes (fun _ => False) (c.nextStopWaiting force).1 ∧
      ∀ swf ∈ (c.nextStopWaiting force).2,
        1 ≤ swf.leastUnacked ∧ swf.leastUnacked ≤ c.sender.lastSentPacketNumber + 1 := by
  cases force with
  | none => exact ⟨Relation.ReflTransGen.refl, fun _ mem => absurd mem (Option.not_mem_none _)⟩
  | some force =>
    refine ⟨Relation.ReflTransGen.single (SentPacketHandler.Change.managerFrame force), ?_⟩
    exact (honest.manager.getStopWaitingFrame force).2

/-- The STOP_WAITING frames of a packet are the ones that were put in front. -/
theorem filterMap_stopWaiting (swf : Option StopWaitingFrame) (frames : List Frame) :
    (swf.toList.map Frame.stopWaiting ++
      frames.filter fun frame => frame.stopWaiting?.isNone).filterMap Frame.stopWaiting? =
        swf.toList := by
  have others : (frames.filter fun frame => frame.stopWaiting?.isNone).filterMap
      Frame.stopWaiting? = [] := by
    refine filterMap_eq_nil_iff.mpr fun frame mem => ?_
    exact Option.isNone_iff_eq_none.mp (mem_filter.mp mem).2
  rw [filterMap_append, others, append_nil]
  cases swf <;> rfl

theorem Agreed.send (agreed : c.Agreed) (packet : Packet) (force : Option Bool)
    (env : AckEnv) : (c.send packet force env).Agreed := by
  obtain ⟨changes, limits⟩ := nextStopWaiting_spec agreed.sender force
  have asked := agreed.changes changes fun _ never => never.elim
  have last := changes.lastSentPacketNumber_eq
  simp only [Connection.send]
  generalize built : ({ packet with
    frames := (c.nextStopWaiting force).2.toList.map Frame.stopWaiting ++
      packet.frames.filter fun frame => frame.stopWaiting?.isNone } : Packet) = sending
  have acked := sentPacket_acked (c.nextStopWaiting force).1 env sending
  cases refused : ((c.nextStopWaiting force).1.sentPacket env sending).2 with
  | some err =>
    simp only
    rw [sentPacket_error refused]
    exact asked
  | none =>
    obtain ⟨honest, newer⟩ := asked.sender.sentPacket env refused
    have numbers : (c.wire ++ [sending]).map Packet.packetNumber =
        c.sentNumbers ++ [sending.packetNumber] := map_append
    refine ⟨?_, agreed.receiver, fun n mem => ?_, ?_, agreed.acks, ?_⟩
    · rw [Connection.sentNumbers, numbers]
      exact honest
    · rw [Connection.sentNumbers, numbers]
      exact mem_append_left _ (agreed.received n mem)
    · simp only [acked]
      exact asked.acked
    · intro p mem f found
      rcases mem_append.mp mem with old | new
      · exact agreed.limits p old f found
      · obtain rfl := mem_singleton.mp new
        rw [← built, filterMap_stopWaiting] at found
        have bounds := limits f (Option.mem_toList.mp found)
        simp only at newer
        omega

/-! ### Receiving -/

/-- Lower limits below the largest packet keep the receiver's state sound. -/
theorem sound_foldl_setLowerLimit {received : List Nat} {frames : List StopWaitingFrame}
    {receiver : ReceivedPacketHandler} (sound : receiver.Sound received) (nonempty : received ≠ [])
    (limits : ∀ f ∈ frames, 1 ≤ f.leastUnacked ∧ f.leastUnacked ≤ receiver.largestObserved) :
    (frames.foldl (fun receiver frame => receiver.setLowerLimit frame.lowerLimit)
      receiver).Sound received := by
  induction frames generalizing receiver with
  | nil => exact sound
  | cons f frames ih =>
    obtain ⟨positive, upper⟩ := limits f mem_cons_self
    have limit : f.lowerLimit < receiver.largestObserved := by
      rw [StopWaitingFrame.lowerLimit, if_neg (by omega)]
      omega
    exact ih (sound.setLowerLimit nonempty limit)
      fun g mem => limits g (mem_cons_of_mem _ mem)

theorem Agreed.deliver (agreed : c.Agreed) (isOpen : c.receiverClosed = false)
    (sent : packet ∈ c.wire) (now : Int) : (c.deliver packet now).Agreed := by
  have number : packet.packetNumber ∈ c.sentNumbers := mem_map_of_mem sent
  have positive := (agreed.sender.sent _ number).1
  have limits := agreed.limits packet sent
  have received : ∀ n ∈ c.received ++ [packet.packetNumber], n ∈ c.sentNumbers :=
    forall_mem_append.mpr ⟨agreed.received, forall_mem_singleton.mpr number⟩
  have acked : ∀ n ∈ c.sender.acked, n ∈ c.received ++ [packet.packetNumber] :=
    fun n mem => mem_append_left _ (agreed.acked n mem)
  have acks : ∀ ackFrame ∈ c.acks, ackFrame.toAckContent.Valid ∧
      ackFrame.largestAcked ∈ c.received ++ [packet.packetNumber] ∧
      ∀ n, ackFrame.acksPacket n = true → n ∈ c.received ++ [packet.packetNumber] := by
    intro ackFrame mem
    obtain ⟨valid, largest, acks⟩ := agreed.acks ackFrame mem
    exact ⟨valid, mem_append_left _ largest,
      fun n acked => mem_append_left _ (acks n acked)⟩
  simp only [Connection.deliver]
  generalize hasRetransmittableFrames packet.frames = retransmittable
  cases refused : (c.receiver.receivedPacket now packet.packetNumber retransmittable).2 with
  | some err =>
    exact ⟨agreed.sender, fun closed => absurd closed (by simp), received, acked, acks,
      agreed.limits⟩
  | none =>
    have sound := (agreed.receiver isOpen).receivedPacket now positive retransmittable refused
    refine ⟨agreed.sender, fun _ => ?_, received, acked, acks, agreed.limits⟩
    refine sound_foldl_setLowerLimit sound (by simp) fun f mem => ?_
    have largest := sound.bounded packet.packetNumber
      (mem_append_right _ (mem_singleton_self _))
    exact ⟨(limits f mem).1, le_trans (limits f mem).2 largest⟩

theorem Agreed.getAckFrame (agreed : c.Agreed) (isOpen : c.receiverClosed = false) (now : Int) :
    (c.getAckFrame now).Agreed := by
  have known := (agreed.receiver isOpen).known
  obtain ⟨receiver, ack, produced, sound, fair⟩ := (agreed.receiver isOpen).getAckFrame now
  simp only [Connection.getAckFrame, produced]
  refine ⟨agreed.sender, fun _ => sound, agreed.received, agreed.acked, ?_, agreed.limits⟩
  intro ackFrame mem
  rcases mem_append.mp mem with old | new
  · exact agreed.acks ackFrame old
  · have reports := fair ackFrame (Option.mem_toList.mp new)
    exact ⟨reports.valid, known _ reports.largest, fun n acked =>
      known n ((reports.exact n).mp acked)⟩

/-! ### Runs -/

theorem Agreed.step (agreed : c.Agreed) (op : NetworkOp) : (c.step op).Agreed := by
  have inc := agreed.sender.increasing
  cases op with
  | send packet force env => exact agreed.send packet force env
  | deliver index now =>
    simp only [Connection.step]
    split
    · rename_i packet isOpen found
      exact agreed.deliver isOpen (mem_of_getElem? found) now
    · exact agreed
  | getAckFrame now =>
    cases isOpen : c.receiverClosed with
    | true =>
      rw [Connection.step, if_pos isOpen]
      exact agreed
    | false =>
      rw [Connection.step, if_neg (by simp [isOpen])]
      exact agreed.getAckFrame isOpen now
  | deliverAck index delayTime withPacketNumber rcvTime env =>
    simp only [Connection.step]
    split
    · rename_i ackFrame found
      obtain ⟨valid, -, acks⟩ := agreed.acks ackFrame (mem_of_getElem? found)
      refine agreed.changes (changes_receivedAck inc env _ _ _) ?_
      intro p newly
      exact acks _ (acksPacket_of_newlyAcked inc valid newly)
    · exact agreed
  | onAlarm env =>
    exact agreed.changes (changes_onAlarm (fun _ => False) inc env)
      fun _ never => never.elim
  | setInflightAsLost =>
    exact agreed.changes (changes_setInflightAsLost (fun _ => False) inc)
      fun _ never => never.elim
  | dequeuePacketForRetransmission =>
    simp only [Connection.step, dequeuePacketForRetransmission]
    split
    · exact agreed
    · exact ⟨⟨inc, agreed.sender.history, agreed.sender.sent, agreed.sender.skipped,
        agreed.sender.manager⟩, agreed.receiver, agreed.received, agreed.acked, agreed.acks,
        agreed.limits⟩
  | duplicatePacket packet =>
    exact ⟨⟨inc, agreed.sender.history, agreed.sender.sent, agreed.sender.skipped,
      agreed.sender.manager⟩, agreed.receiver, agreed.received, agreed.acked, agreed.acks,
      agreed.limits⟩

theorem agreed_run (version : VersionNumber) (ops : List NetworkOp) :
    (Connection.run version ops).Agreed := by
  have initial : Agreed { receiver := { version } } :=
    { sender :=
        { increasing := List.Pairwise.nil
          history := forall_mem_nil _
          sent := forall_mem_nil _
          skipped := forall_mem_nil _
          manager := ⟨Nat.zero_le _, Nat.le_refl _, fun _ => rfl,
            fun _ mem => absurd mem (Option.not_mem_none _)⟩ }
      receiver := fun _ => ReceivedPacketHandler.sound_new version
      received := forall_mem_nil _
      acked := forall_mem_nil _
      acks := forall_mem_nil _
      limits := forall_mem_nil _ }
  exact List.foldlRecOn ops Connection.step initial fun c agreed op _ => agreed.step op

end Connection

open Connection

/-- Agreement on one path, in every run over a network that loses, duplicates and reorders:
the sender takes a packet as acked only if `ReceivedPacket` was called with its number, and
an ACK frame of the receiver, whenever and in whatever packet it arrives, is accepted or
refused as a duplicate. -/
theorem ackAgreement (version : VersionNumber) (ops : List NetworkOp) :
    let c := run version ops
    (∀ n ∈ c.sender.acked, n ∈ c.received) ∧
      ∀ ackFrame ∈ c.acks, ∀ (delayTime : Int) (env : AckEnv) (withPacketNumber : Nat)
        (rcvTime : Int),
        let result := c.sender.receivedAck env { ackFrame with delayTime } withPacketNumber rcvTime
        result.2 = none ∨ result.2 = some .errDuplicateOrOutOfOrderAck := by
  have agreed := agreed_run version ops
  refine ⟨agreed.acked, fun ackFrame mem delayTime env withPacketNumber rcvTime => ?_⟩
  obtain ⟨valid, largest, acks⟩ := agreed.acks ackFrame mem
  exact agreed.sender.receivedAck_error { ackFrame with delayTime } valid
    (agreed.received _ largest)
    (fun n acked => agreed.received n (acks n acked)) env withPacketNumber rcvTime

/-- Packet 1 is lost, packet 3 arrives twice and is acked. -/
example :
    let ping (packetNumber : Nat) : NetworkOp :=
      .send { packetNumber, frames := [.ping], length := 20 } none default
    let c := run version39 [ping 1, ping 3, .deliver 1 0, .deliver 1 0,
      .getAckFrame 0, .deliverAck 0 0 1 0 default]
    c.sender.acked = [3] ∧ c.sender.skippedPackets = [2] := by
  decide

end MPQuic
