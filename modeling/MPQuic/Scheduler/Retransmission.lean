import MPQuic.PacketPacker.Conservation
import MPQuic.Scheduler

/-!
# What becomes of lost data

`getRetransmission` empties the retransmission queues of the paths. Every STREAM frame it takes
out of them either waits in the stream framer afterwards, or is in the packet that is returned, or
is dropped. Frames of unreliable streams are dropped on purpose. A packet below forward-secure is
dropped with all its frames once the handshake is complete, also when it carries data of a
reliable stream; and a client may send such data before it has the forward-secure keys.

* `getRetransmission_accounts`: what one call does to the frames and to the queues.
* `getRetransmission_sameButSent`: what it leaves alone.
* `reliable_data_kept_iff`: nothing of a reliable stream is dropped exactly if no packet below
  forward-secure with such data waits after the handshake.
-/

namespace MPQuic

open List Packet PathTable

variable {frames : List StreamFrame} (env : Nat → RetransmissionEnv)

/-- The STREAM frames of a packet. -/
def Packet.streamFrames (p : Packet) : List StreamFrame :=
  p.frames.filterMap fun
    | .stream f => some f
    | _ => none

namespace Session

/-- The packet is in the retransmission queue of a path. -/
def Waiting (s : Session) (packet : Packet) : Prop :=
  ∃ pathID pth, s.paths.lookup pathID = some pth ∧
    packet ∈ pth.sentPacketHandler.retransmissionQueue

end Session

/-- The STREAM frames that are sent again: those in the stream framer and those in the packet that
is returned. -/
def Retransmission.kept (r : Retransmission) : List StreamFrame :=
  r.session.streamFramer.retransmissionQueue ++
    r.retransmitPacket.toList.flatMap streamFrames

/-- No STREAM frame of a reliable stream got lost: each one is kept as often as it was queued in
the stream framer before and found in the packets. -/
def Retransmission.KeepsReliable (r : Retransmission) (before : Session) : Prop :=
  ∀ f, before.isReliable f = true →
    r.kept.count f =
      (before.streamFramer.retransmissionQueue ++ r.dequeued.flatMap streamFrames).count f

namespace Session

variable {pth : Path} {s s' : Session} {packet : Packet} {order : List PathID}

/-! ## Taking one packet -/

/-- A path without its record of sent packets. -/
def withoutSent (pth : Path) : Path := { pth with sentPacketHandler := {} }

/-- One packet was taken from the queue of one path. -/
structure Dequeued (s s' : Session) (pth : Path) (packet : Packet) : Prop where
  source : ∃ old rest, s.paths.lookup old.pathID = some old ∧
    old.sentPacketHandler.retransmissionQueue = packet :: rest ∧
    pth.sentPacketHandler.retransmissionQueue = rest ∧ withoutSent pth = withoutSent old
  session : s' = s.setPath pth

theorem pathID_eq_of_withoutSent {pth old : Path} (same : withoutSent pth = withoutSent old) :
    pth.pathID = old.pathID := by
  have ids := congrArg Path.pathID same
  exact ids

theorem dequeueFrom_eq_none_iff :
    s.dequeueFrom pth = none ↔ pth.sentPacketHandler.retransmissionQueue = [] := by
  unfold dequeueFrom SentPacketHandler.dequeuePacketForRetransmission
  cases pth.sentPacketHandler.retransmissionQueue <;> simp

theorem dequeued_of_dequeue (found : s.dequeue order = some (s', pth, packet)) :
    s.Dequeued s' pth packet := by
  obtain ⟨old, visited, taken⟩ := exists_of_findSome?_eq_some found
  unfold dequeueFrom SentPacketHandler.dequeuePacketForRetransmission at taken
  cases queue : old.sentPacketHandler.retransmissionQueue with
  | nil =>
    rw [queue] at taken
    cases taken
  | cons head rest =>
    rw [queue] at taken
    cases taken
    exact ⟨⟨old, rest, mem_visited.mp visited, queue, rfl, rfl⟩, rfl⟩

theorem not_waiting_of_dequeue (nothing : s.dequeue order = none) (packet : Packet) :
    ¬ s.Waiting packet := by
  rintro ⟨pathID, pth, found, member⟩
  have visited : pth ∈ s.paths.visited order :=
    mem_visited.mpr (lookup_pathID_of_lookup found)
  have empty := dequeueFrom_eq_none_iff.mp (findSome?_eq_none_iff.mp nothing pth visited)
  rw [empty] at member
  cases member

theorem Dequeued.waiting_iff (taken : s.Dequeued s' pth packet) (p : Packet) :
    s.Waiting p ↔ p = packet ∨ s'.Waiting p := by
  obtain ⟨⟨old, rest, found, queue, queue', same⟩, rfl⟩ := taken
  have sameID := pathID_eq_of_withoutSent same
  constructor
  · rintro ⟨pathID, other, foundOther, member⟩
    by_cases same : pathID = pth.pathID
    · rw [same, sameID, found] at foundOther
      cases foundOther
      rw [queue] at member
      rcases mem_cons.mp member with rfl | inRest
      · exact Or.inl rfl
      · exact Or.inr ⟨pth.pathID, pth, lookup_set_self _ _, queue'.symm ▸ inRest⟩
    · refine Or.inr ⟨pathID, other, ?_, member⟩
      exact (lookup_set_of_ne same).trans foundOther
  · rintro (rfl | ⟨pathID, other, foundOther, member⟩)
    · exact ⟨old.pathID, old, found, queue ▸ mem_cons_self⟩
    · by_cases same : pathID = pth.pathID
      · rw [same] at foundOther
        have written := (lookup_set_self s.paths pth).symm.trans foundOther
        cases written
        rw [queue'] at member
        exact ⟨old.pathID, old, found, queue ▸ mem_cons_of_mem _ member⟩
      · exact ⟨pathID, other, (lookup_set_of_ne same).symm.trans foundOther, member⟩

theorem Dequeued.lostPackets_eq
    (taken : s.Dequeued s' pth packet) : s.lostPackets = s'.lostPackets + 1 := by
  obtain ⟨⟨old, rest, found, queue, queue', same⟩, rfl⟩ := taken
  have sameID := pathID_eq_of_withoutSent same
  have changed := MapSum.total_insert_of_some
    (fun pth : Path => pth.sentPacketHandler.retransmissionQueue.length) found pth
  rw [queue, queue', length_cons, ← sameID] at changed
  unfold lostPackets
  simp only [setPath, PathTable.set]
  omega

/-! ## Putting frames back -/

/-- Putting frames back changes neither the paths nor the streams nor the quotas, and the stream
framer gets the given STREAM frames. -/
structure Requeued (s s' : Session) (frames : List StreamFrame) : Prop where
  paths : s'.paths = s.paths
  streamsMap : s'.streamsMap = s.streamsMap
  scheduler : s'.scheduler = s.scheduler
  handshakeComplete : s'.handshakeComplete = s.handshakeComplete
  queue : s'.streamFramer.retransmissionQueue = s.streamFramer.retransmissionQueue ++ frames

theorem Requeued.refl (s : Session) : s.Requeued s [] :=
  ⟨rfl, rfl, rfl, rfl, (append_nil _).symm⟩

theorem Requeued.trans {s s' s'' : Session} {front back : List StreamFrame}
    (first : s.Requeued s' front) (second : s'.Requeued s'' back) :
    s.Requeued s'' (front ++ back) where
  paths := second.paths.trans first.paths
  streamsMap := second.streamsMap.trans first.streamsMap
  scheduler := second.scheduler.trans first.scheduler
  handshakeComplete := second.handshakeComplete.trans first.handshakeComplete
  queue := by rw [second.queue, first.queue, append_assoc]

/-- The STREAM frame that a frame puts back. -/
def requeuedFrame (s : Session) : Frame → Option StreamFrame
  | .stream f => if s.isReliable f then some f else none
  | _ => none

theorem requeued_queueControlFrame (s : Session) (frame : Frame) (pathID : PathID) :
    s.Requeued (s.queueControlFrame frame pathID) [] :=
  ⟨rfl, rfl, rfl, rfl, (append_nil _).symm⟩

theorem requeued_requeueFrame (s : Session) (env : RetransmissionEnv) (pathID : PathID)
    (frame : Frame) :
    s.Requeued (requeueFrame env pathID s frame) (s.requeuedFrame frame).toList := by
  cases frame with
  | stream f =>
    simp only [requeueFrame, requeuedFrame]
    split
    · exact ⟨rfl, rfl, rfl, rfl, rfl⟩
    · exact Requeued.refl s
  | windowUpdate f =>
    simp only [requeueFrame]
    split
    · split
      · exact requeued_queueControlFrame s _ pathID
      · exact Requeued.refl s
    · exact Requeued.refl s
  | paths f => exact ⟨rfl, rfl, rfl, rfl, (append_nil _).symm⟩
  | _ => exact requeued_queueControlFrame s _ pathID

theorem Requeued.isReliable_eq (requeued : s.Requeued s' frames) (f : StreamFrame) :
    s'.isReliable f = s.isReliable f := by
  unfold isReliable
  rw [requeued.streamsMap]

theorem requeued_foldl (env : RetransmissionEnv) (pathID : PathID) (frames : List Frame) :
    ∀ s : Session,
      s.Requeued (frames.foldl (requeueFrame env pathID) s) (frames.filterMap s.requeuedFrame) := by
  induction frames with
  | nil => exact Requeued.refl
  | cons frame frames ih =>
    intro s
    have first := requeued_requeueFrame s env pathID frame
    have rest := ih (requeueFrame env pathID s frame)
    have same : (requeueFrame env pathID s frame).requeuedFrame = s.requeuedFrame := by
      funext other
      cases other with
      | stream f =>
        simp only [requeuedFrame]
        rw [first.isReliable_eq]
      | _ => rfl
    rw [same] at rest
    have both := first.trans rest
    rw [filterMap_cons]
    cases requeued : s.requeuedFrame frame
    all_goals
      rw [requeued] at both
      exact both

/-- ACK and STOP_WAITING frames are not put back, and hold no data. -/
theorem filterMap_requeuedFrame (s : Session) (packet : Packet) :
    packet.getFramesForRetransmission.filterMap s.requeuedFrame =
      packet.streamFrames.filter s.isReliable := by
  unfold getFramesForRetransmission streamFrames
  rw [filterMap_filter, filter_filterMap]
  refine filterMap_congr fun frame _ => ?_
  cases frame with
  | stream f => simp [requeuedFrame, Option.filter]
  | _ => rfl

theorem requeued_requeueFrames (s : Session) (env : RetransmissionEnv) (pathID : PathID)
    (packet : Packet) :
    s.Requeued (s.requeueFrames env pathID packet) (packet.streamFrames.filter s.isReliable) := by
  rw [← filterMap_requeuedFrame]
  exact requeued_foldl env pathID _ s

/-! ## The loop -/

/-- A packet whose frames are not thrown away. -/
def keepsPacket (s : Session) (packet : Packet) : Bool :=
  packet.encryptionLevel = .forwardSecure || !s.handshakeComplete

end Session

open Session in
/-- What the loop does from a session on when it takes the given packets: which STREAM frames of
reliable streams it keeps, and which packets wait afterwards. -/
structure Retransmission.Accounts (r : Retransmission) (s : Session) (taken : List Packet) :
    Prop where
  kept : ∀ f, s.isReliable f = true →
    r.kept.count f = s.streamFramer.retransmissionQueue.count f +
      ((taken.filter s.keepsPacket).flatMap streamFrames).count f
  waiting : ∀ p, s.Waiting p ↔ p ∈ taken ∨ r.session.Waiting p
  emptied : s.handshakeComplete = true → ∀ p, ¬ r.session.Waiting p

namespace Session

variable {r : Retransmission} {s s' : Session} {pth : Path} {packet : Packet}

theorem accounts_nothing (noPacket : r.retransmitPacket = none)
    (empty : ∀ p, ¬ r.session.Waiting p) : r.Accounts r.session [] where
  kept := by
    intro f _
    simp [Retransmission.kept, noPacket]
  waiting := by
    intro p
    simp
  emptied := fun _ => empty

/-- One packet more was taken in front of the others. -/
theorem Dequeued.accounts {s s' s'' : Session} {taken : List Packet}
    (dequeued : s.Dequeued s' pth packet) (requeued : s'.Requeued s'' frames)
    (later : r.Accounts s'' taken) (same : ∀ f, s.isReliable f = true →
      frames.count f = (([packet].filter s.keepsPacket).flatMap streamFrames).count f) :
    r.Accounts s (packet :: taken) := by
  have toSession := dequeued.session
  subst toSession
  have handshake : s''.handshakeComplete = s.handshakeComplete := requeued.handshakeComplete
  have keeps : s''.keepsPacket = s.keepsPacket := by
    funext p
    unfold keepsPacket
    rw [handshake]
  refine ⟨?_, ?_, ?_⟩
  · intro f reliable
    have reliable'' : s''.isReliable f = true := (requeued.isReliable_eq f).trans reliable
    have queue : s''.streamFramer.retransmissionQueue =
        s.streamFramer.retransmissionQueue ++ frames := requeued.queue
    rw [later.kept f reliable'', queue, keeps, count_append, same f reliable,
      ← singleton_append (l := taken), filter_append, flatMap_append,
      count_append, add_assoc]
  · intro p
    have paths : s''.Waiting p ↔ (s.setPath pth).Waiting p := by
      unfold Waiting
      rw [requeued.paths]
    rw [dequeued.waiting_iff p, ← paths, later.waiting p, mem_cons, or_assoc]
  · intro complete
    exact later.emptied (handshake.trans complete)

/-- The packet of the handshake ends the loop. -/
theorem Dequeued.accounts_handshake {fromPth : Option Path} {dequeuedBefore : List Packet}
    (dequeued : s.Dequeued s' pth packet) (incomplete : s.handshakeComplete = false) :
    Retransmission.Accounts
      { session := s', retransmitPacket := some packet, fromPth, dequeued := dequeuedBefore } s
      [packet] := by
  refine ⟨?_, ?_, ?_⟩
  · intro f _
    have queue : s'.streamFramer = s.streamFramer := by rw [dequeued.session]; rfl
    have keeps : s.keepsPacket packet = true := by simp [keepsPacket, incomplete]
    simp [Retransmission.kept, queue, keeps]
  · intro p
    rw [dequeued.waiting_iff p, mem_singleton]
  · intro complete
    rw [incomplete] at complete
    cases complete

end Session

open Session in
theorem retransmissionLoop_accounts :
    ∀ (fuel : Nat) (r : Retransmission), r.retransmitPacket = none →
      r.session.lostPackets < fuel →
      ∃ taken, (retransmissionLoop env fuel r).dequeued = r.dequeued ++ taken ∧
        (retransmissionLoop env fuel r).Accounts r.session taken := by
  intro fuel
  induction fuel with
  | zero =>
    intro r _ enough
    exact absurd enough (Nat.not_lt_zero _)
  | succ fuel ih =>
    intro r noPacket enough
    cases found : r.session.dequeue (env r.dequeued.length).order with
    | none =>
      simp only [retransmissionLoop, found]
      exact ⟨[], (append_nil _).symm,
        accounts_nothing noPacket (not_waiting_of_dequeue found)⟩
    | some next =>
      obtain ⟨s, pth, packet⟩ := next
      have dequeued := dequeued_of_dequeue found
      have fewer : s.lostPackets < fuel := by
        have := dequeued.lostPackets_eq
        omega
      have handshake : s.handshakeComplete = r.session.handshakeComplete := by
        rw [dequeued.session]
        rfl
      simp only [retransmissionLoop, found]
      split
      · rename_i below
        split
        · -- dropped with all its frames
          rename_i complete
          obtain ⟨taken, all, accounts⟩ :=
            ih { session := s, fromPth := some pth, dequeued := r.dequeued ++ [packet] } rfl
              fewer
          refine ⟨packet :: taken, by rw [all, append_assoc]; rfl, ?_⟩
          refine dequeued.accounts (Requeued.refl s) accounts fun f _ => ?_
          have dropped : r.session.keepsPacket packet = false := by
            simp [keepsPacket, below, ← handshake, complete]
          simp [dropped]
        · rename_i incomplete
          refine ⟨[packet], rfl, dequeued.accounts_handshake ?_⟩
          rw [← handshake]
          exact Bool.not_eq_true _ ▸ incomplete
      · rename_i forwardSecure
        have requeued := requeued_requeueFrames s (env r.dequeued.length) pth.pathID packet
        have fewer' :
            (s.requeueFrames (env r.dequeued.length) pth.pathID packet).lostPackets <
              fuel := by
          unfold lostPackets at fewer ⊢
          rw [requeued.paths]
          exact fewer
        obtain ⟨taken, all, accounts⟩ :=
          ih { session := s.requeueFrames (env r.dequeued.length) pth.pathID packet
               fromPth := some pth
               dequeued := r.dequeued ++ [packet] } rfl fewer'
        refine ⟨packet :: taken, by rw [all, append_assoc]; rfl, ?_⟩
        refine dequeued.accounts requeued accounts fun f reliable => ?_
        have keeps : r.session.keepsPacket packet = true := by
          simp [keepsPacket, not_not.mp forwardSecure]
        have reliable' : s.isReliable f = true := by
          rw [dequeued.session]
          exact reliable
        rw [filter_singleton, keeps, count_filter reliable']
        simp

namespace Session

/-- What `getRetransmission` keeps, and what waits afterwards. -/
theorem getRetransmission_accounts (s : Session) (env : Nat → RetransmissionEnv) :
    (s.getRetransmission env).Accounts s (s.getRetransmission env).dequeued := by
  obtain ⟨taken, all, accounts⟩ :=
    retransmissionLoop_accounts env (s.lostPackets + 1) { session := s } rfl (Nat.lt_succ_self _)
  have dequeued : (s.getRetransmission env).dequeued = taken := all
  rw [dequeued]
  exact accounts

/-! ## What the loop leaves alone -/

/-- The sessions have the same streams and quotas, and the same paths up to the records of sent
packets. -/
structure SameButSent (s s' : Session) : Prop where
  streamsMap : s'.streamsMap = s.streamsMap
  scheduler : s'.scheduler = s.scheduler
  length : s'.paths.length = s.paths.length
  lookup : ∀ pathID,
    (s'.paths.lookup pathID).map withoutSent = (s.paths.lookup pathID).map withoutSent

theorem SameButSent.refl (s : Session) : s.SameButSent s := ⟨rfl, rfl, rfl, fun _ => rfl⟩

theorem SameButSent.trans {s s' s'' : Session} (first : s.SameButSent s')
    (second : s'.SameButSent s'') : s.SameButSent s'' where
  streamsMap := second.streamsMap.trans first.streamsMap
  scheduler := second.scheduler.trans first.scheduler
  length := second.length.trans first.length
  lookup := fun pathID => (second.lookup pathID).trans (first.lookup pathID)

theorem Dequeued.sameButSent {s s' : Session} {pth : Path} {packet : Packet}
    (taken : s.Dequeued s' pth packet) : s.SameButSent s' := by
  obtain ⟨⟨old, rest, found, -, -, same⟩, rfl⟩ := taken
  rw [← pathID_eq_of_withoutSent same] at found
  refine ⟨rfl, rfl, length_set pth found, fun pathID => ?_⟩
  by_cases written : pathID = pth.pathID
  · have lookedUp : (s.setPath pth).paths.lookup pathID = some pth := by
      rw [written]
      exact lookup_set_self s.paths pth
    rw [lookedUp, written, found, Option.map_some, Option.map_some, same]
  · exact congrArg (Option.map withoutSent) (lookup_set_of_ne written)

theorem Requeued.sameButSent {s s' : Session} (requeued : s.Requeued s' frames) :
    s.SameButSent s' where
  streamsMap := requeued.streamsMap
  scheduler := requeued.scheduler
  length := by rw [requeued.paths]
  lookup := fun pathID => by rw [requeued.paths]

end Session

open Session in
theorem retransmissionLoop_sameButSent :
    ∀ (fuel : Nat) (r : Retransmission),
      r.session.SameButSent (retransmissionLoop env fuel r).session := by
  intro fuel
  induction fuel with
  | zero => exact fun r => SameButSent.refl r.session
  | succ fuel ih =>
    intro r
    cases found : r.session.dequeue (env r.dequeued.length).order with
    | none =>
      simp only [retransmissionLoop, found]
      exact SameButSent.refl r.session
    | some next =>
      obtain ⟨s, pth, packet⟩ := next
      have taken := (dequeued_of_dequeue found).sameButSent
      simp only [retransmissionLoop, found]
      split
      · split
        · have later :=
            ih { session := s, fromPth := some pth, dequeued := r.dequeued ++ [packet] }
          exact taken.trans later
        · exact taken
      · have requeued := requeued_requeueFrames s (env r.dequeued.length) pth.pathID packet
        have later :=
          ih { session := s.requeueFrames (env r.dequeued.length) pth.pathID packet
               fromPth := some pth
               dequeued := r.dequeued ++ [packet] }
        exact taken.trans (requeued.sameButSent.trans later)

/-- Once a packet was dequeued there is a path it came from. -/
theorem retransmissionLoop_hasRetransmission :
    ∀ (fuel : Nat) (r : Retransmission), r.hasRetransmission = true →
      (retransmissionLoop env fuel r).hasRetransmission = true := by
  intro fuel
  induction fuel with
  | zero => exact fun _ started => started
  | succ fuel ih =>
    intro r started
    simp only [retransmissionLoop]
    split
    · exact started
    · split
      · split
        · exact ih _ rfl
        · rfl
      · exact ih _ rfl

namespace Session

variable (s : Session)

theorem getRetransmission_sameButSent (env : Nat → RetransmissionEnv) :
    s.SameButSent (s.getRetransmission env).session :=
  retransmissionLoop_sameButSent env _ { session := s }

theorem getRetransmission_of_not_waiting {s : Session} (nothing : ∀ packet, ¬ s.Waiting packet)
    (env : Nat → RetransmissionEnv) : s.getRetransmission env = { session := s } := by
  unfold getRetransmission retransmissionLoop
  cases found : s.dequeue (env 0).order with
  | none => rfl
  | some next =>
    obtain ⟨s', pth, packet⟩ := next
    have waiting := ((dequeued_of_dequeue found).waiting_iff packet).mpr (Or.inl rfl)
    exact absurd waiting (nothing packet)

/-- There is something to send again exactly if a packet waits. -/
theorem hasRetransmission_iff (env : Nat → RetransmissionEnv) :
    (s.getRetransmission env).hasRetransmission = true ↔ ∃ packet, s.Waiting packet := by
  constructor
  · intro started
    by_contra nothing
    rw [getRetransmission_of_not_waiting (not_exists.mp nothing)] at started
    cases started
  · rintro ⟨packet, waiting⟩
    unfold getRetransmission retransmissionLoop
    cases found : s.dequeue (env 0).order with
    | none => exact absurd waiting (not_waiting_of_dequeue found packet)
    | some next =>
      simp only [length_nil]
      split
      · split
        · exact retransmissionLoop_hasRetransmission env _ _ rfl
        · rfl
      · exact retransmissionLoop_hasRetransmission env _ _ rfl

/-! ## Reliable data -/

/-- A packet that waits below forward-secure after the handshake has no data of a reliable
stream. -/
def NoEarlyReliableData : Prop :=
  s.handshakeComplete = true → ∀ packet, s.Waiting packet →
    packet.encryptionLevel ≠ .forwardSecure → ∀ f ∈ packet.streamFrames, s.isReliable f = false

theorem count_flatMap_filter_eq_iff (keeps : Packet → Bool) (packets : List Packet)
    (f : StreamFrame) :
    ((packets.filter keeps).flatMap streamFrames).count f =
        (packets.flatMap streamFrames).count f ↔
      ∀ packet ∈ packets, keeps packet = false → f ∉ packet.streamFrames := by
  induction packets with
  | nil => simp
  | cons packet packets ih =>
    have fewer : ((packets.filter keeps).flatMap streamFrames).count f ≤
        (packets.flatMap streamFrames).count f :=
      (filter_sublist.flatMap streamFrames).count_le f
    rw [forall_mem_cons, ← ih, filter_cons, flatMap_cons, count_append]
    cases keeps packet with
    | true => simp
    | false =>
      rw [if_neg Bool.false_ne_true, ← count_eq_zero]
      constructor
      · intro same
        exact ⟨fun _ => by omega, by omega⟩
      · rintro ⟨zero, same⟩
        rw [zero rfl, same, zero_add]

/-- Reliable data gets lost exactly if it waits in a packet below forward-secure and the handshake
is complete. -/
theorem reliable_data_kept_iff (env : Nat → RetransmissionEnv) :
    (s.getRetransmission env).KeepsReliable s ↔ s.NoEarlyReliableData := by
  have accounts := s.getRetransmission_accounts env
  generalize s.getRetransmission env = r at accounts ⊢
  have balance : ∀ f, s.isReliable f = true →
      (r.kept.count f =
          (s.streamFramer.retransmissionQueue ++
            r.dequeued.flatMap streamFrames).count f ↔
        ∀ packet ∈ r.dequeued, s.keepsPacket packet = false → f ∉ packet.streamFrames) := by
    intro f reliable
    rw [accounts.kept f reliable, count_append, Nat.add_left_cancel_iff]
    exact count_flatMap_filter_eq_iff s.keepsPacket r.dequeued f
  constructor
  · intro keeps complete packet waiting below f member
    by_contra reliable
    have reliable' := Bool.not_eq_false _ ▸ reliable
    have taken : packet ∈ r.dequeued :=
      ((accounts.waiting packet).mp waiting).resolve_right (accounts.emptied complete packet)
    have dropped : s.keepsPacket packet = false := by simp [keepsPacket, below, complete]
    exact (balance f reliable').mp (keeps f reliable') packet taken dropped member
  · intro noData f reliable
    refine (balance f reliable).mpr fun packet taken dropped member => ?_
    simp only [keepsPacket, Bool.or_eq_false_iff, decide_eq_false_iff_not,
      Bool.not_eq_false'] at dropped
    have waiting := (accounts.waiting packet).mpr (Or.inl taken)
    have unreliable := noData dropped.2 packet waiting dropped.1 f member
    rw [reliable] at unreliable
    cases unreliable

/-! ## Data of the client ahead of the forward-secure keys -/

/-- A client with the streams 1, 3 and 5 open. -/
def threeStreams : StreamsMap × FlowControlManager :=
  Nat.repeat
    (fun st : StreamsMap × FlowControlManager =>
      let opened := st.1.openStream st.2
      (opened.map, opened.flow))
    3 (newStreamsMap .client, newFlowControlManager (clientParameters 0 0))

def firstPath : Path :=
  newPath initialPathID { ip := [], port := 0 } { ip := [], port := 0 } versionMP 0

/-- A client that has the initial keys only, and one byte to send on stream 5. -/
def earlyClient : Session where
  perspective := .client
  version := versionMP
  paths := empty.set firstPath
  streamsMap := threeStreams.1.modifyStream 5 fun stream => (stream.write [7]).1
  flowControlManager := threeStreams.2
  packer :=
    { connectionID := 1
      perspective := .client
      version := versionMP
      cryptoSetup := { secureAEAD := some zeroKeys } }

def atTimeZero : SendEnv where
  now := 0
  ack := default

/-- The alarm of the first path goes off, and then the handshake completes. -/
def loseThenComplete : Session :=
  { s.modifyPath initialPathID fun pth =>
      { pth with sentPacketHandler := pth.sentPacketHandler.onAlarm default } with
    handshakeComplete := true }

def byteOnStream5 : StreamFrame := { streamID := 5, data := [7] }

/-- The client sends the byte in a packet of the level `secure`. The packet is declared lost, the
handshake completes, and the scheduler takes the packet from the queue and forgets it. -/
theorem early_data_dropped_after_handshake :
    ∃ sent packet, earlyClient.performPacketSending [] firstPath atTimeZero = .ok sent ∧
      sent.packet = some packet ∧ packet.encryptionLevel = .secure ∧
      packet.streamFrames = [byteOnStream5] ∧
      (loseThenComplete sent.session).isReliable byteOnStream5 = true ∧
      let r := (loseThenComplete sent.session).getRetransmission fun _ => {}
      r.dequeued.map streamFrames = [[byteOnStream5]] ∧
        r.session.streamFramer.retransmissionQueue = [] ∧ r.retransmitPacket = none ∧
        ¬ r.KeepsReliable (loseThenComplete sent.session) := by
  refine ⟨_, _, rfl, rfl, by decide, by decide, by decide, by decide, by decide, by decide, ?_⟩
  intro keeps
  exact absurd (keeps byteOnStream5 (by decide)) (by decide)

end Session

end MPQuic
