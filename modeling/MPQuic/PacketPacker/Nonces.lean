import MPQuic.Lib.Runs
import MPQuic.PacketPacker.Conservation

/-!
# Nonces

Every packet of a session is sealed by one of the AEADs of its crypto setup, and the nonce is made
of the AEAD's IV and the packet number. Packet numbers come from the generator of the path, and all
generators start at one. So an AEAD that seals packets of two paths uses a nonce twice as soon as
both have sent enough packets.

A run here is any interleaving of new paths and calls of the packer. Between two calls everything
but the generators may change in any way: the queues, the streams, the handshake and its keys. The
main result `nonces_unique` says that no nonce is used twice as long as no AEAD seals packets of
two paths, and `nonce_reused_across_paths` is a run of one session in which this fails.
-/

namespace MPQuic

open List

/-- The calls that seal packets. -/
inductive PackCall where
  | packPacket
  | packPing
  | packAckPacket
  | packConnectionClose (ccf : ConnectionCloseFrame)
  | packHandshakeRetransmission (packet : Packet)

namespace PackCall

def run (call : PackCall) (st : PackState) (env : PackEnv) : Except RuntimePanic PackResult :=
  match call with
  | .packPacket => st.packPacket env
  | .packPing => st.packPing env
  | .packAckPacket => .ok (st.packAckPacket env)
  | .packConnectionClose ccf => .ok (st.packConnectionClose env ccf)
  | .packHandshakeRetransmission packet => .ok (st.packHandshakeRetransmission env packet)

/-- The sealer that the call asks the crypto setup for. -/
def sealer (call : PackCall) (st : PackState) : Option Sealer :=
  let ordinary := (st.packer.cryptoSetup.getSealer st.packer.perspective).2
  match call with
  | .packPacket | .packPing =>
    if st.hasCryptoStreamFrame then
      some (st.packer.cryptoSetup.getSealerForCryptoStream st.packer.perspective).2
    else some ordinary
  | .packAckPacket | .packConnectionClose _ => some ordinary
  | .packHandshakeRetransmission packet =>
    (st.packer.cryptoSetup.getSealerWithEncryptionLevel packet.encryptionLevel).toOption

end PackCall

/-! ## One call -/

/-- What a call can do to the generator: nothing, or take the next number for the one packet that
it seals. -/
inductive Seals (generator : PacketNumberGenerator) (random : Option UInt16)
    (sealer : Option Sealer) (result : PackResult) : Prop
  | nothing (noCall : result.sealCall = none)
      (kept : result.state.pth.packetNumberGenerator = generator)
  | one (call : SealCall) (called : result.sealCall = some call)
      (used : sealer = some call.sealer) (number : call.packetNumber = generator.peek)
      (popped : result.state.pth.packetNumberGenerator = (generator.pop random).1)

namespace PackState

variable {st : PackState} {env : PackEnv}
  {publicHeader : PublicHeader} {result : PackResult}

theorem writeAndSealPacket_seals (st : PackState) (env : PackEnv)
    (number : publicHeader.packetNumber = st.pth.packetNumberGenerator.peek)
    (frames : List Frame) (encLevel : EncryptionLevel) (sealer : Sealer) :
    Seals st.pth.packetNumberGenerator env.random (some sealer)
      (st.writeAndSealPacket env publicHeader frames encLevel sealer) := by
  unfold writeAndSealPacket
  split
  · exact .nothing rfl rfl
  · exact .nothing rfl rfl
  · split
    · exact .nothing rfl rfl
    · exact .one _ rfl rfl number rfl

theorem sealPayload_seals {composed : Composed}
    (number : publicHeader.packetNumber = composed.state.pth.packetNumberGenerator.peek)
    (encLevel : EncryptionLevel) (sealer : Sealer) :
    Seals composed.state.pth.packetNumberGenerator env.random (some sealer)
      (sealPayload composed env publicHeader encLevel sealer) := by
  unfold sealPayload
  split
  · exact .nothing rfl rfl
  · split
    · exact .nothing rfl rfl
    · split
      · exact .nothing rfl rfl
      · cases writeAndSealPacket_seals composed.state.clearSlots env number _ encLevel sealer with
        | nothing noCall kept => exact .nothing noCall kept
        | one call called used counted popped => exact .one call called used counted popped

theorem packQueued_seals (st : PackState) :
    Seals st.pth.packetNumberGenerator env.random
      (some (st.packer.cryptoSetup.getSealer st.packer.perspective).2) (st.packQueued env) := by
  unfold packQueued
  simp only
  split
  · exact .nothing rfl rfl
  · generalize composing : (st.numberStopWaiting _).choosePayload _ _ = composed
    have pth : composed.state.pth = st.pth := by rw [← composing, choosePayload_pth]; rfl
    rw [← pth]
    apply sealPayload_seals
    rw [pth]
    rfl

theorem packCryptoPacket_seals (st : PackState) (run : st.packCryptoPacket env = .ok result) :
    Seals st.pth.packetNumberGenerator env.random
      (some (st.packer.cryptoSetup.getSealerForCryptoStream st.packer.perspective).2)
      result := by
  unfold packCryptoPacket at run
  simp only at run
  split at run
  · cases run
    exact .nothing rfl rfl
  · split at run
    · cases run
    · cases run
    · rename_i map flow frame _
      cases run
      exact writeAndSealPacket_seals { st with streams := map, flow } env rfl _ _ _

theorem packPacket_seals (st : PackState) (run : st.packPacket env = .ok result) :
    Seals st.pth.packetNumberGenerator env.random (PackCall.packPacket.sealer st) result := by
  unfold packPacket at run
  unfold PackCall.sealer hasCryptoStreamFrame
  split at run
  · cases run
  · rename_i streams flow cs opened
    simp only [opened, decide_eq_true_eq]
    split at run
    · rename_i pending
      rw [if_pos pending]
      exact packCryptoPacket_seals { st with streams, flow } run
    · rename_i idle
      cases run
      rw [if_neg idle]
      exact packQueued_seals { st with streams, flow }

theorem packAckPacket_seals :
    Seals st.pth.packetNumberGenerator env.random (PackCall.packAckPacket.sealer st)
      (st.packAckPacket env) := by
  unfold packAckPacket
  split
  · exact .nothing rfl rfl
  · exact writeAndSealPacket_seals (st.numberStopWaiting _).clearSlots env rfl _ _ _

theorem packHandshakeRetransmission_seals (packet : Packet) :
    Seals st.pth.packetNumberGenerator env.random
      ((PackCall.packHandshakeRetransmission packet).sealer st)
      (st.packHandshakeRetransmission env packet) := by
  simp only [packHandshakeRetransmission, PackCall.sealer]
  split
  · exact .nothing rfl rfl
  · split
    · exact .nothing rfl rfl
    · exact .nothing rfl rfl
    · rename_i chosen _
      rw [chosen]
      exact writeAndSealPacket_seals
        { st with packer := st.packer.setStopWaiting st.pth.pathID none } env rfl _ _ _

end PackState

/-- Every call seals at most one packet, with the sealer it asked for and the next number. -/
theorem PackCall.seals {call : PackCall} {st : PackState} {env : PackEnv} {result : PackResult}
    (run : call.run st env = .ok result) :
    Seals st.pth.packetNumberGenerator env.random (call.sealer st) result := by
  cases call with
  | packPacket => exact PackState.packPacket_seals st run
  | packPing => exact PackState.packPacket_seals st.queuePing run
  | packAckPacket =>
    cases run
    exact PackState.packAckPacket_seals
  | packConnectionClose ccf =>
    cases run
    exact PackState.writeAndSealPacket_seals st env rfl _ _ _
  | packHandshakeRetransmission packet =>
    cases run
    exact PackState.packHandshakeRetransmission_seals packet

/-! ## Runs -/

/-- The generators of the paths, in the order in which the paths were set up, and the packets that
were sealed, each with the path it was sealed for. -/
structure SealingState where
  generators : List PacketNumberGenerator := []
  sealed : List (Nat × SealCall) := []

/-- The calls that seal packets. -/
inductive SealingOp where
  /-- a path is set up -/
  | setup
  /-- a call for a path, in surroundings that may be any -/
  | pack (path : Nat) (call : PackCall) (around : PackState) (env : PackEnv)

/-- The surroundings, with the generator that the path really has. -/
def PackState.withGenerator (around : PackState) (generator : PacketNumberGenerator) :
    PackState :=
  { around with pth := { around.pth with packetNumberGenerator := generator } }

namespace SealingState

/-- A call that panics has not sealed anything. -/
def step (s : SealingState) : SealingOp → SealingState
  | .setup =>
    { s with
      generators := s.generators ++ [newPacketNumberGenerator skipPacketAveragePeriodLength] }
  | .pack path call around env =>
    match s.generators[path]? with
    | none => s
    | some generator =>
      match call.run (around.withGenerator generator) env with
      | .error _ => s
      | .ok result =>
        { generators := s.generators.set path result.state.pth.packetNumberGenerator
          sealed := s.sealed ++ result.sealCall.toList.map (path, ·) }

def run (ops : List SealingOp) : SealingState := ops.foldl step {}

end SealingState

/-- One AEAD, with one nonce, for two packets. -/
def NonceReused (a b : SealCall) : Prop :=
  a.sealer = b.sealer ∧ ∃ nonce, a.nonce = some nonce ∧ b.nonce = some nonce

/-- The condition on a step: the AEAD that the call asks for has sealed packets of this path only,
and the packet numbers of the path have not reached their end. -/
def SealingOp.OnePathPerKey (op : SealingOp) (s : SealingState) : Prop :=
  match op with
  | .setup => True
  | .pack path call around _ =>
    (∀ aead : AEADAESGCM12, call.sealer around = some (.aesgcm12 aead) →
      ∀ earlier ∈ s.sealed, earlier.2.sealer = .aesgcm12 aead → earlier.1 = path) ∧
    ∀ generator, s.generators[path]? = some generator → generator.peek + 2 < 2 ^ 64

/-- The invariant: the numbers of the sealed packets lie below the next one of their path. -/
structure SealingState.Fresh (s : SealingState) : Prop where
  below : ∀ entry ∈ s.sealed, ∃ generator, s.generators[entry.1]? = some generator ∧
    entry.2.packetNumber < generator.peek ∧ entry.2.packetNumber < 2 ^ 64
  unique : s.sealed.Pairwise fun a b => ¬ NonceReused a.2 b.2

/-- Which sealer a call asks for does not depend on the packet numbers. -/
theorem PackCall.sealer_withGenerator (call : PackCall) (around : PackState)
    (generator : PacketNumberGenerator) :
    call.sealer (around.withGenerator generator) = call.sealer around := by
  cases call <;> rfl

/-- Two packets of one AEAD that use one nonce have one number. -/
theorem NonceReused.packetNumber_eq {a b : SealCall} (reused : NonceReused a b)
    (boundA : a.packetNumber < 2 ^ 64) (boundB : b.packetNumber < 2 ^ 64) :
    ∃ aead, a.sealer = .aesgcm12 aead ∧ a.packetNumber = b.packetNumber := by
  obtain ⟨same, nonce, nonceA, nonceB⟩ := reused
  unfold SealCall.nonce at nonceA nonceB
  rw [← same] at nonceB
  cases sealer : a.sealer with
  | nullAEAD =>
    rw [sealer] at nonceA
    cases nonceA
  | aesgcm12 aead =>
    rw [sealer] at nonceA nonceB
    have same : makeNonce aead.myIV a.packetNumber = makeNonce aead.myIV b.packetNumber :=
      Option.some.inj (nonceA.trans nonceB.symm)
    exact ⟨aead, rfl, makeNonce_inj boundA boundB same⟩

namespace SealingState

variable {s : SealingState} {path : Nat} {generator : PacketNumberGenerator}

theorem Fresh.setup (fresh : s.Fresh) : (s.step .setup).Fresh where
  below := by
    intro entry mem
    obtain ⟨generator, found, less⟩ := fresh.below entry mem
    refine ⟨generator, ?_, less⟩
    have inside := (List.getElem?_eq_some_iff.mp found).1
    exact (List.getElem?_append_left inside).trans found
  unique := fresh.unique

/-- A generator that moved on keeps the packets of its path below it. -/
theorem Fresh.below_set {moved : PacketNumberGenerator} (fresh : s.Fresh)
    (found : s.generators[path]? = some generator) (later : generator.peek ≤ moved.peek) :
    ∀ entry ∈ s.sealed, ∃ g, (s.generators.set path moved)[entry.1]? = some g ∧
      entry.2.packetNumber < g.peek ∧ entry.2.packetNumber < 2 ^ 64 := by
  intro entry mem
  obtain ⟨g, own, less, bound⟩ := fresh.below entry mem
  have inside := (List.getElem?_eq_some_iff.mp found).1
  by_cases same : path = entry.1
  · rw [← same, found] at own
    cases own
    refine ⟨moved, ?_, less.trans_le later, bound⟩
    rw [← same, List.getElem?_set_self inside]
  · exact ⟨g, (getElem?_set_ne same).trans own, less, bound⟩

/-- A packet that is sealed under the next number of its path reuses no nonce, if its AEAD has
sealed packets of this path only. -/
theorem Fresh.seal {call : SealCall} (fresh : s.Fresh)
    (found : s.generators[path]? = some generator) (bound : generator.peek + 2 < 2 ^ 64)
    (number : call.packetNumber = generator.peek)
    (onePath : ∀ aead : AEADAESGCM12, call.sealer = .aesgcm12 aead →
      ∀ earlier ∈ s.sealed, earlier.2.sealer = .aesgcm12 aead → earlier.1 = path)
    (random : Option UInt16) :
    Fresh
      { generators := s.generators.set path (generator.pop random).1
        sealed := s.sealed ++ [(path, call)] } where
  below := by
    have later := PacketNumberGenerator.peek_lt_peek_pop bound random
    intro entry mem
    rcases mem_append.mp mem with old | new
    · exact fresh.below_set found later.le entry old
    · cases List.mem_singleton.mp new
      have inside := (List.getElem?_eq_some_iff.mp found).1
      have small : call.packetNumber < 2 ^ 64 := by omega
      exact ⟨_, List.getElem?_set_self inside, number ▸ later, small⟩
  unique := by
    apply pairwise_append.mpr
    refine ⟨fresh.unique, pairwise_singleton _ _, ?_⟩
    intro earlier mem new newMem reused
    cases List.mem_singleton.mp newMem
    obtain ⟨g, own, less, earlierBound⟩ := fresh.below earlier mem
    obtain ⟨aead, sealer, numbers⟩ := reused.packetNumber_eq earlierBound
      (show call.packetNumber < 2 ^ 64 by omega)
    have path := onePath aead (reused.1.symm.trans sealer) earlier mem sealer
    rw [path, found] at own
    cases own
    simp only at numbers
    omega

theorem Fresh.step {op : SealingOp} (fresh : s.Fresh) (safe : op.OnePathPerKey s) :
    (s.step op).Fresh := by
  cases op with
  | setup => exact fresh.setup
  | pack path call around env =>
    obtain ⟨onePath, bounds⟩ := safe
    simp only [SealingState.step]
    split
    · exact fresh
    · rename_i generator found
      split
      · exact fresh
      · rename_i result ran
        cases PackCall.seals ran with
        | nothing noCall kept =>
          rw [noCall, kept]
          refine ⟨?_, ?_⟩
          · intro entry mem
            exact fresh.below_set found le_rfl entry (by simpa using mem)
          · simpa using fresh.unique
        | one sealCall called used number popped =>
          rw [called, popped]
          rw [PackCall.sealer_withGenerator] at used
          apply fresh.seal found (bounds generator found) number
          intro aead sealer
          exact onePath aead (used.trans (congrArg some sealer))

theorem Fresh.run {ops : List SealingOp}
    (safe : ∀ front op back, ops = front ++ op :: back → op.OnePathPerKey (run front)) :
    (run ops).Fresh := by
  have each : Runs.EachStep SealingState.step (fun state op => op.OnePathPerKey state) {} ops :=
    safe
  exact each.invariant Fresh ⟨fun entry mem => (by cases mem), List.Pairwise.nil⟩
    fun _ _ fresh onePath => fresh.step onePath

end SealingState

/-- In every run in which no AEAD seals packets of two paths, no two packets are sealed by one AEAD
with one nonce. -/
theorem nonces_unique (ops : List SealingOp)
    (safe : ∀ front op back, ops = front ++ op :: back →
      op.OnePathPerKey (SealingState.run front)) :
    (SealingState.run ops).sealed.Pairwise fun a b => ¬ NonceReused a.2 b.2 :=
  (SealingState.Fresh.run safe).unique

/-- A server that sends a window update on the given path after the handshake. -/
def serverOn (pathID : PathID) : PackState :=
  let server := idleServer [windowUpdateOfStream5] none none
  { server with pth := { server.pth with pathID } }

/-- A server that acknowledges the client's first packets, before it has any keys. -/
def keylessServer : PackState :=
  let server := idleServer [] none (some ackOfThree)
  { server with packer := { server.packer with cryptoSetup := {} } }

def duringHandshake : PackEnv where
  now := 0
  handshakeComplete := false

/-- Two packets on the first path, the second of them with keys; the second path is never used. -/
def onePathRun : List SealingOp :=
  [.setup, .pack 0 .packAckPacket keylessServer duringHandshake,
    .pack 0 .packPacket (serverOn 0) afterHandshake, .setup,
    .pack 0 .packPacket (serverOn 0) afterHandshake]

theorem nonces_unique_onePathRun :
    ((SealingState.run onePathRun).sealed.map fun entry => (entry.1, entry.2.packetNumber)) =
        [(0, 1), (0, 2), (0, 3)] ∧
      (SealingState.run onePathRun).sealed.Pairwise fun a b => ¬ NonceReused a.2 b.2 := by
  refine ⟨by decide, nonces_unique onePathRun ?_⟩
  -- all packets are sealed for the first path, so there is no other one to find
  intro front op back split
  have facts : (∀ entry ∈ (SealingState.run front).sealed, entry.1 = 0) ∧
      ∀ generator ∈ (SealingState.run front).generators, generator.peek + 2 < 2 ^ 64 := by
    rcases front with _ | ⟨_, _ | ⟨_, _ | ⟨_, _ | ⟨_, _ | ⟨_, front⟩⟩⟩⟩⟩
    · decide
    · cases split
      decide
    · cases split
      decide
    · cases split
      decide
    · cases split
      decide
    · have lengths := congrArg List.length split
      simp only [onePathRun, cons_append, length_cons, length_append,
        length_nil] at lengths
      omega
  have member : op ∈ onePathRun := split ▸ mem_append_right front mem_cons_self
  have path : op = .setup ∨ ∃ call around env, op = .pack 0 call around env := by
    simp only [onePathRun, mem_cons, not_mem_nil, or_false] at member
    rcases member with rfl | rfl | rfl | rfl | rfl
    · exact Or.inl rfl
    · exact Or.inr ⟨_, _, _, rfl⟩
    · exact Or.inr ⟨_, _, _, rfl⟩
    · exact Or.inl rfl
    · exact Or.inr ⟨_, _, _, rfl⟩
  rcases path with rfl | ⟨call, around, env, rfl⟩
  · trivial
  · refine ⟨fun _ _ earlier mem _ => facts.1 earlier mem, ?_⟩
    intro generator found
    exact facts.2 generator (mem_of_getElem? found)

/-- The same server, which then answers on a second path as well. -/
def twoPathRun : List SealingOp :=
  [.setup, .pack 0 .packAckPacket keylessServer duringHandshake,
    .pack 0 .packPacket (serverOn 0) afterHandshake, .setup,
    .pack 1 .packPacket (serverOn 1) afterHandshake,
    .pack 1 .packPacket (serverOn 1) afterHandshake]

/-- The second packet of each path is sealed with the forward-secure AEAD under number two. -/
theorem nonce_reused_across_paths :
    ((SealingState.run twoPathRun).sealed.map fun entry =>
        (entry.1, entry.2.packetNumber, entry.2.nonce)) =
        [(0, 1, none), (0, 2, some [0, 0, 0, 0, 2, 0, 0, 0, 0, 0, 0, 0]),
          (1, 1, some [0, 0, 0, 0, 1, 0, 0, 0, 0, 0, 0, 0]),
          (1, 2, some [0, 0, 0, 0, 2, 0, 0, 0, 0, 0, 0, 0])] ∧
      ¬ (SealingState.run twoPathRun).sealed.Pairwise fun a b => ¬ NonceReused a.2 b.2 := by
  refine ⟨by decide, ?_⟩
  intro unique
  have distinct := pairwise_iff_getElem.mp unique 1 3 (by decide) (by decide) (by decide)
  exact distinct ⟨by decide, [0, 0, 0, 0, 2, 0, 0, 0, 0, 0, 0, 0], by decide, by decide⟩

end MPQuic
