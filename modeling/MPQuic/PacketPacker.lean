import MPQuic.CryptoSetup
import MPQuic.Path
import MPQuic.StreamFramer
import MPQuic.Wire.FrameWriter
import MPQuic.Wire.PublicHeader

/-!
# The packet packer

`packet_packer.go`. The packer holds the control frames that wait for a packet, and for each path
the STOP_WAITING and the ACK frame to send next. A packet is composed of these and of what the
stream framer hands out, written behind its public header, and sealed under its packet number.

The packer reaches the framer, the streams and the flow control through pointers, and it changes
the path it packs for; all of them are in `PackState`. A call that fails leaves its changes behind,
so a result has a state in every case. Two fields of a result record what the source does not
keep: the call of `Seal`, and the BLOCKED frames that moved from the framer to the packer.
-/

namespace MPQuic

def nonForwardSecurePacketSizeReduction : Nat := 50

/-- Why no packet was packed. -/
inductive PackError where
  | frame (err : FrameError)
  | header (err : HeaderError)
  | crypto (err : CryptoError)
  /-- "packet packer BUG: no ack frame queued" -/
  | noAckFrameQueued
  /-- "PacketPacker BUG: forward-secure encrypted handshake packets don't need special treatment" -/
  | forwardSecureHandshakePacket
  /-- "PacketPacker BUG: Handshake retransmissions must contain a StopWaitingFrame" -/
  | noStopWaitingFrame
  /-- "Packet Packer BUG: packet payload (%d) too large (%d)" -/
  | payloadTooLarge (payloadLength maxFrameSize : Nat)
  /-- "PacketPacker BUG: packet too large" -/
  | packetTooLarge
  /-- "packetPacker BUG: Peeked and Popped packet numbers do not match" -/
  | numbersDoNotMatch
  deriving DecidableEq, Repr

/-- The arguments of a call of `Seal`: the payload, and the header as associated data. -/
structure SealCall where
  sealer : Sealer
  packetNumber : Nat
  header : List UInt8
  payload : List UInt8
  deriving DecidableEq

/-- The nonce, for the AEADs that take one. -/
def SealCall.nonce (call : SealCall) : Option (List UInt8) :=
  match call.sealer with
  | .nullAEAD => none
  | .aesgcm12 aead => some (makeNonce aead.myIV call.packetNumber)

/-- A packet. Its raw bytes are what `Seal` makes of `raw`. -/
structure PackedPacket where
  number : Nat
  raw : SealCall
  frames : List Frame
  encryptionLevel : EncryptionLevel
  deriving DecidableEq

/-- `len(packet.raw)` -/
def PackedPacket.length (packet : PackedPacket) : Nat :=
  packet.raw.header.length + packet.raw.payload.length + packet.raw.sealer.overhead

/-- The maps over paths return nil for a path that has no entry. -/
structure PacketPacker where
  connectionID : Nat
  perspective : Perspective
  version : VersionNumber
  cryptoSetup : CryptoSetup := {}
  /-- `connectionParameters.TruncateConnectionID()` -/
  truncateConnectionID : Bool := false
  controlFrames : List Frame := []
  stopWaiting : PathID → Option StopWaitingFrame := fun _ => none
  ackFrame : PathID → Option AckFrame := fun _ => none

namespace PacketPacker

variable (p : PacketPacker)

def setStopWaiting (pathID : PathID) (swf : Option StopWaitingFrame) : PacketPacker :=
  { p with stopWaiting := Function.update p.stopWaiting pathID swf }

def setAckFrame (pathID : PathID) (ack : Option AckFrame) : PacketPacker :=
  { p with ackFrame := Function.update p.ackFrame pathID ack }

/-- STOP_WAITING and ACK frames replace the one that the path still has. -/
def queueControlFrame (frame : Frame) (pathID : PathID) : PacketPacker :=
  match frame with
  | .stopWaiting f => p.setStopWaiting pathID (some f)
  | .ack f => p.setAckFrame pathID (some f)
  | _ => { p with controlFrames := p.controlFrames ++ [frame] }

/-- The server sends data only after the handshake. -/
def canSendData (encLevel : EncryptionLevel) : Bool :=
  match p.perspective with
  | .client => EncryptionLevel.secure.rank ≤ encLevel.rank
  | .server => encLevel = .forwardSecure

end PacketPacker

/-- What a call of the packer reads from its surroundings. -/
structure PackEnv where
  now : Int
  /-- `pth.sess.handshakeComplete` -/
  handshakeComplete : Bool
  /-- the random number of the packet number generator -/
  random : Option UInt16 := none

/-- The packer with all that it reaches, and the path that it packs for. -/
structure PackState where
  packer : PacketPacker
  framer : StreamFramer
  streams : StreamsMap
  flow : FlowControlManager
  pth : Path

/-- What a call of the packer leaves and returns. -/
structure PackResult where
  state : PackState
  outcome : Except PackError (Option PackedPacket)
  sealCall : Option SealCall := none
  blocked : List BlockedFrame := []

namespace PackState

variable (st : PackState) (env : PackEnv)

/-- A call that returns before it seals anything. -/
def returns (outcome : Except PackError (Option PackedPacket)) : PackResult :=
  { state := st, outcome }

/-- `getPublicHeader`, with the next packet number. -/
def getPublicHeader (encLevel : EncryptionLevel) : PublicHeader :=
  let p := st.packer
  let pnum := st.pth.packetNumberGenerator.peek
  let versionFlag := decide (p.perspective = .client ∧ encLevel ≠ .forwardSecure)
  let multipathFlag := decide (env.handshakeComplete ∧ versionMP ≤ p.version)
  { connectionID := p.connectionID
    packetNumber := pnum
    packetNumberLen := getPacketNumberLengthForPublicHeader pnum st.pth.leastUnacked
    diversificationNonce :=
      if p.perspective = .server ∧ encLevel = .secure then p.cryptoSetup.diversificationNonce
      else []
    versionFlag
    versionNumber := if versionFlag then p.version else 0
    multipathFlag
    pathID := if multipathFlag then st.pth.pathID else initialPathID
    truncateConnectionID := if multipathFlag then false else p.truncateConnectionID }

/-! ## Sealing -/

/-- `writeAndSealPacket`, and the packet its callers make of the raw bytes. The number is popped
only after the packet was sealed. -/
def writeAndSealPacket (publicHeader : PublicHeader)
    (payloadFrames : List Frame) (encLevel : EncryptionLevel) (sealer : Sealer) : PackResult :=
  match publicHeader.write st.packer.version st.packer.perspective,
      Frame.writeAll st.packer.version env.now payloadFrames with
  | .error err, _ => st.returns (.error (.header err))
  | .ok _, .error err => st.returns (.error (.frame err))
  | .ok header, .ok payload =>
    if header.length + payload.length + sealer.overhead > maxPacketSize then
      st.returns (.error .packetTooLarge)
    else
      let call : SealCall :=
        { sealer, packetNumber := publicHeader.packetNumber, header, payload }
      let popped := st.pth.packetNumberGenerator.pop env.random
      { state := { st with pth := { st.pth with packetNumberGenerator := popped.1 } }
        outcome :=
          if popped.2 ≠ publicHeader.packetNumber then .error .numbersDoNotMatch
          else
            .ok (some
              { number := publicHeader.packetNumber
                raw := call
                frames := payloadFrames
                encryptionLevel := encLevel })
        sealCall := some call }

/-! ## Composing -/

/-- A STOP_WAITING frame is told the number of the packet it is sent in. -/
def numberStopWaiting (publicHeader : PublicHeader) : PackState :=
  { st with
    packer := st.packer.setStopWaiting st.pth.pathID
      ((st.packer.stopWaiting st.pth.pathID).map fun swf =>
        { swf with
          packetNumber := publicHeader.packetNumber
          packetNumberLen := publicHeader.packetNumberLen }) }

/-- The STOP_WAITING and the ACK frame of the path, in this order. -/
def slotFrames : List Frame :=
  (st.packer.stopWaiting st.pth.pathID).toList.map .stopWaiting ++
    (st.packer.ackFrame st.pth.pathID).toList.map .ack

/-- The STOP_WAITING and the ACK frame of the path are used up. -/
def clearSlots : PackState :=
  { st with
    packer := (st.packer.setStopWaiting st.pth.pathID none).setAckFrame st.pth.pathID none }

/-- The sum of the minimal lengths, or the first error. -/
def minLengths : List Frame → Except FrameError Nat
  | [] => .ok 0
  | frame :: rest =>
    match frame.minLength, minLengths rest with
    | .error err, _ => .error err
    | .ok _, .error err => .error err
    | .ok length, .ok lengths => .ok (length + lengths)

structure ControlPop where
  /-- the frames that stay queued, the last one first -/
  rest : List Frame
  /-- the frames for the packet -/
  taken : List Frame
  payloadLength : Nat
  err : Option FrameError := none

/-- The loop over the control frames, from the last one. It stops at the first frame without room,
or at an error, and in both cases keeps what it took before. -/
def popControlFrames (maxFrameSize : Nat) : List Frame → Nat → ControlPop
  | [], payloadLength => { rest := [], taken := [], payloadLength }
  | frame :: rest, payloadLength =>
    match frame.minLength with
    | .error err => { rest := frame :: rest, taken := [], payloadLength, err := some err }
    | .ok minLength =>
      if payloadLength + minLength > maxFrameSize then
        { rest := frame :: rest, taken := [], payloadLength }
      else
        let popped := popControlFrames maxFrameSize rest (payloadLength + minLength)
        { popped with taken := frame :: popped.taken }

/-- The last STREAM frame of a packet does not need its length. -/
def omitLastDataLen (fs : List StreamFrame) : List StreamFrame :=
  fs.dropLast ++ (fs.getLast?.map fun f => { f with dataLenPresent := false }).toList

/-- The frames for a packet. -/
structure Composed where
  state : PackState
  outcome : Except PackError (List Frame)
  blocked : List BlockedFrame := []

/-- The end of `composeNextPacket`, where STREAM frames are allowed. Two bytes are added for the
length that the last STREAM frame leaves out. BLOCKED frames go into the next packet. -/
def addStreamFrames (payloadFrames : List Frame) (room : Nat) : Composed :=
  let popped := st.framer.popStreamFrames2 st.streams st.flow (room + 2)
    st.pth.handlerAllowsSending
  let blocked := popped.1.framer.blockedFrameQueue
  { state := { st with
      streams := popped.1.map
      flow := popped.1.flow
      framer := { popped.1.framer with blockedFrameQueue := [] }
      packer := { st.packer with
        controlFrames := st.packer.controlFrames ++ blocked.map .blocked } }
    outcome := .ok (payloadFrames ++ (omitLastDataLen popped.2).map .stream)
    blocked }

/-- `composeNextPacket`: control frames first, then stream frames. -/
def composeNextPacket (maxFrameSize : Nat) (canSendStreamFrames : Bool) : Composed :=
  match minLengths st.slotFrames with
  | .error err => { state := st, outcome := .error (.frame err) }
  | .ok payloadLength =>
    let popped := popControlFrames maxFrameSize st.packer.controlFrames.reverse payloadLength
    let st' := { st with packer := { st.packer with controlFrames := popped.rest.reverse } }
    match popped.err with
    | some err => { state := st', outcome := .error (.frame err) }
    | none =>
      if popped.payloadLength > maxFrameSize then
        { state := st', outcome := .error (.payloadTooLarge popped.payloadLength maxFrameSize) }
      else if canSendStreamFrames then
        st'.addStreamFrames (st.slotFrames ++ popped.taken)
          (maxFrameSize - popped.payloadLength)
      else { state := st', outcome := .ok (st.slotFrames ++ popped.taken) }

/-! ## Packing -/

/-- A PING at the head of the queue is sent alone. -/
def pingTaken (rest : List Frame) : Composed :=
  { state := { st with packer := { st.packer with controlFrames := rest } }
    outcome := .ok [.ping] }

/-- The frames of a packet without crypto data. -/
def choosePayload (maxSize : Nat) (encLevel : EncryptionLevel) : Composed :=
  match st.packer.controlFrames with
  | .ping :: rest => st.pingTaken rest
  | _ => st.composeNextPacket maxSize (st.packer.canSendData encLevel)

/-- The end of `PackPacket`, once the frames are known. There is no packet for a STOP_WAITING frame
alone; the source tells that case by the number of frames. -/
def sealPayload (composed : Composed) (env : PackEnv) (publicHeader : PublicHeader)
    (encLevel : EncryptionLevel) (sealer : Sealer) : PackResult :=
  match composed.outcome with
  | .error err => { composed.state.returns (.error err) with blocked := composed.blocked }
  | .ok payloadFrames =>
    if payloadFrames.length = 0 then
      { composed.state.returns (.ok none) with blocked := composed.blocked }
    else if payloadFrames.length = 1 ∧
        composed.state.packer.stopWaiting composed.state.pth.pathID ≠ none then
      { composed.state.returns (.ok none) with blocked := composed.blocked }
    else
      { composed.state.clearSlots.writeAndSealPacket env publicHeader payloadFrames encLevel
          sealer with
        blocked := composed.blocked }

/-- `PackPacket`, when there is no crypto data to send. -/
def packQueued : PackResult :=
  let (encLevel, sealer) := st.packer.cryptoSetup.getSealer st.packer.perspective
  let publicHeader := st.getPublicHeader env encLevel
  match publicHeader.getLength st.packer.perspective with
  | .error err => st.returns (.error (.header err))
  | .ok publicHeaderLength =>
    let maxSize := subUint64 (subUint64 maxPacketSize sealer.overhead) publicHeaderLength
    sealPayload ((st.numberStopWaiting publicHeader).choosePayload maxSize encLevel) env
      publicHeader encLevel sealer

/-- `packCryptoPacket`: data of the crypto stream goes alone. -/
def packCryptoPacket : Except RuntimePanic PackResult :=
  let (encLevel, sealer) := st.packer.cryptoSetup.getSealerForCryptoStream st.packer.perspective
  let publicHeader := st.getPublicHeader env encLevel
  match publicHeader.getLength st.packer.perspective with
  | .error err => .ok (st.returns (.error (.header err)))
  | .ok publicHeaderLength =>
    let maxLen := subUint64 (subUint64 (subUint64 maxPacketSize sealer.overhead)
      nonForwardSecurePacketSizeReduction) publicHeaderLength
    match StreamFramer.popCryptoStreamFrame st.streams st.flow maxLen with
    | .error err => .error err
    | .ok { frame := none, .. } => .error .nilDereference
    | .ok { map, flow, frame := some frame } =>
      .ok ({ st with streams := map, flow }.writeAndSealPacket env publicHeader
        [.stream frame] encLevel sealer)

/-- Crypto data goes first, in a packet of its own. -/
def packPacket : Except RuntimePanic PackResult :=
  match StreamFramer.cryptoStream st.streams st.flow with
  | .error err => .error err
  | .ok (streams, flow, cs) =>
    let st := { st with streams, flow }
    if cs.lenOfDataForWriting > 0 then st.packCryptoPacket env else .ok (st.packQueued env)

/-- The state in which `PackPing` calls `PackPacket`: the PING frame is in front of all others. -/
def queuePing : PackState :=
  { st with
    pth := st.pth.setLeastUnacked st.pth.sentPacketHandler.getLeastUnacked
    packer := { st.packer with controlFrames := .ping :: st.packer.controlFrames } }

def packPing : Except RuntimePanic PackResult :=
  st.queuePing.packPacket env

def packConnectionClose (ccf : ConnectionCloseFrame) : PackResult :=
  let (encLevel, sealer) := st.packer.cryptoSetup.getSealer st.packer.perspective
  st.writeAndSealPacket env (st.getPublicHeader env encLevel) [.connectionClose ccf] encLevel
    sealer

/-- `PackAckPacket`: ACK and STOP_WAITING only. -/
def packAckPacket : PackResult :=
  match st.packer.ackFrame st.pth.pathID with
  | none => st.returns (.error .noAckFrameQueued)
  | some ack =>
    let (encLevel, sealer) := st.packer.cryptoSetup.getSealer st.packer.perspective
    let publicHeader := st.getPublicHeader env encLevel
    let st := st.numberStopWaiting publicHeader
    let frames := .ack ack :: (st.packer.stopWaiting st.pth.pathID).toList.map .stopWaiting
    st.clearSlots.writeAndSealPacket env publicHeader frames encLevel sealer

def packHandshakeRetransmission (packet : Packet) : PackResult :=
  if packet.encryptionLevel = .forwardSecure then
    st.returns (.error .forwardSecureHandshakePacket)
  else
    match st.packer.cryptoSetup.getSealerWithEncryptionLevel packet.encryptionLevel,
        st.packer.stopWaiting st.pth.pathID with
    | .error err, _ => st.returns (.error (.crypto err))
    | .ok _, none => st.returns (.error .noStopWaitingFrame)
    | .ok sealer, some swf =>
      let publicHeader := st.getPublicHeader env packet.encryptionLevel
      let swf := { swf with
        packetNumber := publicHeader.packetNumber
        packetNumberLen := publicHeader.packetNumberLen }
      let st := { st with packer := st.packer.setStopWaiting st.pth.pathID none }
      st.writeAndSealPacket env publicHeader (.stopWaiting swf :: packet.frames)
        packet.encryptionLevel sealer

end PackState

end MPQuic
