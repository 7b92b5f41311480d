import MPQuic.PacketPacker

/-!
# The session

The state of `session.go` as far as packets and frames go through it, with the path manager of
`path_manager.go`, and the functions that the receiving side and the scheduler share: packing and
sending, PINGs, window updates, the announcement of the paths, and the creation of new ones.

Locks, timers and the logging of packets are left out, and so are the channels by which a path's
goroutine learns that a packet was sent. A path is changed through a pointer in the source; here a
function that changes a path writes it back to the table.
-/

namespace MPQuic

/-! ## State -/

/-- How a call ends when it does not return. -/
inductive Abort where
  /-- a method of a nil path was called, or a field of one was read -/
  | nilPath
  | runtime (panic : RuntimePanic)
  /-- a loop is never left -/
  | loops
  deriving DecidableEq, Repr

/-- The errors of `packetUnpacker.Unpack`. -/
inductive UnpackError where
  /-- an error with the code `qerr.DecryptionFailure` -/
  | decryptionFailure (reason : String)
  | other (reason : String)
  deriving DecidableEq, Repr

/-- The errors that a session ends with. -/
inductive SessionError where
  | unpack (err : UnpackError)
  | pack (err : PackError)
  | ackHandler (err : AckError)
  | receive (err : ReceiveError)
  | streamsMap (err : StreamsMapError)
  | stream (err : StreamError)
  | flowControl (err : FlowError)
  /-- an error of `conn.Write` -/
  | connWrite
  /-- "Session BUG: expected ping packet not to be nil" -/
  | pingPacketNil
  | errRstStreamOnInvalidStream
  | errWindowUpdateOnClosedStream
  /-- "unimplemented: handling GOAWAY frames" -/
  | goawayUnimplemented
  | errUnknownIPVersion
  /-- "Unknown path ID to close" -/
  | unknownPathToClose
  /-- "trying to create already existing path" -/
  | alreadyExistingPath
  /-- "server tries to create odd pathID" -/
  | oddPathID
  /-- "client tries to create even pathID" -/
  | evenPathID
  deriving DecidableEq

/-- Who closed the session, and why. -/
inductive CloseError where
  | byLocal (err : SessionError)
  | byRemote (frame : ConnectionCloseFrame)
  deriving DecidableEq

/-- The addresses from which paths are created. -/
structure PathManager where
  nxtPathID : PathID
  remoteAddrs4 : List UDPAddr := []
  remoteAddrs6 : List UDPAddr := []
  advertisedLocAddrs : List UDPAddr := []
  /-- `pconnMgr.localAddrs` -/
  localAddrs : List UDPAddr := []
  deriving DecidableEq

/-- The counters of sent packets. A path without an entry has sent none. -/
structure Scheduler where
  quotas : PathID → Nat := fun _ => 0
  quotas2 : PathID → Nat := fun _ => 0

/-- The RTT estimate of the session is the one of the initial path. -/
structure Session where
  perspective : Perspective
  version : VersionNumber
  paths : PathTable := .empty
  closedPaths : List PathID := []
  createPaths : Bool := false
  streamsMap : StreamsMap
  remoteRTTs : AList fun _ : PathID => Int := ∅
  lastPathsFrameSent : Int := 0
  streamFramer : StreamFramer := {}
  /-- `streamFramer.addAddressFrameQueue` -/
  addAddressFrameQueue : List AddAddressFrame := []
  /-- `streamFramer.closePathFrameQueue` -/
  closePathFrameQueue : List ClosePathFrame := []
  flowControlManager : FlowControlManager
  packer : PacketPacker
  peerBlocked : Bool := false
  handshakeComplete : Bool := false
  lastNetworkActivityTime : Int := 0
  keepAlivePingSent : Bool := false
  /-- what was sent to `closeChan`; only the first reason to close counts -/
  closeErr : Option CloseError := none
  /-- what was handed to `cryptoSetup.SetDiversificationNonce` -/
  diversificationNonces : List (List UInt8) := []
  pathManager : Option PathManager := none
  scheduler : Scheduler := {}

/-- What sending one packet on one path reads from its surroundings. -/
structure SendEnv where
  now : Int
  /-- for the packet number generator -/
  random : Option UInt16 := none
  /-- for the sent packet handler -/
  ack : AckEnv
  /-- `conn.Write` fails -/
  writeFails : Bool := false

namespace Session

variable (s : Session) (pth : Path)

/-- A path was changed through a pointer, or is new. -/
def setPath : Session := { s with paths := s.paths.set pth }

/-- Change the path with the given ID, if there is one. -/
def modifyPath (pathID : PathID) (change : Path → Path) : Session :=
  match s.paths.lookup pathID with
  | none => s
  | some pth => s.setPath (change pth)

/-- The packer's `QueueControlFrame`. -/
def queueControlFrame (frame : Frame) (pathID : PathID) : Session :=
  { s with packer := s.packer.queueControlFrame frame pathID }

def queueControlFrames (frames : List Frame) (pathID : PathID) : Session :=
  frames.foldl (fun s frame => s.queueControlFrame frame pathID) s

/-! ## Packing and sending -/

/-- What the packer sees of the session. -/
def packState : PackState where
  packer := s.packer
  framer := s.streamFramer
  streams := s.streamsMap
  flow := s.flowControlManager
  pth

/-- What the packer needs of the session. -/
def packEnv (env : SendEnv) : PackEnv where
  now := env.now
  handshakeComplete := s.handshakeComplete
  random := env.random

/-- What a call of the packer leaves and returns. -/
structure Packing where
  session : Session
  pth : Path
  outcome : Except SessionError (Option PackedPacket)

def packing (result : PackResult) : Packing where
  session := { s with
    packer := result.state.packer
    streamFramer := result.state.framer
    streamsMap := result.state.streams
    flowControlManager := result.state.flow
    paths := s.paths.set result.state.pth }
  pth := result.state.pth
  outcome := result.outcome.mapError .pack

/-- The session and the path after something was sent, or was not. -/
structure Sending where
  session : Session
  pth : Path
  err : Option SessionError

/-- A packet as the sent packet handler is told of it. -/
def ackhandlerPacket (packet : PackedPacket) : Packet where
  packetNumber := packet.number
  frames := packet.frames
  length := packet.length
  encryptionLevel := packet.encryptionLevel

/-- The handler records the packet before it goes to the socket. -/
def sendPackedPacket (packet : PackedPacket) (pth : Path) (env : SendEnv) : Sending :=
  let sent := pth.sentPacketHandler.sentPacket env.ack (ackhandlerPacket packet)
  let pth := { pth with sentPacketHandler := sent.1 }
  { session := s.setPath pth
    pth
    err := match sent.2 with
      | some err => some (.ackHandler err)
      | none => if env.writeFails then some .connWrite else none }

/-- Send what the packer returned, where the source does not look for a nil packet. -/
def sendPacking (packed : Packing) (env : SendEnv) : Except RuntimePanic Sending :=
  match packed.outcome with
  | .error err => .ok { session := packed.session, pth := packed.pth, err := some err }
  | .ok none => .error .nilDereference
  | .ok (some packet) => .ok (packed.session.sendPackedPacket packet packed.pth env)

def sendPing (env : SendEnv) : Except RuntimePanic Sending :=
  match (s.packState pth).packPing (s.packEnv env) with
  | .error panic => .error panic
  | .ok result =>
    let packed := s.packing result
    match packed.outcome with
    | .ok none =>
      .ok { session := packed.session, pth := packed.pth, err := some .pingPacketNil }
    | _ => sendPacking packed env

/-- `order` is the order in which the flow control manager visits the streams. -/
def getWindowUpdateFrames (env : FlowEnv) (order : List Nat) (force : Bool) :
    Session × List WindowUpdateFrame :=
  let updates := s.flowControlManager.getWindowUpdates env force order
  ({ s with flowControlManager := updates.1 },
    updates.2.map fun u => { streamID := u.streamID, byteOffset := u.offset })

/-! ## PATHS frames -/

/-- one hour, in nanoseconds -/
def hour : Int := 3600000000000

/-- A path that has potentially failed is reported with an RTT of one hour. -/
def reportedRTT : Int := if pth.potentiallyFailed then hour else pth.smoothedRTT

/-- The frame that `AddPathsFrameForTransmission` makes. -/
def pathsFrame (paths : List Path) : PathsFrame where
  maxNumPaths := 255
  numPaths := UInt8.ofNat paths.length
  pathIDs := paths.map Path.pathID
  remoteRTTs := paths.map reportedRTT

def schedulePathsFrame (now : Int) (order : List PathID) : Session :=
  { s with
    lastPathsFrameSent := now
    streamFramer := { s.streamFramer with
      pathsFrame := some (pathsFrame (s.paths.visited order)) } }

end Session

/-! ## The path manager -/

/-- Whether two addresses have one text. An IPv4 address has the same text in both of its forms. -/
def sameAddr (a b : UDPAddr) : Bool :=
  (ipTo16 a.ip).getD a.ip = (ipTo16 b.ip).getD b.ip && a.port = b.port

def getIPVersion (ip : List UInt8) : UInt8 := if (ipTo4 ip).isSome then 4 else 6

/-- What creating paths reads from its surroundings. -/
structure CreateEnv where
  /-- for the PING on each path that is created -/
  send : PathID → SendEnv
  now : Int
  /-- the order of the paths in the PATHS frame at the end -/
  order : List PathID := []

namespace PathManager

/-- What a call leaves of the path manager and of the session. -/
structure Managed where
  pm : PathManager
  session : Session
  err : Option SessionError := none

/-- The session gets its first path. The IDs of the other ones are odd at a client and even at a
server. -/
def setup (s : Session) (localAddr remoteAddr : UDPAddr) (now : Int) : Managed where
  pm :=
    { nxtPathID := match s.perspective with
        | .client => 1
        | .server => 2
      remoteAddrs4 := if (ipTo4 remoteAddr.ip).isSome then [remoteAddr] else []
      remoteAddrs6 := if (ipTo4 remoteAddr.ip).isSome then [] else [remoteAddr] }
  session := s.setPath (newPath initialPathID localAddr remoteAddr s.version now)

variable (pm : PathManager)

/-- `advertiseAddresses`: announce each local address once. -/
def advertiseAddresses (s : Session) : Managed :=
  pm.localAddrs.foldl (fun st locAddr =>
    if st.pm.advertisedLocAddrs.any (sameAddr locAddr) then st
    else
      { st with
        pm := { st.pm with advertisedLocAddrs := st.pm.advertisedLocAddrs ++ [locAddr] }
        session := { st.session with
          addAddressFrameQueue := st.session.addAddressFrameQueue ++
            [{ ipVersion := getIPVersion locAddr.ip, addr := locAddr }] } })
    { pm, session := s }

/-- Nothing happens if there is a path between the two addresses. The ID of a path is a byte, and
its successor may be in use. -/
def createPath (s : Session) (locAddr remAddr : UDPAddr) (env : CreateEnv) :
    Except RuntimePanic Managed :=
  if (s.paths.visited []).any fun pth =>
      sameAddr locAddr pth.localAddr && sameAddr remAddr pth.remoteAddr then
    .ok { pm, session := s }
  else
    let pth := newPath pm.nxtPathID locAddr remAddr s.version (env.send pm.nxtPathID).now
    match (s.setPath pth).sendPing pth (env.send pm.nxtPathID) with
    | .error panic => .error panic
    | .ok sending =>
      .ok
        { pm := { pm with nxtPathID := pm.nxtPathID + 2 }
          session := sending.session
          err := sending.err }

/-- The nested loops of `createPaths`, over pairs of addresses of one version. -/
def createPathLoop (env : CreateEnv) :
    List (UDPAddr × UDPAddr) → PathManager → Session → Except RuntimePanic Managed
  | [], pm, s => .ok { pm, session := s }
  | (locAddr, remAddr) :: rest, pm, s =>
    match pm.createPath s locAddr remAddr env with
    | .error panic => .error panic
    | .ok created =>
      match created.err with
      | some _ => .ok created
      | none => createPathLoop env rest created.pm created.session

/-- The pairs of addresses of one IP version. -/
def addressPairs : List (UDPAddr × UDPAddr) :=
  pm.localAddrs.flatMap fun locAddr =>
    (if getIPVersion locAddr.ip = 4 then pm.remoteAddrs4 else pm.remoteAddrs6).map (locAddr, ·)

/-- The server creates no paths, it only advertises its addresses. -/
def createPaths (s : Session) (env : CreateEnv) : Except RuntimePanic Managed :=
  match s.perspective with
  | .server => .ok (pm.advertiseAddresses s)
  | .client =>
    match createPathLoop env pm.addressPairs pm s with
    | .error panic => .error panic
    | .ok created =>
      match created.err with
      | some _ => .ok created
      | none =>
        .ok { created with session := created.session.schedulePathsFrame env.now env.order }

/-- `handleAddAddressFrame`: record the address of the peer. -/
def handleAddAddressFrame (s : Session) (f : AddAddressFrame)
    (env : CreateEnv) : Except RuntimePanic Managed :=
  if f.ipVersion = 4 ∨ f.ipVersion = 6 then
    let pm :=
      if f.ipVersion = 4 then { pm with remoteAddrs4 := pm.remoteAddrs4 ++ [f.addr] }
      else { pm with remoteAddrs6 := pm.remoteAddrs6 ++ [f.addr] }
    if s.createPaths then pm.createPaths s env else .ok { pm, session := s }
  else .ok { pm, session := s, err := some .errUnknownIPVersion }

end PathManager

end MPQuic
