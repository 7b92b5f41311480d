import MPQuic.FlowControl.FlowController
import MPQuic.Handshake.HandshakeMessage
import MPQuic.Utils.ByteOrder

/-!
# Negotiation of the connection parameters

The rest of `internal/handshake/connection_parameters_manager.go`: the parameters travel in the
hello messages, and each side takes over what the other side sent, subject to negotiation. The
client sends its parameters first, and the server answers with what it has negotiated.

Idle timeouts are sent in whole seconds of 32 bits, but what a side negotiates with is its own
timeout in nanoseconds. `negotiation_agrees_iff` says for which timeouts both ends agree: the server
keeps a timeout shorter than the client's with its fraction of a second, which the client never
gets to know.
-/

namespace MPQuic

open ByteOrder

def tagMSPC : Tag := .ofBytes 0x4d 0x53 0x50 0x43
def tagMIDS : Tag := .ofBytes 0x4d 0x49 0x44 0x53
def tagICSL : Tag := .ofBytes 0x49 0x43 0x53 0x4c
def tagCFCW : Tag := .ofBytes 0x43 0x46 0x43 0x57
def tagSFCW : Tag := .ofBytes 0x53 0x46 0x43 0x57

/-- `time.Second`, in nanoseconds. -/
def second : Nat := 1000000000

inductive ParameterError where
  /-- "malformed Tag value" -/
  | errMalformedTag
  /-- "renegotiation of flow control parameters not supported" -/
  | errFlowControlRenegotiationNotSupported
  deriving DecidableEq, Repr

/-- `connectionParametersManager`, with the fields that only the negotiation uses. -/
structure HelloParameters extends ConnectionParametersManager where
  flowControlNegotiated : Bool := false
  truncateConnectionID : Bool := false
  /-- in nanoseconds -/
  idleConnectionStateLifetime : Nat
  deriving DecidableEq, Repr

def newHelloParameters (pers : Perspective)
    (maxReceiveStreamFlowControlWindow maxReceiveConnectionFlowControlWindow idleTimeout : Nat) :
    HelloParameters where
  toConnectionParametersManager := newConnectionParametersManager pers
    maxReceiveStreamFlowControlWindow maxReceiveConnectionFlowControlWindow
  idleConnectionStateLifetime := idleTimeout

namespace HelloParameters

/-- What was set before an error stays set. -/
abbrev Setting := Except (ParameterError × HelloParameters) HelloParameters

/-- Set a parameter from the value of a tag, if there is one. -/
def setFrom (params : TagMap) (tag : Tag) (set : HelloParameters → Nat → HelloParameters)
    (h : HelloParameters) : Setting :=
  match params.lookup tag with
  | none => .ok h
  | some value =>
    match (littleEndian.readUint32).run value with
    | .error _ => .error (.errMalformedTag, h)
    | .ok (clientValue, _) => .ok (set h clientValue)

/-- Only the client may ask for truncated connection IDs. -/
def setTruncation (params : TagMap) (h : HelloParameters) : Setting :=
  if h.perspective = .server then
    setFrom params tagTCID (fun h value => { h with truncateConnectionID := value == 0 }) h
  else .ok h

/-- The windows are set once. -/
def setWindowFrom (params : TagMap) (tag : Tag) (set : HelloParameters → Nat → HelloParameters)
    (h : HelloParameters) : Setting :=
  if (params.lookup tag).isSome && h.flowControlNegotiated then
    .error (.errFlowControlRenegotiationNotSupported, h)
  else setFrom params tag set h

def setFromMap (h : HelloParameters) (params : TagMap) : Setting := do
  let h ← setTruncation params h
  let h ← setFrom params tagMSPC (fun h value => { h with
    maxStreamsPerConnection := min value maxStreamsPerConnection }) h
  let h ← setFrom params tagMIDS (fun h value => { h with
    maxIncomingDynamicStreamsPerConnection := min value maxIncomingDynamicStreamsPerConnection }) h
  let h ← setFrom params tagICSL (fun h value => { h with
    idleConnectionStateLifetime := min (value * second) h.idleConnectionStateLifetime }) h
  let h ← setWindowFrom params tagSFCW (fun h value => { h with
    sendStreamFlowControlWindow := value }) h
  let h ← setWindowFrom params tagCFCW (fun h value => { h with
    sendConnectionFlowControlWindow := value }) h
  return { h with
    flowControlNegotiated := h.flowControlNegotiated || (params.lookup tagCFCW).isSome ||
      (params.lookup tagSFCW).isSome }

/-- The writer keeps the low 32 bits of a value, like the conversions of the source. -/
def getHelloMap (h : HelloParameters) : TagMap :=
  let write := littleEndian.writeUint32
  (((((∅ : TagMap).insert tagICSL (write (h.idleConnectionStateLifetime / second))).insert
    tagMSPC (write h.maxStreamsPerConnection)).insert
    tagMIDS (write maxIncomingDynamicStreamsPerConnection)).insert
    tagCFCW (write h.receiveConnectionFlowControlWindow)).insert
    tagSFCW (write h.receiveStreamFlowControlWindow)

/-- The client's hello is applied by the server, and the server's hello then by the client. -/
def negotiate (client server : HelloParameters) :
    Except (ParameterError × HelloParameters) (HelloParameters × HelloParameters) := do
  let server ← server.setFromMap client.getHelloMap
  let client ← client.setFromMap server.getHelloMap
  return (client, server)

/-- What both ends should agree on. -/
structure Agree (client server : HelloParameters) : Prop where
  lifetime : client.idleConnectionStateLifetime = server.idleConnectionStateLifetime
  positive : 0 < client.idleConnectionStateLifetime
  streamWindows : client.sendStreamFlowControlWindow = server.receiveStreamFlowControlWindow ∧
    server.sendStreamFlowControlWindow = client.receiveStreamFlowControlWindow
  connectionWindows :
    client.sendConnectionFlowControlWindow = server.receiveConnectionFlowControlWindow ∧
    server.sendConnectionFlowControlWindow = client.receiveConnectionFlowControlWindow
  streams : client.getMaxOutgoingStreams ≤ getMaxIncomingStreams ∧
    server.getMaxOutgoingStreams ≤ getMaxIncomingStreams

variable {params : TagMap} {tag : Tag} {set : HelloParameters → Nat → HelloParameters}
  {h g : HelloParameters}

theorem setFrom_written {v : Nat}
    (written : params.lookup tag = some (littleEndian.writeUint32 v)) :
    setFrom params tag set h = .ok (set h (v % 2 ^ 32)) := by
  have read : (littleEndian.readUint32).run (littleEndian.writeUint32 v) =
      .ok (v % 2 ^ 32, []) := by
    have run := littleEndian.readUint32_bytes v []
    rwa [List.append_nil] at run
  rw [setFrom, written]
  simp only [read]

theorem setWindowFrom_written {v : Nat} (first : h.flowControlNegotiated = false)
    (written : params.lookup tag = some (littleEndian.writeUint32 v)) :
    setWindowFrom params tag set h = .ok (set h (v % 2 ^ 32)) := by
  rw [setWindowFrom, first, Bool.and_false]
  exact setFrom_written written

theorem bind_of_ok {ε α β : Type} {x : Except ε α} {f : α → Except ε β} {a : α}
    (ok : x = .ok a) : x >>= f = f a := by
  rw [ok]
  rfl

/-- The parameters after the hello of the other side. -/
def afterHello (h g : HelloParameters) : HelloParameters := { h with
  maxStreamsPerConnection := min (g.maxStreamsPerConnection % 2 ^ 32) maxStreamsPerConnection
  maxIncomingDynamicStreamsPerConnection :=
    min (maxIncomingDynamicStreamsPerConnection % 2 ^ 32) maxIncomingDynamicStreamsPerConnection
  idleConnectionStateLifetime :=
    min (g.idleConnectionStateLifetime / second % 2 ^ 32 * second) h.idleConnectionStateLifetime
  sendStreamFlowControlWindow := g.receiveStreamFlowControlWindow % 2 ^ 32
  sendConnectionFlowControlWindow := g.receiveConnectionFlowControlWindow % 2 ^ 32
  flowControlNegotiated := true }

/-- What one side makes of the other side's hello. -/
theorem setFromMap_getHelloMap (first : h.flowControlNegotiated = false) :
    h.setFromMap g.getHelloMap = .ok (h.afterHello g) := by
  have tcid : g.getHelloMap.lookup tagTCID = none := by
    simp (disch := decide) only [getHelloMap, AList.lookup_insert_ne, AList.lookup_empty]
  have icsl : g.getHelloMap.lookup tagICSL = some (littleEndian.writeUint32
      (g.idleConnectionStateLifetime / second)) := by
    simp (disch := decide) only [getHelloMap, AList.lookup_insert_ne, AList.lookup_insert]
  have mspc : g.getHelloMap.lookup tagMSPC =
      some (littleEndian.writeUint32 g.maxStreamsPerConnection) := by
    simp (disch := decide) only [getHelloMap, AList.lookup_insert_ne, AList.lookup_insert]
  have mids : g.getHelloMap.lookup tagMIDS =
      some (littleEndian.writeUint32 maxIncomingDynamicStreamsPerConnection) := by
    simp (disch := decide) only [getHelloMap, AList.lookup_insert_ne, AList.lookup_insert]
  have cfcw : g.getHelloMap.lookup tagCFCW =
      some (littleEndian.writeUint32 g.receiveConnectionFlowControlWindow) := by
    simp (disch := decide) only [getHelloMap, AList.lookup_insert_ne, AList.lookup_insert]
  have sfcw : g.getHelloMap.lookup tagSFCW =
      some (littleEndian.writeUint32 g.receiveStreamFlowControlWindow) :=
    AList.lookup_insert _
  have truncation : setTruncation g.getHelloMap h = .ok h := by
    rw [setTruncation, setFrom, tcid]
    exact ite_self _
  unfold setFromMap
  refine (bind_of_ok truncation).trans ?_
  refine (bind_of_ok (setFrom_written mspc)).trans ?_
  refine (bind_of_ok (setFrom_written mids)).trans ?_
  refine (bind_of_ok (setFrom_written icsl)).trans ?_
  refine (bind_of_ok (setWindowFrom_written ?_ sfcw)).trans ?_
  · exact first
  refine (bind_of_ok (setWindowFrom_written ?_ cfcw)).trans ?_
  · exact first
  rw [cfcw, Option.isSome_some, Bool.or_true, Bool.true_or]
  rfl

end HelloParameters

open HelloParameters

/-- Both ends agree on the parameters exactly if the client's timeout is at least a second after its
truncation to 32 bits of seconds, and the server's own timeout is either no shorter than that or a
whole number of seconds. -/
theorem negotiation_agrees_iff
    (clientStream clientConnection serverStream serverConnection clientIdle serverIdle : Nat)
    (idle : 0 < clientIdle ∧ 0 < serverIdle) :
    ∃ client server,
      negotiate (newHelloParameters .client clientStream clientConnection clientIdle)
        (newHelloParameters .server serverStream serverConnection serverIdle) =
          .ok (client, server) ∧
      (Agree client server ↔ 0 < clientIdle / second % 2 ^ 32 ∧
        (clientIdle / second % 2 ^ 32 * second ≤ serverIdle ∨ second ∣ serverIdle)) := by
  let client := newHelloParameters .client clientStream clientConnection clientIdle
  let server := newHelloParameters .server serverStream serverConnection serverIdle
  have received : server.setFromMap client.getHelloMap = .ok (server.afterHello client) :=
    setFromMap_getHelloMap rfl
  have answered : client.setFromMap (server.afterHello client).getHelloMap =
      .ok (client.afterHello (server.afterHello client)) := setFromMap_getHelloMap rfl
  refine ⟨client.afterHello (server.afterHello client), server.afterHello client, ?_, ?_⟩
  · exact (bind_of_ok received).trans (bind_of_ok answered)
  · have lifetimes : (client.afterHello (server.afterHello client)).idleConnectionStateLifetime =
          min (min (clientIdle / second % 2 ^ 32 * second) serverIdle / second % 2 ^ 32 * second)
            clientIdle ∧
        (server.afterHello client).idleConnectionStateLifetime =
          min (clientIdle / second % 2 ^ 32 * second) serverIdle := ⟨rfl, rfl⟩
    unfold second at *
    constructor
    · intro agree
      have same := agree.lifetime
      have positive := agree.positive
      rw [lifetimes.1, lifetimes.2] at same
      rw [lifetimes.1] at positive
      omega
    · intro whole
      have streams : min (maxIncomingDynamicStreamsPerConnection % 2 ^ 32)
          maxIncomingDynamicStreamsPerConnection ≤ getMaxIncomingStreams := by decide
      refine ⟨?_, ?_, ⟨rfl, rfl⟩, ⟨rfl, rfl⟩, streams, streams⟩
      · rw [lifetimes.1, lifetimes.2]
        omega
      · rw [lifetimes.1]
        omega

theorem negotiation_agrees_halfMinute : ∃ client server,
    negotiate (newHelloParameters .client 0 0 (30 * second))
      (newHelloParameters .server 0 0 (30 * second)) = .ok (client, server) ∧
    Agree client server := by
  obtain ⟨client, server, negotiated, agrees⟩ :=
    negotiation_agrees_iff 0 0 0 0 (30 * second) (30 * second) (by decide)
  exact ⟨client, server, negotiated, agrees.mpr (by decide)⟩

/-- A server with a timeout of one and a half seconds keeps it, and its client waits for one second.
A client with a timeout of half a second makes both ends wait for none. -/
theorem negotiation_disagrees :
    let lifetimes (clientIdle serverIdle : Nat) :=
      (negotiate (newHelloParameters .client 0 0 clientIdle)
        (newHelloParameters .server 0 0 serverIdle)).map fun ends =>
          (ends.1.idleConnectionStateLifetime, ends.2.idleConnectionStateLifetime)
    lifetimes (30 * second) 1500000000 = .ok (1000000000, 1500000000) ∧
      lifetimes 500000000 (30 * second) = .ok (0, 0) := by
  decide +kernel

end MPQuic
