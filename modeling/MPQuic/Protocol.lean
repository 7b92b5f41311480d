import Mathlib.Algebra.Ring.Int.Defs
import Mathlib.Algebra.Ring.Nat

/-!
# Protocol types and constants

The scalar types of `internal/protocol` and the constants of
`internal/protocol/server_parameters.go` and `internal/protocol/protocol.go` that
the modelled code reads.

The source's `PacketNumber`, `StreamID` and `ByteCount` are unsigned machine
words. They are natural numbers here, under the source's names for the values;
where the code can wrap around, the model says so at that operation.
-/

namespace MPQuic

abbrev PathID := UInt8

abbrev VersionNumber := Int

/-- The path every session starts on. -/
def initialPathID : PathID := 0

inductive Perspective where
  | server
  | client
  deriving DecidableEq, Repr

/-- The encryption level of a packet, in increasing order of strength. -/
inductive EncryptionLevel where
  | unspecified
  | unencrypted
  | secure
  | forwardSecure
  deriving DecidableEq, Repr

/-- The integer the source's enumeration assigns to a level. -/
def EncryptionLevel.rank : EncryptionLevel → Nat
  | .unspecified => 0
  | .unencrypted => 1
  | .secure => 2
  | .forwardSecure => 3

/-- A run-time panic of the source language. -/
inductive RuntimePanic where
  | indexOutOfRange
  | nilDereference
  /-- "makeslice: len out of range" -/
  | makeslice
  deriving DecidableEq, Repr

/-- The version of a peer before the version is negotiated. -/
def versionUnknown : VersionNumber := -2

/-- The first version that encodes integers in big endian. -/
def version39 : VersionNumber := 39

/-- The first version with multipath headers. -/
def versionMP : VersionNumber := 512

/-- Stands for every version that is not supported. -/
def versionUnsupported : VersionNumber := -1

def supportedVersions : List VersionNumber := [versionMP, version39, 38, 37]

def maxByteCount : Nat := 2 ^ 64 - 1

def maxPacketSize : Nat := 1350

def defaultTCPMSS : Nat := 1460

def maxTrackedSkippedPackets : Nat := 10

def defaultMaxCongestionWindow : Nat := 2500

def maxTrackedSentPackets : Nat := 2 * defaultMaxCongestionWindow

def maxTrackedReceivedAckRanges : Nat := defaultMaxCongestionWindow

def maxPacketsReceivedBeforeAckSend : Nat := 20

def retransmittablePacketsBeforeAck : Nat := 2

/-- 25 ms, in nanoseconds -/
def ackSendDelay : Int := 25000000

def maxStreamFrameSorterGaps : Nat := 2500

def initialStreamFlowControlWindow : Nat := 2 ^ 14

def initialConnectionFlowControlWindow : Nat := 2 ^ 14

def maxStreamsPerConnection : Nat := 100

def maxIncomingDynamicStreamsPerConnection : Nat := 100

def maxStreamsMinimumIncrement : Nat := 10

def maxNewStreamIDDelta : Nat := 4 * maxStreamsPerConnection

def receiveStreamFlowControlWindow : Nat := 2 ^ 10 * 10000

def receiveConnectionFlowControlWindow : Nat := 2 ^ 10 * 100000

def defaultMaxReceiveStreamFlowControlWindowServer : Nat := 2 ^ 20

def defaultMaxReceiveConnectionFlowControlWindowServer : Nat := 3 * 2 ^ 19

def defaultMaxReceiveStreamFlowControlWindowClient : Nat := 16 * 2 ^ 20

def defaultMaxReceiveConnectionFlowControlWindowClient : Nat := 24 * 2 ^ 20

def cryptoMaxParams : Nat := 128

def cryptoParameterMaxLength : Nat := 4000

def clientHelloMinimumSize : Nat := 1024

def maxClientHellos : Nat := 3

/-- Addition of unsigned 64-bit words. -/
def addUint64 (a b : Nat) : Nat := (a + b) % 2 ^ 64

theorem addUint64_of_lt {a b : Nat} (bound : a + b < 2 ^ 64) : addUint64 a b = a + b :=
  Nat.mod_eq_of_lt bound

/-- Addition of unsigned 32-bit words. -/
def addUint32 (a b : Nat) : Nat := (a + b) % 2 ^ 32

/-- Subtraction of unsigned 32-bit words. -/
def subUint32 (a b : Nat) : Nat := (a + (2 ^ 32 - b % 2 ^ 32)) % 2 ^ 32

/-- Subtraction of unsigned 64-bit words. -/
def subUint64 (a b : Nat) : Nat := (a + (2 ^ 64 - b % 2 ^ 64)) % 2 ^ 64

theorem subUint64_of_le {a b : Nat} (le : b ≤ a) (bound : a < 2 ^ 64) : subUint64 a b = a - b := by
  unfold subUint64
  rw [Nat.mod_eq_of_lt (show b < 2 ^ 64 by omega)]
  omega

/-- Subtraction takes back what was added, also past the wrap-around. -/
theorem subUint64_add_mod (a b : Nat) : subUint64 ((b + a) % 2 ^ 64) b = a % 2 ^ 64 := by
  unfold subUint64
  omega

theorem addUint64_mod (a b : Nat) : addUint64 (a % 2 ^ 64) b = (a + b) % 2 ^ 64 := by
  unfold addUint64
  omega

/-- The value of a 64-bit signed word. -/
def wrapInt64 (x : Int) : Int := (x + 2 ^ 63) % 2 ^ 64 - 2 ^ 63

theorem wrapInt64_of_lt {x : Int} (nonneg : 0 ≤ x) (small : x < 2 ^ 63) : wrapInt64 x = x := by
  unfold wrapInt64
  omega

end MPQuic
