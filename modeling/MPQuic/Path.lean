import MPQuic.AckHandler.ReceivedPacketHandler
import MPQuic.AckHandler.SentPacketHandler
import MPQuic.Lib.MapOrder
import MPQuic.PacketNumberGenerator
import MPQuic.Lib.MapSum

/-!
# Paths

`path.go`: one path of a session, with its own packet numbers, its own record of sent and received
packets, its congestion window and its RTT estimate.

The congestion controller and the RTT estimator are left out. What the session reads from them is
a field, and each step that could change it sets it. A path is closed by its own goroutine after
something was sent to `closeChan`; the field of that name says that something waits there.
-/

namespace MPQuic

def initialCongestionWindow : Nat := 32

/-- A path of a session. -/
structure Path where
  pathID : PathID
  /-- `conn.LocalAddr()` -/
  localAddr : UDPAddr
  /-- `conn.RemoteAddr()` -/
  remoteAddr : UDPAddr
  /-- `rttStats.SmoothedRTT()` -/
  smoothedRTT : Int := 0
  /-- `congestion.GetCongestionWindow()` -/
  congestionWindow : Nat := 0
  sentPacketHandler : SentPacketHandler := {}
  receivedPacketHandler : ReceivedPacketHandler
  isOpen : Bool := true
  closeChan : Bool := false
  potentiallyFailed : Bool := false
  packetNumberGenerator : PacketNumberGenerator
  lastRcvdPacketNumber : Nat := 0
  largestRcvdPacketNumber : Nat := 0
  leastUnacked : Nat := 0
  lastNetworkActivityTime : Int

/-- A new path as `setup` leaves it. The first packet has number one on every path. -/
def newPath (pathID : PathID) (localAddr remoteAddr : UDPAddr) (version : VersionNumber)
    (now : Int) : Path where
  pathID
  localAddr
  remoteAddr
  congestionWindow := initialCongestionWindow * defaultTCPMSS
  receivedPacketHandler := { version }
  packetNumberGenerator := newPacketNumberGenerator skipPacketAveragePeriodLength
  lastNetworkActivityTime := now

namespace Path

variable (p : Path)

/-- `sentPacketHandler.SendingAllowed()` -/
def handlerAllowsSending : Bool := p.sentPacketHandler.sendingAllowed p.congestionWindow

def sendingAllowed : Bool := p.isOpen && p.handlerAllowsSending

def setLeastUnacked (leastUnacked : Nat) : Path := { p with leastUnacked }

def getStopWaitingFrame (force : Bool) : Path × Option StopWaitingFrame :=
  let (sentPacketHandler, swf) := p.sentPacketHandler.getStopWaitingFrame force
  ({ p with sentPacketHandler }, swf)

/-- `GetAckFrame`, with the ID of the path. -/
def getAckFrame (now : Int) : Except RuntimePanic (Path × Option AckFrame) :=
  match p.receivedPacketHandler.getAckFrame now with
  | .error err => .error err
  | .ok (receivedPacketHandler, ack) =>
    .ok ({ p with receivedPacketHandler },
      ack.map fun frame => { frame with pathID := p.pathID })

/-- The path's goroutine reads `closeChan` and leaves its loop. -/
def close : Path := { p with isOpen := false, closeChan := false }

end Path

/-! ## The paths of a session -/

/-- The map of the paths. Every path stands under its own ID, and none is ever taken out. -/
structure PathTable where
  entries : AList fun _ : PathID => Path
  keyed : ∀ pathID pth, entries.lookup pathID = some pth → pth.pathID = pathID

namespace PathTable

variable {paths : PathTable} {pth old : Path} {pathID : PathID} {order : List PathID}

def empty : PathTable where
  entries := ∅
  keyed := fun _ _ found => by cases found

variable (paths)

def lookup (pathID : PathID) : Option Path := paths.entries.lookup pathID

/-- Enter a path, or write back one that was changed. -/
def set (pth : Path) : PathTable where
  entries := paths.entries.insert pth.pathID pth
  keyed := by
    intro pathID other found
    rcases MapSum.lookup_of_insert found with ⟨same, rfl⟩ | ⟨-, old⟩
    · exact same.symm
    · exact paths.keyed pathID other old

/-- `len(s.paths)` -/
def length : Nat := paths.entries.keys.length

/-- The paths in the order in which a loop visits them. -/
def visited (order : List PathID) : List Path :=
  (MapOrder.visited order paths.entries.keys).filterMap paths.lookup

theorem lookup_set_self (pth : Path) : (paths.set pth).lookup pth.pathID = some pth :=
  AList.lookup_insert _

variable {paths}

theorem lookup_set_of_ne
    (other : pathID ≠ pth.pathID) : (paths.set pth).lookup pathID = paths.lookup pathID :=
  AList.lookup_insert_ne other

/-- Writing a path back makes no other path known or unknown. -/
theorem lookup_set_eq_none_iff (pth : Path) (known : paths.lookup pth.pathID = some old)
    (pathID : PathID) : (paths.set pth).lookup pathID = none ↔ paths.lookup pathID = none := by
  by_cases same : pathID = pth.pathID
  · rw [same, lookup_set_self, known]
    simp
  · rw [lookup_set_of_ne same]

theorem mem_keys_of_lookup (found : paths.lookup pathID = some pth) : pathID ∈ paths.entries.keys :=
  AList.mem_keys.mp (MapSum.mem_of_lookup found)

theorem length_set (pth : Path) (known : paths.lookup pth.pathID = some old) :
    (paths.set pth).length = paths.length := by
  have mem := mem_keys_of_lookup known
  unfold length set
  rw [AList.keys_insert, List.length_cons, List.length_erase_of_mem mem]
  exact Nat.succ_pred_eq_of_pos (List.length_pos_of_mem mem)

theorem pathID_of_lookup (found : paths.lookup pathID = some pth) : pth.pathID = pathID :=
  paths.keyed pathID pth found

theorem lookup_pathID_of_lookup
    (found : paths.lookup pathID = some pth) : paths.lookup pth.pathID = some pth := by
  rw [pathID_of_lookup found]
  exact found

theorem mem_visited : pth ∈ paths.visited order ↔ paths.lookup pth.pathID = some pth := by
  unfold visited
  rw [List.mem_filterMap]
  constructor
  · rintro ⟨pathID, -, found⟩
    exact lookup_pathID_of_lookup found
  · intro found
    exact ⟨pth.pathID, MapOrder.mem_visited.mpr (mem_keys_of_lookup found), found⟩

theorem forall_visited_iff {P : Path → Prop} :
    (∀ pth ∈ paths.visited order, P pth) ↔
      ∀ pathID pth, paths.lookup pathID = some pth → P pth := by
  constructor
  · intro visited pathID pth found
    exact visited pth (mem_visited.mpr (lookup_pathID_of_lookup found))
  · intro known pth visited
    exact known pth.pathID pth (mem_visited.mp visited)

/-- A loop may begin with any path. -/
theorem exists_visited_first (found : paths.lookup pathID = some pth) :
    ∃ order rest, paths.visited order = pth :: rest := by
  have perm := (List.perm_cons_erase (mem_keys_of_lookup found)).symm
  refine ⟨pathID :: paths.entries.keys.erase pathID,
    (paths.entries.keys.erase pathID).filterMap paths.lookup, ?_⟩
  unfold visited
  rw [MapOrder.visited_of_perm perm, List.filterMap_cons, found]

/-- A loop may end with any path. -/
theorem exists_visited_last (found : paths.lookup pathID = some pth) :
    ∃ order rest, paths.visited order = rest ++ [pth] := by
  have perm := (List.perm_append_singleton pathID (paths.entries.keys.erase pathID)).trans
    (List.perm_cons_erase (mem_keys_of_lookup found)).symm
  refine ⟨paths.entries.keys.erase pathID ++ [pathID],
    (paths.entries.keys.erase pathID).filterMap paths.lookup, ?_⟩
  unfold visited
  rw [MapOrder.visited_of_perm perm, List.filterMap_append, List.filterMap_cons, found]
  rfl

end PathTable

end MPQuic
