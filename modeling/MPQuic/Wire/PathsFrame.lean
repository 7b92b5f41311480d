import MPQuic.Wire.Frame

/-!
# Parsing PATHS frames

`ParsePathsFrame` of `internal/wire/paths_frame.go`. A frame that is accepted has as many IDs and
as many RTTs as it announces.
-/

namespace MPQuic

open ByteCodec

/-- The IDs of the paths with their RTTs, which travel as 16-bit floats of microseconds. -/
def readPathsEntries (order : ByteOrder) : Nat → Reader WireError (List (PathID × Int))
  | 0 => pure []
  | count + 1 => do
    let pathID ← readUint8
    let remoteRTT ← order.readUfloat16
    let rest ← readPathsEntries order count
    return (pathID, remoteRTT * 1000) :: rest

def parsePathsFrame (version : VersionNumber) : Reader WireError PathsFrame := do
  let _ ← readUint8
  let maxNumPaths ← readUint8
  let numPaths ← readUint8
  failIf (numPaths > maxNumPaths) .errTooManyPaths
  let entries ← readPathsEntries (getByteOrder version) numPaths.toNat
  return {
    maxNumPaths
    numPaths
    pathIDs := entries.map Prod.fst
    remoteRTTs := entries.map Prod.snd }

/-- The frame has an ID and an RTT for each of its paths. -/
structure PathsFrame.WellFormed (f : PathsFrame) : Prop where
  numPaths : f.numPaths ≤ f.maxNumPaths
  pathIDs : f.pathIDs.length = f.numPaths.toNat
  remoteRTTs : f.remoteRTTs.length = f.numPaths.toNat

theorem length_readPathsEntries {order : ByteOrder} :
    ∀ (count : Nat) {input rest : List UInt8} {entries : List (PathID × Int)},
      Reads (readPathsEntries order count) input entries rest → entries.length = count := by
  intro count
  induction count with
  | zero =>
    intro input rest entries read
    cases read
    rfl
  | succ count ih =>
    intro input rest entries read
    obtain ⟨_, _, -, read⟩ := read.of_bind
    obtain ⟨_, _, -, read⟩ := read.of_bind
    obtain ⟨tail, _, readTail, read⟩ := read.of_bind
    cases read
    rw [List.length_cons, ih readTail]

/-- What the parser accepts is well formed. -/
theorem wellFormed_of_parsePathsFrame {version : VersionNumber} {input rest : List UInt8}
    {f : PathsFrame} (parsed : Reads (parsePathsFrame version) input f rest) : f.WellFormed := by
  obtain ⟨_, _, -, read⟩ := parsed.of_bind
  obtain ⟨maxNumPaths, _, -, read⟩ := read.of_bind
  obtain ⟨numPaths, _, -, read⟩ := read.of_bind
  obtain ⟨_, _, accepted, read⟩ := read.of_bind
  obtain ⟨entries, _, readEntries, read⟩ := read.of_bind
  have count := length_readPathsEntries _ readEntries
  cases read
  refine ⟨UInt8.not_lt.mp (of_decide_eq_false accepted.of_failIf), ?_, ?_⟩
  · rw [List.length_map, count]
  · rw [List.length_map, count]

end MPQuic
