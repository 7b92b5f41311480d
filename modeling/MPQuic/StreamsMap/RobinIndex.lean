import MPQuic.Lib.Rotation
import MPQuic.StreamsMap.RoundRobinCalls

/-!
# Removing streams and the round robin

A round robin starts at the stream that its index stands for. Removing a stream moves the streams
behind it one position down. `RemoveStream` takes `roundRobinIndex` down with them, but not
`unreliableRobinIndex`, so that the loop over the streams without a mark skips a stream
(`removeStream_rotation_iff`).
-/

namespace MPQuic

open List

namespace StreamsMap

variable {m : StreamsMap} {id : Nat}

/-- The first stream, from an index on and around, that is open in a later map. -/
def designated (m later : StreamsMap) (index : Nat) : Option Nat :=
  (m.rotation index).find? (· ∈ later.streams)

/-! ## Before and after -/

theorem removeStream_of_not_open (absent : id ∉ m.streams) : (m.removeStream id).1 = m := by
  rw [removeStream, if_neg absent]

theorem openStreams_removeStream (isOpen : id ∈ m.streams) :
    (m.removeStream id).1.openStreams = m.openStreams.erase id := by
  rw [removeStream, if_pos isOpen]

theorem unreliableRobinIndex_removeStream :
    (m.removeStream id).1.unreliableRobinIndex = m.unreliableRobinIndex := by
  unfold removeStream
  split <;> rfl

theorem roundRobinIndex_removeStream (isOpen : id ∈ m.streams) :
    (m.removeStream id).1.roundRobinIndex =
      if m.openStreams.idxOf id < m.roundRobinIndex then m.roundRobinIndex - 1
      else m.roundRobinIndex := by
  rw [removeStream, if_pos isOpen]

theorem mem_removeStream (isOpen : id ∈ m.streams) {other : Nat} :
    other ∈ (m.removeStream id).1.streams ↔ other ≠ id ∧ other ∈ m.streams := by
  rw [← mem_openStreams, openStreams_removeStream isOpen, m.nodup_openStreams.mem_erase_iff,
    mem_openStreams]

/-- Before the removal: the stream is passed over. -/
theorem designated_before (isOpen : id ∈ m.streams) (index : Nat) :
    m.designated (m.removeStream id).1 index =
      ((m.openStreams.erase id).rotate
        (if m.openStreams.idxOf id < index % m.numStreams then index % m.numStreams - 1
          else index % m.numStreams)).head? := by
  have positive : 0 < m.openStreams.length := length_pos_of_mem (mem_openStreams.mpr isOpen)
  have rotated := Rotation.erase_rotate m.nodup_openStreams (mem_openStreams.mpr isOpen)
    (Nat.mod_lt index positive)
  rw [rotate_mod, (nodup_rotate.mpr m.nodup_openStreams).erase_eq_filter] at rotated
  rw [designated, ← head?_filter, ← length_openStreams, ← rotated, rotation_eq_rotate]
  refine congrArg List.head? (filter_congr fun other mem => ?_)
  have inStreams := mem_openStreams.mp (mem_rotate.mp mem)
  by_cases removed : other = id
  · simp [mem_removeStream isOpen, removed]
  · simp [mem_removeStream isOpen, inStreams, removed]

/-- After it: every stream is open. -/
theorem designated_self (m : StreamsMap) (index : Nat) :
    m.designated m index = (m.openStreams.rotate index).head? := by
  have allOpen : (m.rotation index).filter (· ∈ m.streams) = m.rotation index := by
    refine filter_eq_self.mpr fun other mem => ?_
    simpa using mem_rotation.mp mem
  rw [designated, ← head?_filter, allOpen, rotation_eq_rotate]

/-- An index stands for the same stream if it is moved by as much as the streams behind the removed
one. -/
theorem designated_eq_iff (isOpen : id ∈ m.streams) (index index' : Nat) :
    m.designated (m.removeStream id).1 index =
        (m.removeStream id).1.designated (m.removeStream id).1 index' ↔
      m.numStreams = 1 ∨ Nat.ModEq (m.numStreams - 1) index'
        (if m.openStreams.idxOf id < index % m.numStreams then index % m.numStreams - 1
          else index % m.numStreams) := by
  have mem := mem_openStreams.mpr isOpen
  have length : (m.openStreams.erase id).length = m.numStreams - 1 := by
    rw [length_erase_of_mem mem, length_openStreams]
  have positive : 0 < m.numStreams := by
    rw [← length_openStreams]
    exact length_pos_of_mem mem
  rw [designated_before isOpen, designated_self, openStreams_removeStream isOpen]
  by_cases only : m.numStreams = 1
  · have empty : m.openStreams.erase id = [] :=
      eq_nil_of_length_eq_zero (by rw [length, only])
    rw [empty]
    simp [only]
  · have nonempty : m.openStreams.erase id ≠ [] := by
      rw [← length_pos_iff, length]
      omega
    rw [Rotation.head?_rotate_eq_iff (m.nodup_openStreams.erase id) nonempty, length, eq_comm]
    exact (or_iff_right only).symm

/-! ## The two indices -/

theorem modEq_iff_dvd {modulus extra rest index : Nat} (rounds : Nat)
    (sum : index = modulus * rounds + extra + rest) :
    Nat.ModEq modulus index rest ↔ modulus ∣ extra := by
  rw [sum]
  constructor
  · intro same
    have zero : Nat.ModEq modulus (modulus * rounds + extra) 0 :=
      Nat.ModEq.add_right_cancel' rest (by rw [zero_add]; exact same)
    exact (Nat.dvd_add_right (Nat.dvd_mul_right modulus rounds)).mp
      (Nat.modEq_zero_iff_dvd.mp zero)
  · intro divides
    have zero : Nat.ModEq modulus (modulus * rounds + extra) 0 :=
      Nat.modEq_zero_iff_dvd.mpr (Nat.dvd_add (Nat.dvd_mul_right modulus rounds) divides)
    have same := zero.add_right rest
    rwa [zero_add] at same

variable {count position : Nat}

/-- An index that stays as it is: it is right if the streams that it has gone past have moved down
by a multiple of their number. -/
theorem modEq_unchanged_iff (positive : 0 < count) (index : Nat) :
    Nat.ModEq (count - 1) index
        (if position < index % count then index % count - 1 else index % count) ↔
      count - 1 ∣ index / count + if position < index % count then 1 else 0 := by
  obtain ⟨fewer, rfl⟩ : ∃ fewer, count = fewer + 1 := ⟨count - 1, by omega⟩
  apply modEq_iff_dvd (index / (fewer + 1))
  have split := Nat.div_add_mod index (fewer + 1)
  rw [Nat.add_mul, one_mul] at split
  rw [Nat.add_sub_cancel]
  generalize index / (fewer + 1) = rounds at split ⊢
  split_ifs <;> omega

/-- An index that goes down if it is above the position of the removed stream. -/
theorem modEq_adjusted_iff (inside : position < count) (index : Nat) :
    Nat.ModEq (count - 1) (if position < index then index - 1 else index)
        (if position < index % count then index % count - 1 else index % count) ↔
      count - 1 ∣ index / count - if index % count ≤ position then 1 else 0 := by
  obtain ⟨fewer, rfl⟩ : ∃ fewer, count = fewer + 1 := ⟨count - 1, by omega⟩
  apply modEq_iff_dvd (index / (fewer + 1))
  have split := Nat.div_add_mod index (fewer + 1)
  rw [Nat.add_mul, one_mul] at split
  rw [Nat.add_sub_cancel]
  generalize index / (fewer + 1) = rounds at split ⊢
  cases rounds with
  | zero =>
    rw [mul_zero] at split ⊢
    split_ifs <;> omega
  | succ rounds =>
    rw [Nat.mul_succ] at split ⊢
    split_ifs <;> omega

section Open

variable (isOpen : id ∈ m.streams)

include isOpen

theorem idxOf_lt_numStreams : m.openStreams.idxOf id < m.numStreams := by
  rw [← length_openStreams]
  exact idxOf_lt_length_iff.mpr (mem_openStreams.mpr isOpen)

theorem designated_roundRobin_iff :
    m.designated (m.removeStream id).1 m.roundRobinIndex =
        (m.removeStream id).1.designated (m.removeStream id).1
          (m.removeStream id).1.roundRobinIndex ↔
      m.numStreams = 1 ∨ m.numStreams - 1 ∣ m.roundRobinIndex / m.numStreams -
        if m.roundRobinIndex % m.numStreams ≤ m.openStreams.idxOf id then 1 else 0 := by
  rw [designated_eq_iff isOpen, roundRobinIndex_removeStream isOpen,
    modEq_adjusted_iff (idxOf_lt_numStreams isOpen)]

theorem designated_unreliable_iff :
    m.designated (m.removeStream id).1 m.unreliableRobinIndex =
        (m.removeStream id).1.designated (m.removeStream id).1
          (m.removeStream id).1.unreliableRobinIndex ↔
      m.numStreams = 1 ∨ m.numStreams - 1 ∣ m.unreliableRobinIndex / m.numStreams +
        if m.openStreams.idxOf id < m.unreliableRobinIndex % m.numStreams then 1 else 0 := by
  rw [designated_eq_iff isOpen, unreliableRobinIndex_removeStream,
    modEq_unchanged_iff (Nat.zero_lt_of_lt (idxOf_lt_numStreams isOpen))]

end Open

/-- Removing a stream keeps the streams that the indices stand for exactly on these conditions. They
hold for `roundRobinIndex` up to the number of streams, and fail for `unreliableRobinIndex` above
the position of the removed stream. -/
theorem removeStream_rotation_iff (m : StreamsMap) (id : Nat) :
    let after := (m.removeStream id).1
    let count := m.numStreams
    let position := m.openStreams.idxOf id
    (m.designated after m.roundRobinIndex = after.designated after after.roundRobinIndex ↔
      id ∉ m.streams ∨ count = 1 ∨
        count - 1 ∣ m.roundRobinIndex / count -
          if m.roundRobinIndex % count ≤ position then 1 else 0) ∧
    (m.designated after m.unreliableRobinIndex =
        after.designated after after.unreliableRobinIndex ↔
      id ∉ m.streams ∨ count = 1 ∨
        count - 1 ∣ m.unreliableRobinIndex / count +
          if position < m.unreliableRobinIndex % count then 1 else 0) := by
  intro after count position
  by_cases isOpen : id ∈ m.streams
  · have opened : ¬id ∉ m.streams := not_not.mpr isOpen
    rw [or_iff_right opened, or_iff_right opened]
    exact ⟨designated_roundRobin_iff isOpen, designated_unreliable_iff isOpen⟩
  · have same : after = m := removeStream_of_not_open isOpen
    rw [same]
    exact ⟨iff_of_true rfl (Or.inl isOpen), iff_of_true rfl (Or.inl isOpen)⟩

/-- Streams 5, 7 and 9 were served in one iteration, so that the next one starts with stream 7. When
stream 5 is removed, it starts with stream 9. -/
theorem removeStream_skips :
    let m := ((serverWith [1, 3, 5, 7, 9]).1.roundRobinIterate2 (contentWith 0) true ()).map
    let after := (m.removeStream 5).1
    m.openStreams = [1, 3, 5, 7, 9] ∧ m.unreliableRobinIndex = 3 ∧
      after.openStreams = [1, 3, 7, 9] ∧ after.unreliableRobinIndex = 3 ∧
      m.designated after m.unreliableRobinIndex = some 7 ∧
      after.designated after after.unreliableRobinIndex = some 9 := by
  decide

end StreamsMap

end MPQuic
