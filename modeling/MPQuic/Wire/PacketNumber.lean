import MPQuic.Wire.PublicHeader

/-!
# Completing packet numbers

A packet carries the lowest bytes of its number. The sender chooses how many by the distance to the
least unacknowledged packet, the receiver completes them by the largest number it has seen. The
receiver takes the candidate closest to the number it expects, and among numbers that end in the
same bytes only one is closer than half the distance between two of them. So it is enough that the
packet's number is that close, which the sender's choice provides on one side and a bound on the
reordering on the other.

* `inferPacketNumber_of_near`: a number within half a window of the expected one is completed.
* `inferPacketNumber_lossless`: what the sender cuts off the receiver restores.
-/

namespace MPQuic

variable {target a b window len last pn candidate : Nat}

/-! ## The closest of two numbers -/

theorem closestTo_left (closer : packetNumberDelta target a <
    packetNumberDelta target b) : closestTo target a b = a := if_pos closer

theorem closestTo_right (closer : packetNumberDelta target b <
    packetNumberDelta target a) : closestTo target a b = b :=
  if_neg (not_lt.mpr (le_of_lt closer))

/-- The result is one of the two. -/
theorem closestTo_cases {motive : Nat → Prop} (target : Nat) (left : motive a)
    (right : motive b) : motive (closestTo target a b) := by
  unfold closestTo
  split
  · exact left
  · exact right

/-- `window / 2` or more away from the target. -/
def Far (window target candidate : Nat) : Prop := window ≤ 2 * packetNumberDelta target candidate

theorem Far.of_le {window target : Nat} (far : 2 * target + window ≤ 2 * candidate) :
    Far window target candidate := by
  unfold Far packetNumberDelta
  split <;> omega

theorem Far.of_ge {window target : Nat} (far : 2 * candidate + window ≤ 2 * target) :
    Far window target candidate := by
  unfold Far packetNumberDelta
  split <;> omega

/-- Less than half a window away, on either side. -/
structure Near (window target candidate : Nat) : Prop where
  ahead : 2 * candidate < 2 * target + window
  behind : 2 * target < 2 * candidate + window

theorem Near.delta_lt (near : Near window target a)
    (far : Far window target b) : packetNumberDelta target a < packetNumberDelta target b := by
  have ahead := near.ahead
  have behind := near.behind
  have close : 2 * packetNumberDelta target a < window := by
    unfold packetNumberDelta
    split <;> omega
  unfold Far at far
  omega

/-! ## The three candidates -/

section Epoch

variable {window epoch wire last : Nat}

/-- The window that the last seen number is in, away from the end of the number space. -/
structure InEpoch (window epoch last : Nat) : Prop where
  below : epoch ≤ last
  above : last < epoch + window
  first : epoch = 0 ∨ window ≤ epoch
  room : epoch + 2 * window ≤ 2 ^ 64
  small : window ≤ 2 ^ 48

section

variable (inside : InEpoch window epoch last)

include inside

theorem InEpoch.target_eq : addUint64 last 1 = last + 1 := by
  have below := inside.below
  have above := inside.above
  have room := inside.room
  exact addUint64_of_lt (by omega)

section

variable (short : wire < window)

include short

theorem InEpoch.current_eq : addUint64 epoch wire = epoch + wire := by
  have room := inside.room
  exact addUint64_of_lt (by omega)

theorem InEpoch.next_eq : addUint64 (addUint64 epoch window) wire = epoch + window + wire := by
  have room := inside.room
  rw [addUint64_of_lt (show epoch + window < 2 ^ 64 by omega), addUint64_of_lt (by omega)]

/-- In front of the first window there are only the numbers at the end of the space, by wrapping
around. -/
theorem InEpoch.prev_cases :
    addUint64 (subUint64 epoch window) wire + window = epoch + wire ∨
      epoch = 0 ∧ 2 ^ 64 ≤ addUint64 (subUint64 epoch window) wire + window := by
  have room := inside.room
  have small := inside.small
  rcases inside.first with zero | later
  · refine Or.inr ⟨zero, ?_⟩
    unfold addUint64 subUint64
    omega
  · left
    rw [subUint64_of_le later (by omega), addUint64_of_lt (by omega)]
    omega

/-- Among the candidates of the three windows the one near the expected number is chosen. -/
theorem InEpoch.closest {pn : Nat}
    (candidate : pn = epoch + wire ∨ pn = epoch + window + wire ∨ pn + window = epoch + wire)
    (near : Near window (last + 1) pn) :
    closestTo (last + 1) (addUint64 epoch wire)
      (closestTo (last + 1) (addUint64 (subUint64 epoch window) wire)
        (addUint64 (addUint64 epoch window) wire)) = pn := by
  have above := inside.above
  have below := inside.below
  have room := inside.room
  have small := inside.small
  have ahead := near.ahead
  have behind := near.behind
  have prev := inside.prev_cases short
  rw [inside.current_eq short, inside.next_eq short]
  generalize addUint64 (subUint64 epoch window) wire = previous at prev ⊢
  rcases candidate with current | next | previously
  · -- the neighbours are a whole window away from the current candidate
    have farPrev : Far window (last + 1) previous := by
      rcases prev with same | ⟨zero, wrapped⟩
      · exact Far.of_ge (by omega)
      · exact Far.of_le (by omega)
    have farNext : Far window (last + 1) (epoch + window + wire) := Far.of_le (by omega)
    rw [← current]
    exact closestTo_left (near.delta_lt (closestTo_cases (last + 1) farPrev farNext))
  · have farPrev : Far window (last + 1) previous := by
      rcases prev with same | ⟨zero, wrapped⟩
      · exact Far.of_ge (by omega)
      · exact Far.of_le (by omega)
    have farCurrent : Far window (last + 1) (epoch + wire) := Far.of_ge (by omega)
    rw [← next, closestTo_right (near.delta_lt farPrev)]
    exact closestTo_right (near.delta_lt farCurrent)
  · have same : previous = pn := by
      rcases prev with same | ⟨zero, wrapped⟩
      · omega
      · omega
    have farCurrent : Far window (last + 1) (epoch + wire) := Far.of_le (by omega)
    have farNext : Far window (last + 1) (epoch + window + wire) := Far.of_le (by omega)
    rw [same, closestTo_left (near.delta_lt farNext)]
    exact closestTo_right (near.delta_lt farCurrent)

end

end

end Epoch

/-! ## Cutting off and completing -/

section

variable (chosen : len = 2 ∨ len = 4 ∨ len = 6)

include chosen

/-- The windows that the sender chooses from. -/
theorem inEpoch_of_len (room : last < 2 ^ 64 - 2 ^ 48) :
    InEpoch (2 ^ (len * 8)) (last / 2 ^ (len * 8) * 2 ^ (len * 8)) last := by
  rcases chosen with rfl | rfl | rfl <;> constructor <;> omega

/-- A number within half a window of the expected one is in the window of the last seen number, in
the one before or in the one after. -/
theorem candidate_of_near (near : Near (2 ^ (len * 8)) (last + 1) pn) :
    pn = last / 2 ^ (len * 8) * 2 ^ (len * 8) + pn % 2 ^ (len * 8) ∨
      pn = last / 2 ^ (len * 8) * 2 ^ (len * 8) + 2 ^ (len * 8) + pn % 2 ^ (len * 8) ∨
      pn + 2 ^ (len * 8) = last / 2 ^ (len * 8) * 2 ^ (len * 8) + pn % 2 ^ (len * 8) := by
  have ahead := near.ahead
  have behind := near.behind
  rcases chosen with rfl | rfl | rfl <;> omega

/-- The receiver completes every number that is within half a window of the one it expects. -/
theorem inferPacketNumber_of_near (room : last < 2 ^ 64 - 2 ^ 48)
    (near : Near (2 ^ (len * 8)) (last + 1) pn) :
    inferPacketNumber len last (pn % 2 ^ (len * 8)) = pn := by
  have inside := inEpoch_of_len chosen room
  have short : pn % 2 ^ (len * 8) < 2 ^ (len * 8) := Nat.mod_lt _ (Nat.two_pow_pos _)
  simp only [inferPacketNumber, inside.target_eq]
  exact inside.closest short (candidate_of_near chosen near) near

end

/-- The sender chooses a window of more than twice the distance to the least unacknowledged
packet. -/
theorem getPacketNumberLengthForPublicHeader_spec {pn leastUnacked : Nat} (bound : pn < 2 ^ 64)
    (ordered : leastUnacked ≤ pn) (few : pn - leastUnacked < 2 ^ 47) :
    ∃ len, getPacketNumberLengthForPublicHeader pn leastUnacked = len ∧
      (len = 2 ∨ len = 4 ∨ len = 6) ∧ 2 * (pn - leastUnacked) < 2 ^ (len * 8) := by
  refine ⟨_, rfl, ?_⟩
  simp only [getPacketNumberLengthForPublicHeader, subUint64_of_le ordered bound]
  split_ifs with two four
  · exact ⟨Or.inl rfl, by omega⟩
  · exact ⟨Or.inr (Or.inl rfl), by omega⟩
  · exact ⟨Or.inr (Or.inr rfl), by omega⟩

/-- What the sender cuts off the receiver restores, if it has seen all packets below the least
unacknowledged one and no packet that was sent more than `2 ^ 15 - 2` packets later. -/
theorem inferPacketNumber_lossless (pn leastUnacked largest : Nat) (bound : pn < 2 ^ 64)
    (ordered : leastUnacked ≤ pn) (few : pn - leastUnacked < 2 ^ 47)
    (seen : leastUnacked ≤ largest + 1) (reordered : largest < pn + 2 ^ 15 - 1)
    (room : largest < 2 ^ 64 - 2 ^ 48) :
    inferPacketNumber (getPacketNumberLengthForPublicHeader pn leastUnacked) largest
        (pn % 2 ^ (8 * getPacketNumberLengthForPublicHeader pn leastUnacked)) = pn := by
  obtain ⟨len, chosenLen, chosen, wide⟩ :=
    getPacketNumberLengthForPublicHeader_spec bound ordered few
  have widest : 2 ^ 16 ≤ 2 ^ (len * 8) := by
    rcases chosen with rfl | rfl | rfl <;> decide
  have near : Near (2 ^ (len * 8)) (largest + 1) pn := by
    constructor
    · omega
    · omega
  rw [chosenLen, mul_comm 8 len]
  exact inferPacketNumber_of_near chosen room near

/-- The first number of a window of two bytes, sent after ten packets without an acknowledgement,
completed by a receiver that has seen a later packet. -/
theorem inferPacketNumber_lossless_atBoundary :
    inferPacketNumber (getPacketNumberLengthForPublicHeader 65536 65526) 70000
      (65536 % 2 ^ (8 * getPacketNumberLengthForPublicHeader 65536 65526)) = 65536 :=
  inferPacketNumber_lossless 65536 65526 70000 (by decide) (by decide) (by decide) (by decide)
    (by decide) (by decide)

end MPQuic
