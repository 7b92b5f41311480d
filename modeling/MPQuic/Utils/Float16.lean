import MPQuic.Utils.ByteOrder
import Mathlib.Data.Nat.Log

/-!
# Rounding of the 16-bit float

What `internal/utils/float16.go` loses of a value. The writer searches for the exponent that leaves
twelve significant bits and cuts the bits below; values past the largest code are clamped.

What comes back of a value are its twelve highest bits (`roundUfloat16_of_lt`), so that less
than one part in 2048 is lost. Every code is the code of the value that it stands for
(`encode_decodeUfloat16`), and `ufloat16_rounds` says what a value goes through on its way over the
wire.
-/

namespace MPQuic

open ByteCodec

variable {value : Nat}

/-- The state of the search for the exponent: the value is shifted by the exponent, and `spare`
bits may still have to go to leave twelve. -/
structure Normalizing (value spare : Nat) (state : Nat × Nat) : Prop where
  shifted : state.2 = value / 2 ^ state.1
  lower : 2 ^ uFloat16MantissaBits ≤ state.2
  upper : state.2 < 2 ^ (uFloat16MantissaBits + spare)

/-- One round of the search halves the number of spare bits. -/
theorem Normalizing.step {state : Nat × Nat} (offset : Nat)
    (normalizing : Normalizing value (2 * offset) state) :
    Normalizing value offset (if 2 ^ (uFloat16MantissaBits + offset) ≤ state.2 then
      (state.1 + offset, state.2 >>> offset) else state) := by
  obtain ⟨shifted, lower, upper⟩ := normalizing
  split
  · rename_i large
    have shift : state.2 >>> offset = state.2 / 2 ^ offset := Nat.shiftRight_eq_div_pow _ _
    refine ⟨?_, ?_, ?_⟩
    · rw [shift, shifted, Nat.div_div_eq_div_mul, ← pow_add]
    · rw [shift, Nat.le_div_iff_mul_le (Nat.two_pow_pos _), ← pow_add]
      exact large
    · rw [shift, Nat.div_lt_iff_lt_mul (Nat.two_pow_pos _), ← pow_add]
      rwa [show uFloat16MantissaBits + offset + offset = uFloat16MantissaBits + 2 * offset by ring]
  · rename_i small
    exact ⟨shifted, lower, not_le.mp small⟩

/-- The search finds the exponent that leaves twelve significant bits. -/
theorem normalizing_normalizeUfloat16 (lower : 2 ^ uFloat16MantissaBits ≤ value)
    (upper : value < 2 ^ (uFloat16MantissaBits + 32)) :
    Normalizing value 1 (normalizeUfloat16 value) := by
  have start : Normalizing value (2 * 16) (0, value) := ⟨(Nat.div_one value).symm, lower, upper⟩
  exact ((((start.step 16).step 8).step 4).step 2).step 1

/-- A code with an exponent stands for its twelve significant bits, shifted. -/
theorem decodeUfloat16_of_exponent {mantissa exponent : Nat} (lower : 2 ^ 11 ≤ mantissa)
    (upper : mantissa < 2 ^ 12) (positive : 0 < exponent) :
    decodeUfloat16 (mantissa + exponent <<< uFloat16MantissaBits) = mantissa * 2 ^ exponent := by
  have bits : uFloat16MantissaBits = 11 := rfl
  have effective : uFloat16MantissaEffectiveBits = 12 := rfl
  have code : mantissa + exponent <<< uFloat16MantissaBits = mantissa + exponent * 2 ^ 11 := by
    rw [bits, Nat.shiftLeft_eq]
  have large : ¬ mantissa + exponent * 2 ^ 11 < 2 ^ 12 := by omega
  have found : (mantissa + exponent * 2 ^ 11) >>> 11 - 1 = exponent := by
    rw [Nat.shiftRight_eq_div_pow]
    omega
  rw [code]
  simp only [decodeUfloat16, effective, if_neg large, bits, found]
  rw [Nat.shiftLeft_eq, Nat.shiftLeft_eq, Nat.add_sub_cancel]

/-- The exponent leaves the twelve highest bits. -/
theorem Normalizing.log {state : Nat × Nat} (normalizing : Normalizing value 1 state) :
    Nat.log 2 value = 11 + state.1 := by
  obtain ⟨shifted, lower, upper⟩ := normalizing
  rw [shifted] at lower upper
  apply Nat.log_eq_of_pow_le_of_lt_pow
  · rw [pow_add]
    exact (Nat.le_div_iff_mul_le (Nat.two_pow_pos _)).mp lower
  · rw [add_right_comm, pow_add]
    exact (Nat.div_lt_iff_lt_mul (Nat.two_pow_pos _)).mp upper

theorem encodeUfloat16_of_lt (large : 2 ^ 12 ≤ value) (small : value < uFloat16MaxValue) :
    ∃ exponent, Nat.log 2 value = 11 + exponent ∧ 0 < exponent ∧
      encodeUfloat16 value = value / 2 ^ exponent + exponent <<< uFloat16MantissaBits := by
  have bits : uFloat16MantissaBits = 11 := rfl
  have top : uFloat16MaxValue = 4095 * 2 ^ 30 := by decide
  have enough : 2 ^ uFloat16MantissaBits ≤ value := le_trans (by decide) large
  have bounded : value < 2 ^ (uFloat16MantissaBits + 32) := lt_trans small (by decide)
  have normalizing := normalizing_normalizeUfloat16 enough bounded
  have log := normalizing.log
  obtain ⟨shifted, -, upper⟩ := normalizing
  have lower : 12 ≤ Nat.log 2 value := (Nat.le_log_iff_pow_le one_lt_two (by omega)).mpr large
  have higher : Nat.log 2 value < 42 := Nat.log_lt_of_lt_pow (by omega) (by omega)
  refine ⟨_, log, by omega, ?_⟩
  have long : ¬ value < 2 ^ uFloat16MantissaEffectiveBits := not_lt.mpr large
  rw [bits] at upper
  rw [← shifted]
  simp only [encodeUfloat16, if_neg long, if_neg (not_le.mpr small)]
  rw [bits, Nat.shiftLeft_eq, Nat.mod_eq_of_lt (by omega)]

theorem encodeUfloat16_of_small (small : value < 2 ^ 12) : encodeUfloat16 value = value :=
  if_pos small

theorem encodeUfloat16_of_max (max : uFloat16MaxValue ≤ value) :
    encodeUfloat16 value = 2 ^ 16 - 1 := by
  have large : ¬ value < 2 ^ uFloat16MantissaEffectiveBits :=
    not_lt.mpr (le_trans (by decide) max)
  rw [encodeUfloat16, if_neg large, if_pos max]

theorem encodeUfloat16_lt (value : Nat) : encodeUfloat16 value < 2 ^ 16 := by
  unfold encodeUfloat16
  split
  · rename_i small
    exact lt_trans small (by decide)
  · split
    · decide
    · exact Nat.mod_lt _ (by decide)

/-- What comes back of a value. -/
def roundUfloat16 (value : Nat) : Nat := decodeUfloat16 (encodeUfloat16 value)

/-- A value comes back cut to its twelve highest bits. -/
theorem roundUfloat16_of_lt (small : value < uFloat16MaxValue) :
    roundUfloat16 value = value / 2 ^ (Nat.log 2 value - 11) * 2 ^ (Nat.log 2 value - 11) := by
  rcases lt_or_ge value (2 ^ 12) with few | large
  · have log : Nat.log 2 value - 11 = 0 := by
      have := Nat.log_lt_of_lt_pow' (by decide) few
      omega
    rw [roundUfloat16, encodeUfloat16_of_small few, log, pow_zero, Nat.div_one, mul_one]
    exact if_pos few
  · obtain ⟨exponent, log, positive, code⟩ := encodeUfloat16_of_lt large small
    have lower := Nat.pow_log_le_self 2 (show value ≠ 0 by omega)
    have upper := Nat.lt_pow_succ_log_self one_lt_two value
    rw [log, pow_add] at lower
    rw [log, Nat.succ_eq_add_one, add_right_comm, pow_add] at upper
    rw [roundUfloat16, code, log, Nat.add_sub_cancel_left]
    exact decodeUfloat16_of_exponent ((Nat.le_div_iff_mul_le (Nat.two_pow_pos _)).mpr lower)
      ((Nat.div_lt_iff_lt_mul (Nat.two_pow_pos _)).mpr upper) positive

theorem roundUfloat16_of_max (max : uFloat16MaxValue ≤ value) :
    roundUfloat16 value = uFloat16MaxValue := by
  rw [roundUfloat16, encodeUfloat16_of_max max]
  decide

/-- Values are rounded down. -/
theorem roundUfloat16_le (value : Nat) : roundUfloat16 value ≤ value := by
  rcases lt_or_ge value uFloat16MaxValue with below | max
  · rw [roundUfloat16_of_lt below]
    exact Nat.div_mul_le_self _ _
  · rwa [roundUfloat16_of_max max]

/-- Below the largest value less than one part in 2048 is lost. -/
theorem roundUfloat16_near (positive : 0 < value) (small : value < uFloat16MaxValue) :
    2 ^ 11 * (value - roundUfloat16 value) < value := by
  rw [roundUfloat16_of_lt small]
  generalize shift : Nat.log 2 value - 11 = exponent
  have parts := Nat.div_add_mod' value (2 ^ exponent)
  have rest := Nat.mod_lt value (Nat.two_pow_pos exponent)
  cases exponent with
  | zero =>
    rw [Nat.pow_zero, Nat.div_one, Nat.mul_one, Nat.sub_self]
    exact positive
  | succ exponent =>
    have reach : 2 ^ (11 + (exponent + 1)) ≤ value := by
      have log : 11 + (exponent + 1) = Nat.log 2 value := by omega
      rw [log]
      exact Nat.pow_log_le_self 2 positive.ne'
    rw [pow_add] at reach
    omega

/-- Up to the largest value at most one part in 2048 is lost. -/
theorem roundUfloat16_close (max : value ≤ uFloat16MaxValue) :
    2 ^ 11 * (value - roundUfloat16 value) ≤ value := by
  rcases Nat.eq_zero_or_pos value with rfl | positive
  · decide
  rcases lt_or_ge value uFloat16MaxValue with below | top
  · exact (roundUfloat16_near positive below).le
  · rw [roundUfloat16_of_max top, Nat.sub_eq_zero_of_le max]
    exact Nat.zero_le _

theorem roundUfloat16_mono {v : Nat} (le : value ≤ v) : roundUfloat16 value ≤ roundUfloat16 v := by
  have down := roundUfloat16_le value
  rcases lt_or_ge v uFloat16MaxValue with small | max
  · have logs := Nat.log_mono_right (b := 2) le
    rw [roundUfloat16_of_lt (le.trans_lt small)] at down ⊢
    rw [roundUfloat16_of_lt small]
    rcases (Nat.sub_le_sub_right logs 11).eq_or_lt with same | less
    · rw [same]
      exact Nat.mul_le_mul_right _ (Nat.div_le_div_right le)
    · -- the highest bit of the larger value is left, and lies above the smaller one
      generalize shift : Nat.log 2 v - 11 = exponent at less ⊢
      have log : Nat.log 2 v = 11 + exponent := by omega
      have nonzero : v ≠ 0 := by
        rintro rfl
        rw [Nat.log_zero_right] at log
        omega
      have highest := Nat.pow_log_le_self 2 nonzero
      rw [log, pow_add] at highest
      have left := (Nat.le_div_iff_mul_le (Nat.two_pow_pos exponent)).mpr highest
      calc value / 2 ^ (Nat.log 2 value - 11) * 2 ^ (Nat.log 2 value - 11)
          ≤ value := down
        _ ≤ 2 ^ (Nat.log 2 value + 1) := (Nat.lt_pow_succ_log_self one_lt_two value).le
        _ ≤ 2 ^ (11 + exponent) := Nat.pow_le_pow_right two_pos (by omega)
        _ = 2 ^ 11 * 2 ^ exponent := pow_add 2 11 exponent
        _ ≤ v / 2 ^ exponent * 2 ^ exponent := Nat.mul_le_mul_right _ left
  · rw [roundUfloat16_of_max max]
    rcases lt_or_ge value uFloat16MaxValue with below | top
    · exact down.trans below.le
    · exact (roundUfloat16_of_max top).le

/-- Every code is the code of its value. -/
theorem encode_decodeUfloat16 {code : Nat} (small : code < 2 ^ 16) :
    encodeUfloat16 (decodeUfloat16 code) = code := by
  rcases lt_or_ge code (2 ^ 12) with few | large
  · have same : decodeUfloat16 code = code := if_pos few
    rw [same, encodeUfloat16_of_small few]
  · obtain ⟨exponent, positive, mantissa, lower, upper, rfl⟩ : ∃ exponent > 0, ∃ mantissa,
        2 ^ 11 ≤ mantissa ∧ mantissa < 2 ^ 12 ∧
        code = mantissa + exponent <<< uFloat16MantissaBits := by
      refine ⟨code / 2 ^ 11 - 1, by omega, code - (code / 2 ^ 11 - 1) * 2 ^ 11, by omega,
        by omega, ?_⟩
      rw [Nat.shiftLeft_eq]
      exact (Nat.sub_add_cancel (by omega)).symm
    have bits : uFloat16MantissaBits = 11 := rfl
    rw [bits, Nat.shiftLeft_eq] at small
    rw [decodeUfloat16_of_exponent lower upper positive]
    have least := Nat.mul_le_mul_right (2 ^ exponent) lower
    have most := Nat.mul_lt_mul_of_pos_right upper (Nat.two_pow_pos exponent)
    rw [← pow_add] at least most
    rcases lt_or_ge (mantissa * 2 ^ exponent) uFloat16MaxValue with below | max
    · have power : 2 ^ 12 ≤ 2 ^ (11 + exponent) := Nat.pow_le_pow_right two_pos (by omega)
      obtain ⟨e, log, -, encoded⟩ := encodeUfloat16_of_lt (power.trans least) below
      have same : e = exponent := by
        have logs := Nat.log_eq_of_pow_le_of_lt_pow least (by rwa [add_right_comm])
        omega
      rw [encoded, same, Nat.mul_div_cancel _ (Nat.two_pow_pos _)]
    · -- only the largest code is left
      have top : uFloat16MaxValue = 4095 * 2 ^ 30 := by decide
      obtain rfl : exponent = 30 := by
        by_contra other
        have power : 2 ^ (12 + exponent) ≤ 2 ^ 41 := Nat.pow_le_pow_right two_pos (by omega)
        omega
      obtain rfl : mantissa = 4095 := by omega
      exact encodeUfloat16_of_max max

/-- In either byte order a value comes back rounded down, by less than one part in 2048 below the
largest value and to the largest value from there on. The rounding is monotone and idempotent, and
every code is written again for what is read from it. -/
theorem ufloat16_rounds (order : ByteOrder) :
    (∀ v rest, Reads order.readUfloat16 (order.writeUfloat16 v ++ rest) (roundUfloat16 v) rest) ∧
    (∀ v, roundUfloat16 v ≤ v ∧
      (0 < v → v < uFloat16MaxValue → 2 ^ 11 * (v - roundUfloat16 v) < v) ∧
      (uFloat16MaxValue ≤ v → roundUfloat16 v = uFloat16MaxValue)) ∧
    Monotone roundUfloat16 ∧
    (∀ v, roundUfloat16 (roundUfloat16 v) = roundUfloat16 v) ∧
    ∀ code < 2 ^ 16, ∀ rest, ∃ value,
      Reads order.readUfloat16 (order.writeUint16 code ++ rest) value rest ∧
        order.writeUfloat16 value = order.writeUint16 code := by
  have reads : ∀ {code}, code < 2 ^ 16 → ∀ rest, Reads order.readUfloat16
      (order.writeUint16 code ++ rest) (decodeUfloat16 code) rest := by
    intro code small rest
    have run := order.readUfloat16_bytes code rest
    rwa [Nat.mod_eq_of_lt small] at run
  refine ⟨fun v => reads (encodeUfloat16_lt v), fun v => ?_, fun _ _ => roundUfloat16_mono,
    fun v => ?_, fun code small rest => ?_⟩
  · exact ⟨roundUfloat16_le v, roundUfloat16_near, roundUfloat16_of_max⟩
  · exact congrArg decodeUfloat16 (encode_decodeUfloat16 (encodeUfloat16_lt v))
  · exact ⟨_, reads small rest, congrArg order.writeUint16 (encode_decodeUfloat16 small)⟩

end MPQuic
