import Mathlib.Data.Nat.Bitwise
import Mathlib.Data.List.Basic
import Mathlib.Tactic.Ring

/-!
# Fixed-width integers on a byte stream

Little- and big-endian encodings of a natural number into exactly `w` bytes, and
the two readers that protocol code uses for them: one that accumulates with
exclusive-or of shifted bytes, and the byte reader it is built on.

A reader is a state transformer over the bytes not yet consumed. `Reads p input a
rest` says that `p` accepts `input`, yields `a` and leaves `rest`; the rules
`Reads.pure`, `Reads.bind` and `Reads.byte` compose such facts along a `do` block,
so that a frame decoder is verified field by field. `Avoids` says that a reader fails with
no error of a kind, with rules of the same shape. Nothing here mentions a frame format.
-/

namespace ByteCodec

open List

variable {ε α : Type} {input rest : List UInt8} {test : Bool} (eof : ε)

/-! ## Shifted bytes -/

/-- Exclusive-or with a number shifted past every bit in use is addition. -/
theorem xor_shiftLeft_eq_add {low k : Nat} (high : Nat) (bound : low < 2 ^ k) :
    low ^^^ (high <<< k) = low + high * 2 ^ k := by
  apply Nat.eq_of_testBit_eq
  intro i
  rw [Nat.testBit_xor, Nat.testBit_shiftLeft, add_comm, mul_comm,
    Nat.testBit_two_pow_mul_add _ bound]
  by_cases below : i < k
  · simp [below, not_le.mpr below]
  · have clear : low.testBit i = false :=
      Nat.testBit_lt_two_pow
        (lt_of_lt_of_le bound (Nat.pow_le_pow_right (by norm_num) (by omega)))
    simp [below, clear, not_lt.mp below]

theorem toNat_ofNat_shiftRight (v k : Nat) : (UInt8.ofNat (v >>> k)).toNat = v / 2 ^ k % 256 := by
  rw [UInt8.toNat_ofNat', Nat.shiftRight_eq_div_pow]

/-- The low `k + 8` bits are the low `k` bits and the next byte. -/
theorem mod_two_pow_add_eight (v k : Nat) :
    v % 2 ^ (k + 8) = v % 2 ^ k + v / 2 ^ k % 256 * 2 ^ k := by
  rw [Nat.pow_add, Nat.mod_mul, Nat.mul_comm (2 ^ k)]

/-! ## Encodings -/

/-- The `w` low bytes of `v`, least significant first. -/
def leBytes (w v : Nat) : List UInt8 :=
  (List.range w).map fun i => UInt8.ofNat (v >>> (8 * i))

/-- The `w` low bytes of `v`, most significant first. -/
def beBytes (w v : Nat) : List UInt8 := (leBytes w v).reverse

@[simp] theorem leBytes_length (w v : Nat) : (leBytes w v).length = w := by
  simp [leBytes]

@[simp] theorem beBytes_length (w v : Nat) : (beBytes w v).length = w := by
  simp [beBytes]

theorem leBytes_succ (w v : Nat) :
    leBytes (w + 1) v = leBytes w v ++ [UInt8.ofNat (v >>> (8 * w))] := by
  simp [leBytes, range_succ]

theorem beBytes_succ (w v : Nat) :
    beBytes (w + 1) v = UInt8.ofNat (v >>> (8 * w)) :: beBytes w v := by
  simp [beBytes, leBytes_succ]

/-- The encoding only depends on the bits it keeps, so it is injective on them. -/
theorem leBytes_inj {w u v : Nat} (same : leBytes w u = leBytes w v) :
    u % 2 ^ (8 * w) = v % 2 ^ (8 * w) := by
  induction w with
  | zero => simp [Nat.mod_one]
  | succ w ih =>
    rw [leBytes_succ, leBytes_succ] at same
    obtain ⟨lower, top⟩ := append_inj same (by simp)
    have topByte : u / 2 ^ (8 * w) % 256 = v / 2 ^ (8 * w) % 256 := by
      rw [← toNat_ofNat_shiftRight, ← toNat_ofNat_shiftRight]
      exact congrArg UInt8.toNat (head_eq_of_cons_eq top)
    have width : 8 * (w + 1) = 8 * w + 8 := by ring
    rw [width, mod_two_pow_add_eight, mod_two_pow_add_eight, ih lower, topByte]

/-- The number that the bytes encode, least significant first. -/
def leValue : List UInt8 → Nat
  | [] => 0
  | b :: bytes => b.toNat + 256 * leValue bytes

/-! ## Readers -/

/-- A step that succeeded, of a writer or of a check. -/
theorem exists_of_bind_eq_ok {ε α β : Type} {x : Except ε α} {f : α → Except ε β} {b : β}
    (succeeded : (x >>= f) = .ok b) : ∃ a, x = .ok a ∧ f a = .ok b := by
  cases x with
  | error err => cases succeeded
  | ok a => exact ⟨a, rfl, succeeded⟩

/-- A byte reader: consumes a prefix of the remaining bytes or fails. -/
abbrev Reader (ε : Type) := StateT (List UInt8) (Except ε)

/-- `p` accepts `input`, yields `a` and leaves `rest` unread. -/
def Reads {ε α : Type} (p : Reader ε α) (input : List UInt8) (a : α)
    (rest : List UInt8) : Prop :=
  p.run input = .ok (a, rest)

section Rules

variable {ε α β : Type} {input middle rest : List UInt8} {a : α} {b : β}

theorem Reads.pure (a : α) (rest : List UInt8) :
    Reads (Pure.pure a : Reader ε α) rest a rest := rfl

theorem Reads.bind {p : Reader ε α} {f : α → Reader ε β}
    (first : Reads p input a middle) (second : Reads (f a) middle b rest) :
    Reads (p >>= f) input b rest := by
  unfold Reads at *
  rw [StateT.run_bind, first]
  exact second

theorem Reads.of_bind {p : Reader ε α} {f : α → Reader ε β} (both : Reads (p >>= f) input b rest) :
    ∃ a middle, Reads p input a middle ∧ Reads (f a) middle b rest := by
  unfold Reads at *
  rw [StateT.run_bind] at both
  cases first : p.run input with
  | error err =>
    rw [first] at both
    cases both
  | ok result =>
    rw [first] at both
    exact ⟨result.1, result.2, rfl, both⟩

/-- What a reader yields is determined by its input. -/
theorem Reads.unique {p : Reader ε α} {a' : α} {rest' : List UInt8}
    (first : Reads p input a rest) (second : Reads p input a' rest') : a = a' ∧ rest = rest' := by
  have same := Except.ok.inj (Eq.trans (Eq.symm first) second)
  exact ⟨congrArg Prod.fst same, congrArg Prod.snd same⟩

end Rules

/-- Read one byte, failing with `eof` at the end of the input. -/
def readByte {ε : Type} (eof : ε) : Reader ε UInt8 := fun
  | [] => .error eof
  | b :: rest => .ok (b, rest)

theorem Reads.byte (b : UInt8) (rest : List UInt8) :
    Reads (readByte eof) (b :: rest) b rest := rfl

/-- Fill a buffer of `n` bytes; when fewer remain, fail with `short` of their number. -/
def readFull {ε : Type} (short : Nat → ε) (n : Nat) : Reader ε (List UInt8) := fun input =>
  if n ≤ input.length then .ok (input.take n, input.drop n)
  else .error (short input.length)

theorem Reads.full (short : Nat → ε) (front rest : List UInt8) :
    Reads (readFull short front.length) (front ++ rest) front rest := by
  simp [Reads, readFull, StateT.run]

/-- Fail with `e` when the test is true. -/
def failIf {ε : Type} (test : Bool) (e : ε) : Reader ε Unit :=
  if test then throw e else Pure.pure ()

theorem Reads.failIf {e : ε} (passes : test = false) (rest : List UInt8) :
    Reads (failIf test e) rest () rest := by
  rw [passes]
  exact Reads.pure _ _

theorem Reads.of_failIf {e : ε} (passed : Reads (ByteCodec.failIf test e) input () rest) :
    test = false := by
  cases test with
  | false => rfl
  | true => cases passed

/-- Read an optional field: `p` when the test is true, else the default. -/
def readIf {ε α : Type} (test : Bool) (p : Reader ε α) (default : α) : Reader ε α :=
  if test then p else Pure.pure default

theorem Reads.readIf_true {p : Reader ε α} {default a : α} (run : Reads p input a rest) :
    Reads (readIf true p default) input a rest := run

theorem Reads.readIf_false {p : Reader ε α} {default : α} (rest : List UInt8) :
    Reads (readIf false p default) rest default rest := Reads.pure _ _

/-- Report the errors of a reader as errors of another kind. -/
def withError {ε ε' α : Type} (convert : ε → ε') (p : Reader ε α) : Reader ε' α := fun input =>
  (p.run input).mapError convert

theorem Reads.withError {ε ε' α : Type} {p : Reader ε α} {a : α}
    (convert : ε → ε') (run : Reads p input a rest) : Reads (withError convert p) input a rest := by
  unfold Reads at run ⊢
  change (p.run input).mapError convert = _
  rw [run]
  rfl

/-- The bytes still unread. -/
def unread {ε : Type} : Reader ε (List UInt8) := get

theorem Reads.unread (rest : List UInt8) :
    Reads (unread : Reader ε (List UInt8)) rest rest rest := rfl

/-- Accumulate `count` bytes by exclusive-or, byte `i` shifted left by `shift i`. -/
def readXor {ε : Type} (eof : ε) (shift : Nat → Nat) : Nat → Nat → Nat → Reader ε Nat
  | 0, _, acc => Pure.pure acc
  | count + 1, i, acc => do
    let b ← readByte eof
    readXor eof shift count (i + 1) (acc ^^^ (b.toNat <<< shift i))

/-- The accumulated number has no more bits than the shifts reach. -/
theorem Reads.xor_lt {eof : ε} {shift : Nat → Nat} {bits : Nat} :
    ∀ (count i acc : Nat) {input rest : List UInt8} {v : Nat},
      (∀ k, k < i + count → shift k + 8 ≤ bits) → acc < 2 ^ bits →
      Reads (readXor eof shift count i acc) input v rest → v < 2 ^ bits := by
  intro count
  induction count with
  | zero =>
    intro i acc input rest v _ small run
    cases run
    exact small
  | succ count ih =>
    intro i acc input rest v reach small run
    obtain ⟨b, middle, -, run⟩ := run.of_bind
    have shifted : b.toNat <<< shift i < 2 ^ bits := by
      have width : 2 ^ (shift i + 8) ≤ 2 ^ bits :=
        Nat.pow_le_pow_right (by decide) (reach i (by omega))
      rw [Nat.shiftLeft_eq]
      rw [pow_add, mul_comm] at width
      exact lt_of_lt_of_le (Nat.mul_lt_mul_of_pos_right (UInt8.toNat_lt b) (Nat.two_pow_pos _))
        width
    refine ih (i + 1) _ (fun k below => reach k (by omega)) ?_ run
    exact Nat.xor_lt_two_pow small shifted

/-- Little-endian accumulation: with the low `8 * i` bits of `v` in hand, reading
the next `count` bytes of `v` extends them. -/
theorem Reads.xor_le (v : Nat) (rest : List UInt8) :
    ∀ count i : Nat,
      Reads (readXor eof (fun k => k * 8) count i (v % 2 ^ (8 * i)))
        ((leBytes (i + count) v).drop i ++ rest) (v % 2 ^ (8 * (i + count))) rest := by
  intro count
  induction count with
  | zero =>
    intro i
    simp only [add_zero, drop_eq_nil_of_le (le_of_eq (leBytes_length i v)),
      nil_append]
    exact Reads.pure _ _
  | succ count ih =>
    intro i
    have assoc : i + (count + 1) = i + 1 + count := by ring
    have split : (leBytes (i + 1 + count) v).drop i =
        UInt8.ofNat (v >>> (8 * i)) :: (leBytes (i + 1 + count) v).drop (i + 1) := by
      rw [drop_eq_getElem_cons (by simp; omega)]
      simp [leBytes]
    have bound : v % 2 ^ (8 * i) < 2 ^ (8 * i) := Nat.mod_lt _ (Nat.two_pow_pos _)
    have step : v % 2 ^ (8 * i) ^^^ ((UInt8.ofNat (v >>> (8 * i))).toNat <<< (i * 8)) =
        v % 2 ^ (8 * (i + 1)) := by
      rw [mul_comm i 8, xor_shiftLeft_eq_add _ bound, toNat_ofNat_shiftRight,
        ← mod_two_pow_add_eight]
      congr 1
    rw [assoc, split, cons_append]
    refine Reads.bind (Reads.byte eof _ _) ?_
    rw [step]
    exact ih (i + 1)

/-- Big-endian accumulation: the bytes still to come fill the cleared low bits. -/
theorem Reads.xor_be (v : Nat) (rest : List UInt8) (total : Nat) :
    ∀ count i high : Nat, i + count = total →
      Reads (readXor eof (fun k => (total - 1 - k) * 8) count i (high * 2 ^ (8 * count)))
        (beBytes count v ++ rest) (high * 2 ^ (8 * count) + v % 2 ^ (8 * count)) rest := by
  intro count
  induction count with
  | zero =>
    intro i high _
    simp only [beBytes, leBytes, range_zero, map_nil, reverse_nil,
      nil_append, mul_zero, pow_zero, Nat.mod_one, add_zero]
    exact Reads.pure _ _
  | succ count ih =>
    intro i high sum
    have shift : (total - 1 - i) * 8 = 8 * count := by omega
    have step : (high * 2 ^ (8 * (count + 1))) ^^^
          ((UInt8.ofNat (v >>> (8 * count))).toNat <<< ((total - 1 - i) * 8)) =
        (high * 256 + v / 2 ^ (8 * count) % 256) * 2 ^ (8 * count) := by
      have small : (UInt8.ofNat (v >>> (8 * count))).toNat <<< (8 * count) <
          2 ^ (8 * (count + 1)) := by
        rw [Nat.shiftLeft_eq, Nat.mul_add, pow_add, mul_comm]
        exact Nat.mul_lt_mul_of_pos_left (UInt8.toNat_lt _) (Nat.two_pow_pos _)
      rw [shift, Nat.xor_comm, ← Nat.shiftLeft_eq high, xor_shiftLeft_eq_add _ small,
        toNat_ofNat_shiftRight, Nat.shiftLeft_eq]
      ring
    have value : high * 2 ^ (8 * (count + 1)) + v % 2 ^ (8 * (count + 1)) =
        (high * 256 + v / 2 ^ (8 * count) % 256) * 2 ^ (8 * count) +
          v % 2 ^ (8 * count) := by
      have width : 8 * (count + 1) = 8 * count + 8 := by ring
      rw [width, mod_two_pow_add_eight]
      ring
    rw [beBytes_succ, cons_append, value]
    refine Reads.bind (Reads.byte eof _ _) ?_
    rw [step]
    exact ih (i + 1) _ (by omega)

/-! ## Errors that do not occur -/

/-- `p` fails with no error of the given kind, whatever the input. -/
def Avoids {ε α : Type} (bad : ε → Prop) (p : Reader ε α) : Prop :=
  ∀ input err, p.run input = .error err → ¬ bad err

section Avoids

variable {ε α β : Type} {bad : ε → Prop}

theorem Avoids.pure (a : α) : Avoids bad (Pure.pure a : Reader ε α) := by
  intro input err failed
  cases failed

theorem Avoids.bind {p : Reader ε α} {f : α → Reader ε β} (first : Avoids bad p)
    (second : ∀ input a rest, Reads p input a rest → Avoids bad (f a)) : Avoids bad (p >>= f) := by
  intro input err failed
  rw [StateT.run_bind] at failed
  cases run : p.run input with
  | error err' =>
    rw [run] at failed
    cases failed
    exact first input err run
  | ok result =>
    rw [run] at failed
    exact second input result.1 result.2 run result.2 err failed

theorem Avoids.byte {eof : ε} (harmless : ¬ bad eof) : Avoids bad (readByte eof) := by
  intro input err failed
  cases input with
  | nil =>
    cases failed
    exact harmless
  | cons b rest => cases failed

theorem Avoids.failIf {e : ε} (harmless : test = true → ¬ bad e) :
    Avoids bad (ByteCodec.failIf test e) := by
  intro input err failed
  cases test with
  | false => cases failed
  | true =>
    cases failed
    exact harmless rfl

theorem Avoids.readIf {p : Reader ε α} {default : α} (reader : test = true → Avoids bad p) :
    Avoids bad (ByteCodec.readIf test p default) := by
  cases test with
  | false => exact Avoids.pure default
  | true => exact reader rfl

theorem Avoids.xor {eof : ε} (harmless : ¬ bad eof) (shift : Nat → Nat) :
    ∀ count i acc : Nat, Avoids bad (readXor eof shift count i acc) := by
  intro count
  induction count with
  | zero => exact fun _ acc => Avoids.pure acc
  | succ count ih =>
    intro i acc
    exact (Avoids.byte harmless).bind fun _ _ _ _ => ih _ _

end Avoids

end ByteCodec
