import MPQuic.Protocol

/-!
# The packet number generator

`packet_number_generator.go`. Every path has its own generator; it counts up from one and now
and then leaves a number out. The random number that decides which one comes next is an argument,
`none` if the system has no randomness to give.
-/

namespace MPQuic

def skipPacketAveragePeriodLength : Nat := 500

/-- The generator of a path. -/
structure PacketNumberGenerator where
  averagePeriod : Nat
  next : Nat
  nextToSkip : Nat := 0
  deriving DecidableEq, Repr

def newPacketNumberGenerator (averagePeriod : Nat) : PacketNumberGenerator where
  averagePeriod
  next := 1

namespace PacketNumberGenerator

variable (p : PacketNumberGenerator)

def peek : Nat := p.next

/-- The number to leave out next. It is never the one right after the last that was left out. -/
def skipAfter (num : UInt16) : Nat :=
  let skip := num.toNat * subUint64 p.averagePeriod 1 % 2 ^ 64 / (65535 / 2)
  addUint64 (addUint64 p.next 2) skip

def generateNewSkip (random : Option UInt16) : PacketNumberGenerator :=
  { p with nextToSkip := random.elim p.nextToSkip p.skipAfter }

/-- The generator afterwards, and the number. -/
def pop (random : Option UInt16) : PacketNumberGenerator × Nat :=
  let next := addUint64 p.next 1
  if next = p.nextToSkip then
    (({ p with next := addUint64 next 1 }).generateNewSkip random, p.next)
  else ({ p with next }, p.next)

@[simp] theorem pop_snd (random : Option UInt16) : (p.pop random).2 = p.peek := by
  simp only [pop]
  split <;> rfl

/-- As long as the counter does not wrap around, a number that was given out lies below the next
one. -/
theorem peek_lt_peek_pop {p : PacketNumberGenerator} (bound : p.peek + 2 < 2 ^ 64)
    (random : Option UInt16) : p.peek < (p.pop random).1.peek := by
  have first : addUint64 p.next 1 = p.next + 1 := addUint64_of_lt (Nat.lt_of_succ_lt bound)
  have second : addUint64 (p.next + 1) 1 = p.next + 2 := addUint64_of_lt bound
  simp only [pop, peek, first, second]
  split
  · exact Nat.lt_add_of_pos_right Nat.two_pos
  · exact Nat.lt_succ_self p.next

end PacketNumberGenerator

end MPQuic
