/-
The integer timeline — steps of particles in powers of two.

Time is counted in 64-bit ticks.  A particle in time bin `b` takes steps of
`2 ^ (b + 1)` ticks that begin and end on multiples of their length; bins up to
zero have steps of no length, which stand for particles without a step.  The
functions on single ticks carry the rule, those on tensors apply it to many
particles.
-/
import MeshlessGas.Failure
import MeshlessGas.Numeral.Power
import MeshlessGas.Tensor.Broadcast

namespace MeshlessGas

/-- A point of the integer timeline. -/
abbrev Tick := Int64

namespace Timeline

/-- Number of time bins. -/
def binCount : Nat := 56

/-- Length of the whole timeline in ticks. -/
def length : Int := pow2 binCount

/-- The tick of an integer, if it fits a 64-bit word. -/
def tick? (n : Int) : Option Tick :=
  if -pow2 63 ≤ n ∧ n < pow2 63 then some (Int64.ofInt n) else none

/-- The tick of an integer; other integers are out of range. -/
def tick (n : Int) : Except Failure Tick := Failure.ofOption .numberOutOfRange (tick? n)

/-- The quotient rounded towards minus infinity. -/
def floorDiv (a b : Tick) : Tick := Int64.ofInt (Int.fdiv a.toInt b.toInt)

/-- The remainder with the sign of the divisor. -/
def floorMod (a b : Tick) : Tick := Int64.ofInt (Int.fmod a.toInt b.toInt)

/-- The power of two with the given exponent; bits beyond the word are lost. -/
def powerOfTwo (n : Tick) : Tick := if 0 ≤ n ∧ n < 64 then 1 <<< n else 0

/-- Length of a step in time bin `bin`. -/
def stepLength (bin : Tick) : Tick :=
  if bin ≤ 0 then 0 else powerOfTwo (bin + 1)

/-- Tick at which the step of `bin` begins, given the tick before the current
one. -/
def stepBegin (previous bin : Tick) : Tick :=
  let step := stepLength bin
  if step = 0 then 0 else step * floorDiv previous step

/-- Tick at which the step of `bin` ends that holds the current tick. -/
def stepEnd (current bin : Tick) : Tick :=
  let step := stepLength bin
  if step = 0 then 0
  else
    let past := floorMod current step
    if past = 0 then current else current - past + step

/-- The midpoint of two ticks, rounded down. -/
def midpoint (begin last : Tick) : Tick := floorDiv (begin + last) 2

/-! ## Many particles -/

/-- Step lengths of many bins. -/
def stepLengths (bins : Tensor Tick) : Tensor Tick := bins.map stepLength

/-- Beginnings of the current steps of many bins. -/
def stepBegins (current : Int) (bins : Tensor Tick) : Except Failure (Tensor Tick) := do
  let previous ← tick (max (current - 1) 0)
  return bins.map (stepBegin previous)

/-- Ends of the current steps of many bins. -/
def stepEnds (current : Int) (bins : Tensor Tick) : Except Failure (Tensor Tick) := do
  let current ← tick current
  return bins.map (stepEnd current)

/-- Ends of the current steps of many bins, where the current ticks are many too. -/
def stepEndsAt (current bins : Tensor Tick) : Except Failure (Tensor Tick) :=
  Failure.ofOption .badValue (Tensor.map₂? stepEnd current bins)

end Timeline

end MeshlessGas
