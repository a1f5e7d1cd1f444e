/-
Factors — products of powers of sizes.

A negative size has no real power with a fractional exponent, so that a factor may be a
complex number.
-/
import MeshlessGas.Arithmetic
import MeshlessGas.Failure

namespace MeshlessGas

/-- A real or complex factor. -/
inductive Factor (D : Type) where
  | real (x : D)
  | complex (re im : D)
deriving Repr

variable {D : Type} [Transcendental D]

/-- A quotient with a divisor other than zero. -/
def quotient (x y : D) : Except Failure D :=
  if Arithmetic.agree y 0.0 then .error .divisionByZero else .ok (x / y)

/-- A real power.  Zero has no negative powers, and a power of finite numbers must be
finite. -/
def power (x y : D) : Except Failure D :=
  let z := Transcendental.pow x y
  if Arithmetic.agree x 0.0 ∧ y < 0.0 then .error .divisionByZero
  else if Arithmetic.isFinite x ∧ Arithmetic.isFinite y ∧ ¬ Arithmetic.isFinite z then
    .error .numberOutOfRange
  else .ok z

namespace Factor

/-- Whether a number is finite and has a fraction. -/
def isFractional (y : D) : Bool :=
  Arithmetic.isFinite y ∧ ¬ Arithmetic.agree (Arithmetic.floor y) y

/-- A power; of a negative number with a fractional exponent it is complex. -/
def power (x y : D) : Except Failure (Factor D) :=
  if x < 0.0 ∧ Arithmetic.isFinite x ∧ isFractional y then do
    let length ← MeshlessGas.power (-x) y
    let phase := Transcendental.pi * y
    return complex (length * Transcendental.cos phase) (length * Transcendental.sin phase)
  else return real (← MeshlessGas.power x y)

/-- The real part. -/
def re : Factor D → D
  | real x => x
  | complex x _ => x

/-- The imaginary part. -/
def im : Factor D → D
  | real _ => 0.0
  | complex _ y => y

/-- The product of two factors. -/
def mul : Factor D → Factor D → Factor D
  | real x, real y => real (x * y)
  | f, g => complex (f.re * g.re - f.im * g.im) (f.re * g.im + f.im * g.re)

/-- The factor as a real; a complex one is none. -/
def toReal : Factor D → Except Failure D
  | real x => .ok x
  | complex .. => .error .wrongType

/-- Whether a factor is one. -/
def isOne (f : Factor D) : Bool := Arithmetic.agree f.re 1.0 ∧ Arithmetic.agree f.im 0.0

end Factor

end MeshlessGas
