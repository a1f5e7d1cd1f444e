/-
Numbers of formulas — integers of any size and reals, mixed.

Integers stay exact as long as they meet only integers.  Where one meets a real it
becomes the nearest real, and an integer beyond all reals is a failure.  Comparisons
are exact in every case.
-/
import MeshlessGas.Arithmetic
import MeshlessGas.Failure

namespace MeshlessGas

/-- A number as it enters a formula. -/
inductive Number (D : Type) where
  | whole (n : Int)
  | real (x : D)
deriving Repr

namespace Number

variable {D : Type} [Arithmetic D]

/-- An integer as a real, unless it is out of range. -/
def realOfInt (n : Int) : Except Failure D :=
  let x : D := Arithmetic.ofInt n
  if Arithmetic.isFinite x then .ok x else .error .numberOutOfRange

/-- The number as a real. -/
def toReal : Number D → Except Failure D
  | whole n => realOfInt n
  | real x => .ok x

/-- The sum of two numbers. -/
def add : Number D → Number D → Except Failure (Number D)
  | whole m, whole n => .ok (whole (m + n))
  | x, y => do return real ((← x.toReal) + (← y.toReal))

/-- The quotient of two numbers, of which the second must not be zero. -/
def quotient : Number D → Number D → Except Failure D
  | whole m, whole n =>
    if n = 0 then .error .divisionByZero
    else
      let x : D := Arithmetic.ofQuotient (if n < 0 then -m else m) n.natAbs
      if Arithmetic.isFinite x then .ok x else .error .numberOutOfRange
  | x, y => do
    let x ← x.toReal
    let y ← y.toReal
    if Arithmetic.agree y 0.0 then throw .divisionByZero
    return x / y

/-- Whether an integer lies below a real. Its integer part decides, and where they are
equal the fraction. -/
def intLess (n : Int) (x : D) : Bool :=
  if Arithmetic.isFinite x then
    let whole := Arithmetic.truncate x
    n < whole ∨ (n = whole ∧ Arithmetic.ofInt whole < x)
  else (0.0 : D) < x

/-- Whether a real lies below an integer. -/
def lessInt (x : D) (n : Int) : Bool :=
  if Arithmetic.isFinite x then
    let whole := Arithmetic.truncate x
    whole < n ∨ (whole = n ∧ x < Arithmetic.ofInt whole)
  else x < 0.0

/-- Whether a number lies below another. -/
def less : Number D → Number D → Bool
  | whole m, whole n => m < n
  | whole m, real y => intLess m y
  | real x, whole n => lessInt x n
  | real x, real y => x < y

/-- Whether two numbers are equal; a NaN equals nothing. -/
def same : Number D → Number D → Bool
  | whole m, whole n => m = n
  | real x, real y => Arithmetic.agree x y
  | whole n, real x | real x, whole n =>
    Arithmetic.isFinite x ∧ ¬ intLess n x ∧ ¬ lessInt x n

end Number

end MeshlessGas
