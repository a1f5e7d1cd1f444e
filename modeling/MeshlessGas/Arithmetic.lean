/-
Arithmetic — the number systems the physics is written over.

The rules of the library (wrapping, kicks, equation of state, expansion history,
unit factors) are stated once, over any number system with the operations
below.  They run at `Float` with `Float32` for stored single-precision values;
read at the reals they are the formulas themselves, and read at the rationals
with a rounding after each operation they show what rounding can do.
-/
import MeshlessGas.Numeral.Written

namespace MeshlessGas

/-- Ordered arithmetic with a floor and the integers. -/
class Arithmetic (R : Type) extends
    Add R, Sub R, Mul R, Div R, Neg R, LT R, LE R, OfScientific R where
  decLt : DecidableLT R
  decLe : DecidableLE R
  /-- The largest integer not above, as a number. -/
  floor : R → R
  /-- The integer part, towards zero; only meaningful for finite numbers. -/
  truncate : R → Int
  isFinite : R → Bool
  /-- The number nearest to an integer. -/
  ofInt : Int → R
  /-- The number nearest to the quotient of an integer by a positive natural. -/
  ofQuotient : Int → Nat → R

attribute [reducible, instance] Arithmetic.decLt Arithmetic.decLe

namespace Arithmetic

variable {R : Type} [Arithmetic R]

/-- Numerical equality: `0` agrees with `-0`, and nothing agrees with a NaN. -/
def agree (x y : R) : Bool := x ≤ y ∧ y ≤ x

/-- The magnitude of a number. -/
def abs (x : R) : R := if x < 0.0 then -x else x

/-- A truth value as a number. -/
def ofBool (b : Bool) : R := if b then 1.0 else 0.0

end Arithmetic

/-- Arithmetic with powers, exponentials and decimal rounding. -/
class Transcendental (R : Type) extends Arithmetic R where
  exp : R → R
  log : R → R
  sqrt : R → R
  pow : R → R → R
  cos : R → R
  sin : R → R
  /-- The ratio of a circle's circumference to its diameter. -/
  pi : R
  /-- Rounds to a number of significant decimal digits. -/
  roundTo : Nat → R → R

/-- Storage of wide numbers in narrower formats. -/
class Narrowing (D : Type) (S : outParam Type) where
  narrow : D → S
  widen : S → D
  /-- A wide number rounded to the precision of the half format. -/
  half : D → D

/-- A wide number rounded to the reals of some bytes, of which there are at least two. -/
def Narrowing.toBytes {D S : Type} [Narrowing D S] (bytes : Nat) (x : D) : D :=
  if bytes ≤ 2 then half x else if bytes ≤ 4 then widen (narrow x) else x

/-- Numbers with a written decimal form. -/
class Numeral (R : Type) where
  format : BinaryFormat
  /-- The exact value. -/
  value : R → BinaryValue
  /-- The number nearest to a signed decimal. -/
  ofDecimal : Bool → Decimal → R
  ofInfinity : Bool → R
  notANumber : R

namespace Numeral

variable {R : Type} [Numeral R]

/-- The fewest digits that read back. -/
def shortest (x : R) : String := (value x).shortest (format R)

/-- A fixed number of places. -/
def fixed (places : Nat) (x : R) : String := (value x).fixed places

/-- A fixed number of places and an exponent. -/
def scientific (places : Nat) (x : R) : String := (value x).scientific places

/-- A number of significant digits. -/
def general (count : Nat) (x : R) : String := (value x).general count

end Numeral

/-! ## Double precision -/

/-- The integer part of an exact value, `0` for what is not finite. -/
def BinaryValue.truncate : BinaryValue → Int
  | .finite negative significand exponent =>
    let (num, den) := binaryQuotient significand exponent
    if negative then -((num / den : Nat) : Int) else (num / den : Nat)
  | _ => 0

/-- A bit pattern as a double. -/
def doubleOfBits (bits : Nat) : Float := Float.ofBits (UInt64.ofNat bits)

/-- A bit pattern as a single. -/
def singleOfBits (bits : Nat) : Float32 := Float32.ofBits (UInt32.ofNat bits)

/-- The exact value of a double. -/
def doubleValue (x : Float) : BinaryValue := binary64.decode x.toBits.toNat

/-- The exact value of a single. -/
def singleValue (x : Float32) : BinaryValue := binary32.decode x.toBits.toNat

instance : Numeral Float where
  format := binary64
  value := doubleValue
  ofDecimal negative d := doubleOfBits (binary64.nearestDecimal negative d)
  ofInfinity negative := if negative then -(1.0 / 0.0) else 1.0 / 0.0
  notANumber := 0.0 / 0.0

instance : Numeral Float32 where
  format := binary32
  value := singleValue
  ofDecimal negative d := singleOfBits (binary32.nearestDecimal negative d)
  ofInfinity negative := if negative then -(1.0 / 0.0) else 1.0 / 0.0
  notANumber := 0.0 / 0.0

instance : Arithmetic Float where
  decLt := inferInstance
  decLe := inferInstance
  floor := Float.floor
  truncate x := (doubleValue x).truncate
  isFinite := Float.isFinite
  ofInt n := doubleOfBits (binary64.nearest (decide (n < 0)) n.natAbs 1)
  ofQuotient n d := doubleOfBits (binary64.nearest (decide (n < 0)) n.natAbs d)

instance : Arithmetic Float32 where
  decLt := inferInstance
  decLe := inferInstance
  floor := Float32.floor
  truncate x := (singleValue x).truncate
  isFinite := Float32.isFinite
  ofInt n := singleOfBits (binary32.nearest (decide (n < 0)) n.natAbs 1)
  ofQuotient n d := singleOfBits (binary32.nearest (decide (n < 0)) n.natAbs d)

/-- A double rounded to a number of significant digits: the double nearest to
its correctly rounded decimal. -/
def roundDouble (count : Nat) (x : Float) : Float :=
  match doubleValue x with
  | .finite negative significand exponent =>
    if significand = 0 then x
    else
      let (num, den) := binaryQuotient significand exponent
      Numeral.ofDecimal negative (significantDigits count num den)
  | _ => x

/-- A power of doubles.  One to any power and anything to the power zero are one, also where the
other is not a number. -/
def powDouble (x y : Float) : Float := if x == 1.0 ∨ y == 0.0 then 1.0 else Float.pow x y

theorem powDouble_one (y : Float) : powDouble 1.0 y = 1.0 := by
  have hone : ((1.0 : Float) == 1.0) = true := by decide +kernel
  rw [powDouble, if_pos (.inl hone)]

instance : Transcendental Float where
  exp := Float.exp
  log := Float.log
  sqrt := Float.sqrt
  pow := powDouble
  cos := Float.cos
  sin := Float.sin
  pi := 3.141592653589793
  roundTo := roundDouble

instance : Narrowing Float Float32 where
  narrow := Float.toFloat32
  widen := Float32.toFloat
  half x := doubleOfBits (binary64.encode ((doubleValue x).roundTo binary16))

end MeshlessGas
