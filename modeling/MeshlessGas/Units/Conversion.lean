/-
Unit conversion — factors between unit systems, and the units of quantities.
-/
import MeshlessGas.Numeral.Fraction
import MeshlessGas.Units.Factor
import MeshlessGas.Units.System

namespace MeshlessGas

variable {D : Type} [Transcendental D]

/-- The product of powers of sizes: one for each base dimension of a tag. -/
def productOfPowers (size : BaseDimension → Except Failure D) (start : Factor D) :
    List (BaseDimension × Exponent D) → Except Failure (Factor D)
  | [] => .ok start
  | (d, e) :: rest => do
    let base ← size d
    let factor ← Factor.power base e.toReal
    productOfPowers size (start.mul factor) rest

namespace UnitTag

/-- The factor that converts quantities of a tag between unit systems. -/
def conversionFactor (tag : UnitTag) (source target : UnitSystem D) (gamma : D) :
    Except Failure (Factor D) :=
  productOfPowers (fun d => quotient (source.sizeInCgs d) (target.sizeInCgs d)) (.real 1.0)
    ((tag.exponents gamma).filter fun x => !x.2.isZero)

/-- The size in cgs of the unit of a tag. -/
def cgsFactor (tag : UnitTag) (system : UnitSystem D) (gamma : D) :
    Except Failure (Factor D) :=
  productOfPowers (fun d => .ok (system.sizeInCgs d)) (.real 1.0) (tag.exponents gamma)

end UnitTag

/-- A unit composed of base units: its size in SI and its dimensions. -/
structure ComposedUnit (D : Type) where
  size : D
  /-- Exponents other than zero. -/
  dimensions : List (BaseDimension × Fraction)
deriving Repr

namespace ComposedUnit

/-- The unit of a number. -/
def none : ComposedUnit D := ⟨1.0, []⟩

variable [Numeral D]

/-- Largest denominator of the exponent of a unit. -/
def largestDenominator : Nat := 1000000

/-- The exponent of a unit: the closest fraction. What is not finite is no exponent. -/
def exponent : Exponent D → Except Failure Fraction
  | .whole n => .ok ⟨n, 1⟩
  | .real x => Failure.ofOption .noUnitPower (Fraction.ofShortest? largestDenominator x)

/-- The product of powers of named units.  Each exponent counts for what its unit
measures. -/
def ofPowers (powers : List (NamedUnit × Fraction)) : ComposedUnit D where
  size := powers.foldl (fun s p => s * Transcendental.pow p.1.size p.2.toReal) 1.0
  dimensions := BaseDimension.all.filterMap fun d =>
    let total := (powers.filter fun p => p.1.dimension = d).foldl (fun e p => e.add p.2) ⟨0, 1⟩
    if total.num = 0 then Option.none else some (d, total)

/-- The unit of a tag over named units. -/
def ofTag (units : BaseDimension → NamedUnit) (gamma : D) (tag : UnitTag) :
    Except Failure (ComposedUnit D) := do
  return ofPowers (← (tag.exponents gamma).mapM fun x => do return (units x.1, ← exponent x.2))

/-- The units of all tags. -/
def all (units : BaseDimension → NamedUnit) (gamma : D) :
    Except Failure (List (UnitTag × ComposedUnit D)) :=
  UnitTag.all.mapM fun tag => do return (tag, ← ofTag units gamma tag)

end ComposedUnit

end MeshlessGas
