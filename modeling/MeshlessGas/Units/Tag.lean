/-
Unit tags — kinds of quantity as powers of the base dimensions.

A tag lists the exponents of the base dimensions that it depends on.  All
exponents are integers except those of the entropic function, which depend on the
adiabatic index.
-/
import MeshlessGas.Arithmetic
import MeshlessGas.Units.Dimension

namespace MeshlessGas

/-- A kind of quantity. -/
inductive UnitTag where
  | noUnits
  | mass
  | length
  | time
  | speed
  | acceleration
  | energyPerUnitMass
  | density
  | pressure
  | energy
  | potential
  | temperature
  | entropy
deriving DecidableEq, Repr

/-- The exponent of a base dimension. -/
inductive Exponent (D : Type) where
  | whole (n : Int)
  | real (x : D)
deriving Repr

namespace Exponent

variable {D : Type} [Arithmetic D]

/-- The exponent as a real. -/
def toReal : Exponent D → D
  | whole n => Arithmetic.ofInt n
  | real x => x

/-- Whether the exponent is zero. -/
def isZero : Exponent D → Bool
  | whole n => n = 0
  | real x => Arithmetic.agree x 0.0

end Exponent

namespace UnitTag

/-- All tags, those that depend on the adiabatic index last. -/
def all : List UnitTag :=
  [noUnits, mass, length, time, speed, acceleration, energyPerUnitMass, density, pressure,
   energy, potential, temperature, entropy]

/-- The name. -/
def name : UnitTag → String
  | noUnits => "no_units"
  | mass => "mass"
  | length => "length"
  | time => "time"
  | speed => "speed"
  | acceleration => "acceleration"
  | energyPerUnitMass => "energy_per_unit_mass"
  | density => "density"
  | pressure => "pressure"
  | energy => "energy"
  | potential => "potential"
  | temperature => "temperature"
  | entropy => "entropy"

/-- The tag with a name. -/
def ofName? (s : String) : Option UnitTag := all.find? fun t => t.name = s

/-- The tag with a name; other names are unknown. -/
def ofName (s : String) : Except Failure UnitTag := Failure.ofOption (.unknownTag s) (ofName? s)

variable {D : Type} [Arithmetic D]

/-- The exponents of the base dimensions that a tag depends on. -/
def exponents (gamma : D) : UnitTag → List (BaseDimension × Exponent D)
  | noUnits => []
  | mass => [(.mass, .whole 1)]
  | length => [(.length, .whole 1)]
  | time => [(.time, .whole 1)]
  | speed => [(.length, .whole 1), (.time, .whole (-1))]
  | acceleration => [(.length, .whole 1), (.time, .whole (-2))]
  | energyPerUnitMass => [(.length, .whole 2), (.time, .whole (-2))]
  | density => [(.mass, .whole 1), (.length, .whole (-3))]
  | pressure => [(.mass, .whole 1), (.length, .whole (-1)), (.time, .whole (-2))]
  | energy => [(.mass, .whole 1), (.length, .whole 2), (.time, .whole (-2))]
  | potential => [(.length, .whole 2), (.time, .whole (-2))]
  | temperature => [(.temperature, .whole 1)]
  | entropy =>
    [(.mass, .real (1.0 - gamma)), (.length, .real (3.0 * gamma - 1.0)), (.time, .real (-2.0))]

/-- The exponent of one base dimension; an absent dimension has the real zero. -/
def exponent (gamma : D) (tag : UnitTag) (d : BaseDimension) : Exponent D :=
  (((tag.exponents gamma).find? fun x => x.1 = d).map Prod.snd).getD (.real 0.0)

theorem ofName?_name (t : UnitTag) : ofName? t.name = some t := by
  cases t <;> decide

end UnitTag

end MeshlessGas
