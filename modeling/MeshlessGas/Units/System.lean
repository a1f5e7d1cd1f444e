/-
Unit systems — the units in which the numbers of a run or a file are expressed.

A base unit is a multiple of a named unit; a unit system has one for each base
dimension, possibly without one for the current.  Sizes are compared in SI units,
and `sizeInCgs` expresses a base unit in the matching unit of the cgs system, which
is how files store it.
-/
import MeshlessGas.Text.Reserved
import MeshlessGas.Units.Tag

namespace MeshlessGas

/-- A unit with a name. -/
inductive NamedUnit where
  | gram
  | kilogram
  | solarMass
  | centimetre
  | metre
  | kiloparsec
  | megaparsec
  | second
  | megayear
  | gigayear
  | ampere
  | kelvin
deriving DecidableEq, Repr

namespace NamedUnit

def all : List NamedUnit :=
  [gram, kilogram, solarMass, centimetre, metre, kiloparsec, megaparsec, second, megayear,
   gigayear, ampere, kelvin]

/-- The symbol. -/
def symbol : NamedUnit → String
  | gram => "g"
  | kilogram => "kg"
  | solarMass => "Msun"
  | centimetre => "cm"
  | metre => "m"
  | kiloparsec => "kpc"
  | megaparsec => "Mpc"
  | second => "s"
  | megayear => "Myr"
  | gigayear => "Gyr"
  | ampere => "A"
  | kelvin => "K"

/-- The unit with a symbol. -/
def ofSymbol? (s : String) : Option NamedUnit := all.find? fun u => u.symbol = s

/-- What the unit measures. -/
def dimension : NamedUnit → BaseDimension
  | gram | kilogram | solarMass => .mass
  | centimetre | metre | kiloparsec | megaparsec => .length
  | second | megayear | gigayear => .time
  | ampere => .current
  | kelvin => .temperature

/-- The size in SI units. -/
def size {D : Type} [Arithmetic D] : NamedUnit → D
  | gram => 0.001
  | kilogram => 1.0
  | solarMass => 1.98841586e30
  | centimetre => 0.01
  | metre => 1.0
  | kiloparsec => 3.085677580962325e19
  | megaparsec => 3.085677580962325e22
  | second => 1.0
  | megayear => 3.15576e13
  | gigayear => 3.15576e16
  | ampere => 1.0
  | kelvin => 1.0

end NamedUnit

namespace BaseDimension

/-- The unit of a base dimension in the cgs system. -/
def cgsUnit : BaseDimension → NamedUnit
  | mass => .gram
  | length => .centimetre
  | time => .second
  | current => .ampere
  | temperature => .kelvin

/-- The units in which files commonly express a base dimension, cgs first. -/
def commonUnits : BaseDimension → List NamedUnit
  | mass => [.gram, .solarMass]
  | length => [.centimetre, .kiloparsec, .megaparsec]
  | time => [.second, .megayear, .gigayear]
  | current => [.ampere]
  | temperature => [.kelvin]

end BaseDimension

/-- A multiple of a named unit. -/
structure BaseUnit (D : Type) where
  multiple : D
  unit : NamedUnit
deriving Repr

namespace BaseUnit

variable {D : Type} [Arithmetic D]

/-- A named unit itself. -/
def named (u : NamedUnit) : BaseUnit D := ⟨1.0, u⟩

/-- Whether the unit is the named unit itself. -/
def isNamed (b : BaseUnit D) : Bool := Arithmetic.agree b.multiple 1.0

/-- Whether the unit has a size: its multiple is finite and not zero. -/
def hasSize (b : BaseUnit D) : Bool :=
  Arithmetic.isFinite b.multiple ∧ ¬ Arithmetic.agree b.multiple 0.0

/-- The size in the cgs unit of a dimension. -/
def sizeIn (b : BaseUnit D) (d : BaseDimension) : D :=
  b.multiple * b.unit.size / d.cgsUnit.size

end BaseUnit

/-- A unit for each base dimension. None of them may vanish or lack a size. -/
structure UnitSystem (D : Type) where
  length : BaseUnit D
  mass : BaseUnit D
  time : BaseUnit D
  temperature : BaseUnit D
  current : Option (BaseUnit D)
deriving Repr

namespace UnitSystem

variable {D : Type} [Arithmetic D]

/-- The unit of a base dimension, if the system has one. -/
def unit? (s : UnitSystem D) : BaseDimension → Option (BaseUnit D)
  | .mass => some s.mass
  | .length => some s.length
  | .time => some s.time
  | .current => s.current
  | .temperature => some s.temperature

/-- The size of a base unit in the unit of the cgs system; a system without a unit
for the dimension counts as one. -/
def sizeInCgs (s : UnitSystem D) (d : BaseDimension) : D :=
  match s.unit? d with
  | some b => b.sizeIn d
  | none => 1.0

/-- A system with the units of SI for current and temperature. -/
def ofMechanical (length mass time : BaseUnit D) : UnitSystem D where
  length := length
  mass := mass
  time := time
  temperature := .named .kelvin
  current := some (.named .ampere)

/-- A system, if all its units have sizes. -/
def checked (s : UnitSystem D) : Except Failure (UnitSystem D) :=
  if (BaseDimension.all.filterMap s.unit?).all BaseUnit.hasSize then .ok s
  else .error .noSuchKey

/-- Centimetre, gram, second; without a unit of current. -/
def cgs : UnitSystem D where
  length := .named .centimetre
  mass := .named .gram
  time := .named .second
  temperature := .named .kelvin
  current := none

/-- Metre, kilogram, second. -/
def mks : UnitSystem D := ofMechanical (.named .metre) (.named .kilogram) (.named .second)

/-- Megaparsec, ten thousand million solar masses, and the time in which one
kilometre per second covers a megaparsec. -/
def cosmological : UnitSystem D :=
  ofMechanical (.named .megaparsec) ⟨1e10, .solarMass⟩
    ⟨NamedUnit.megaparsec.size / 1000.0 / NamedUnit.gigayear.size, .gigayear⟩

/-- Names of dimensions that are composed of base dimensions; no system has a base
unit for them. -/
def composedDimensions : List String :=
  ["dimensionless", "rate", "frequency", "spatial_frequency", "angular_frequency",
   "solid_angle", "velocity", "acceleration", "jerk", "snap", "crackle", "pop", "area",
   "volume", "momentum", "force", "tension", "pressure", "energy", "power", "flux",
   "specific_flux", "number_density", "density", "angular_momentum",
   "specific_angular_momentum", "specific_energy", "count_flux", "count_intensity",
   "luminous_flux", "luminance", "charge_cgs", "current_cgs", "electric_field_cgs",
   "magnetic_field_cgs", "electric_potential_cgs", "resistance_cgs", "magnetic_flux_cgs",
   "charge", "electric_field", "magnetic_field", "electric_potential", "resistance",
   "capacitance", "magnetic_flux", "inductance", "charge_mks", "electric_field_mks",
   "magnetic_field_mks", "electric_potential_mks", "resistance_mks", "capacitance_mks",
   "magnetic_flux_mks", "inductance_mks"]

/-- Names of base dimensions that every system measures and no file stores. -/
def unstoredDimensions : List String := ["angle", "luminous_intensity", "logarithmic"]

/-- Names of single things beside the dimensions; none of them has a base unit. -/
def unmeasured : List String :=
  ["Symbol", "sympify", "Rational", "wraps", "chain", "accepts", "returns"]

/-- Names of collections of dimensions; a collection is no dimension. -/
def collections : List String :=
  ["base_dimensions", "derived_dimensions", "dimensions", "em_dimensions"]

/-- The size in cgs of the base unit of a dimension given by its name.  A composed
dimension has no base unit and counts as one; a dimension that no file stores has
no cgs unit; any other name is not a dimension. -/
def sizeOfNamed (s : UnitSystem D) (name : String) : Except Failure D :=
  match BaseDimension.ofName? name with
  | some d => .ok (s.sizeInCgs d)
  | none =>
    if name ∈ collections ∨ isOwnCollection name then .error .wrongType
    else if name ∈ composedDimensions ∨ name ∈ unmeasured ∨ isOwnName name then .ok 1.0
    else if name ∈ unstoredDimensions then .error .noSuchKey
    else if name = "current_mks" then
      match s.current with
      | none => .ok 1.0
      | some _ => .error .noSuchKey
    else .error .noSuchAttribute

end UnitSystem

end MeshlessGas
