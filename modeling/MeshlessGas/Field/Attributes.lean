/-
Field attributes — the self-description stored beside a dataset.

Every dataset carries the factors that turn its numbers into cgs, without and with
the scale factor, its description, and the exponents of the base units and of the
scale factor.
-/
import MeshlessGas.Archive.Attribute
import MeshlessGas.Field.Descriptor
import MeshlessGas.Units.Conversion

namespace MeshlessGas

/-- The power of the scale factor that makes a written dataset physical; datasets
that are physical already have zero. -/
def scaleExponent {D : Type} [Arithmetic D] (dataset : String) (gamma : D) : D :=
  match dataset with
  | "Coordinates" => 1.0
  | "SmoothingLength" => 1.0
  | "Density" => -3.0
  | "InternalEnergy" => -3.0 * (gamma - 1.0)
  | "Pressure" => -3.0 * gamma
  | "Potential" => -1.0
  | _ => 0.0

namespace FieldDescriptor

variable {D S : Type} [Transcendental D]

/-- Attribute of the factor to cgs units. -/
def cgsFactorName : String :=
  "Conversion factor to CGS (not including cosmological corrections)"

/-- Attribute of the factor to physical cgs units. -/
def physicalFactorName : String :=
  "Conversion factor to physical CGS (including cosmological corrections)"

/-- The attribute of the exponent of a base unit. -/
def exponentName : BaseDimension → String
  | .current => "U_I exponent"
  | .length => "U_L exponent"
  | .mass => "U_M exponent"
  | .temperature => "U_T exponent"
  | .time => "U_t exponent"

/-- A factor as an attribute. -/
def factorAttribute : Factor D → Attribute D S
  | .real x => .reals [x]
  | .complex re im => .complex re im

/-- An exponent as an attribute: integers stay integers. -/
def exponentAttribute : Exponent D → Attribute D S
  | .whole n => .numbers (.integers IntegerType.int64 (.vector [n]))
  | .real x => .numbers (.doubles (.vector [x]))

/-- The attributes of a dataset, in the order of storage. -/
def attributes (f : FieldDescriptor) (system : UnitSystem D) (scaleFactor gamma : D) :
    Except Failure (List (String × Attribute D S)) := do
  let cgs ← f.units.cgsFactor system gamma
  if ¬ f.label.isKey then throw .wrongType
  let scaleExp := scaleExponent f.name gamma
  let scale ← Factor.power scaleFactor scaleExp
  let real (x : D) : Attribute D S := .reals [x]
  let description ← match f.description with
    | .text s => pure s
    | _ => throw .noSuchAttribute
  let exponent (d : BaseDimension) : String × Attribute D S :=
    (exponentName d, exponentAttribute (f.units.exponent gamma d))
  return [
    (cgsFactorName, factorAttribute cgs),
    (physicalFactorName, factorAttribute (cgs.mul scale)),
    ("Description", .text description),
    exponent .current,
    exponent .length,
    exponent .mass,
    exponent .temperature,
    exponent .time,
    ("a-scale exponent", real scaleExp),
    ("h-scale exponent", real 0.0)]

end FieldDescriptor

end MeshlessGas
