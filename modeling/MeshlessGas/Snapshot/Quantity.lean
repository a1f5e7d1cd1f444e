/-
Quantities — one dataset of a snapshot in physical cgs units.

The numbers are scaled by the factor stored beside them.  The unit is that of the
field of the same name; datasets that are no known field have no unit.
-/
import MeshlessGas.Snapshot.Basic

namespace MeshlessGas

/-- Numbers with a name and a unit. -/
structure Quantity (D S : Type) where
  name : String
  values : NumericArray D S
  /-- What the numbers were stored as. -/
  format : FieldFormat := .plain
  unit : ComposedUnit D

namespace Quantity

variable {D S : Type} [Transcendental D] [Numeral D] [Arithmetic S] [Numeral S] [Narrowing D S]

/-- The numbers of a dataset in physical cgs units.  Without a stored factor they are
scaled by a plain one. -/
def physical (dataset : Dataset D S) : Except Failure (NumericArray D S) :=
  match dataset.attributes.find? FieldDescriptor.physicalFactorName with
  | none =>
    if dataset.format.isNumeric then .ok (dataset.values.scaled 1.0) else .error .noProduct
  | some factor => do
    let entry ← factor.first
    if ¬ dataset.format.isNumeric then throw .noProduct
    match entry with
    | .cell t c => dataset.values.times ⟨t, .scalar c⟩
    | .row r => dataset.values.times r
    | .letter _ => throw (if dataset.values.type.isInteger then .wrongType else .noProduct)
    | .complex .. => throw .wrongType

/-- The unit tag of the known field with a name. -/
def tagOf? (name : String) : Option UnitTag :=
  ((FieldDescriptor.writeRegistry ++ FieldDescriptor.readRegistry).find? fun f =>
    f.name = name).map FieldDescriptor.units

/-- The cgs unit of a dataset, for an adiabatic index that gives units to all tags. -/
def unitOf (name : String) (gamma : D) : Except Failure (ComposedUnit D) := do
  let units ← ComposedUnit.all BaseDimension.cgsUnit gamma
  return (((tagOf? name).bind fun tag => units.find? fun u => u.1 = tag).map Prod.snd).getD .none

end Quantity

namespace Snapshot

variable {D S : Type} [Transcendental D] [Numeral D] [Arithmetic S] [Numeral S] [Narrowing D S]

/-- Reads a dataset of the gas particles. -/
def readField (s : Snapshot D S) (files : Directory D S) (name : String) :
    Except Failure (Quantity D S) := do
  let f ← files.read s.file
  if (f.dataset? [particleGroup]).isSome then throw .badValue
  match f.member? [particleGroup] name with
  | none => throw (.fieldNotInFile name s.file)
  | some (.group _) => throw .wrongType
  | some (.dataset d) =>
    let values ← Quantity.physical d
    return { name, values, format := d.format, unit := ← Quantity.unitOf name (← s.gamma) }

/-- Reads what a value names: only texts are names of datasets. -/
def readNamed (s : Snapshot D S) (files : Directory D S) (name : Value D) :
    Except Failure (Quantity D S) :=
  match name with
  | .text name => s.readField files name
  | v => do
    let f ← files.read s.file
    throw (if (f.at? [particleGroup]).isNone then .fieldNotInFile v.asText s.file else .wrongType)

end Snapshot

end MeshlessGas
