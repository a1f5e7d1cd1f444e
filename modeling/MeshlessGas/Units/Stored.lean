/-
Stored units — the group of a file that says in which units its numbers are.

Each base unit is stored as its size in cgs.  Attributes that store no base unit are
skipped with a notice.  Length, mass and time must be there; kelvin and ampere stand
in for a missing temperature and current.
-/
import MeshlessGas.Archive.Tree
import MeshlessGas.Notice
import MeshlessGas.Units.Closest

namespace MeshlessGas

namespace UnitSystem

/-- Name of the group that holds the units. -/
def groupName : String := "Units"

variable {D S : Type}

/-- Stores the sizes of the base units. -/
def writeTo [Arithmetic D] (s : UnitSystem D) : Writing D S Unit := do
  Writing.createGroup [groupName]
  BaseDimension.all.forM fun d =>
    Writing.writeAttribute [groupName] d.attributeName (.reals [s.sizeInCgs d])

variable [Transcendental D] [Numeral D] [Arithmetic S] [Narrowing D S]

/-- The base unit that an attribute stores for a dimension: its first entry must be one
number. -/
def storedUnit (d : BaseDimension) (a : Attribute D S) : Except Failure (BaseUnit D) := do
  match ← a.first with
  | .cell .truth _ => throw .noQuantity
  | .cell t c => return .ofStored t.bytes c.toDouble d
  | .letter _ => throw .noQuantity
  | .row r => throw (if 1 < r.cells.cells.length then .noQuantity else .wrongType)
  | .complex .. => throw .wrongType

/-- The base units that some attributes store, in their order. -/
def storedUnits : Table (Attribute D S) → Reading (List (BaseDimension × BaseUnit D))
  | [] => pure []
  | (name, a) :: rest =>
    match BaseDimension.ofAttribute? name with
    | none => do
      Reading.note (.unknownUnitAttribute name)
      storedUnits rest
    | some d => do
      let unit ← storedUnit d a
      let others ← storedUnits rest
      return (d, unit) :: others

/-- The base unit of a dimension among some. -/
def unitOf? (units : List (BaseDimension × BaseUnit D)) (d : BaseDimension) :
    Option (BaseUnit D) :=
  (units.find? fun u => u.1 = d).map Prod.snd

/-- The unit system of some base units. -/
def ofStoredUnits (units : List (BaseDimension × BaseUnit D)) :
    Except Failure (UnitSystem D) := do
  let need (d : BaseDimension) := Failure.ofOption .noSuchKey (unitOf? units d)
  let length ← need .length
  let mass ← need .mass
  let time ← need .time
  UnitSystem.checked {
    length, mass, time
    temperature := (unitOf? units .temperature).getD (.named .kelvin)
    current := some ((unitOf? units .current).getD (.named .ampere)) }

/-- The unit system that some attributes store. -/
def ofAttributes (attributes : Table (Attribute D S)) : Reading (UnitSystem D) := do
  let units ← storedUnits attributes
  ofStoredUnits units

/-- The unit system that a file stores. -/
def ofArchive (f : Archive D S) : Reading (UnitSystem D) := do
  ofAttributes (← Failure.ofOption .noSuchKey (f.attributes? [groupName]))

end UnitSystem

end MeshlessGas
