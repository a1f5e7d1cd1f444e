/-
Fields of a particle group — datasets read into particles and written from them.

Reading goes through the fields in order and changes the particles field by field;
the fields before a failing one stay read.  Writing adds a dataset for each field,
with its attributes; what was written before a failure stays.
-/
import MeshlessGas.Archive.Tree
import MeshlessGas.Element.Scaling
import MeshlessGas.Field.Access
import MeshlessGas.Field.Attributes

namespace MeshlessGas

/-- Filling particles: what was filled before a failure stays. -/
abbrev Filling (D S : Type) (α : Type) := ExceptT Failure (StateM (Gas D S)) α

/-- The units in which numbers are stored and those in which they are wanted. -/
structure UnitChange (D : Type) where
  source : UnitSystem D
  target : UnitSystem D

namespace UnitChange

/-- The change between two unit systems, if both are known. -/
def between {D : Type} (source target : Option (UnitSystem D)) : Option (UnitChange D) :=
  match source, target with
  | some source, some target => some ⟨source, target⟩
  | _, _ => none

end UnitChange

namespace FieldDescriptor

variable {D S : Type} [Transcendental D] [Numeral D] [Arithmetic S] [Numeral S] [Narrowing D S]

/-- Numbers of a tag in other units.  A factor of one leaves them as they are, and of a
complex one the real part counts. -/
def inUnits (tag : UnitTag) (change : Option (UnitChange D)) (gamma : D)
    (values : NumericArray D S) : Except Failure (NumericArray D S) :=
  match change with
  | none => .ok values
  | some c => do
    let factor ← tag.conversionFactor c.source c.target gamma
    return match factor with
      | .real x => if factor.isOne then values else values.scaled x
      | .complex re _ => if factor.isOne then values else values.scaledComplex re

/-- The rows of a field in a group, for a number of particles if there is one.  Only an
optional field may be absent, and a group has no rows. -/
def stored? (f : FieldDescriptor) (path : String) (found : Option (Member D S))
    (count : Except Failure Nat) (change : Option (UnitChange D)) (gamma : D) :
    Except Failure (Option (NumericArray D S)) :=
  match found with
  | none => if f.compulsory then .error (.compulsoryFieldMissing f.name path) else .ok none
  | some (.group _) => .error .wrongType
  | some (.dataset dataset) => do
    let rows ← dataset.values.rowCount
    let count ← count
    if rows ≠ count then throw (.entryCount f.name rows count)
    return some (← inUnits f.units change gamma dataset.values)

/-- The path of a group in messages. -/
def groupPath (place : Place) : String := "/" ++ Path.join place

/-- The name under which a field is looked for, which must be a text. -/
def nameText (f : FieldDescriptor) : Except Failure String :=
  Failure.ofOption .wrongType f.label.text?

/-- Reads fields of a group into particles; gives the names of those that are
there. -/
def readAll (file : Archive D S) (place : Place) (change : Option (UnitChange D)) (gamma : D) :
    List FieldDescriptor → Filling D S (List String)
  | [] => pure []
  | f :: fields => do
    let gas ← get
    let found ← file.lookup? place (← f.nameText)
    match ← f.stored? (groupPath place) found gas.rowCount change gamma with
    | none => readAll file place change gamma fields
    | some values =>
      let gas ← f.assignTo gas values
      set gas
      let names ← readAll file place change gamma fields
      return f.name :: names

/-- What reading fields without any particles fails with: nothing can be compared with a
dataset. -/
def readNone (file : Archive D S) (place : Place) (change : Option (UnitChange D)) (gamma : D)
    (fields : List FieldDescriptor) : Except Failure Unit :=
  fields.forM fun f => do
    let found ← file.lookup? place (← f.nameText)
    let _ ← f.stored? (groupPath place) found (.error .noSuchAttribute) change gamma

/-- Makes the dataset of a field, which a name that is no text may leave without a place. -/
def createDataset (f : FieldDescriptor) (place : Place) (values : NumericArray D S)
    (format : FieldFormat) : Writing D S (Option Place) := do
  match f.label with
  | .text name => return some (← Writing.createDataset place name values format)
  | label =>
    if label.truthy then throw .noSuchAttribute
    if ¬ format.isStored then throw .wrongType
    match label with
    | .none => return none
    | _ => throw .wrongType

/-- Writes the dataset of a field into a group, and then its attributes. -/
def writeTo (f : FieldDescriptor) (place : Place) (context : Option (Context D S))
    (gas : Gas D S) (system : UnitSystem D) : Writing D S Unit := do
  let values ← f.numbersOf context gas
  let rows ← f.format.rows f.type values
  let dataset ← f.createDataset place (rows.format.kept f.type values) rows.format
  let context ← Failure.ofOption .noSuchAttribute context
  let attributes ← f.attributes system context.a context.scheme.gamma
  match dataset with
  | none => pure ()
  | some dataset => attributes.forM fun x => Writing.writeDatasetAttribute dataset x.1 x.2

/-- Writes fields into a group. -/
def writeAll (fields : List FieldDescriptor) (place : Place) (context : Option (Context D S))
    (gas : Gas D S) (system : UnitSystem D) : Writing D S Unit :=
  fields.forM fun f => f.writeTo place context gas system

end FieldDescriptor

end MeshlessGas
