/-
Archives — files as trees of groups, datasets and attributes.

A group holds attributes, datasets, and further groups; a dataset holds an array and
attributes of its own.  Writing is an action on the archive that may fail on the way:
what was written before the failure stays.
-/
import MeshlessGas.Archive.Attribute
import MeshlessGas.Archive.Path
import MeshlessGas.Archive.Table
import MeshlessGas.Field.Format

namespace MeshlessGas

/-- An array with attributes. -/
structure Dataset (D S : Type) where
  values : NumericArray D S
  attributes : Table (Attribute D S)
  /-- What the elements are stored as. -/
  format : FieldFormat := .plain

/-- The datasets and attributes of a group. -/
structure Group (D S : Type) where
  attributes : Table (Attribute D S)
  datasets : Table (Dataset D S)

/-- A file: its groups under their normal paths. The root need not be among them. -/
structure Archive (D S : Type) where
  groups : Table (Group D S)

/-- What a path leads to. -/
inductive Member (D S : Type) where
  | dataset (d : Dataset D S)
  | group (g : Group D S)

/-- The attributes of a member. -/
def Member.attributes {D S : Type} : Member D S → Table (Attribute D S)
  | .dataset d => d.attributes
  | .group g => g.attributes

/-- Why the rows of a dataset name no members: a row that is an integer stands for a row at
most, and any other stands for nothing. -/
def Dataset.rowFailure {D S : Type} (d : Dataset D S) : Failure :=
  match d.values.type, d.values.shape, d.values.cells.head? with
  | .integer _, [rows], some (.whole n) =>
    if -(rows : Int) ≤ n ∧ n < rows then .noSuchAttribute else .indexOutOfRange
  | _, _, _ => .wrongType

namespace Group

variable {D S : Type}

/-- A group without members. -/
def empty : Group D S := ⟨[], []⟩

end Group

namespace Archive

variable {D S : Type}

/-- A file without groups. -/
def empty : Archive D S := ⟨[]⟩

/-- The group at a place; there always is a root. -/
def group? (f : Archive D S) (place : Place) : Option (Group D S) :=
  match place with
  | [] => some ((f.groups.find? "").getD .empty)
  | place => f.groups.find? (Path.join place)

/-- The dataset at a place. -/
def dataset? (f : Archive D S) (place : Place) : Option (Dataset D S) :=
  place.getLast?.bind fun name => (f.group? place.dropLast).bind fun g => g.datasets.find? name

/-- What is at a place. -/
def at? (f : Archive D S) (place : Place) : Option (Member D S) :=
  match f.group? place with
  | some g => some (.group g)
  | none => (f.dataset? place).map .dataset

/-- What a path leads to from a place; no path leads nowhere. -/
def member? (f : Archive D S) (start : Place) (path : String) : Option (Member D S) :=
  if Path.beforeNull path = "" then none else f.at? (Path.resolve start path)

/-- What a path leads to from what is at a place, if anything.  The rows of a dataset are
compared with the path: a row of one number is no path, other rows cannot be compared, and
a single number has no rows. -/
def lookup? (f : Archive D S) (place : Place) (path : String) :
    Except Failure (Option (Member D S)) :=
  match f.dataset? place with
  | some d =>
    match d.values.shape with
    | [] => .error .wrongType
    | rows :: row => if rows = 0 ∨ cellCount row = 1 then .ok none else .error .badValue
  | none => .ok (f.member? place path)

/-- The attributes of what is at a place. -/
def attributes? (f : Archive D S) (place : Place) : Option (Table (Attribute D S)) :=
  (f.at? place).map Member.attributes

/-- The groups within a group. -/
def subgroups (f : Archive D S) (place : Place) : Table (Group D S) :=
  f.groups.filterMap fun x =>
    match (Path.components x.1).getLast? with
    | some name => if x.1 = Path.join (place ++ [name]) then some (name, x.2) else none
    | none => none

/-- The members of a group in the order of their names. -/
def members (f : Archive D S) (place : Place) : Table (Member D S) :=
  let datasets : Table (Member D S) :=
    match f.group? place with
    | some g => g.datasets.map fun x => (x.1, .dataset x.2)
    | none => []
  (f.subgroups place).foldl (fun t x => t.insert x.1 (.group x.2)) datasets

/-- The datasets of what is at a place, which must hold nothing else.  A dataset holds none,
and must not have rows. -/
def datasets (f : Archive D S) (place : Place) : Except Failure (Table (Dataset D S)) :=
  match f.dataset? place with
  | some d => if d.values.shape.head? = some 0 then .ok [] else .error d.rowFailure
  | none =>
    if (f.subgroups place).isEmpty then .ok (((f.group? place).getD .empty).datasets)
    else .error .wrongType

/-- A change of the group at a place, which is made first if there is none. -/
def updateGroup (f : Archive D S) (place : Place) (change : Group D S → Group D S) :
    Archive D S :=
  let path := Path.join place
  ⟨f.groups.insert path (change ((f.groups.find? path).getD .empty))⟩

end Archive

/-- Writing into an archive: what was written before a failure stays. -/
abbrev Writing (D S : Type) (α : Type) := ExceptT Failure (StateM (Archive D S)) α

namespace Writing

variable {D S : Type}

/-- Makes the groups of some names within a place, one in the other, as far as they are
not there yet. A dataset cannot hold a group. -/
def makeGroups (start : Place) : List String → Writing D S Unit
  | [] => pure ()
  | name :: rest => do
    let place := start ++ [name]
    if ((← get).dataset? place).isSome then throw .badValue
    modify fun f => f.updateGroup place id
    makeGroups place rest

/-- Makes a group that must not be there yet, and the groups around it. -/
def createGroup (place : Place) : Writing D S Unit := do
  if ((← get).at? place).isSome then throw .badValue
  makeGroups [] place

/-- Makes a group, and the groups around it, unless it is there already. -/
def requireGroup (place : Place) : Writing D S Unit := do
  match (← get).at? place with
  | some (.group _) => pure ()
  | some (.dataset _) => throw .wrongType
  | none => makeGroups [] place

/-- The place of a path that must not be empty. -/
def placeOf (start : Place) (path : String) : Writing D S Place :=
  if Path.beforeNull path = "" then throw .badValue else pure (Path.resolve start path)

/-- Whether a text can be stored: it must not hold the null character. -/
def storable : String → Bool := fun s => s.toList.all fun c => c ≠ '\x00'

/-- An attribute among others. Its name ends at the null character and must not be empty,
and then a text must be storable. -/
def insertAttribute (name : String) (a : Attribute D S) (t : Table (Attribute D S)) :
    Except Failure (Table (Attribute D S)) :=
  let name := Path.beforeNull name
  let storableValue : Bool := match a with
    | .text s | .encoded s => storable s
    | _ => true
  if name = "" then .error .nameless
  else if ¬ storableValue then .error .badValue
  else .ok (t.insert name a)

/-- Writes an attribute of a group. -/
def writeAttribute (place : Place) (name : String) (a : Attribute D S) : Writing D S Unit := do
  let group := ((← get).group? place).getD .empty
  let attributes ← insertAttribute name a group.attributes
  modify fun f => f.updateGroup place fun g => { g with attributes }

/-- Makes a dataset that must not be there yet, at a path from a group, and the groups on
the way to it; gives its place.  Not every format can be stored. -/
def createDataset (start : Place) (path : String) (values : NumericArray D S)
    (format : FieldFormat := .plain) : Writing D S Place := do
  if path = "" then throw .wrongType
  let (way, name) := Path.split path
  let around ← match way with
    | none => pure start
    | some way => placeOf start way
  requireGroup around
  if ¬ format.isStored then throw .wrongType
  let place ← placeOf around name
  if ((← get).at? place).isSome then throw .badValue
  modify fun f => f.updateGroup place.dropLast fun g =>
    { g with datasets := g.datasets.insert (place.getLast?.getD "") ⟨values, [], format⟩ }
  return place

/-- Writes an attribute of a dataset. -/
def writeDatasetAttribute (place : Place) (name : String) (a : Attribute D S) :
    Writing D S Unit := do
  match (← get).dataset? place with
  | none => throw .noSuchKey
  | some d =>
    let attributes ← insertAttribute name a d.attributes
    modify fun f => f.updateGroup place.dropLast fun g =>
      { g with datasets := g.datasets.insert (place.getLast?.getD "") { d with attributes } }

end Writing

end MeshlessGas
