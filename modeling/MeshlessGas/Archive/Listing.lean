/-
Listings — directories of archives as plain text.

A listing has a line for each file, group, attribute and dataset, in words between
blanks.  Attributes belong to the dataset above them, or to the group when there is
none.  An array is its element type, its shape and its cells.
-/
import MeshlessGas.Archive.Directory
import MeshlessGas.Archive.Shown
import MeshlessGas.Archive.Word
import MeshlessGas.Numeral.Reading

namespace MeshlessGas

namespace Listing

variable {D S : Type} [Arithmetic D] [Numeral D] [Arithmetic S] [Numeral S] [Narrowing D S]

/-! ## Writing -/

/-- A shape: its lengths, or a dot for a single cell. -/
def shapeWord (shape : List Nat) : String :=
  if shape.isEmpty then "." else ",".intercalate (shape.map toString)

/-- The words of an array. -/
def arrayWords (a : NumericArray D S) : List String :=
  a.type.code :: shapeWord a.shape :: a.cells.cells.map (NumericArray.cellText a.type)

/-- The line of an attribute. -/
def attributeLine (x : String × Attribute D S) : String :=
  " ".intercalate <| "attribute" :: toWord x.1 ::
    match x.2 with
    | .text s | .encoded s => ["text", toWord s]
    | .numbers a => arrayWords a
    | .complex re im => ["complex", Numeral.shortest re, Numeral.shortest im]

/-- The lines of a dataset. -/
def datasetLines (x : String × Dataset D S) : List String :=
  " ".intercalate ("dataset" :: toWord x.1 :: arrayWords x.2.values) ::
    x.2.attributes.map attributeLine

/-- The lines of a group. -/
def groupLines (x : String × Group D S) : List String :=
  ("group " ++ toWord x.1) :: x.2.attributes.map attributeLine ++
    x.2.datasets.flatMap datasetLines

/-- The lines of a file. -/
def fileLines (x : String × StoredFile D S) : List String :=
  match x.2 with
  | .archive f => ("archive " ++ toWord x.1) :: f.groups.flatMap groupLines
  | .other text => ["other " ++ toWord x.1 ++ " " ++ toWord text]

/-- The lines of a directory. -/
def lines (d : Directory D S) : List String := d.files.flatMap fileLines

/-! ## Reading -/

/-- The shape of a word. -/
def shape? (word : String) : Option (List Nat) :=
  if word = "." then some [] else (word.splitOn ",").mapM String.toNat?

/-- The cell of a word. -/
def cell? (type : ElementType) (word : String) : Option (Cell D S) :=
  match type with
  | .float16 | .float64 => (readReal? word).map fun t => .double t.number
  | .float32 => (readReal? word).map fun t => .single t.number
  | .truth => some (Cell.ofBool (word = NumericArray.truthText true))
  | .integer _ => (readInt? word).map .whole

/-- The array of some words. -/
def array? : List String → Option (NumericArray D S)
  | code :: shape :: cells => do
    let type ← ElementType.ofName? code
    let shape ← shape? shape
    let cells ← cells.mapM (cell? type)
    let tensor ← (Tensor.vector cells).reshape? shape
    return ⟨type, tensor⟩
  | _ => none

/-- The attribute of some words. -/
def attribute? : List String → Option (Attribute D S)
  | ["text", s] => (ofWord? s).map .text
  | ["complex", re, im] => do
    return .complex (← readReal? re).number (← readReal? im).number
  | words => (array? words).map .numbers

/-- Where a line belongs: a file, a group and a dataset, as far as they are open. -/
structure Open where
  file : Option String := none
  group : Place := []
  dataset : Option Place := none

/-- A directory that is being read. -/
structure Progress (D S : Type) where
  directory : Directory D S := {}
  place : Open := {}

/-- A writing action on the open file. -/
def Progress.write {α : Type} (p : Progress D S) (action : Writing D S α) :
    Option (α × Progress D S) := do
  let file ← p.place.file
  let start ← (p.directory.read file).toOption
  let (result, directory) := p.directory.write file start action
  return (← result.toOption, { p with directory })

/-- Reads a line. -/
def Progress.line (p : Progress D S) (words : List String) : Option (Progress D S) := do
  match words with
  | ["archive", name] =>
    let name ← ofWord? name
    let directory ← (p.directory.insert name (.archive .empty)).toOption
    return { directory, place := { file := some name } }
  | ["other", name, text] =>
    let directory ← (p.directory.insert (← ofWord? name) (.other (← ofWord? text))).toOption
    return { directory }
  | ["group", path] =>
    let group := Path.components (← ofWord? path)
    let (_, p) ← p.write (Writing.requireGroup group)
    return { p with place := { p.place with group, dataset := none } }
  | "dataset" :: name :: array =>
    let (dataset, p) ←
      p.write (Writing.createDataset p.place.group (← ofWord? name) (← array? array))
    return { p with place := { p.place with dataset := some dataset } }
  | "attribute" :: name :: value =>
    let name ← ofWord? name
    let value ← attribute? value
    let (_, p) ← p.write (match p.place.dataset with
      | none => Writing.writeAttribute p.place.group name value
      | some dataset => Writing.writeDatasetAttribute dataset name value)
    return p
  | _ => none

/-- The directory of some lines; empty lines do not count. -/
def directory? (lines : List String) : Option (Directory D S) := do
  let lines := lines.filter fun l => l ≠ ""
  let p ← lines.foldlM (fun p l => Progress.line p (l.splitOn " ")) ({} : Progress D S)
  return p.directory

end Listing

end MeshlessGas
