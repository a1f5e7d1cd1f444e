/-
Directories — files under names.

A file name is a path that ends at the null character.  All files lie in one directory,
and nothing lies outside of it or below it.  A file that a handle is open on can be read
but not written.
-/
import MeshlessGas.Archive.Tree

namespace MeshlessGas

/-- What is stored under a file name. -/
inductive StoredFile (D S : Type) where
  | archive (f : Archive D S)
  | other (text : String)

/-- A handle of a file: handles of one file are told apart by their numbers. -/
structure Handle where
  number : Nat
  /-- The name of the file in its directory. -/
  file : String
deriving DecidableEq, Repr

/-- The files of a directory, and the handles that are open on them. -/
structure Directory (D S : Type) where
  files : Table (StoredFile D S) := []
  handles : List Handle := []
  /-- Number of handles that have been opened. -/
  opened : Nat := 0

namespace Directory

variable {D S : Type}

/-- The normal form of a file name; the empty path is that of the directory itself. -/
def normalName (file : String) : String :=
  let path := (if Path.isAbsolute file then "/" else "") ++ Path.join (Path.components file)
  if path = "" then "." else path

/-- Most bytes of a component of a path, and of a whole path. -/
def maxNameBytes : Nat := 255

def maxPathBytes : Nat := 4095

/-- Whether a path, or its first component, is too long. -/
def isTooLong (path : String) : Bool :=
  maxPathBytes < path.utf8ByteSize ∨
    ((Path.components path).head?.any fun name => maxNameBytes < name.utf8ByteSize)

/-- Whether a path asks for something within what it names: it ends with a slash, or with a
dot behind one. -/
def asksWithin (path : String) : Bool :=
  let last := (Path.cut path.toList).getLast?.getD []
  last = [] ∨ last = ['.']

/-- What is wrong with a path to something other than a file of the directory. -/
def strayFailure (path : String) : Failure :=
  if path = "" ∨ isTooLong path then .fileUnreadable
  else if (Path.components path).all (· = "..") then .fileIsDirectory
  else .fileMissing

/-- The file that a name leads to, for reading. -/
def locate (d : Directory D S) (file : String) : Except Failure (StoredFile D S) :=
  let path := Path.beforeNull file
  match Path.components path with
  | [] => .error (strayFailure path)
  | name :: rest =>
    if Path.isAbsolute path ∨ isTooLong path then .error (strayFailure path)
    else
      match d.files.find? name with
      | some f => if rest.isEmpty ∧ ¬ asksWithin path then .ok f else .error .noDirectory
      | none => .error (strayFailure path)

/-- The name in the directory under which a file is written. -/
def target (d : Directory D S) (file : String) : Except Failure String :=
  let path := Path.beforeNull file
  match Path.components path with
  | [] => .error (strayFailure path)
  | name :: rest =>
    if Path.isAbsolute path ∨ isTooLong path then .error (strayFailure path)
    else if rest.isEmpty ∧ ¬ asksWithin path ∧ name ≠ ".." then .ok name
    else if rest.isEmpty ∧ Path.endsWithSlash path then .error .fileIsDirectory
    else if (d.files.find? name).isSome then .error .noDirectory
    else .error (strayFailure path)

/-- The archive that a file name leads to. -/
def read (d : Directory D S) (file : String) : Except Failure (Archive D S) := do
  match ← d.locate file with
  | .other _ => throw .fileUnreadable
  | .archive f => return f

/-- The archive that a file name leads to, for writing into it; there may be none yet, or
an empty file. -/
def readOrEmpty (d : Directory D S) (file : String) : Except Failure (Archive D S) := do
  match d.files.find? (← d.target file) with
  | none | some (.other "") => return .empty
  | some (.other _) => throw .fileUnreadable
  | some (.archive f) => return f

/-- Puts a file in place of what is there. -/
def insert (d : Directory D S) (file : String) (f : StoredFile D S) :
    Except Failure (Directory D S) := do
  return { d with files := d.files.insert (← d.target file) f }

/-- Puts a text in place of what is there. Its file name must not hold the null
character. -/
def insertText (d : Directory D S) (file text : String) : Except Failure (Directory D S) :=
  if file = "" then .error .fileMissing
  else if '\x00' ∈ file.toList then .error .badValue
  else d.insert file (.other text)

/-- Opens a handle of an archive. -/
def openHandle (d : Directory D S) (file : String) :
    Except Failure (Handle × Directory D S) := do
  let _ ← d.read file
  let handle : Handle := ⟨d.opened, ((Path.components (Path.beforeNull file)).head?).getD ""⟩
  return (handle, { d with handles := handle :: d.handles, opened := d.opened + 1 })

/-- Whether a handle is open. -/
def isOpen (d : Directory D S) (handle : Handle) : Bool := handle ∈ d.handles

/-- Closes a handle; one that is closed already stays closed. -/
def closeHandle (d : Directory D S) (handle : Handle) : Directory D S :=
  { d with handles := d.handles.filter (· ≠ handle) }

/-- Closes all handles but some. -/
def keepHandles (d : Directory D S) (kept : List Handle) : Directory D S :=
  { d with handles := d.handles.filter (· ∈ kept) }

/-- Runs a writing action on an archive and stores what came of it. -/
def write {α : Type} (d : Directory D S) (file : String) (start : Archive D S)
    (action : Writing D S α) : Except Failure α × Directory D S :=
  match d.target file with
  | .error e => (.error e, d)
  | .ok name =>
    if d.handles.any fun h => h.file = name then (.error .fileUnreadable, d)
    else
      let (result, f) := action.run.run start
      (result, { d with files := d.files.insert name (.archive f) })

end Directory

end MeshlessGas
