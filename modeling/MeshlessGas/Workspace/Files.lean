/-
Files of a workspace — the steps that write files and read them.

Fields, initial conditions and snapshots are written from the particles of the workspace
and read back into them.  A snapshot stays open until another one is opened; a handle from
outside can be closed before.
-/
import MeshlessGas.Snapshot.Initial
import MeshlessGas.Snapshot.Particles
import MeshlessGas.Snapshot.Quantity
import MeshlessGas.Workspace.Particles

namespace MeshlessGas

/-- How a snapshot is opened. -/
inductive Opening where
  /-- By its name. -/
  | byName
  /-- Through a handle. -/
  | byHandle
  /-- Through a handle that is closed already. -/
  | byClosedHandle
deriving DecidableEq, Repr

namespace Workspace

variable {D S : Type} [Transcendental D] [Numeral D] [Arithmetic S] [Numeral S] [Narrowing D S]

/-! ## Writing -/

/-- Keeps what writing made of the files. -/
def store {α : Type} (written : Except Failure α × Directory D S) : Work D S α := do
  modify fun w => { w with files := written.2 }
  written.1

/-- Writes a new file. -/
def makeFile (file : String) (action : Writing D S Unit) : Work D S Unit := do
  store ((← get).files.write file .empty action)

/-- Writes a file that is no archive. -/
def makeText (file text : String) : Work D S Unit := do
  let files ← (← get).files.insertText file text
  modify fun w => { w with files }

/-- Writes the fields that a run is started from. -/
def writeInitial (file : String) (skipped : Value D) (units : Option (UnitSystem D)) :
    Work D S Unit := do
  makeFile file (Snapshot.writeInitial (← get).gas skipped units)

/-- The name of a group, which must be a text. -/
def groupName (group : Value D) : Except Failure String := Failure.ofOption .wrongType group.text?

/-- Writes fields into a group of a file, which is made if there is none. -/
def writeFields (file : String) (group : Value D) (fields : List FieldDescriptor)
    (units : UnitSystem D) : Work D S Unit := do
  let w ← get
  let context ← context?
  let archive ← w.files.readOrEmpty file
  store (w.files.write file archive do
    let place ← Writing.placeOf [] (← groupName group)
    Writing.requireGroup place
    match fields with
    | [] => pure ()
    | f :: _ =>
      let g ← Failure.ofOption (lacking f.kind context) w.gas
      FieldDescriptor.writeAll fields place context g units)

/-- Writes a snapshot. -/
def writeSnapshot (file : String) (properties : SchemeProperties D) (units : UnitSystem D)
    (parameters : Option (ParameterSet D)) : Work D S Unit := do
  let gas ← gasOr .noSuchAttribute
  let context ← theContext
  store (Snapshot.write (← get).files file { context, gas, properties, units, parameters })

/-! ## Reading -/

/-- The archive of a file. -/
def archive (file : String) : Work D S (Archive D S) := do (← get).files.read file

/-- Reads fields of a group into the particles; gives the names of those that are there. -/
def readFields (file : String) (group : Value D) (fields : List FieldDescriptor)
    (change : Option (UnitChange D)) (gamma : D) : Work D S (List String) := do
  let f ← archive file
  let group ← groupName group
  let _ ← Failure.ofOption .noSuchKey (f.member? [] group)
  let place := Path.resolve [] group
  match (← get).gas with
  | none =>
    FieldDescriptor.readNone f place change gamma fields
    return []
  | some g =>
    let (names, g) := (FieldDescriptor.readAll f place change gamma fields).run.run g
    setGas g
    names

/-- Reads the particles of a file for a scheme. -/
def readSnapshot (file : String) (scheme : Scheme D) (wanted : Option (UnitSystem D)) :
    Work D S Unit := do
  setGas (← hear (Snapshot.readGas (← get).files file scheme wanted).result)

/-- The unit system that a file stores. -/
def readUnits (file : String) : Work D S (UnitSystem D) := do
  let files := (← get).files
  hear (Reading.result do UnitSystem.ofArchive (← files.read file))

/-! ## The opened snapshot -/

/-- Opens a handle of a file, to be kept outside of the snapshot. -/
def openHandle (file : String) : Work D S Handle := do
  let (handle, files) ← (← get).files.openHandle file
  modify fun w => { w with files, external := some handle }
  return handle

/-- Opens a snapshot.  A handle that was opened for it stays even when the file turns out to
be no snapshot, and one of before stays when there is no new one. -/
def openSnapshot (file : String) (opening : Opening) : Work D S (Snapshot D S) := do
  let handle ← match opening with
    | .byName => pure none
    | .byHandle => some <$> openHandle file
    | .byClosedHandle => do
      let handle ← openHandle file
      modify fun w => { w with files := w.files.closeHandle handle }
      pure (some handle)
  let s ← hear (Snapshot.openFile (← get).files file handle).result
  modify fun w => { w with snapshot := some s }
  return s

/-- Closes the handle from outside; tells whether the snapshot opens the file itself from now
on. -/
def closeHandle : Work D S Bool := do
  let handle ← Failure.ofOption .noSuchAttribute (← get).external
  modify fun w => { w with files := w.files.closeHandle handle }
  return (← theSnapshot).managesHandle (← get).files

/-- Reads a dataset of the opened snapshot. -/
def readField (name : Value D) : Work D S (Quantity D S) := do
  (← theSnapshot).readNamed (← get).files name

/-- Reads the particles of the opened snapshot. -/
def readParticles (scheme : Scheme D) (wanted : Option (UnitSystem D)) (firstInit : Bool) :
    Work D S Unit := do
  setGas (← (← theSnapshot).readParticles (← get).files scheme wanted firstInit)

/-- The parameters that a file stores. -/
def loadParameters (file : String) : Work D S (ParameterSet D) := do
  Snapshot.loadParameters (← get).files file

end Workspace

end MeshlessGas
