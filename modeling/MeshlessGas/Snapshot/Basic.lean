/-
Snapshots — read access to a snapshot or a file of initial conditions.

Opening a file reads its descriptive parts: the header, the scheme, the units, the
parameters, and the number of gas particles.  The particles themselves are read from
the file again when they are asked for.
-/
import MeshlessGas.Parameters.Set
import MeshlessGas.Scheme.Stored
import MeshlessGas.Snapshot.Contents

namespace MeshlessGas

/-- An opened snapshot. -/
structure Snapshot (D S : Type) where
  file : String
  /-- The handle of the file that was handed in. -/
  handle : Option Handle
  header : Table (Attribute D S)
  scheme : Option (Table (Attribute D S))
  units : Option (UnitSystem D)
  parameters : Option (ParameterSet D)
  /-- Number of gas particles; a file may state any number. -/
  gasCount : Int

namespace Snapshot

variable {D S : Type} [Transcendental D] [Numeral D] [Arithmetic S] [Numeral S] [Narrowing D S]

/-- The number of rows of the first member of the group of particles; a group without
members has none. -/
def countRows (f : Archive D S) : Except Failure Int :=
  match f.at? [particleGroup] with
  | none => .ok 0
  | some (.dataset _) => .error .noSuchAttribute
  | some (.group _) =>
    match (f.members [particleGroup]).head? with
    | none => .ok 0
    | some (_, .group _) => .error .noSuchAttribute
    | some (_, .dataset d) => do return (← d.values.rowCount)

/-- The number of gas particles: the first number in the header, or else the number
of rows. -/
def countGas (header : Table (Attribute D S)) (f : Archive D S) : Except Failure Int :=
  match header.find? countName with
  | some counts => do (← counts.first).toInt
  | none => countRows f

/-- The unit system of a file, if it stores one. -/
def unitsOf? (f : Archive D S) : Reading (Option (UnitSystem D)) :=
  match f.attributes? [UnitSystem.groupName] with
  | none => pure none
  | some attributes => some <$> UnitSystem.ofAttributes attributes

/-- Reads the descriptive parts of a file that is known under a name. -/
def ofArchive (file : String) (handle : Option Handle) (f : Archive D S) :
    Reading (Snapshot D S) := do
  let header := (f.attributes? [headerGroup]).getD []
  let units ← unitsOf? f
  let gasCount ← countGas header f
  return {
    file := Directory.normalName file
    handle, header, units, gasCount
    scheme := f.attributes? [schemeGroup]
    parameters := (f.attributes? [ParameterSet.groupName]).map ParameterSet.ofAttributes }

/-- Whether the snapshot opens the file itself whenever it reads: it was handed no handle, or
one that is closed. -/
def managesHandle (s : Snapshot D S) (files : Directory D S) : Bool :=
  !s.handle.any files.isOpen

/-- Opens a file, by its normal name or through a handle. -/
def openFile (files : Directory D S) (file : String) (handle : Option Handle) :
    Reading (Snapshot D S) := do
  ofArchive file handle (← files.read (Directory.normalName file))

/-- The adiabatic index that the file states; that of a monatomic gas when it states
none, or what is no number. -/
def gamma (s : Snapshot D S) : Except Failure D :=
  match s.scheme.bind fun attributes => attributes.find? SchemeProperties.gammaName with
  | none => .ok Scheme.monatomicGamma
  | some a =>
    match a.firstReal with
    | .error .wrongType => .ok Scheme.monatomicGamma
    | result => result

/-- The scale factor that the file states, one when it states none. -/
def scaleFactor (s : Snapshot D S) : Except Failure D :=
  match s.header.find? scaleFactorName with
  | none => .ok 1.0
  | some a => a.firstReal

/-- The snapshot in words. -/
def asText (s : Snapshot D S) : String :=
  "Snapshot " ++ s.file ++ " with " ++ toString s.gasCount ++ " gas particles"

/-- The snapshot as it is shown in messages. -/
def shown (s : Snapshot D S) : String := "MFVSnapshot(" ++ quoted s.file ++ ")"

end Snapshot

end MeshlessGas
