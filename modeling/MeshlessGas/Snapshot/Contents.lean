/-
Contents — what a snapshot of the gas particles stores.

A snapshot has a header, the unit system, the description of the scheme, optionally
the parameters of the run, and the group of the gas particles.  The header is made up
before the file is replaced; what fails later leaves the parts before it.
-/
import MeshlessGas.Archive.Directory
import MeshlessGas.Field.Registry
import MeshlessGas.Scheme.Properties
import MeshlessGas.Snapshot.Fields
import MeshlessGas.Units.Stored

namespace MeshlessGas

namespace Snapshot

/-- Name of the group of the header. -/
def headerGroup : String := "Header"

/-- Name of the group that describes the scheme. -/
def schemeGroup : String := "HydroScheme"

/-- Name of the group of the gas particles. -/
def particleGroup : String := "PartType0"

/-- Attribute of the numbers of particles, by kind. -/
def countName : String := "NumPart_ThisFile"

/-- Attribute of the scale factor. -/
def scaleFactorName : String := "Scale-factor"

/-- Number of particle kinds, of which gas is the first. -/
def kindCount : Nat := 7

/-- Number of axes of space. -/
def axes : Int := 3

/-- Everything that goes into a snapshot. -/
structure Contents (D S : Type) where
  context : Context D S
  gas : Gas D S
  properties : SchemeProperties D
  units : UnitSystem D
  parameters : Option (ParameterSet D)

namespace Contents

variable {D S : Type} [Transcendental D] [Numeral D] [Arithmetic S] [Numeral S] [Narrowing D S]

/-- The attributes of the header. -/
def header (c : Contents D S) : Except Failure (List (String × Attribute D S)) := do
  let counts : List Int := (← c.gas.rowCount) :: List.replicate (kindCount - 1) 0
  let time ← c.context.time
  let a := c.context.a
  let flag : Int := if Scheme.storesEntropy then 1 else 0
  return [
    ("BoxSize", .numbers (.doubles c.context.dim)),
    ("NumPart_Total", .integers counts),
    ("NumPart_Total_HighWord", .integers (List.replicate kindCount 0)),
    (countName, .integers counts),
    ("NumFilesPerSnapshot", .integers [1]),
    ("Flag_Entropy_ICs", .integers [flag]),
    ("Dimension", .integers [axes]),
    ("Time", .reals [time]),
    (scaleFactorName, .reals [a]),
    ("Redshift", .reals [1.0 / a - 1.0])]

/-- Writes attributes into a group. -/
def writeAttributes (place : Place) (attributes : List (String × Attribute D S)) :
    Writing D S Unit :=
  attributes.forM fun x => Writing.writeAttribute place x.1 x.2

/-- Writes the header. -/
def writeHeader (header : List (String × Attribute D S)) : Writing D S Unit := do
  Writing.createGroup [headerGroup]
  writeAttributes [headerGroup] header

/-- Writes the description of the scheme: its properties, and then its flavour. -/
def writeScheme (c : Contents D S) : Writing D S Unit := do
  Writing.createGroup [schemeGroup]
  let properties ← c.properties.attributes
  writeAttributes [schemeGroup] properties
  writeAttributes [schemeGroup] (c.context.scheme.flavour.map fun x => (x.1, .text x.2))

/-- Writes the parameters, if there are any to write. -/
def writeParameters (c : Contents D S) : Writing D S Unit :=
  match c.parameters with
  | none => pure ()
  | some p => do
    Writing.createGroup [ParameterSet.groupName]
    p.writeTo [ParameterSet.groupName]

/-- Writes the fields of the particles. -/
def writeParticles (c : Contents D S) : Writing D S Unit := do
  Writing.createGroup [particleGroup]
  FieldDescriptor.writeAll FieldDescriptor.writeRegistry [particleGroup] (some c.context) c.gas
    c.units

/-- Writes all parts of a snapshot below a header. -/
def writeTo (c : Contents D S) (header : List (String × Attribute D S)) : Writing D S Unit := do
  writeHeader header
  c.units.writeTo
  c.writeScheme
  c.writeParameters
  c.writeParticles

end Contents

variable {D S : Type} [Transcendental D] [Numeral D] [Arithmetic S] [Numeral S] [Narrowing D S]

/-- Writes a snapshot under a file name, in place of what is there. -/
def write (files : Directory D S) (file : String) (c : Contents D S) :
    Except Failure Unit × Directory D S :=
  match c.header with
  | .error e => (.error e, files)
  | .ok header => files.write file .empty (c.writeTo header)

end Snapshot

end MeshlessGas
