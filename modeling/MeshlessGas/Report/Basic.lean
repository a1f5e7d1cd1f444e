/-
Reports — snapshots described in lines.

A report describes one snapshot after the other: the file, the scale factor, the
scheme, the names of the particle fields, and on request the parameters.  It stops at
a file that cannot be read.  The lines before a failure stay.
-/
import MeshlessGas.Report.Command
import MeshlessGas.Snapshot.Basic
import MeshlessGas.Text.Wrap

namespace MeshlessGas

/-- What has been printed and noted. -/
structure Printed where
  lines : List String := []
  notices : List Notice := []

/-- Printing lines, with a failure on the way perhaps. -/
abbrev Printing (α : Type) := ExceptT Failure (StateM Printed) α

namespace Printing

/-- Prints a line. -/
def line (s : String) : Printing Unit :=
  modify fun p => { p with lines := p.lines ++ [s] }

/-- Prints an empty line. -/
def blank : Printing Unit := line ""

/-- Makes a reading, whose notices are kept, and gives its result as it is. -/
def attempt {α : Type} (r : Reading α) : Printing (Except Failure α) := do
  let (result, notices) := r.result
  modify fun p => { p with notices := p.notices ++ notices }
  return result

/-- What was printed, each line with an end. -/
def text (p : Printed) : String := String.join (p.lines.map (· ++ "\n"))

end Printing

namespace Report

/-- The width of a screen. -/
def screenWidth : Nat := 80

/-- How a command ends. -/
inductive Status where
  | complete
  | unreadable
  | refused
deriving DecidableEq, Repr

/-- The exit code of the command line. -/
def Status.code : Status → Nat
  | complete => 0
  | unreadable => 1
  | refused => 2

variable {D S : Type} [Transcendental D] [Numeral D] [Arithmetic S] [Numeral S] [Narrowing D S]

/-- The names of the particle fields of a file. -/
def fieldNames (f : Archive D S) : Except Failure (List String) :=
  match f.at? [Snapshot.particleGroup] with
  | none => .ok []
  | some (.group _) => .ok (f.members [Snapshot.particleGroup]).names
  | some (.dataset _) => .error .noSuchAttribute

/-- Describes the scheme: in words, and by its texts. -/
def describeScheme (attributes : Table (Attribute D S)) : Printing Unit := do
  let info ← StoredScheme.info attributes
  Printing.line info
  Printing.blank
  attributes.forM fun x =>
    match x.2 with
    | .text s | .encoded s => Printing.line (x.1 ++ ": " ++ s)
    | .numbers _ | .complex .. => pure ()

/-- Describes a snapshot. -/
def describe (s : Snapshot D S) (fields : List String) (withParameters : Bool) :
    Printing Unit := do
  Printing.line s.asText
  let a ← s.scaleFactor
  Printing.line ("Scale factor: a=" ++ Numeral.general 4 a)
  Printing.blank
  match s.scheme with
  | none => Printing.line "No hydrodynamics scheme metadata present."
  | some attributes => describeScheme attributes
  Printing.blank
  (wrapLines screenWidth ("Particle fields: " ++ ", ".intercalate fields)).forM Printing.line
  match s.parameters, withParameters with
  | some p, true => do
    Printing.blank
    Printing.line p.asText
  | _, _ => pure ()
  Printing.blank

/-- Opens a file for a report. -/
def openForReport (files : Directory D S) (file : String) :
    Reading (Snapshot D S × List String) := do
  let f ← files.read file
  let s ← Snapshot.ofArchive file none f
  return (s, ← fieldNames f)

/-- Whether a failure means that a file cannot be read. -/
def isUnreadable (e : Failure) : Bool :=
  e ∈ [.fileMissing, .fileUnreadable, .fileIsDirectory, .noDirectory]

/-- Describes files one after the other, up to one that cannot be read. -/
def describeFiles (files : Directory D S) (withParameters : Bool) :
    List String → Printing Status
  | [] => pure .complete
  | file :: rest => do
    match ← Printing.attempt (openForReport files file) with
    | .ok (s, fields) => do
      describe s fields withParameters
      describeFiles files withParameters rest
    | .error e => do
      if ¬ isUnreadable e then throw e
      Printing.line (file ++ " is not a readable HDF5 file.")
      return .unreadable

/-- How the command line is used. -/
def usage : String := "usage: mfvsnap [-h] [-p] Snapshots [Snapshots ...]"

/-- Runs a command on the files of a directory. -/
def run (files : Directory D S) : Command → Printing Status
  | .report names withParameters => describeFiles files withParameters names
  | .help => do
    Printing.line usage
    return .complete
  | .refused => pure .refused

end Report

end MeshlessGas
