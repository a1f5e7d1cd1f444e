/-
The command line — describes snapshots.

The arguments name the snapshots; the listing of the directory that holds them stands
on standard input.
-/
import MeshlessGas.Archive.Listing
import MeshlessGas.Report.Basic

open MeshlessGas

/-- Prints the report that the arguments ask for; a failure goes to standard error. -/
def main (arguments : List String) : IO UInt32 := do
  let listing ← (← IO.getStdin).readToEnd
  match (Listing.directory? (listing.splitOn "\n") : Option (Directory Float Float32)) with
  | none =>
    IO.eprintln "The listing of the directory cannot be read."
    return 1
  | some files =>
    let (status, printed) := (Report.run files (Command.ofArguments arguments)).run.run {}
    printed.notices.forM fun n => IO.eprintln n.message
    IO.print (Printing.text printed)
    match status with
    | .ok s => return UInt32.ofNat s.code
    | .error e =>
      IO.eprintln (e.message.getD "The file cannot be described.")
      return 1
