/-
Notices — remarks that a reading makes without failing.

A reading may skip what it does not know and note it.  The notices that were made
before a failure stay.
-/
import MeshlessGas.Failure

namespace MeshlessGas

/-- What a reading skipped. -/
inductive Notice where
  | unknownUnitAttribute (name : String)
deriving DecidableEq, Repr

/-- The text of a notice. -/
def Notice.message : Notice → String
  | unknownUnitAttribute name => s!"Ignoring unknown unit attribute {name} in Units group."

/-- A reading that may fail and makes notices. -/
abbrev Reading (α : Type) := ExceptT Failure (StateM (List Notice)) α

namespace Reading

/-- Makes a notice. -/
def note (n : Notice) : Reading Unit := modify fun notices => notices ++ [n]

/-- The result of a reading and its notices. -/
def result {α : Type} (r : Reading α) : Except Failure α × List Notice := r.run.run []

end Reading

end MeshlessGas
