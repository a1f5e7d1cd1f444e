/-
Initial conditions — files with the fields that a run is started from.

They hold the fields that are read into particles, without further attributes, and
optionally the units.
-/
import MeshlessGas.Snapshot.Contents

namespace MeshlessGas

namespace Snapshot

variable {D S : Type} [Transcendental D] [Numeral D] [Arithmetic S] [Numeral S] [Narrowing D S]

/-- Writes a field that a run is started from, unless it is held by what is skipped. -/
def writeInitialField (gas : Option (Gas D S)) (skipped : Value D) (f : FieldDescriptor) :
    Writing D S Unit := do
  if ← skipped.holdsText f.name then return
  let values ← f.numbersOf none (← Failure.ofOption .wrongType gas)
  let _ ← Writing.createDataset [particleGroup] f.name (values.cast f.type)

/-- Writes the fields of particles that a run is started from, except some.  The group of the
particles is made even where there are none. -/
def writeInitial (gas : Option (Gas D S)) (skipped : Value D) (units : Option (UnitSystem D)) :
    Writing D S Unit := do
  Writing.createGroup [particleGroup]
  FieldDescriptor.readRegistry.forM (writeInitialField gas skipped)
  match units with
  | none => pure ()
  | some u => u.writeTo

end Snapshot

end MeshlessGas
