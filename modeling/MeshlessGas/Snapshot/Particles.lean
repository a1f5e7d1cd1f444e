/-
Particles of a snapshot — read, converted, and made ready to run.
-/
import MeshlessGas.Snapshot.Basic

namespace MeshlessGas

namespace Snapshot

variable {D S : Type} [Transcendental D] [Numeral D] [Arithmetic S] [Numeral S] [Narrowing D S]

/-- Reads the gas particles for a scheme.  They are converted when both the units of
the file and those wanted are known, and initialised for a run if that is asked
for. -/
def readParticles (s : Snapshot D S) (files : Directory D S) (scheme : Scheme D)
    (wanted : Option (UnitSystem D)) (firstInit : Bool) : Except Failure (Gas D S) := do
  let empty : Gas D S ← Gas.allocate [s.gasCount]
  let f ← files.read s.file
  if (f.at? [particleGroup]).isNone then throw (.noParticleGroup particleGroup s.file)
  let change := UnitChange.between s.units wanted
  let reading := FieldDescriptor.readAll f [particleGroup] change scheme.gamma
    FieldDescriptor.readRegistry
  let (names, gas) := reading.run.run empty
  let _ ← names
  return if firstInit then gas.firstInit scheme.gamma scheme.totalEnergy else gas

/-- Opens a file and reads its gas particles. -/
def readGas (files : Directory D S) (file : String) (scheme : Scheme D)
    (wanted : Option (UnitSystem D)) : Reading (Gas D S) := do
  let s ← ofArchive file none (← files.read file)
  s.readParticles files scheme wanted true

/-- The parameters that a file stores. -/
def loadParameters (files : Directory D S) (file : String) : Except Failure (ParameterSet D) := do
  let f ← files.read file
  return ParameterSet.ofAttributes
    (← Failure.ofOption (.noParameters file) (f.attributes? [ParameterSet.groupName]))

end Snapshot

end MeshlessGas
