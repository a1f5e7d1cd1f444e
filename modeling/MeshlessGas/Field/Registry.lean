/-
The registries — the fields read from initial conditions and those written to
snapshots, in their order.
-/
import MeshlessGas.Field.Descriptor

namespace MeshlessGas

namespace FieldDescriptor

/-- A field copied from and into the particle records. -/
def copied (name : String) (type : ElementType) (shape : FieldShape) (units : UnitTag)
    (path : List String) (description : String) : FieldDescriptor :=
  { name, type, shape, units, description := .text description, kind := .stored path .parts }

/-- A field computed from the state of the particles. -/
def computed (name : String) (type : ElementType) (shape : FieldShape) (units : UnitTag)
    (converter : Converter) (description : String) : FieldDescriptor :=
  { name, type, shape, units, description := .text description, kind := .converted converter }

/-- The fields of initial conditions; accelerations and densities may be absent. -/
def readRegistry : List FieldDescriptor :=
  [copied "Coordinates" .float64 .vector .length ["x"] "",
   copied "Velocities" .float32 .vector .speed ["v"] "",
   copied "Masses" .float32 .scalar .mass ["conserved", "mass"] "",
   copied "SmoothingLength" .float32 .scalar .length ["h"] "",
   copied "InternalEnergy" .float32 .scalar .energyPerUnitMass ["conserved", "energy"] "",
   copied "ParticleIDs" (.integer .uint64) .scalar .noUnits ["id"] "",
   { copied "Accelerations" .float32 .vector .acceleration ["a_hydro"] "" with
     importance := .optional },
   { copied "Density" .float32 .scalar .density ["primitives", "rho"] "" with
     importance := .optional }]

/-- The fields of snapshots. -/
def writeRegistry : List FieldDescriptor :=
  [computed "Coordinates" .float64 .vector .length .position
     "Co-moving positions of the particles",
   computed "Velocities" .float32 .vector .speed .velocity
     "Peculiar velocities of the particles",
   copied "Masses" .float32 .scalar .mass ["conserved", "mass"] "Masses of the particles",
   copied "SmoothingLength" .float32 .scalar .length ["h"]
     "Co-moving smoothing lengths of the particles",
   computed "InternalEnergy" .float32 .scalar .energyPerUnitMass .internalEnergy
     "Co-moving thermal energies per unit mass of the particles",
   copied "ParticleIDs" (.integer .uint64) .scalar .noUnits ["id"]
     "Unique IDs of the particles",
   copied "Density" .float32 .scalar .density ["primitives", "rho"]
     "Co-moving mass densities of the particles",
   computed "Entropy" .float32 .scalar .entropy .entropy "Co-moving entropies of the particles",
   copied "Pressure" .float32 .scalar .pressure ["primitives", "P"]
     "Co-moving pressures of the particles",
   computed "TotEnergy" .float32 .scalar .energy .totalEnergy "Total energies of the particles",
   computed "Potential" .float32 .scalar .potential .potential
     "Co-moving gravitational potentials of the particles"]

end FieldDescriptor

end MeshlessGas
