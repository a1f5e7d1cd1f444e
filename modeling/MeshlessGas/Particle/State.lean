/-
Particle state — equation of state, energies, and the first initialisation.

Stored numbers are widened, combined in double precision and rounded once when they
are stored again.  Particles without density have no internal energy and no entropy;
particles without mass have no kinetic energy.
-/
import MeshlessGas.Particle.Record

namespace MeshlessGas

namespace Particle

variable {D S : Type} [Transcendental D] [Arithmetic S] [Narrowing D S]

/-- A vector of stored numbers, widened. -/
def widenVec (v : Vec3 S) : Vec3 D := v.map Narrowing.widen

/-- A vector stored in single precision. -/
def narrowVec (v : Vec3 D) : Vec3 S := v.map Narrowing.narrow

/-- The sum of the squares of the components. -/
def normSq (v : Vec3 D) : D := (v.map fun x => x * x).sum

/-- Internal energy per unit mass of an ideal gas. -/
def specificEnergy (gamma rho pressure : D) : D :=
  if 0.0 < rho then pressure / ((gamma - 1.0) * rho) else 0.0

/-- The entropic function of an ideal gas. -/
def entropicFunction (gamma rho pressure : D) : D :=
  if 0.0 < rho then pressure / Transcendental.pow rho gamma else 0.0

/-- Kinetic energy of a momentum. -/
def kineticEnergy (mass : D) (momentum : Vec3 D) : D :=
  if 0.0 < mass then 0.5 * normSq momentum / mass else 0.0

/-- Comoving internal energy per unit mass. -/
def internalEnergy (gamma : D) (p : Particle D S) : S :=
  Narrowing.narrow
    (specificEnergy gamma (Narrowing.widen p.primitives.rho)
      (Narrowing.widen p.primitives.pressure))

/-- Comoving entropic function. -/
def entropy (gamma : D) (p : Particle D S) : S :=
  Narrowing.narrow
    (entropicFunction gamma (Narrowing.widen p.primitives.rho)
      (Narrowing.widen p.primitives.pressure))

/-- Total energy.  The conserved energy holds it already, or holds the internal
energy only and the kinetic energy is added. -/
def totalEnergy (conservedIsTotal : Bool) (p : Particle D S) : S :=
  let energy : D := Narrowing.widen p.conserved.energy
  if conservedIsTotal then Narrowing.narrow energy
  else
    Narrowing.narrow
      (energy + kineticEnergy (Narrowing.widen p.conserved.mass) (widenVec p.conserved.momentum))

/-- Turns freshly read quantities into conserved ones: the specific energy becomes the
energy of the particle, and the momentum follows from the velocity. -/
def conserve (conservedIsTotal : Bool) (p : Particle D S) : Particle D S :=
  let mass : D := Narrowing.widen p.conserved.mass
  let v : Vec3 D := widenVec p.v
  let internal := mass * Narrowing.widen p.conserved.energy
  let energy := if conservedIsTotal then internal + 0.5 * mass * normSq v else internal
  { p with
    conserved :=
      { p.conserved with
        momentum := narrowVec (v.map fun x => mass * x)
        energy := Narrowing.narrow energy }
    primitives := { p.primitives with v := narrowVec v } }

/-- The pressure of a freshly read particle, whose conserved energy is still specific:
from the density where there is one. -/
def firstPressure (gamma : D) (p : Particle D S) : S :=
  let rho : D := Narrowing.widen p.primitives.rho
  if 0.0 < rho then Narrowing.narrow ((gamma - 1.0) * rho * Narrowing.widen p.conserved.energy)
  else p.primitives.pressure

/-- The first initialisation of a particle: its conserved quantities and its pressure. -/
def firstInit (gamma : D) (conservedIsTotal : Bool) (p : Particle D S) : Particle D S :=
  let q := conserve conservedIsTotal p
  { q with primitives := { q.primitives with pressure := firstPressure gamma p } }

/-- The extended state of a freshly initialised particle. -/
def firstInitExtended (p : Particle D S) (xp : ExtendedState S) : ExtendedState S :=
  { xp with vFull := p.v }

/-- The first initialisation of many particles. -/
def firstInitAll (gamma : D) (conservedIsTotal : Bool) (parts : List (Particle D S))
    (xparts : List (ExtendedState S)) : List (Particle D S) × List (ExtendedState S) :=
  (parts.map (firstInit gamma conservedIsTotal), List.zipWith firstInitExtended parts xparts)

end Particle

end MeshlessGas
