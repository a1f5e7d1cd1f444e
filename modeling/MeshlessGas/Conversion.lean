/-
Conversion — output quantities from the state of particles.

Every conversion takes particles as a tensor: a single particle has no axes, an array
has one.  Velocities are kept at the middle of a step; the kick factors bring them to
the current tick, and where space expands they become peculiar velocities.  Nothing
here changes a particle.
-/
import MeshlessGas.Box
import MeshlessGas.Context
import MeshlessGas.Particle.Gravity
import MeshlessGas.Particle.State

namespace MeshlessGas

namespace Conversion

variable {D S : Type} [Transcendental D] [Numeral D] [Arithmetic S] [Narrowing D S]

/-! ## Kicks -/

/-- The number of ticks from the middle of a step to the current tick, times the
length of a tick. -/
def elapsed (timeBase : D) (current mid : Tick) : D :=
  Arithmetic.ofInt (current - mid).toInt * timeBase

/-- A tick as a real. -/
def realOfTick (t : Tick) : D := Arithmetic.ofInt t.toInt

/-- The factor of a kind from the middle of a step to the current tick, as the
difference of the factors from the beginning of the step. -/
def kickBetween (c : Cosmology D) (kind : KickKind) (first last : Tensor Tick) (current : Tick) :
    Except Failure (Tensor D) := do
  let mid ← Failure.ofOption .badValue (Tensor.map₂? Timeline.midpoint first last)
  let toCurrent := first.map fun b => c.factor kind (realOfTick b) (realOfTick current)
  let toMid ← Failure.ofOption .badValue
    (Tensor.map₂? (fun b m => c.factor kind (realOfTick b) (realOfTick m)) first mid)
  Failure.ofOption .badValue (Tensor.map₂? (· - ·) toCurrent toMid)

/-- The gravity and hydro kick factors of steps: from the middle of each to the
current tick. -/
def kickFactors (context : Context D S) (first last : Tensor Tick) :
    Except Failure (Tensor D × Tensor D) := do
  let current ← Timeline.tick context.tick
  match context.cosmology with
  | some c =>
    let gravity ← kickBetween c .gravity first last current
    let hydro ← kickBetween c .hydro first last current
    return (gravity, hydro)
  | none =>
    let mid ← Failure.ofOption .badValue (Tensor.map₂? Timeline.midpoint first last)
    let factor := mid.map (elapsed context.timeBase current)
    return (factor, factor)

/-! ## Velocities -/

/-- Accelerations times kick factors, which may be given for each particle or once. -/
def kick (acceleration : Tensor (Vec3 D)) (factor : Tensor D) :
    Except Failure (Tensor (Vec3 D)) :=
  Failure.ofOption .badValue (Tensor.map₂? (fun a k => a.map (· * k)) acceleration factor)

/-- Velocities brought from the last kick to the current time.  Only particles
coupled to a gravity particle feel gravity. -/
def driftedVelocities (p : Tensor (Particle D S)) (xp : Tensor (ExtendedState S))
    (hydro gravity : Tensor D) (gparts : Option (List (GravityParticle D S))) :
    Except Failure (Tensor (Vec3 S)) := do
  let aGrav ← Gravity.gather (fun g => Particle.widenVec (D := D) g.aGrav) (.replicate 0.0) gparts
    (p.map Particle.gpart)
  let hydroKick ← kick (p.map fun p => Particle.widenVec p.aHydro) hydro
  let gravityKick ← kick aGrav gravity
  let add (a b : Tensor (Vec3 D)) : Except Failure (Tensor (Vec3 D)) :=
    Failure.ofOption .badValue (Tensor.map₂? (Vec3.zipWith (· + ·)) a b)
  let v ← add (← add (xp.map fun xp => Particle.widenVec xp.vFull) hydroKick) gravityKick
  return v.map Particle.narrowVec

/-- Peculiar velocities at the current time. -/
def velocities (context : Context D S) (p : Tensor (Particle D S))
    (xp : Tensor (ExtendedState S)) : Except Failure (Tensor (Vec3 S)) := do
  let bins := p.map fun p => Int64.ofInt p.timeBin.toInt
  let first ← Timeline.stepBegins context.tick bins
  let last ← Timeline.stepEnds context.tick bins
  let (gravity, hydro) ← kickFactors context first last
  let v ← driftedVelocities p xp hydro gravity context.gparts
  match context.cosmology with
  | some _ =>
    let scale : S := Narrowing.narrow context.a2Inv
    return v.map fun v => v.map (· * scale)
  | none => return v

/-! ## Positions -/

/-- Vectors laid out along a last axis. -/
def components {α : Type} (t : Tensor (Vec3 α)) : Tensor α :=
  t.spreadOut [3] Vec3.toList Vec3.length_toList

/-- Positions, wrapped into the box when it is periodic. -/
def positions (context : Context D S) (p : Tensor (Particle D S)) : Except Failure (Tensor D) :=
  let x := components (p.map Particle.x)
  if context.periodic then Box.wrapAll x context.dim else .ok x

/-! ## All conversions -/

/-- A single number becomes a row of one. -/
def numbers (t : Tensor S) : NumericArray D S := .singles t.atLeastRow

/-- The quantity that a converter computes. -/
def convert (converter : Converter) (context : Context D S) (p : Tensor (Particle D S))
    (xp : Tensor (ExtendedState S)) : Except Failure (NumericArray D S) :=
  match converter with
  | .internalEnergy => .ok (numbers (p.map (Particle.internalEnergy context.scheme.gamma)))
  | .entropy => .ok (numbers (p.map (Particle.entropy context.scheme.gamma)))
  | .totalEnergy => .ok (numbers (p.map (Particle.totalEnergy context.scheme.totalEnergy)))
  | .position => do return .doubles (← positions context p)
  | .velocity => do return .singles (components (← velocities context p xp))
  | .potential => do
    return numbers (← Gravity.gather GravityParticle.potential 0.0 context.gparts
      (p.map Particle.gpart))
  | .other _ => .error .wrongType

/-- The quantity that a converter computes, which needs a context. -/
def convertWith (converter : Converter) (context : Option (Context D S))
    (p : Tensor (Particle D S)) (xp : Tensor (ExtendedState S)) :
    Except Failure (NumericArray D S) :=
  match converter, context with
  | .other _, _ => .error .wrongType
  | _, none => .error .noSuchAttribute
  | converter, some context => convert converter context p xp

end Conversion

end MeshlessGas
