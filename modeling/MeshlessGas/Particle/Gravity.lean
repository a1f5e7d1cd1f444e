/-
Gravity — coupling gas particles to gravity particles, and looking through it.

Linking couples the first gravity particles to the gas particles in order: each
refers to the other, by index and by negated index.  Gathering reads the gravity
particles behind a tensor of indices; negative indices, and all of them when there
are no gravity particles, give zero.
-/
import MeshlessGas.Particle.Record
import MeshlessGas.Timeline

namespace MeshlessGas

namespace Gravity

variable {D S : Type}

/-- Gas particles with the indices of their gravity particles, counted from
`start`. -/
def coupleParticles (start : Nat) : List (Particle D S) → List (Particle D S)
  | [] => []
  | p :: ps => { p with gpart := Int64.ofNat start } :: coupleParticles (start + 1) ps

/-- Gravity particles with the position, mass and negated index of their gas
particles; those beyond the gas particles stay as they are. -/
def coupleGravity (start : Nat) :
    List (Particle D S) → List (GravityParticle D S) → List (GravityParticle D S)
  | p :: ps, g :: gs =>
    { g with idOrNegOffset := -Int64.ofNat start, x := p.x, mass := p.conserved.mass } ::
      coupleGravity (start + 1) ps gs
  | _, gs => gs

/-- Couples gravity particles to all gas particles, of which there must not be
more. -/
def link (parts : List (Particle D S)) (gparts : List (GravityParticle D S)) :
    Except Failure (List (Particle D S) × List (GravityParticle D S)) :=
  if gparts.length < parts.length then
    .error (.tooFewGravityParticles parts.length gparts.length)
  else .ok (coupleParticles 0 parts, coupleGravity 0 parts gparts)

/-- What a gravity particle holds for an index. -/
def gatherOne {α : Type} (value : GravityParticle D S → α) (zero : α)
    (gparts : List (GravityParticle D S)) (index : Tick) : Except Failure α :=
  if index < 0 then .ok zero
  else Failure.ofOption .indexOutOfRange (gparts[index.toInt.toNat]?.map value)

/-- What the gravity particles hold for many indices. -/
def gather {α : Type} (value : GravityParticle D S → α) (zero : α)
    (gparts : Option (List (GravityParticle D S))) (index : Tensor Tick) :
    Except Failure (Tensor α) :=
  match gparts with
  | none | some [] => .ok (index.map fun _ => zero)
  | some gs => index.mapM (gatherOne value zero gs)

variable [Arithmetic D] [Arithmetic S] [Narrowing D S]

/-- One leaf of the gravity particles behind many indices. -/
def lookup (gparts : Option (List (GravityParticle D S))) (index : Tensor Tick)
    (leaf : GravityLeaf) : Except Failure (NumericArray D S) := do
  let lens := (GravityParticle.layout : Layout (GravityParticle D S) D S GravityLeaf).lens leaf
  let found ← gather id .zero gparts index
  return ⟨lens.type, found.spreadOut lens.shape.shape lens.get lens.length_get⟩

end Gravity

end MeshlessGas
