/-
Particle records — gas particles, their extended state, and gravity particles.

A gas particle refers to its gravity counterpart by an index, which is negative when
there is none.  Conserved and primitive quantities are grouped.  Each record has a
layout that names its leaves.
-/
import MeshlessGas.Particle.Layout

namespace MeshlessGas

/-- The conserved quantities of a gas particle. -/
structure Conserved (S : Type) where
  mass : S
  momentum : Vec3 S
  energy : S
deriving DecidableEq, Repr

/-- The primitive quantities of a gas particle: density, velocity, pressure. -/
structure Primitives (S : Type) where
  rho : S
  v : Vec3 S
  pressure : S
deriving DecidableEq, Repr

/-- A gas particle. -/
structure Particle (D S : Type) where
  id : UInt64
  /-- Index of the gravity particle it is coupled to, negative if there is none. -/
  gpart : Int64
  x : Vec3 D
  v : Vec3 S
  aHydro : Vec3 S
  /-- Smoothing length. -/
  h : S
  timeBin : Int8
  conserved : Conserved S
  primitives : Primitives S
deriving DecidableEq

/-- What a gas particle carries beyond its record. -/
structure ExtendedState (S : Type) where
  xDiff : Vec3 S
  /-- Velocity at the middle of the step. -/
  vFull : Vec3 S
deriving DecidableEq, Repr

/-- A gravity particle. -/
structure GravityParticle (D S : Type) where
  /-- The negated index of its gas particle, or an identifier of its own. -/
  idOrNegOffset : Int64
  x : Vec3 D
  vFull : Vec3 S
  aGrav : Vec3 S
  mass : S
  potential : S
  timeBin : Int8
deriving DecidableEq

section Zero

variable {D S : Type} [Arithmetic D] [Arithmetic S]

/-- A gas particle at rest in the origin, coupled to nothing. -/
def Particle.zero : Particle D S where
  id := 0
  gpart := -1
  x := .replicate 0.0
  v := .replicate 0.0
  aHydro := .replicate 0.0
  h := 0.0
  timeBin := 0
  conserved := ⟨0.0, .replicate 0.0, 0.0⟩
  primitives := ⟨0.0, .replicate 0.0, 0.0⟩

/-- An extended state of zeros. -/
def ExtendedState.zero : ExtendedState S := ⟨.replicate 0.0, .replicate 0.0⟩

/-- A gravity particle of zeros. -/
def GravityParticle.zero : GravityParticle D S where
  idOrNegOffset := 0
  x := .replicate 0.0
  vFull := .replicate 0.0
  aGrav := .replicate 0.0
  mass := 0.0
  potential := 0.0
  timeBin := 0

end Zero

/-! ## Leaves -/

/-- A leaf of a gas particle. -/
inductive ParticleLeaf where
  | id
  | gpart
  | x
  | v
  | aHydro
  | h
  | timeBin
  | mass
  | momentum
  | energy
  | rho
  | primitiveV
  | pressure
deriving DecidableEq, Repr

/-- A leaf of an extended state. -/
inductive ExtendedLeaf where
  | xDiff
  | vFull
deriving DecidableEq, Repr

/-- A leaf of a gravity particle. -/
inductive GravityLeaf where
  | idOrNegOffset
  | x
  | vFull
  | aGrav
  | mass
  | potential
  | timeBin
deriving DecidableEq, Repr

section Layouts

variable {D S : Type} [Arithmetic D] [Arithmetic S] [Narrowing D S]

/-- The names of a gas particle. -/
def ParticleLeaf.tree : FieldTree ParticleLeaf :=
  .node [("id", .leaf .id), ("gpart", .leaf .gpart), ("x", .leaf .x), ("v", .leaf .v),
    ("a_hydro", .leaf .aHydro), ("h", .leaf .h), ("time_bin", .leaf .timeBin),
    ("conserved",
      .node [("mass", .leaf .mass), ("momentum", .leaf .momentum), ("energy", .leaf .energy)]),
    ("primitives",
      .node [("rho", .leaf .rho), ("v", .leaf .primitiveV), ("P", .leaf .pressure)])]

/-- How a leaf of a gas particle is read and stored. -/
def ParticleLeaf.lens : ParticleLeaf → Lens (Particle D S) D S
  | id => .whole .uint64 (fun p => p.id.toNat) fun n p => { p with id := UInt64.ofInt n }
  | gpart => .whole .int64 (fun p => p.gpart.toInt) fun n p => { p with gpart := Int64.ofInt n }
  | x => .doubles Particle.x fun x p => { p with x }
  | v => .singles Particle.v fun v p => { p with v }
  | aHydro => .singles Particle.aHydro fun aHydro p => { p with aHydro }
  | h => .single Particle.h fun h p => { p with h }
  | timeBin => .whole .int8 (fun p => p.timeBin.toInt) fun n p => { p with timeBin := Int8.ofInt n }
  | mass => .single (fun p => p.conserved.mass) fun mass p =>
      { p with conserved := { p.conserved with mass } }
  | momentum => .singles (fun p => p.conserved.momentum) fun momentum p =>
      { p with conserved := { p.conserved with momentum } }
  | energy => .single (fun p => p.conserved.energy) fun energy p =>
      { p with conserved := { p.conserved with energy } }
  | rho => .single (fun p => p.primitives.rho) fun rho p =>
      { p with primitives := { p.primitives with rho } }
  | primitiveV => .singles (fun p => p.primitives.v) fun v p =>
      { p with primitives := { p.primitives with v } }
  | pressure => .single (fun p => p.primitives.pressure) fun pressure p =>
      { p with primitives := { p.primitives with pressure } }

/-- The layout of gas particles. -/
def Particle.layout : Layout (Particle D S) D S ParticleLeaf :=
  ⟨ParticleLeaf.tree, ParticleLeaf.lens⟩

/-- The layout of extended states. -/
def ExtendedState.layout : Layout (ExtendedState S) D S ExtendedLeaf where
  tree := .node [("x_diff", .leaf .xDiff), ("v_full", .leaf .vFull)]
  lens
    | .xDiff => .singles ExtendedState.xDiff fun xDiff p => { p with xDiff }
    | .vFull => .singles ExtendedState.vFull fun vFull p => { p with vFull }

/-- The names of a gravity particle. -/
def GravityLeaf.tree : FieldTree GravityLeaf :=
  .node [("id_or_neg_offset", .leaf .idOrNegOffset), ("x", .leaf .x),
    ("v_full", .leaf .vFull), ("a_grav", .leaf .aGrav), ("mass", .leaf .mass),
    ("potential", .leaf .potential), ("time_bin", .leaf .timeBin)]

/-- The leaf of a gravity particle with a name; other names are not known. -/
def GravityLeaf.ofName (name : String) : Except Failure GravityLeaf :=
  match tree.follow [name] with
  | .ok (.leaf l) => .ok l
  | _ => .error .noSuchKey

/-- The layout of gravity particles. -/
def GravityParticle.layout : Layout (GravityParticle D S) D S GravityLeaf where
  tree := GravityLeaf.tree
  lens
    | .idOrNegOffset => .whole .int64 (fun p => p.idOrNegOffset.toInt) fun n p =>
        { p with idOrNegOffset := Int64.ofInt n }
    | .x => .doubles GravityParticle.x fun x p => { p with x }
    | .vFull => .singles GravityParticle.vFull fun vFull p => { p with vFull }
    | .aGrav => .singles GravityParticle.aGrav fun aGrav p => { p with aGrav }
    | .mass => .single GravityParticle.mass fun mass p => { p with mass }
    | .potential => .single GravityParticle.potential fun potential p => { p with potential }
    | .timeBin => .whole .int8 (fun p => p.timeBin.toInt) fun n p =>
        { p with timeBin := Int8.ofInt n }

end Layouts

end MeshlessGas
