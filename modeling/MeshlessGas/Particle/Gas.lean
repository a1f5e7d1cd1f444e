/-
Gas — the gas particles of a run with their extended states.

Both are kept in arrays of the same axes, of which there usually is one.  The first
initialisation turns freshly read quantities into conserved ones; it works on arrays with
any axes, as far as the masses can be laid beside the velocities.
-/
import MeshlessGas.Particle.Selection
import MeshlessGas.Particle.State

namespace MeshlessGas

/-- Records in an array with some axes. -/
structure RecordArray (R : Type) where
  records : List R
  axes : List Nat := [records.length]

namespace RecordArray

/-- Number of rows; a single record has none. -/
def rowCount {R : Type} (a : RecordArray R) : Except Failure Nat :=
  Failure.ofOption .indexOutOfRange a.axes.head?

/-- Whether the records form a row. -/
def isRow {R : Type} (a : RecordArray R) : Bool := a.axes = [a.records.length]

end RecordArray

/-- Gas particles with their extended states, in arrays of the same axes. -/
structure Gas (D S : Type) where
  parts : List (Particle D S)
  xparts : List (ExtendedState S)
  axes : List Nat := [parts.length]

namespace Gas

variable {D S : Type}

/-- Particles at rest in an array with some axes. -/
def allocate [Arithmetic D] [Arithmetic S] [Narrowing D S] (axes : List Int) :
    Except Failure (Gas D S) := do
  let parts ← Layout.allocate (Particle.layout : Layout _ D S _) axes .zero
  let xparts ← Layout.allocate (ExtendedState.layout : Layout _ D S _) axes .zero
  return { parts, xparts, axes := axes.map Int.toNat }

/-- Number of rows; a single particle has none. -/
def rowCount (g : Gas D S) : Except Failure Nat := Failure.ofOption .indexOutOfRange g.axes.head?

/-- Whether the particles form a row. -/
def isRow (g : Gas D S) : Bool := g.axes = [g.parts.length]

/-- The particles as a tensor. -/
def partTensor (g : Gas D S) : Tensor (Particle D S) :=
  ((Tensor.vector g.parts).reshape? g.axes).getD (.vector g.parts)

/-- The extended states as a tensor. -/
def stateTensor (g : Gas D S) : Tensor (ExtendedState S) :=
  ((Tensor.vector g.xparts).reshape? g.axes).getD (.vector g.xparts)

variable [Transcendental D] [Arithmetic S] [Narrowing D S]

/-- The particles that some steps lead to, with their extended states. -/
def select (g : Gas D S) (steps : List Selector) :
    Except Failure (Tensor (Particle D S) × Tensor (ExtendedState S)) := do
  let parts ← (Particle.layout : Layout _ D S _).follow g.axes g.parts.length steps
  let states ← (ExtendedState.layout : Layout _ D S _).follow g.axes g.xparts.length steps
  let at? {R : Type} (rs : List R) (s : Spot) : Except Failure R :=
    Failure.ofOption .indexOutOfRange rs[s.record]?
  return (← parts.spots.mapM (at? g.parts), ← states.spots.mapM (at? g.xparts))

/-- The conserved quantities of all particles, before their pressure. -/
def conserve (g : Gas D S) (conservedIsTotal : Bool) : Gas D S :=
  { g with parts := g.parts.map (Particle.conserve conservedIsTotal) }

/-- The first initialisation of all particles. -/
def firstInit (g : Gas D S) (gamma : D) (conservedIsTotal : Bool) : Gas D S :=
  let (parts, xparts) := Particle.firstInitAll gamma conservedIsTotal g.parts g.xparts
  { g with parts, xparts }

/-- The momenta of particles in an array: masses times velocities, where the masses leave the
second axis free. -/
def momenta (g : Gas D S) : Except Failure (List (Vec3 S)) := do
  match g.axes with
  | [] => throw .indexOutOfRange
  | first :: rest =>
    let masses := g.partTensor.map fun p => (Narrowing.widen p.conserved.mass : D)
    let masses ← Failure.ofOption .badValue (masses.reshape? (first :: 1 :: rest))
    let velocities : Tensor D :=
      (g.partTensor.map fun p => Particle.widenVec p.v).spreadOut [3] Vec3.toList Vec3.length_toList
    let products ← Failure.ofOption .badValue (Tensor.map₂? (· * ·) masses velocities)
    let stored ← Failure.ofOption .badValue (products.assignTo? velocities.shape)
    return (pieces g.parts.length 3 stored.cells).map fun cells =>
      Particle.narrowVec ((Vec3.ofList? cells).getD (.replicate 0.0))

/-- The first initialisation with an adiabatic index that may turn out to be no number: what
was computed before it is needed stays. -/
def initialise (g : Gas D S) (gamma : Except Failure D) (conservedIsTotal : Bool) :
    Except Failure Unit × Gas D S :=
  let started : Gas D S :=
    { g with parts := g.parts.map fun p => { p with primitives := { p.primitives with v := p.v } } }
  match g.momenta with
  | .error e => (.error e, started)
  | .ok momenta =>
    let moving (h : Gas D S) : Gas D S :=
      { h with
        parts := List.zipWith
          (fun p momentum => { p with conserved := { p.conserved with momentum } })
          h.parts momenta }
    match gamma with
    | .error e => (.error e, moving (g.conserve conservedIsTotal))
    | .ok gamma => (.ok (), moving (g.firstInit gamma conservedIsTotal))

end Gas

end MeshlessGas
