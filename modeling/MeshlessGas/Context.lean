/-
Contexts — the global state that particles are converted in.

A context holds the current tick, the length of a tick, the scheme, the box, the
expansion history if there is one, and the gravity particles.
-/
import MeshlessGas.Cosmology.Basic
import MeshlessGas.Element.Storing
import MeshlessGas.Particle.Record
import MeshlessGas.Scheme.Basic

namespace MeshlessGas

/-- The global state at one output. -/
structure Context (D S : Type) where
  tick : Int
  /-- Duration of a tick, or its growth of the logarithm of the scale factor. -/
  timeBase : D
  scheme : Scheme D
  periodic : Bool
  /-- Extent of the box along its axes. -/
  dim : Tensor D
  cosmology : Option (Cosmology D)
  gparts : Option (List (GravityParticle D S))
  /-- Time at tick zero without expansion. -/
  timeBegin : D

namespace Context

variable {D S : Type} [Transcendental D] [Numeral D]

/-- The extent of a box that is not given. -/
def noExtent : Tensor D := .vector [0.0, 0.0, 0.0]

/-- The options from which a context is made. -/
structure Settings (D : Type) where
  tick : Value D
  timeBase : Value D
  periodic : Bool
  /-- The extent of the box, or nothing. -/
  dim : Value D
  timeBegin : Value D

/-- Whether a value is nothing. -/
def isNone : Value D → Bool
  | .none => true
  | _ => false

/-- The context of some options.  A periodic box needs its extent.  The tick is a whole number, and
the expansion history is moved to the time that was given for it. -/
def ofSettings (o : Settings D) (scheme : Scheme D) (cosmology : Option (Cosmology D))
    (gparts : Option (List (GravityParticle D S))) : Except Failure (Context D S) := do
  if o.periodic ∧ isNone o.dim then throw .missingDimensions
  let tick ← o.tick.toInt
  let timeBase ← o.timeBase.toReal
  let dim ← if isNone o.dim then pure noExtent else o.dim.reals
  let cosmology ← match cosmology with
    | none => pure none
    | some c => some <$> c.moveTo o.tick
  let timeBegin ← o.timeBegin.toReal
  return { tick, timeBase, scheme, periodic := o.periodic, dim, cosmology, gparts, timeBegin }

/-- The clock that a parameter set asks for: length of a tick, time at tick zero, and
expansion history. -/
structure Clock (D : Type) where
  timeBase : D
  timeBegin : D
  cosmology : Option (Cosmology D)

/-- Reads the clock: from the cosmology, or from the time interval, which is spread
over the timeline. -/
def clockOf (p : ParameterSet D) (scheme : Scheme D) (withCosmology : Bool) :
    Except Failure (Clock D) := do
  if withCosmology then
    let c ← Cosmology.ofParameters p (.real scheme.gamma) .cosmological
    return ⟨c.timeBase, 0.0, some c⟩
  else
    let first ← p.real "TimeIntegration:time_begin"
    let last ← p.real "TimeIntegration:time_end"
    return ⟨(last - first) / Cosmology.ticks, first, none⟩

/-- A context whose clock comes from a parameter set. -/
def ofParameters (p : ParameterSet D) (tick : Value D) (scheme : Scheme D)
    (withCosmology periodic : Bool) (dim : Value D)
    (gparts : Option (List (GravityParticle D S))) : Except Failure (Context D S) := do
  let clock ← clockOf p scheme withCosmology
  ofSettings
    { tick, timeBase := .real clock.timeBase, periodic, dim, timeBegin := .real clock.timeBegin }
    scheme clock.cosmology gparts

/-- Whether space expands. -/
def withCosmology (c : Context D S) : Bool := c.cosmology.isSome

/-- The scale factor; one without expansion. -/
def a (c : Context D S) : D :=
  match c.cosmology with
  | some k => k.epoch.a
  | none => 1.0

/-- The inverse square of the scale factor. -/
def a2Inv (c : Context D S) : D :=
  match c.cosmology with
  | some k => k.epoch.a2Inv
  | none => 1.0

/-- The current time; the scale factor where space expands. -/
def time (c : Context D S) : Except Failure D :=
  match c.cosmology with
  | some k => .ok k.epoch.a
  | none => do return c.timeBegin + (← Number.realOfInt c.tick) * c.timeBase

/-- The context as it is shown in messages. -/
def shown (c : Context D S) : String :=
  "SimulationContext(ti_current=" ++ toString c.tick ++
    ", time_base=" ++ Numeral.shortest c.timeBase ++
    ", periodic=" ++ Scheme.flagText c.periodic ++
    ", with_cosmology=" ++ Scheme.flagText c.withCosmology ++ ")"

end Context

end MeshlessGas
