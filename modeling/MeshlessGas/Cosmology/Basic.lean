/-
Cosmologies — expansion histories on the integer timeline.

The timeline is uniform in the logarithm of the scale factor: tick `t` stands for
`aBegin * exp (t * timeBase)`.  The kick and drift integrals from the beginning are
tabulated once, uniformly in ticks, and a factor between two ticks is the difference
of the table at both.  `update` moves the current tick and shares the tables; `moveTo` does so for
times that need not be whole.
-/
import MeshlessGas.Cosmology.Expansion
import MeshlessGas.Cosmology.Table
import MeshlessGas.Parameters.Options
import MeshlessGas.Parameters.Set
import MeshlessGas.Scheme.Basic
import MeshlessGas.Timeline
import MeshlessGas.Units.System

namespace MeshlessGas

/-- The options from which a cosmology is made. -/
structure CosmologyOptions (D : Type) where
  h : Value D
  aBegin : Value D
  aEnd : Value D
  omegaM : Value D
  omegaLambda : Value D
  omegaB : Value D
  omegaR : Value D
  w0 : Value D
  wA : Value D
  gamma : Value D

namespace CosmologyOptions

variable {D : Type} [Arithmetic D]

/-- Names of the options that must be given. -/
def required : List String := ["h", "a_begin", "a_end", "Omega_m", "Omega_lambda"]

/-- Names of the options that may be left out. -/
def optional : List String := ["Omega_b", "Omega_r", "w_0", "w_a", "gamma"]

/-- Options by their names.  Densities other than those of matter and vacuum vanish
unless they are given, and dark energy is a cosmological constant. -/
def named (o : Options D) : Except Failure (CosmologyOptions D) := do
  o.check required optional
  return {
    h := o.need "h"
    aBegin := o.need "a_begin"
    aEnd := o.need "a_end"
    omegaM := o.need "Omega_m"
    omegaLambda := o.need "Omega_lambda"
    omegaB := o.getD "Omega_b" (.real 0.0)
    omegaR := o.getD "Omega_r" (.real 0.0)
    w0 := o.getD "w_0" (.real (-1.0))
    wA := o.getD "w_a" (.real 0.0)
    gamma := o.getD "gamma" (.real Scheme.monatomicGamma) }

end CosmologyOptions

/-- The scale factor at a tick and what follows from it. -/
structure Epoch (D : Type) where
  tick : Int
  a : D
  aInv : D
  a2Inv : D
  redshift : D
deriving Repr

/-- An expansion history at a current tick. -/
structure Cosmology (D : Type) where
  /-- The options as they were given, for messages. -/
  options : CosmologyOptions D
  expansion : Expansion D
  /-- Growth of the logarithm of the scale factor in one tick. -/
  timeBase : D
  tables : KickKind → PointTable D
  epoch : Epoch D

namespace Cosmology

variable {D : Type} [Transcendental D] [Numeral D]

/-- Number of points of a table. -/
def tableLength : Nat := 10000

/-- The points of the tables, evenly spaced from zero to one. -/
def tablePoints : List D :=
  (List.range (tableLength - 1)).map
      (fun i : Nat => Arithmetic.ofInt (i : Int) * (1.0 / Arithmetic.ofInt (tableLength - 1 : Nat)))
    ++ [1.0]

/-- The scale factor at a fraction of the timeline. -/
def scaleFactorAt (c : Expansion D) (x : D) : D :=
  c.aBegin * Transcendental.exp (x * Transcendental.log c.growth)

/-- The cumulative integral of a kind over the timeline. -/
def table (c : Expansion D) (kind : KickKind) : PointTable D :=
  let samples := (tablePoints : List D).map fun x =>
    let a := scaleFactorAt c x
    (a, c.integrand kind a)
  ⟨(tablePoints : List D).toArray, (cumulate 0.0 samples).toArray⟩

/-- The number of ticks of the timeline. -/
def ticks : D := Arithmetic.ofInt Timeline.length

/-- The growth of the logarithm of the scale factor in one tick. -/
def timeBaseOf (c : Expansion D) : D := Transcendental.log c.growth / ticks

/-- The scale factor after a number of ticks. -/
def scaleFactorAfter (c : Expansion D) (timeBase t : D) : D :=
  c.aBegin * Transcendental.exp (t * timeBase)

/-- The epoch at a time in ticks; the scale factor must not vanish.  Of a time between two ticks the
epoch has the integer part, but the scale factor of the time itself. -/
def epochAt (c : Expansion D) (timeBase : D) (time : Value D) : Except Failure (Epoch D) := do
  let tick ← time.toInt
  let a := scaleFactorAfter c timeBase (← time.toReal)
  let inv ← quotient 1.0 a
  return ⟨tick, a, inv, inv * inv, inv - 1.0⟩

/-- The Hubble constant of `h` in a unit system: a hundred kilometres per second and
megaparsec. -/
def hubbleOf (h : D) (units : UnitSystem D) : D :=
  100.0 * h * (1000.0 / NamedUnit.megaparsec.size) * (units.time.multiple * units.time.unit.size)

/-- Refuses scale factors that are not positive and in order. The last one counts only
where the first is positive. -/
def checkScaleFactors (o : CosmologyOptions D) : Except Failure Unit := do
  let positive ← Value.less (.real 0.0) o.aBegin
  let ordered ← if positive then o.aBegin.less o.aEnd else pure false
  if ordered then return ()
  else throw (.scaleFactorRange o.aBegin.asText o.aEnd.asText)

/-- The density that is left for curvature. -/
def curvature (omegaM omegaR omegaLambda : Value D) : Except Failure D := do
  let radiating ← (← omegaM.operand).add (← omegaR.operand)
  let total ← radiating.add (← omegaLambda.operand)
  return 1.0 - (← total.toReal)

/-- The expansion history of some options. -/
def expansionOf (o : CosmologyOptions D) (units : UnitSystem D) : Except Failure (Expansion D) := do
  checkScaleFactors o
  let omegaK ← curvature o.omegaM o.omegaR o.omegaLambda
  let hubble := hubbleOf (← o.h.number) units
  let growth ← (← o.aEnd.operand).quotient (← o.aBegin.operand)
  let aBegin ← o.aBegin.number
  let wA ← o.wA.number
  let w0 ← o.w0.number
  let omegaR ← o.omegaR.number
  let omegaM ← o.omegaM.number
  let omegaLambda ← o.omegaLambda.number
  let gamma ← o.gamma.number
  return { aBegin, growth, omegaM, omegaLambda, omegaR, omegaK, w0, wA, gamma, hubble }

/-- The cosmology of some options at the beginning of the timeline. -/
def ofOptions (o : CosmologyOptions D) (units : UnitSystem D) : Except Failure (Cosmology D) := do
  let expansion ← expansionOf o units
  let timeBase := timeBaseOf expansion
  let drift := table expansion .drift
  let gravity := table expansion .gravity
  let hydro := table expansion .hydro
  let epoch ← epochAt expansion timeBase (.int 0)
  return {
    options := o, expansion, timeBase, epoch
    tables := fun
      | .drift => drift
      | .gravity => gravity
      | .hydro => hydro }

/-- The cosmology that a parameter set asks for.  Cold dark matter adds to the
baryons; without it the matter density itself is read. -/
def ofParameters (p : ParameterSet D) (gamma : Value D) (units : UnitSystem D) :
    Except Failure (Cosmology D) := do
  let omegaB ← p.real "Cosmology:Omega_b"
  let omegaM ←
    if p.contains "Cosmology:Omega_cdm" then do pure ((← p.real "Cosmology:Omega_cdm") + omegaB)
    else p.real "Cosmology:Omega_m"
  let h ← p.real "Cosmology:h"
  let aBegin ← p.real "Cosmology:a_begin"
  let aEnd ← p.real "Cosmology:a_end"
  let omegaLambda ← p.real "Cosmology:Omega_lambda"
  let omegaR ← p.realOr "Cosmology:Omega_r" 0.0
  let w0 ← p.realOr "Cosmology:w_0" (-1.0)
  let wA ← p.realOr "Cosmology:w_a" 0.0
  ofOptions
    { h := .real h, aBegin := .real aBegin, aEnd := .real aEnd, omegaM := .real omegaM
      omegaLambda := .real omegaLambda, omegaB := .real omegaB, omegaR := .real omegaR
      w0 := .real w0, wA := .real wA, gamma }
    units

/-- The same cosmology at another time in ticks. -/
def moveTo (c : Cosmology D) (time : Value D) : Except Failure (Cosmology D) := do
  return { c with epoch := ← epochAt c.expansion c.timeBase time }

/-- The same cosmology at another tick. -/
def update (c : Cosmology D) (tick : Int) : Except Failure (Cosmology D) := c.moveTo (.int tick)

/-- The scale factor at a tick given as a real. -/
def scaleFactor (c : Cosmology D) (t : D) : D := scaleFactorAfter c.expansion c.timeBase t

/-- The integral of a kind from the beginning to a tick given as a real. -/
def integral (c : Cosmology D) (kind : KickKind) (t : D) : D := (c.tables kind).eval (t / ticks)

/-- The factor of a kind between two ticks. -/
def factor (c : Cosmology D) (kind : KickKind) (first last : D) : D :=
  c.integral kind last - c.integral kind first

/-- The factors of a kind between many pairs of ticks. -/
def factors (c : Cosmology D) (kind : KickKind) (first last : Tensor D) :
    Except Failure (Tensor D) :=
  Failure.ofOption .badValue
    (Tensor.map₂? (fun y x => y - x) (last.map (c.integral kind)) (first.map (c.integral kind)))

/-- The cosmology as it is shown in messages. -/
def shown (c : Cosmology D) : String :=
  "Cosmology(h=" ++ c.options.h.asText ++ ", Omega_m=" ++ c.options.omegaM.asText ++
    ", Omega_lambda=" ++ c.options.omegaLambda.asText ++ ", a=" ++
    Numeral.general 4 c.epoch.a ++ ")"

end Cosmology

end MeshlessGas
