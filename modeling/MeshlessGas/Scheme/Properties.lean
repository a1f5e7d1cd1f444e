/-
Scheme properties — the numbers derived once from the resolution options.

The target number of neighbours follows from the resolution and the kernel, and
the limit on the change of the smoothing length from the allowed change in volume.
A negative volume change has a complex logarithm.  Options are kept as they were
given and only become numbers where a formula or a format needs one.
-/
import MeshlessGas.Archive.Attribute
import MeshlessGas.Parameters.Set
import MeshlessGas.Scheme.Basic

namespace MeshlessGas

/-- The logarithm of a change in length: real, or complex for negative volumes. -/
inductive LogChange (D : Type) where
  | real (x : D)
  | complex (re im : D)
deriving Repr

namespace LogChange

variable {D : Type} [Transcendental D] [Numeral D]

/-- One third of the logarithm of a volume change. -/
def ofVolumeChange (change : D) : LogChange D :=
  let third : D := 1.0 / 3.0
  if change < 0.0 ∧ Arithmetic.isFinite change then
    complex (Transcendental.log (Transcendental.pow (-change) third)) (Transcendental.pi * third)
  else
    real (Transcendental.log (Transcendental.pow (Arithmetic.abs change) third))

/-- The volume change of a length change; of a complex one the real part. -/
def volumeChange : LogChange D → D
  | real x => Transcendental.pow (Transcendental.exp x) 3.0
  | complex re im =>
    Transcendental.pow (Transcendental.exp re) 3.0 * Transcendental.cos (3.0 * im)

/-- The real part. -/
def realPart : LogChange D → D
  | real x => x
  | complex re _ => re

/-- The logarithm with six places. -/
def shown : LogChange D → String
  | real x => Numeral.fixed 6 x
  | complex re im =>
    Numeral.fixed 6 re ++ (if im < 0.0 then "" else "+") ++ Numeral.fixed 6 im ++ "j"

end LogChange

/-- Number of iterations unless another is asked for. -/
def defaultIterations : Int := 30

/-- The resolution options of a scheme. -/
structure Resolution (D : Type) where
  eta : Value D
  deltaNeighbours : Value D
  maxIterations : Value D := .int defaultIterations
  maxVolumeChange : Value D

/-- What follows from the resolution options. -/
structure DerivedResolution (D : Type) where
  eta : Value D
  targetNeighbours : D
  deltaNeighbours : Value D
  maxIterations : Int
  logMaxLengthChange : LogChange D

/-- The allowed change in volume unless another is asked for. -/
def defaultVolumeChange {D : Type} [Arithmetic D] : D := 2.0

namespace Resolution

variable {D : Type} [Transcendental D] [Numeral D]

/-- Names of the options that may be left out. -/
def optional : List String := ["max_smoothing_iterations", "max_volume_change"]

/-- Resolution options by their names; the name of the resolution itself is given. -/
def named (eta : String) (o : Options D) : Resolution D where
  eta := o.need eta
  deltaNeighbours := o.need "delta_neighbours"
  maxIterations := o.getD "max_smoothing_iterations" (.int defaultIterations)
  maxVolumeChange := o.getD "max_volume_change" (.real defaultVolumeChange)

/-- The cube of a resolution.  The cube of a finite real must be finite; integers
are cubed exactly. -/
def cube : Value D → Except Failure D
  | .real x =>
    let y := Transcendental.pow x 3.0
    if Arithmetic.isFinite x ∧ ¬ Arithmetic.isFinite y then .error .numberOutOfRange else .ok y
  | .int n => Number.realOfInt (n * n * n)
  | v => v.number

/-- The numbers that follow from the options, for a kernel with the given cube of
its support ratio. -/
def derive (r : Resolution D) (kernelGamma3 : Value D) :
    Except Failure (DerivedResolution D) := do
  let gamma3 ← kernelGamma3.number
  let eta3 ← cube r.eta
  let maxIterations ← r.maxIterations.toInt
  let change ← r.maxVolumeChange.number
  return {
    eta := r.eta
    targetNeighbours := (4.0 : D) * Transcendental.pi * gamma3 * eta3 / 3.0
    deltaNeighbours := r.deltaNeighbours
    maxIterations
    logMaxLengthChange := .ofVolumeChange change }

/-- What follows from options by their names, with the cube of a kernel's support ratio
among them. -/
def deriveNamed (o : Options D) : Except Failure (DerivedResolution D) := do
  o.check ["eta", "kernel_gamma3", "delta_neighbours"] optional
  (named "eta" o).derive (o.need "kernel_gamma3")

end Resolution

/-- The properties of a scheme for a run. -/
structure SchemeProperties (D : Type) where
  scheme : Scheme D
  /-- The Courant number of the time step. -/
  courant : Value D
  derived : DerivedResolution D

namespace SchemeProperties

variable {D S : Type} [Transcendental D] [Numeral D] [Arithmetic S] [Narrowing D S]

/-- The properties of a scheme at a resolution. -/
def ofResolution (scheme : Scheme D) (r : Resolution D) (courant : Value D) :
    Except Failure (SchemeProperties D) := do
  let derived ← r.derive (.real scheme.kernel.gamma3)
  return { scheme, courant, derived }

/-- The properties of a scheme for options by their names. -/
def ofOptions (scheme : Scheme D) (o : Options D) : Except Failure (SchemeProperties D) := do
  o.check ["eta_neighbours", "delta_neighbours", "CFL_condition"] Resolution.optional
  ofResolution scheme (Resolution.named "eta_neighbours" o) (o.need "CFL_condition")

/-- The properties that a parameter set asks for. -/
def ofParameters (params : ParameterSet D) (scheme : Scheme D) :
    Except Failure (SchemeProperties D) := do
  let eta ← params.real "SPH:resolution_eta"
  let delta ← params.real "SPH:delta_neighbours"
  let iterations ← params.intOr "SPH:max_ghost_iterations" defaultIterations
  let courant ← params.real "SPH:CFL_condition"
  let change ← params.realOr "SPH:max_volume_change" defaultVolumeChange
  ofResolution scheme
    { eta := .real eta
      deltaNeighbours := .real delta
      maxIterations := .int iterations
      maxVolumeChange := .real change }
    (.real courant)

/-- The allowed change in volume. -/
def maxVolumeChange (p : SchemeProperties D) : D := p.derived.logMaxLengthChange.volumeChange

/-- A value with a fixed number of places: texts have no such form. -/
def placed (places : Nat) : Value D → Except Failure String
  | .text _ => .error .badValue
  | v => do return Numeral.fixed places (← v.toReal)

/-- The properties in words, a line for each. -/
def summary (p : SchemeProperties D) : Except Failure (List String) := do
  let delta ← placed 2 p.derived.deltaNeighbours
  let eta ← placed 6 p.derived.eta
  let courant ← placed 4 p.courant
  let lines := [
    "Adiabatic index gamma: " ++ Numeral.fixed 6 p.scheme.gamma ++ ".",
    "Hydrodynamic scheme: " ++ Scheme.methodName ++ ".",
    "Hydrodynamic kernel: " ++ p.scheme.kernel.longName ++ " with " ++
      Numeral.fixed 2 p.derived.targetNeighbours ++ " +/- " ++ delta ++
      " neighbours (eta=" ++ eta ++ ").",
    "Hydrodynamic integration: CFL parameter: " ++ courant ++ ".",
    "Hydrodynamic integration: Max change of volume: " ++ Numeral.fixed 2 p.maxVolumeChange ++
      " (max|dlog(h)/dt|=" ++ p.derived.logMaxLengthChange.shown ++ ")."]
  if p.derived.maxIterations = defaultIterations then return lines
  return lines ++ [
    "Maximal iterations in ghost task set to " ++ toString p.derived.maxIterations ++
      " (default is " ++ toString defaultIterations ++ ")"]

/-- A list of one value stored in single precision. -/
def storedSingle (v : Value D) : Except Failure (Attribute D S) := do
  return .numbers (← NumericArray.store .float32 (.list [v]))

/-- Attribute of the adiabatic index. -/
def gammaName : String := "Adiabatic index"

/-- The properties as they are stored, in the order of storage. -/
def attributes (p : SchemeProperties D) : Except Failure (List (String × Attribute D S)) := do
  let delta ← storedSingle p.derived.deltaNeighbours
  let eta ← storedSingle p.derived.eta
  let courant ← storedSingle p.courant
  let iterations ← storedSingle (.int p.derived.maxIterations : Value D)
  let single (x : D) : Attribute D S := .singles [Narrowing.narrow x]
  return [
    (gammaName, single p.scheme.gamma),
    ("Scheme", .text Scheme.methodName),
    ("Kernel function", .text p.scheme.kernel.longName),
    ("Kernel target N_ngb", single p.derived.targetNeighbours),
    ("Kernel delta N_ngb", delta),
    ("Kernel eta", eta),
    ("CFL parameter", courant),
    ("Volume log(max(delta h))", single p.derived.logMaxLengthChange.realPart),
    ("Volume max change time-step", single p.maxVolumeChange),
    ("Max ghost iterations", iterations)]

end SchemeProperties

end MeshlessGas
