/-
Schemes — the choices that fix the hydrodynamics of a run.

A scheme names its gradient reconstruction, Riemann solver, slope limiters,
particle movement, energy convention, kernel and adiabatic index.  `Scheme.ofOptions`
checks the options in that order; `flavour` describes a scheme by named texts.
-/
import MeshlessGas.Parameters.Options
import MeshlessGas.Scheme.Kernel

namespace MeshlessGas

/-- Gradient reconstruction. -/
inductive Gradients where
  | sph
  | gizmo
  | none
deriving DecidableEq, Repr

namespace Gradients

def all : List Gradients := [sph, gizmo, none]

def name : Gradients → String
  | sph => "sph"
  | gizmo => "gizmo"
  | none => "none"

def description : Gradients → String
  | sph => "SPH gradients (Price 2012)"
  | gizmo => "GIZMO gradients (Hopkins 2015)"
  | none => "No gradients (first order scheme)"

def ofName? (s : String) : Option Gradients := all.find? fun g => g.name = s

end Gradients

/-- Solver of the Riemann problem between two particles. -/
inductive RiemannSolver where
  | exact
  | hllc
  | trrs
  | trivial
deriving DecidableEq, Repr

namespace RiemannSolver

def all : List RiemannSolver := [exact, hllc, trrs, trivial]

def name : RiemannSolver → String
  | exact => "exact"
  | hllc => "hllc"
  | trrs => "trrs"
  | trivial => "trivial"

def description : RiemannSolver → String
  | exact => "Exact Riemann solver (Toro 2009)"
  | hllc => "HLLC Riemann solver (Toro 2009)"
  | trrs => "Two Rarefaction Riemann Solver (Toro 2009)"
  | trivial => "Trivial Riemann solver"

def ofName? (s : String) : Option RiemannSolver := all.find? fun r => r.name = s

end RiemannSolver

/-- The hydrodynamics of a run. -/
structure Scheme (D : Type) where
  gradients : Gradients
  riemannSolver : RiemannSolver
  cellSlopeLimiter : Bool
  faceSlopeLimiter : Bool
  fixParticles : Bool
  /-- Whether the conserved energy holds the kinetic energy too. -/
  totalEnergy : Bool
  kernel : Kernel
  /-- Adiabatic index of the gas. -/
  gamma : D
deriving Repr

/-- The options from which a scheme is made. -/
structure SchemeOptions (D : Type) where
  gradients : Value D := .text "gizmo"
  riemannSolver : Value D := .text "exact"
  cellSlopeLimiter : Value D := .bool true
  faceSlopeLimiter : Value D := .bool true
  fixParticles : Value D := .bool false
  totalEnergy : Value D := .bool false
  kernel : Value D := .text "cubic_spline"
  gamma : Value D

namespace Scheme

variable {D : Type} [Arithmetic D] [Numeral D]

/-- The adiabatic index of a monatomic gas. -/
def monatomicGamma : D := 5.0 / 3.0

/-- Names of the options, none of which must be given. -/
def optionNames : List String :=
  ["gradients", "riemann_solver", "cell_slope_limiter", "face_slope_limiter", "fix_particles",
   "total_energy", "kernel", "gamma"]

/-- Options by their names; the others are as when none is given. -/
def namedOptions (o : Options D) : Except Failure (SchemeOptions D) := do
  o.check [] optionNames
  let standard : SchemeOptions D := { gamma := .real monatomicGamma }
  return {
    gradients := o.getD "gradients" standard.gradients
    riemannSolver := o.getD "riemann_solver" standard.riemannSolver
    cellSlopeLimiter := o.getD "cell_slope_limiter" standard.cellSlopeLimiter
    faceSlopeLimiter := o.getD "face_slope_limiter" standard.faceSlopeLimiter
    fixParticles := o.getD "fix_particles" standard.fixParticles
    totalEnergy := o.getD "total_energy" standard.totalEnergy
    kernel := o.getD "kernel" standard.kernel
    gamma := o.getD "gamma" standard.gamma }

/-- Looks a name up among choices.  A value that is no text is never among them,
and what can be no key cannot even be looked up. -/
def choose {α : Type} (ofName? : String → Option α) (unknown : String → Failure) :
    Value D → Except Failure α
  | .text s => Failure.ofOption (unknown s) (ofName? s)
  | v => .error (if v.isKey then unknown v.asText else .wrongType)

/-- Refuses an adiabatic index up to one; what is no number cannot be compared. -/
def checkGamma (v : Value D) : Except Failure Unit :=
  let tooSmall : Except Failure Unit := .error (.adiabaticIndexTooSmall v.asText)
  match v with
  | .real x => if x ≤ 1.0 then tooSmall else .ok ()
  | .int n => if n ≤ 1 then tooSmall else .ok ()
  | .bool _ => tooSmall
  | _ => .error .wrongType

/-- The kernel that a value names. -/
def chooseKernel (v : Value D) : Except Failure Kernel :=
  choose Kernel.ofName? (.unknownKernel · Kernel.names) v

/-- The kernel of some options, of which there is only its name. -/
def kernelOf (o : Options D) : Except Failure Kernel := do
  o.check [] ["name"]
  chooseKernel (o.getD "name" (.text Kernel.cubicSpline.name))

/-- The scheme of some options; the first option that is not accepted decides
the failure. -/
def ofOptions (o : SchemeOptions D) : Except Failure (Scheme D) := do
  let gradients ← choose Gradients.ofName?
    (.unknownGradients · (Gradients.all.map Gradients.name)) o.gradients
  let riemannSolver ← choose RiemannSolver.ofName?
    (.unknownRiemannSolver · (RiemannSolver.all.map RiemannSolver.name)) o.riemannSolver
  checkGamma o.gamma
  let kernel ← chooseKernel o.kernel
  let gamma ← o.gamma.toReal
  return {
    gradients, riemannSolver, kernel, gamma
    cellSlopeLimiter := o.cellSlopeLimiter.truthy
    faceSlopeLimiter := o.faceSlopeLimiter.truthy
    fixParticles := o.fixParticles.truthy
    totalEnergy := o.totalEnergy.truthy }

/-- The scheme without any options. -/
def standard : Scheme D where
  gradients := .gizmo
  riemannSolver := .exact
  cellSlopeLimiter := true
  faceSlopeLimiter := true
  fixParticles := false
  totalEnergy := false
  kernel := .cubicSpline
  gamma := monatomicGamma

/-- The name of the method. -/
def methodName : String := "GIZMO MFV (Hopkins 2015)"

/-- A flag in words. -/
def flagText (b : Bool) : String := if b then "True" else "False"

/-- The scheme as it is shown in messages. -/
def shown (s : Scheme D) : String :=
  "SchemeConfig(gradients=" ++ quoted s.gradients.name ++
    ", riemann_solver=" ++ quoted s.riemannSolver.name ++
    ", cell_slope_limiter=" ++ flagText s.cellSlopeLimiter ++
    ", face_slope_limiter=" ++ flagText s.faceSlopeLimiter ++
    ", fix_particles=" ++ flagText s.fixParticles ++
    ", total_energy=" ++ flagText s.totalEnergy ++
    ", kernel=" ++ quoted s.kernel.name ++
    ", gamma=" ++ Numeral.shortest s.gamma ++ ")"

/-- The description of a scheme: names and texts in the order of storage. -/
def flavour (s : Scheme D) : List (String × String) :=
  [("Gradient reconstruction model", s.gradients.description),
   ("Cell wide slope limiter model",
     if s.cellSlopeLimiter then "Cell wide slope limiter (Springel 2010)"
     else "No cell wide slope limiter"),
   ("Piecewise slope limiter model",
     if s.faceSlopeLimiter then "GIZMO piecewise slope limiter (Hopkins 2015)"
     else "No piecewise slope limiter"),
   ("Riemann solver type", s.riemannSolver.description),
   ("Particle movement",
     if s.fixParticles then "Fixed particles." else "Particles move with flow velocity.")]

/-- Whether the stored internal energies are entropies: never with this method. -/
def storesEntropy : Bool := false

end Scheme

end MeshlessGas
