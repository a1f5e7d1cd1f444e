/-
Smoothing kernels — the kernels a scheme may use.

A kernel is known by a short name; it has a descriptive name and the ratio of its
compact support to the smoothing length, stored in single precision.
-/
import MeshlessGas.Arithmetic
import MeshlessGas.Failure

namespace MeshlessGas

/-- A smoothing kernel. -/
inductive Kernel where
  | cubicSpline
  | quarticSpline
  | quinticSpline
  | wendlandC2
  | wendlandC4
  | wendlandC6
deriving DecidableEq, Repr

namespace Kernel

/-- All kernels. -/
def all : List Kernel :=
  [cubicSpline, quarticSpline, quinticSpline, wendlandC2, wendlandC4, wendlandC6]

/-- The short name. -/
def name : Kernel → String
  | cubicSpline => "cubic_spline"
  | quarticSpline => "quartic_spline"
  | quinticSpline => "quintic_spline"
  | wendlandC2 => "wendland_c2"
  | wendlandC4 => "wendland_c4"
  | wendlandC6 => "wendland_c6"

/-- The descriptive name. -/
def longName : Kernel → String
  | cubicSpline => "Cubic spline (M4)"
  | quarticSpline => "Quartic spline (M5)"
  | quinticSpline => "Quintic spline (M6)"
  | wendlandC2 => "Wendland-C2"
  | wendlandC4 => "Wendland-C4"
  | wendlandC6 => "Wendland-C6"

/-- The kernel with a short name. -/
def ofName? (s : String) : Option Kernel := all.find? fun k => k.name = s

/-- Short names of all kernels. -/
def names : List String := all.map name

variable {D S : Type} [Transcendental D] [Narrowing D S]

/-- Support radius over smoothing length, before it is stored. -/
def ratio : Kernel → D
  | cubicSpline => 1.825742
  | quarticSpline => 2.018932
  | quinticSpline => 2.195775
  | wendlandC2 => 1.936492
  | wendlandC4 => 2.207940
  | wendlandC6 => 2.449490

/-- Support radius over smoothing length. -/
def gamma (k : Kernel) : D := Narrowing.widen (Narrowing.narrow (k.ratio : D))

/-- The cube of `gamma`, which turns a resolution into a number of neighbours. -/
def gamma3 (k : Kernel) : D := Transcendental.pow k.gamma 3.0

/-- The kernel as it is shown in messages. -/
def shown (k : Kernel) : String := "Kernel(" ++ quoted k.name ++ ")"

theorem ofName?_name (k : Kernel) : ofName? k.name = some k := by
  cases k <;> decide

end Kernel

end MeshlessGas
