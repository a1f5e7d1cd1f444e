/-
Closest units — naming the unit of a stored size.

A file stores the size of a base unit as a number in cgs.  It is expressed in the
common unit to which it is closest on a logarithmic scale, with a multiple of five
significant digits.
-/
import MeshlessGas.Units.System

namespace MeshlessGas

namespace BaseUnit

variable {D S : Type} [Transcendental D] [Narrowing D S]

/-- A size in the cgs unit of a dimension, expressed in a named unit.  The number was
stored in some bytes, and is converted in reals of that width. -/
def express (bytes : Nat) (value : D) (d : BaseDimension) (u : NamedUnit) : D :=
  let kept : D → D := Narrowing.toBytes bytes
  kept (kept value * kept ((d.cgsUnit.size : D) / u.size))

/-- How far a size is from a named unit. -/
def distance (bytes : Nat) (value : D) (d : BaseDimension) (u : NamedUnit) : D :=
  Arithmetic.abs (Transcendental.log (express bytes value d u))

/-- The unit at the smallest distance; of equal ones, and of those whose distance
is no number, the first stays. -/
def closest (bytes : Nat) (value : D) (d : BaseDimension) (first : NamedUnit) :
    List NamedUnit → NamedUnit
  | [] => first
  | u :: rest =>
    let nearer := distance bytes value d u < distance bytes value d first
    closest bytes value d (if nearer then u else first) rest

/-- The common unit closest to a stored size. -/
def closestCommon (bytes : Nat) (value : D) (d : BaseDimension) : NamedUnit :=
  closest bytes value d d.cgsUnit d.commonUnits

/-- Significant digits that are kept of a stored size. -/
def keptDigits : Nat := 5

/-- The base unit of a size that was stored in some bytes. -/
def ofStored (bytes : Nat) (value : D) (d : BaseDimension) : BaseUnit D :=
  let u := closestCommon bytes value d
  ⟨Transcendental.roundTo keptDigits (express bytes value d u), u⟩

end BaseUnit

end MeshlessGas
