/-
The periodic box — wrapping coordinates into it.

A coordinate is moved by whole box lengths into the half-open interval from zero
to the box length.  Rounding may land the result on either edge, so it is moved
once more when it does; coordinates that lie inside already are not touched.
-/
import MeshlessGas.Arithmetic
import MeshlessGas.Failure
import MeshlessGas.Tensor.Broadcast

namespace MeshlessGas

namespace Box

variable {D : Type} [Arithmetic D]

/-- A coordinate less the whole box lengths below it. -/
def remainder (x length : D) : D := x - Arithmetic.floor (x / length) * length

/-- Moves a negative remainder up by one box length. -/
def liftNegative (w length : D) : D := if w < 0.0 then w + length else w

/-- Moves a remainder beyond the box down by one box length. -/
def lowerExcess (w length : D) : D := if length ≤ w then w - length else w

/-- A coordinate wrapped into the box. -/
def wrap (x length : D) : D :=
  if 0.0 ≤ x ∧ x < length then x
  else lowerExcess (liftNegative (remainder x length) length) length

/-- Many coordinates wrapped into boxes of many lengths. -/
def wrapAll (x length : Tensor D) : Except Failure (Tensor D) :=
  Failure.ofOption .badValue (Tensor.map₂? wrap x length)

end Box

end MeshlessGas
