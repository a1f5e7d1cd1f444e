/-
Scaling — arrays times a number.

A plain real does not widen singles: it is rounded to their precision first.  A
stored number or array has an element type of its own, and the product is taken in
the smallest type that holds both.
-/
import MeshlessGas.Element
import MeshlessGas.Failure

namespace MeshlessGas

namespace IntegerType

/-- The smallest type that holds the numbers of two integer types: an integer type
where there is one, and doubles otherwise. -/
def join (j k : IntegerType) : ElementType :=
  if j.signed = k.signed then .integer ⟨j.signed, max j.bytes k.bytes⟩
  else
    let signed := if j.signed then j else k
    let unsigned := if j.signed then k else j
    if unsigned.bytes < signed.bytes then .integer signed
    else if unsigned.bytes < 8 then .integer ⟨true, 2 * unsigned.bytes⟩
    else .float64

end IntegerType

namespace ElementType

/-- The smallest type that holds the numbers of two types. Singles hold integers of
at most two bytes, and halves those of one byte. -/
def join : ElementType → ElementType → ElementType
  | truth, t | t, truth => t
  | float16, float16 => float16
  | float16, float32 | float32, float16 | float32, float32 => float32
  | float16, integer k | integer k, float16 =>
    if k.bytes ≤ 1 then float16 else if k.bytes ≤ 2 then float32 else float64
  | float32, integer k | integer k, float32 => if k.bytes ≤ 2 then float32 else float64
  | integer j, integer k => j.join k
  | float64, _ | _, float64 => float64

end ElementType

namespace NumericArray

variable {D S : Type} [Arithmetic D] [Arithmetic S] [Narrowing D S]

/-- An array times a real. Integers become doubles. -/
def scaled (a : NumericArray D S) (factor : D) : NumericArray D S :=
  match a.type with
  | .float32 =>
    ⟨.float32, a.cells.map fun c => .single (c.toSingle * Narrowing.narrow factor)⟩
  | .float16 =>
    ⟨.float16, a.cells.map fun c =>
      .double (Narrowing.half (c.toDouble * Narrowing.half factor))⟩
  | _ => ⟨.float64, a.cells.map fun c => .double (c.toDouble * factor)⟩

/-- The real parts of an array times a complex number, of which the real part is given. The
product has the precision of singles at least. -/
def scaledComplex (a : NumericArray D S) (re : D) : NumericArray D S :=
  if a.type = .float16 then (a.cast .float32).scaled re else a.scaled re

/-- The product of two cells in an element type; integers wrap. -/
def product (t : ElementType) (x y : Cell D S) : Cell D S :=
  match t with
  | .float64 => .double (x.toDouble * y.toDouble)
  | .float32 => .single (x.toSingle * y.toSingle)
  | .float16 => .double (Narrowing.half (Narrowing.half x.toDouble * Narrowing.half y.toDouble))
  | .truth => Cell.ofBool (x.truthy && y.truthy)
  | .integer k => .whole (k.wrap (x.toWhole k * y.toWhole k))

/-- The product of two arrays over their common shape. -/
def times (a b : NumericArray D S) : Except Failure (NumericArray D S) := do
  let joined := a.type.join b.type
  return ⟨joined, ← Failure.ofOption .badValue (Tensor.map₂? (product joined) a.cells b.cells)⟩

/-- Number of rows; a single number has none. -/
def rowCount (a : NumericArray D S) : Except Failure Nat :=
  Failure.ofOption .indexOutOfRange a.shape.head?

end NumericArray

end MeshlessGas
