/-
Storing — values put into arrays.

A value that is a list of lists becomes a rectangular array; ragged lists are refused,
and so is nesting beyond a limit.  Each value inside is stored as a cell: into reals
nothing goes as a NaN, into integers only what is in range, and texts are parsed.  An
array that has no element type yet takes the one that its items have in common.
-/
import MeshlessGas.Element.Scaling
import MeshlessGas.Parameters.Value
import MeshlessGas.Timeline

namespace MeshlessGas

/-- The largest number of axes of an array. -/
def maxRank : Nat := 64

namespace Value

variable {D S : Type} [Arithmetic D] [Numeral D] [Arithmetic S] [Narrowing D S]

mutual

/-- The value as nested rows. -/
def nested : Value D → Nested (Value D)
  | list xs => .row (nestedItems xs)
  | v => .cell v

def nestedItems : List (Value D) → List (Nested (Value D))
  | [] => []
  | x :: xs => nested x :: nestedItems xs

end

/-- The rectangular array of a value with at most a number of axes. -/
def tensor (rank : Nat) (v : Value D) : Except Failure (Tensor (Value D)) := do
  let t ← Failure.ofOption .badValue v.nested.tensor?
  if rank < t.shape.length then throw .badValue
  return t

/-- The length of an axis that a value asks for. -/
def axis : Value D → Except Failure Int
  | int n => .ok n
  | _ => .error .wrongType

/-- The lengths of the axes that a value asks for: one, or a list of them.  The empty text
stands for none. -/
def axes : Value D → Except Failure (List Int)
  | list xs => xs.mapM axis
  | text "" => .ok []
  | v => do return [← v.axis]

/-- The real stored for a value. -/
def storedReal : Value D → Except Failure D
  | none => .ok Numeral.notANumber
  | v => v.toReal

/-- The integer stored for a value. -/
def storedInt (k : IntegerType) (v : Value D) : Except Failure Int := do
  let n ← v.toInt
  if k.holds n then return n else throw .numberOutOfRange

/-- The cell stored for a value. -/
def store (t : ElementType) (v : Value D) : Except Failure (Cell D S) :=
  match t with
  | .integer k => do return .whole (← v.storedInt k)
  | .truth => .ok (Cell.ofBool v.truthy)
  | t => do return (Cell.double (← v.storedReal)).cast t

/-- The reals of a value. -/
def reals (v : Value D) : Except Failure (Tensor D) := do (← v.tensor maxRank).mapM storedReal

/-- The ticks of a value. -/
def ticks (v : Value D) : Except Failure (Tensor Tick) := do
  (← v.tensor maxRank).mapM fun v => do return Int64.ofInt (← v.storedInt .int64)

end Value

namespace NumericArray

variable {D S : Type} [Arithmetic D] [Numeral D] [Arithmetic S] [Narrowing D S]

/-- The array of a value in an element type. -/
def store (t : ElementType) (v : Value D) : Except Failure (NumericArray D S) := do
  return ⟨t, ← (← v.tensor maxRank).mapM (Value.store t)⟩

end NumericArray

/-! ## Arrays without an element type -/

/-- What the items of an array have in common: they are numbers of a type, or all of them
are taken as texts, or they are values of any kind. -/
inductive Content where
  | numbers (t : ElementType)
  | texts
  | values
deriving DecidableEq, Repr

namespace Content

/-- What two items have in common. -/
def join : Content → Content → Content
  | numbers s, numbers t => numbers (s.join t)
  | values, _ | _, values => values
  | texts, _ | _, texts => texts

/-- What one item is: an integer without a type is no number. -/
def ofItem {D : Type} : Value D → Content
  | .bool _ => numbers .truth
  | .int n =>
    if IntegerType.int64.holds n then numbers (.integer .int64)
    else if IntegerType.uint64.holds n then numbers (.integer .uint64)
    else values
  | .real _ => numbers .float64
  | .text _ => texts
  | _ => values

/-- What the items of an array have in common; without items they are doubles. -/
def ofItems {D : Type} : List (Value D) → Content
  | [] => numbers .float64
  | v :: vs => vs.foldl (fun c w => c.join (ofItem w)) (ofItem v)

variable {D S : Type} [Arithmetic D] [Numeral D] [Arithmetic S] [Narrowing D S]

/-- The cell of an item in an element type: a number goes through the type of the
numbers, a text is parsed, and any other value is stored as it is. -/
def store (c : Content) (t : ElementType) (v : Value D) : Except Failure (Cell D S) :=
  match c with
  | numbers s => do return (← v.store s).cast t
  | texts => (Value.text v.asText : Value D).store t
  | values => v.store t

end Content

end MeshlessGas
