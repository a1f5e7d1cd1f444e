/-
Elements — the storage types of arrays and their cells.

A cell is a double, a single or an integer; an element type says how a cell is
stored, where numbers of half precision are doubles that need no more digits, and truth
values are the integers zero and one.
`Cell.cast` is storing: rounding to nearest into reals, cutting the fraction and
wrapping into integers.  A numeric array is a tensor of cells with the element type
that they were stored in.
-/
import MeshlessGas.Arithmetic
import MeshlessGas.Tensor.Broadcast

namespace MeshlessGas

/-- A fixed-width integer type. -/
structure IntegerType where
  signed : Bool
  bytes : Nat
deriving DecidableEq, Repr

namespace IntegerType

def int8 : IntegerType := ⟨true, 1⟩
def int16 : IntegerType := ⟨true, 2⟩
def int32 : IntegerType := ⟨true, 4⟩
def int64 : IntegerType := ⟨true, 8⟩
def uint8 : IntegerType := ⟨false, 1⟩
def uint16 : IntegerType := ⟨false, 2⟩
def uint32 : IntegerType := ⟨false, 4⟩
def uint64 : IntegerType := ⟨false, 8⟩

/-- Number of values. -/
def modulus (k : IntegerType) : Nat := pow2 (8 * k.bytes)

/-- An integer reduced into the type. -/
def wrap (k : IntegerType) (n : Int) : Int :=
  if k.signed then n.bmod k.modulus else n % k.modulus

/-- Whether an integer is a value of the type. -/
def holds (k : IntegerType) (n : Int) : Bool := k.wrap n = n

/-- Width in bits of the conversion from reals: narrow types convert through 32
bits, the others through 64. -/
def conversionBits (k : IntegerType) : Nat :=
  if k.bytes < 4 ∨ (k.signed ∧ k.bytes = 4) then 32 else 64

/-- The integer stored for a real.  The fraction is cut; what the conversion
cannot hold becomes the smallest number of its width, and for the widest
unsigned type what lies above it becomes zero. -/
def ofReal {R : Type} [Arithmetic R] (k : IntegerType) (x : R) : Int :=
  let low : Int := -pow2 (k.conversionBits - 1)
  let high : Int := if k = uint64 then pow2 64 else pow2 (k.conversionBits - 1)
  if Arithmetic.isFinite x then
    let n := Arithmetic.truncate x
    if low ≤ n ∧ n < high then k.wrap n
    else if k = uint64 ∧ high ≤ n then 0
    else k.wrap low
  else if k = uint64 ∧ (0.0 : R) < x then 0
  else k.wrap low

end IntegerType

/-- The storage type of a cell. -/
inductive ElementType where
  | float16
  | float32
  | float64
  | truth
  | integer (k : IntegerType)
deriving DecidableEq, Repr

namespace ElementType

/-- Two-character code: kind and size in bytes. -/
def code : ElementType → String
  | float16 => "f2"
  | float32 => "f4"
  | float64 => "f8"
  | truth => "b1"
  | integer k => (if k.signed then "i" else "u") ++ toString k.bytes

/-- Full name: kind and size in bits. -/
def name : ElementType → String
  | float16 => "float16"
  | float32 => "float32"
  | float64 => "float64"
  | truth => "bool"
  | integer k => (if k.signed then "int" else "uint") ++ toString (8 * k.bytes)

/-- Size in bytes. -/
def bytes : ElementType → Nat
  | float16 => 2
  | float32 => 4
  | float64 => 8
  | truth => 1
  | integer k => k.bytes

/-- Whether the cells are integers, which truth values are not. -/
def isInteger : ElementType → Bool
  | integer _ => true
  | _ => false

/-- All element types. -/
def all : List ElementType :=
  [float64, float32, float16, truth] ++
    [true, false].flatMap fun signed => [1, 2, 4, 8].map fun bytes => integer ⟨signed, bytes⟩

/-- Letters that stand for element types. -/
def letters : List (String × ElementType) :=
  [("d", float64), ("f", float32), ("e", float16), ("?", truth), ("b", integer .int8),
   ("B", integer .uint8), ("h", integer .int16), ("H", integer .uint16), ("i", integer .int32),
   ("I", integer .uint32),
   ("l", integer .int64), ("L", integer .uint64), ("q", integer .int64), ("Q", integer .uint64),
   ("p", integer .int64), ("P", integer .uint64), ("n", integer .int64), ("N", integer .uint64)]

/-- Further names of element types. -/
def aliases : List (String × ElementType) :=
  [("float", float64), ("double", float64), ("single", float32), ("half", float16),
   ("int", integer .int64), ("int_", integer .int64), ("intp", integer .int64),
   ("long", integer .int64), ("longlong", integer .int64), ("uint", integer .uint64),
   ("uintp", integer .uint64), ("ulong", integer .uint64), ("ulonglong", integer .uint64),
   ("intc", integer .int32), ("uintc", integer .uint32), ("short", integer .int16),
   ("ushort", integer .uint16), ("byte", integer .int8), ("ubyte", integer .uint8),
   ("bool_", truth)]

/-- The element type with a code or a letter. -/
def ofCode? (s : String) : Option ElementType :=
  match all.find? fun t => t.code = s with
  | some t => some t
  | none => (letters.find? fun x => x.1 = s).map Prod.snd

/-- The element type with a name.  Before a code or a letter a mark may ask for a byte
order. -/
def ofName? (s : String) : Option ElementType :=
  match s.toList with
  | '<' :: cs | '>' :: cs | '=' :: cs | '|' :: cs => ofCode? (String.ofList cs)
  | _ =>
    match all.find? fun t => t.name = s with
    | some t => some t
    | none =>
      match aliases.find? fun x => x.1 = s with
      | some x => some x.2
      | none => ofCode? s

/-- Whether a name asks for the most significant byte first, which is not the order of
the machine.  A single byte has no order. -/
def isReversed (s : String) : Bool :=
  match ofName? s with
  | some t => s.toList.head? = some '>' ∧ 1 < t.bytes
  | none => false

end ElementType

/-- A stored number. -/
inductive Cell (D S : Type) where
  | double (x : D)
  | single (x : S)
  | whole (n : Int)
deriving Repr

namespace Cell

variable {D S : Type} [Arithmetic D] [Arithmetic S] [Narrowing D S]

/-- The cell as a double. -/
def toDouble : Cell D S → D
  | double x => x
  | single x => Narrowing.widen x
  | whole n => Arithmetic.ofInt n

/-- The cell as a single. -/
def toSingle : Cell D S → S
  | double x => Narrowing.narrow x
  | single x => x
  | whole n => Arithmetic.ofInt n

/-- The cell as an integer of a fixed width. -/
def toWhole (k : IntegerType) : Cell D S → Int
  | double x => k.ofReal x
  | single x => k.ofReal (Narrowing.widen x : D)
  | whole n => k.wrap n

/-- Whether the cell is not zero. -/
def truthy : Cell D S → Bool
  | double x => !Arithmetic.agree x 0.0
  | single x => !Arithmetic.agree x 0.0
  | whole n => n ≠ 0

/-- The cell of a truth value. -/
def ofBool (b : Bool) : Cell D S := whole (if b then 1 else 0)

/-- The cell stored in an element type. -/
def cast (t : ElementType) (c : Cell D S) : Cell D S :=
  match t with
  | .float16 => double (Narrowing.half c.toDouble)
  | .float64 => double c.toDouble
  | .float32 => single c.toSingle
  | .truth => ofBool c.truthy
  | .integer k => whole (c.toWhole k)

@[simp] theorem cast_float64_double (x : D) : cast .float64 (double x : Cell D S) = double x := rfl

@[simp] theorem cast_float32_single (x : S) : cast .float32 (single x : Cell D S) = single x := rfl

end Cell

/-- A tensor of stored numbers. -/
structure NumericArray (D S : Type) where
  type : ElementType
  cells : Tensor (Cell D S)

namespace NumericArray

variable {D S : Type}

/-- Doubles as an array. -/
def doubles (t : Tensor D) : NumericArray D S := ⟨.float64, t.map .double⟩

/-- Singles as an array. -/
def singles (t : Tensor S) : NumericArray D S := ⟨.float32, t.map .single⟩

/-- Integers of a fixed width as an array. -/
def integers (k : IntegerType) (t : Tensor Int) : NumericArray D S :=
  ⟨.integer k, t.map .whole⟩

def shape (a : NumericArray D S) : List Nat := a.cells.shape

/-- The array stored in another element type. -/
def cast [Arithmetic D] [Arithmetic S] [Narrowing D S] (t : ElementType) (a : NumericArray D S) :
    NumericArray D S :=
  ⟨t, a.cells.map (Cell.cast t)⟩

/-- The same cells in another shape. -/
def reshape? (a : NumericArray D S) (shape : List Nat) : Option (NumericArray D S) :=
  (a.cells.reshape? shape).map (⟨a.type, ·⟩)

/-- The same cells in a shape that may leave one length open by a negative number: it is
as large as the number of cells asks for. -/
def reshapeTo? (a : NumericArray D S) (shape : List Int) : Option (NumericArray D S) :=
  let known := cellCount ((shape.filter fun n => 0 ≤ n).map Int.toNat)
  let count := cellCount a.shape
  match (shape.filter fun n => n < 0).length with
  | 0 => a.reshape? (shape.map Int.toNat)
  | 1 =>
    if known = 0 then none
    else a.reshape? (shape.map fun n => if n < 0 then count / known else n.toNat)
  | _ => none

end NumericArray

end MeshlessGas
