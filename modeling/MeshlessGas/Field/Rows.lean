/-
Field rows — what a field gives out.

The numbers of a field are given out in its format: as numbers of its element type, as
complex numbers, as texts cut to a length, or several times side by side.  The texts are
those of the numbers as they were before they took the element type of the field.
-/
import MeshlessGas.Archive.Shown
import MeshlessGas.Field.Format

namespace MeshlessGas

/-- An element as it is given out. -/
inductive Given (D S : Type) where
  | number (t : ElementType) (c : Cell D S)
  /-- A complex number with this real part. -/
  | complex (t : ElementType) (re : Cell D S)
  | text (s : String)
  | members (cells : List (RecordMember × Cell D S))

/-- Elements in a format. -/
structure FieldRows (D S : Type) where
  type : ElementType
  format : FieldFormat
  items : Tensor (Given D S)

namespace FieldRows

variable {D S : Type}

/-- The full name of what the elements are. -/
def typeName (r : FieldRows D S) : String := r.format.name r.type

/-- The code of what the elements are. -/
def code (r : FieldRows D S) : String := r.format.code r.type

/-- The lengths of the axes. -/
def shape (r : FieldRows D S) : List Nat := r.items.shape

/-- The rows of an array as it is. -/
def plain (a : NumericArray D S) : FieldRows D S :=
  ⟨a.type, .plain, a.cells.map (.number a.type)⟩

end FieldRows

namespace FieldFormat

/-- Length of the texts of an element type when no other is asked for. -/
def textLength : ElementType → Nat
  | .float16 | .float32 | .float64 => 32
  | .truth => 5
  | .integer k =>
    match k.bytes, k.signed with
    | 1, true => 4
    | 1, false => 3
    | 2, true => 6
    | 2, false => 5
    | 4, true => 11
    | 4, false => 10
    | _, true => 21
    | _, false => 20

/-- The format with the length that the texts of an element type have. -/
def withLength (source : ElementType) : FieldFormat → FieldFormat
  | texts 0 => texts (textLength source)
  | bytes 0 => bytes (textLength source)
  | reversed f => reversed (withLength source f)
  | f => f

/-- The element type of a number that is given out as a value of its own: reals are
doubles. -/
def looseType : ElementType → ElementType
  | .float16 | .float32 => .float64
  | t => t

variable {D S : Type} [Arithmetic D] [Numeral D] [Arithmetic S] [Numeral S] [Narrowing D S]

/-- The text of a number, cut to a length. -/
def cutText (n : Nat) (t : ElementType) (c : Cell D S) : String :=
  String.ofList ((NumericArray.cellText t c).toList.take n)

/-- A number as it is given out for an element type. -/
def give (format : FieldFormat) (t source : ElementType) (c : Cell D S) :
    Except Failure (Given D S) :=
  match format with
  | plain => .ok (.number t (c.cast t))
  | complex | extendedComplex => .ok (.complex t (c.cast t))
  | extended => .ok (.number .float64 (c.cast .float64))
  | texts n | bytes n => .ok (.text (cutText n source c))
  | values => .ok (.number (looseType source) (c.cast (looseType source)))
  | records members => .ok (.members (members.map fun m => (m, c.cast m.type)))
  | moments .. | raw _ | nothing => .error .wrongType
  | reversed f => f.give t source c

/-- The rows of an array in a format and an element type.  Nothing is given out in a format
that no number can have, not even of an empty array. -/
def rows (format : FieldFormat) (t : ElementType) (a : NumericArray D S) :
    Except Failure (FieldRows D S) := do
  if ¬ format.isGiven then throw .wrongType
  let format := format.withLength a.type
  return ⟨t, format, ← a.cells.mapM (format.give t a.type)⟩

end FieldFormat

end MeshlessGas
