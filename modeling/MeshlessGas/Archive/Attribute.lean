/-
Attributes — texts and numbers stored beside data.

An attribute is a text, an array of numbers, or a complex number.  Its first entry
depends on what it is: the first letter of a text, the first number of a list, the
first row of an array with more axes.
-/
import MeshlessGas.Element.Storing

namespace MeshlessGas

/-- An attribute. -/
inductive Attribute (D S : Type) where
  | text (s : String)
  /-- A text given by its bytes. -/
  | encoded (s : String)
  | numbers (a : NumericArray D S)
  /-- A list of one complex number. -/
  | complex (re im : D)

/-- The first entry of an attribute. -/
inductive Entry (D S : Type) where
  | letter (c : Char)
  | cell (t : ElementType) (c : Cell D S)
  | row (a : NumericArray D S)
  | complex (re im : D)

namespace Attribute

variable {D S : Type}

/-- A list of reals as an attribute. -/
def reals (xs : List D) : Attribute D S := numbers (.doubles (.vector xs))

/-- A list of single-precision reals as an attribute. -/
def singles (xs : List S) : Attribute D S := numbers (.singles (.vector xs))

/-- A list of integers as an attribute. -/
def integers (xs : List Int) : Attribute D S :=
  numbers (.integers IntegerType.int64 (.vector xs))

/-- The first row of an array.  A single number has no rows, and neither has an empty
list. -/
def firstRow (a : NumericArray D S) : Except Failure (Entry D S) :=
  match a.cells.shape with
  | [] | 0 :: _ => .error .indexOutOfRange
  | [_] => (Failure.ofOption .indexOutOfRange a.cells.head?).map (.cell a.type)
  | _ :: shape =>
    let cells := a.cells.cells.take (cellCount shape)
    (Failure.ofOption .indexOutOfRange ((Tensor.vector cells).reshape? shape)).map
      fun t => .row ⟨a.type, t⟩

/-- The first entry of an attribute; of a text given by its bytes it is a number. -/
def first : Attribute D S → Except Failure (Entry D S)
  | text s => (Failure.ofOption .indexOutOfRange s.toList.head?).map .letter
  | encoded s =>
    (Failure.ofOption .indexOutOfRange s.toUTF8.toList.head?).map fun b =>
      .cell (.integer .uint8) (.whole b.toNat)
  | numbers a => firstRow a
  | complex re im => .ok (.complex re im)

end Attribute

namespace Entry

variable {D S : Type} [Arithmetic D] [Numeral D] [Arithmetic S] [Narrowing D S]

/-- The entry as a real.  A letter is parsed; rows and complex numbers are no reals. -/
def toReal : Entry D S → Except Failure D
  | letter c => (Value.text (String.singleton c)).toReal
  | cell _ c => .ok c.toDouble
  | row _ | complex .. => .error .wrongType

/-- The entry as an integer, without the fraction of a real. -/
def toInt : Entry D S → Except Failure Int
  | letter c => (Value.text (String.singleton c) : Value D).toInt
  | cell _ (.whole n) => .ok n
  | cell _ c => Value.intOfReal c.toDouble
  | row _ | complex .. => .error .wrongType

end Entry

/-- The first entry of an attribute as a real. -/
def Attribute.firstReal {D S : Type} [Arithmetic D] [Numeral D] [Arithmetic S] [Narrowing D S]
    (a : Attribute D S) : Except Failure D := do
  (← a.first).toReal

end MeshlessGas
