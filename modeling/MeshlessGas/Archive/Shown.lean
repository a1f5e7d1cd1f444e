/-
Shown arrays — the text of numeric attributes.

A single number has its shortest form, with an exponent where it is large for its type.
The numbers of an array stand between square brackets, padded to one width: integers on
the left, reals around their points, with at most eight places.  Arrays with very large,
very small or widely spread numbers use exponents.  Lines are at most seventy-five
characters long, and of a large array only the outer rows and columns are shown.
-/
import MeshlessGas.Archive.Attribute

namespace MeshlessGas

namespace Shown

/-! ## Reals -/

/-- The text of a number before and behind its point, and its exponent. -/
structure Parts where
  whole : List Char
  fraction : List Char
  exponent : Int

/-- Trailing zeros removed. -/
def withoutZeros (cs : List Char) : List Char := (cs.reverse.dropWhile (· = '0')).reverse

/-- Largest number of digits behind the point. -/
def maxPlaces : Nat := 8

/-- The parts of a decimal with one digit before the point and a number of places. -/
def Parts.scientific (negative : Bool) (places : Nat) (d : Decimal) : Parts :=
  let ds := Nat.toDigits 10 d.digits
  ⟨signText negative ++ ds.take 1, (ds.drop 1).take places, d.exponent + (ds.length : Int) - 1⟩

/-- The fewest digits that read back, but not more than fit behind the point. -/
def Parts.briefScientific (f : BinaryFormat) (negative : Bool) (significand : Nat)
    (exponent : Int) : Parts :=
  scientific negative maxPlaces
    (if significand = 0 then ⟨0, 0⟩ else shortestWithin (maxPlaces + 1) f significand exponent)

/-- The digits with a number of places. -/
def Parts.fullScientific (f : BinaryFormat) (negative : Bool) (places significand : Nat)
    (exponent : Int) : Parts :=
  scientific negative places
    (if significand = 0 then ⟨0, 0⟩ else gridDecimal f significand exponent (places + 1))

/-- The fewest digits that read back without an exponent, rounded to what fits behind the
point. -/
def Parts.positional (f : BinaryFormat) (negative : Bool) (significand : Nat) (exponent : Int) :
    Parts :=
  let (num, den) := binaryQuotient significand exponent
  let d : Decimal := if significand = 0 then ⟨0, 0⟩ else shortestDecimal f significand exponent
  let kept : Decimal :=
    if -(maxPlaces : Int) ≤ d.exponent then d
    else ⟨roundQuotient (num * pow10 maxPlaces) den, -maxPlaces⟩
  let text := Magnitude.positional kept
  ⟨signText negative ++ text.takeWhile (· ≠ '.'),
    withoutZeros (text.dropWhile (· ≠ '.')).tail, 0⟩

/-- The magnitude of a finite number other than zero. -/
def magnitude? : BinaryValue → Option (Nat × Nat)
  | .finite _ significand exponent =>
    if significand = 0 then none else some (binaryQuotient significand exponent)
  | _ => none

/-- Digits that every number of a format keeps. -/
def keptDigits (f : BinaryFormat) : Nat :=
  if f = binary16 then 3 else if f = binary32 then 6 else 15

/-- Whether some magnitudes need exponents: they reach beyond the digits of the format or
`10 ^ 8`, below `10 ^ -4`, or spread over more than a factor of a thousand. -/
def needsExponent (f : BinaryFormat) (xs : List (Nat × Nat)) : Bool :=
  let bits (x : Nat × Nat) : Nat := f.nearestMagnitude x.1 x.2
  let less (x y : Nat × Nat) : Bool := x.1 * y.2 < y.1 * x.2
  match xs with
  | [] => false
  | x :: rest =>
    let largest := rest.foldl (fun x y => if less x y then y else x) x
    let smallest := rest.foldl (fun x y => if less y x then y else x) x
    bits (pow10 (min maxPlaces (keptDigits f)), 1) ≤ bits largest ||
      bits smallest < bits (1, pow10 4) ||
      bits (1000, 1) < bits (largest.1 * smallest.2, largest.2 * smallest.1)

/-- The largest length. -/
def widest (xs : List (List Char)) : Nat := xs.foldl (fun n x => max n x.length) 0

/-- Blanks before a text up to a width. -/
def padLeft (width : Nat) (cs : List Char) : List Char :=
  List.replicate (width - cs.length) ' ' ++ cs

/-- Some character behind a text up to a width. -/
def padRight (c : Char) (width : Nat) (cs : List Char) : List Char :=
  cs ++ List.replicate (width - cs.length) c

/-- How the reals of an array are written. -/
structure RealLayout where
  format : BinaryFormat
  exponential : Bool
  /-- Characters before the point. -/
  left : Nat
  /-- Digits behind the point. -/
  places : Nat
  /-- Digits of the exponent. -/
  exponentDigits : Nat

namespace RealLayout

/-- Characters behind the point. -/
def right (l : RealLayout) : Nat :=
  if l.exponential then l.places + l.exponentDigits + 2 else l.places

/-- The layout in which some reals fit. Infinities and what is no number may need more
room on the left. -/
def of (f : BinaryFormat) (xs : List BinaryValue) : RealLayout :=
  let exponential := needsExponent f (xs.filterMap magnitude?)
  let texts := xs.filterMap fun
    | .finite negative significand exponent =>
      some (if exponential then Parts.briefScientific f negative significand exponent
        else Parts.positional f negative significand exponent)
    | _ => none
  let layout : RealLayout := {
    format := f, exponential
    left := widest (texts.map Parts.whole)
    places := widest (texts.map Parts.fraction)
    exponentDigits := texts.foldl (fun n p => max n (decimalLength p.exponent.natAbs)) 2 }
  let special := widest (xs.map fun
    | .finite .. => []
    | .nan => BinaryValue.infinityText false
    | .infinite negative => BinaryValue.infinityText negative)
  { layout with left := max layout.left (special - (layout.right + 1)) }

/-- The text of a real in a layout. -/
def write (l : RealLayout) : BinaryValue → List Char
  | .nan => padLeft (l.left + l.right + 1) BinaryValue.nanText
  | .infinite negative => padLeft (l.left + l.right + 1) (BinaryValue.infinityText negative)
  | .finite negative significand exponent =>
    if l.exponential then
      let p := Parts.fullScientific l.format negative l.places significand exponent
      padLeft l.left p.whole ++ '.' :: padRight '0' l.places p.fraction ++
        'e' :: (if p.exponent < 0 then '-' else '+') ::
          paddedDigits l.exponentDigits p.exponent.natAbs
    else
      let p := Parts.positional l.format negative significand exponent
      padLeft l.left p.whole ++ '.' :: padRight ' ' l.places p.fraction

end RealLayout

/-! ## Arrays -/

/-- Rows that are shown at each end of a long axis. -/
def edge : Nat := 3

/-- Largest number of cells of which all are shown. -/
def maxCells : Nat := 1000

/-- The rows of an axis that are shown; of a long one `none` stands for those left out. -/
def shownRows {α : Type} (summary : Bool) (rows : List α) : List (Option α) :=
  if summary ∧ 2 * edge < rows.length then
    (rows.take edge).map some ++ none :: (rows.drop (rows.length - edge)).map some
  else rows.map some

/-- The cells that are shown. -/
def shownCells {α : Type} (summary : Bool) : List Nat → List α → List α
  | [], xs => xs
  | n :: shape, xs =>
    ((shownRows summary (pieces n (cellCount shape) xs)).filterMap id).flatMap
      (shownCells summary shape)

/-- What stands for the rows that are left out. -/
def omission : List Char := ['.', '.', '.']

/-- Trailing blanks removed. -/
def withoutBlanks (cs : List Char) : List Char := (cs.reverse.dropWhile (· = ' ')).reverse

/-- Words behind a line, which is broken where it gets too long; lines that follow are
indented. -/
def layLine (indent width : Nat) (line : List Char) : List (List Char) → List Char
  | [] => line
  | word :: rest =>
    let gap := if rest.isEmpty then [] else [' ']
    if width < line.length + word.length ∧ indent < line.length then
      withoutBlanks line ++
        '\n' :: layLine indent width (List.replicate indent ' ' ++ word ++ gap) rest
    else layLine indent width (line ++ word ++ gap) rest

/-- The text of an array between brackets. The last axis is a line, and the rows of the
others stand below each other. -/
def layArray {α : Type} (summary : Bool) (write : α → List Char) (indent width : Nat) :
    List Nat → List α → List Char
  | [], xs => xs.flatMap write
  | n :: shape, xs =>
    let rows := (shownRows summary (pieces n (cellCount shape) xs)).map fun
      | some row => layArray summary write (indent + 1) (width - 1) shape row
      | none => omission
    let blanks := List.replicate indent ' '
    let text :=
      if shape.isEmpty then layLine indent (width - 1) blanks rows
      else (List.replicate shape.length '\n').intercalate (rows.map (blanks ++ ·))
    '[' :: text.drop indent ++ [']']

/-- Characters of a line. -/
def lineWidth : Nat := 75

end Shown

namespace NumericArray

variable {D S : Type} [Arithmetic D] [Numeral D] [Arithmetic S] [Numeral S] [Narrowing D S]

/-- The exact value of a cell. -/
def cellValue : Cell D S → BinaryValue
  | .double x => Numeral.value x
  | .single x => Numeral.value x
  | .whole n => .finite (n < 0) n.natAbs 0

/-- The format of the reals of an element type; integers have none. -/
def realFormat? (D S : Type) [Numeral D] [Numeral S] : ElementType → Option BinaryFormat
  | .float16 => some binary16
  | .float32 => some (Numeral.format S)
  | .float64 => some (Numeral.format D)
  | .truth | .integer _ => none

/-- The power of ten from which a single number of an element type has an exponent: the
digits that every number of the type keeps, and sixteen for doubles. -/
def positionalPower : ElementType → Nat
  | .float16 => Shown.keptDigits binary16
  | .float32 => Shown.keptDigits binary32
  | _ => 16

/-- A truth value in words. -/
def truthText (b : Bool) : String := if b then "True" else "False"

/-- The text of one number. -/
def cellText (t : ElementType) (c : Cell D S) : String :=
  match realFormat? D S t, c with
  | some f, c => (cellValue c).shortestBelow (positionalPower t) f
  | none, .whole n => if t = .truth then truthText (n ≠ 0) else toString n
  | none, .double x => Numeral.shortest x
  | none, .single x => Numeral.shortest x

/-- The text of an array. -/
def asText (a : NumericArray D S) : String :=
  let cells := a.cells.cells
  match a.shape, cells with
  | [], [c] => cellText a.type c
  | _, [] => "[]"
  | shape, _ =>
    let summary := Shown.maxCells < cells.length
    let shown := Shown.shownCells summary shape cells
    let lay (write : Cell D S → List Char) : List Char :=
      Shown.layArray summary write 1 Shown.lineWidth shape cells
    String.ofList <| match realFormat? D S a.type with
      | some f =>
        let layout := Shown.RealLayout.of f (shown.map cellValue)
        lay fun c => layout.write (cellValue c)
      | none =>
        let text (c : Cell D S) : List Char := (cellText a.type c).toList
        let width := if a.type = .truth then (truthText false).length else
          Shown.widest (shown.map text)
        lay fun c => Shown.padLeft width (text c)

end NumericArray

namespace Attribute

variable {D S : Type} [Arithmetic D] [Numeral D] [Arithmetic S] [Numeral S] [Narrowing D S]

/-- The text of a complex number: its parts in their shortest forms, with a sign between
them. -/
def complexText (re im : D) : String :=
  let part (x : D) : String :=
    let s := Numeral.shortest x
    if s.endsWith ".0" then (s.dropEnd 1).toString else s
  let imaginary := part im
  part re ++ (if imaginary.startsWith "-" then "" else "+") ++ imaginary ++ "j"

/-- The text of an attribute. -/
def asText : Attribute D S → String
  | text s | encoded s => s
  | numbers a => a.asText
  | complex re im => "[" ++ complexText re im ++ "]"

end Attribute

end MeshlessGas
