/-
Written numbers — the decimal forms in which numbers are printed.

Four forms are in use: a fixed number of places (`fixed`), a fixed number of
digits with an exponent (`scientific`), a number of significant digits with the
shorter of the two (`general`), and the fewest digits that read back as the same
number (`shortest`).  Digits come from exact integer arithmetic on the value;
half-way cases go to the even digit.
-/
import MeshlessGas.Numeral.Binary

namespace MeshlessGas

/-- Decimal digits of a natural, padded on the left with zeros to `width`. -/
def paddedDigits (width n : Nat) : List Char :=
  let digits := Nat.toDigits 10 n
  List.replicate (width - digits.length) '0' ++ digits

/-- The decimal digits `ds` with a point before the last `places` of them. -/
def withPoint (places : Nat) (ds : List Char) : List Char :=
  if places = 0 then ds
  else ds.take (ds.length - places) ++ '.' :: ds.drop (ds.length - places)

/-- An exponent: a sign and at least two digits. -/
def exponentText (e : Int) : List Char :=
  'e' :: (if e < 0 then '-' else '+') :: paddedDigits 2 e.natAbs

/-- The sign of a number: nothing for positive ones. -/
def signText (negative : Bool) : List Char :=
  if negative then ['-'] else []

/-- Trailing zeros of the fraction removed, and the point with them when nothing
is left behind it. -/
def trimFraction (ds : List Char) : List Char :=
  if '.' ∈ ds then
    let kept := (ds.reverse.dropWhile (· = '0'))
    (if kept.head? = some '.' then kept.tail else kept).reverse
  else ds

namespace Magnitude

/-- `num / den` with `places` digits behind the point. -/
def fixed (places num den : Nat) : List Char :=
  withPoint places (paddedDigits (places + 1) (roundQuotient (num * pow10 places) den))

/-- `num / den` with one digit before the point, `places` behind it, and an
exponent. -/
def scientific (places num den : Nat) : List Char :=
  if num = 0 then withPoint places (paddedDigits (places + 1) 0) ++ exponentText 0
  else
    let d := significantDigits (places + 1) num den
    withPoint places (Nat.toDigits 10 d.digits) ++ exponentText (d.exponent + places)

/-- A decimal without an exponent. -/
def positional (d : Decimal) : List Char :=
  let ds := Nat.toDigits 10 d.digits
  if 0 ≤ d.exponent then ds ++ List.replicate d.exponent.toNat '0'
  else withPoint (-d.exponent).toNat (paddedDigits ((-d.exponent).toNat + 1) d.digits)

/-- A decimal with one digit before the point and an exponent. -/
def exponential (d : Decimal) : List Char :=
  let ds := Nat.toDigits 10 d.digits
  withPoint (ds.length - 1) ds ++ exponentText (d.exponent + (ds.length : Int) - 1)

/-- `num / den` with `count` significant digits, without trailing zeros. -/
def general (count num den : Nat) : List Char :=
  if num = 0 then ['0']
  else
    let d := significantDigits count num den
    let leading := d.exponent + (count : Int) - 1
    if -4 ≤ leading ∧ leading < count then trimFraction (positional d)
    else
      trimFraction (withPoint (count - 1) (Nat.toDigits 10 d.digits)) ++ exponentText leading

end Magnitude

/-! ## The fewest digits that read back -/

/-- Whether the decimal `d` lies among the reals that round to
`significand * 2 ^ exponent`. -/
def readsBack (f : BinaryFormat) (significand : Nat) (exponent : Int) (d : Decimal) : Bool :=
  let (num, den) := binaryQuotient significand exponent
  let (dnum, dden) := d.quotient
  f.nearestMagnitude dnum dden = f.nearestMagnitude num den

/-- The two grid decimals with `count` digits around a value, the nearer one first. -/
def gridNeighbours (significand : Nat) (exponent : Int) (count : Nat) : Decimal × Decimal :=
  let (num, den) := binaryQuotient significand exponent
  let place := decimalExponent num den - ((count : Int) - 1)
  let (scaledNum, scaledDen) := scaleByTen num den place
  let below : Decimal := ⟨scaledNum / scaledDen, place⟩
  let above : Decimal := ⟨scaledNum / scaledDen + 1, place⟩
  if roundQuotient scaledNum scaledDen = below.digits then (below, above) else (above, below)

/-- The grid decimal with `count` digits, among the two neighbours of the value,
that reads back; of two, the nearer one. -/
def gridDecimal? (f : BinaryFormat) (significand : Nat) (exponent : Int) (count : Nat) :
    Option Decimal :=
  let (near, far) := gridNeighbours significand exponent count
  if readsBack f significand exponent near then some near
  else if readsBack f significand exponent far then some far
  else none

/-- The grid decimal with `count` digits: one that reads back, or the nearest. -/
def gridDecimal (f : BinaryFormat) (significand : Nat) (exponent : Int) (count : Nat) : Decimal :=
  (gridDecimal? f significand exponent count).getD (gridNeighbours significand exponent count).1

/-- Trailing zeros of the significand moved into the exponent. -/
def Decimal.strip (d : Decimal) : Nat → Decimal
  | 0 => d
  | n + 1 =>
    if d.digits ≠ 0 ∧ d.digits % 10 = 0 then Decimal.strip ⟨d.digits / 10, d.exponent + 1⟩ n
    else d

/-- The decimal with the fewest digits that reads back as a positive value
`significand * 2 ^ exponent`, and the nearest to it among those; when more digits than
a limit were needed, the value rounded to that many. -/
def shortestWithin (limit : Nat) (f : BinaryFormat) (significand : Nat) (exponent : Int) :
    Decimal :=
  let found := (List.range limit).findSome? fun n => gridDecimal? f significand exponent (n + 1)
  (found.getD (gridDecimal f significand exponent limit)).strip (limit + 1)

/-- The decimal with the fewest digits that reads back. -/
def shortestDecimal (f : BinaryFormat) (significand : Nat) (exponent : Int) : Decimal :=
  shortestWithin (f.fractionBits + 2) f significand exponent

/-! ## Numbers of a binary format -/

namespace BinaryValue

/-- The words for what has no digits. -/
def nanText : List Char := ['n', 'a', 'n']

/-- Infinity with its sign. -/
def infinityText (negative : Bool) : List Char :=
  signText negative ++ ['i', 'n', 'f']

/-- Writes a value through a form for finite magnitudes. -/
def writeWith (form : Nat → Nat → List Char) : BinaryValue → List Char
  | .nan => nanText
  | .infinite negative => infinityText negative
  | .finite negative significand exponent =>
    let (num, den) := binaryQuotient significand exponent
    signText negative ++ form num den

/-- A fixed number of places behind the point. -/
def fixed (places : Nat) (x : BinaryValue) : String :=
  String.ofList (writeWith (Magnitude.fixed places) x)

/-- A fixed number of places and an exponent. -/
def scientific (places : Nat) (x : BinaryValue) : String :=
  String.ofList (writeWith (Magnitude.scientific places) x)

/-- A number of significant digits. -/
def general (count : Nat) (x : BinaryValue) : String :=
  String.ofList (writeWith (Magnitude.general count) x)

/-- The fewest digits that read back: positional for values from `10 ^ -4` up to some power
of ten, and always recognisable as a real by its point or its exponent. -/
def shortestBelow (power : Nat) (f : BinaryFormat) : BinaryValue → String
  | .nan => String.ofList nanText
  | .infinite negative => String.ofList (infinityText negative)
  | .finite negative significand exponent =>
    if significand = 0 then String.ofList (signText negative ++ ['0', '.', '0'])
    else
      let (num, den) := binaryQuotient significand exponent
      let d := shortestDecimal f significand exponent
      let leading := decimalExponent num den
      let text :=
        if -4 ≤ leading ∧ leading < power then Magnitude.positional d else Magnitude.exponential d
      let point := if text.any (fun c => c = '.' ∨ c = 'e') then [] else ['.', '0']
      String.ofList (signText negative ++ text ++ point)

/-- The fewest digits that read back, positional up to `10 ^ 16`. -/
def shortest (f : BinaryFormat) (x : BinaryValue) : String := x.shortestBelow 16 f

end BinaryValue

end MeshlessGas
