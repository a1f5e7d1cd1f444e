/-
Reading numbers — the texts that stand for integers and reals.

Blanks around the number are ignored, digits of any script count, single underscores
may separate digits, and a sign may come first.  A real may have a fraction, an
exponent, or be one of the words for infinity and for not-a-number in any case.
-/
import MeshlessGas.Arithmetic
import MeshlessGas.Text.Character

namespace MeshlessGas

/-- Digits after a first one: single underscores may stand between them. -/
def digitTail : List Char → List Nat × List Char
  | [] => ([], [])
  | c :: cs =>
    match digitValue? c with
    | some d => let (ds, rest) := digitTail cs; (d :: ds, rest)
    | none =>
      match c, cs with
      | '_', c' :: cs' =>
        match digitValue? c' with
        | some d => let (ds, rest) := digitTail cs'; (d :: ds, rest)
        | none => ([], c :: cs)
      | _, _ => ([], c :: cs)

/-- The digits at the front of a text and what follows them. -/
def digitRun : List Char → List Nat × List Char
  | [] => ([], [])
  | c :: cs =>
    match digitValue? c with
    | some d => let (ds, rest) := digitTail cs; (d :: ds, rest)
    | none => ([], c :: cs)

/-- The number with the given decimal digits. -/
def numberOfDigits (ds : List Nat) : Nat := ds.foldl (fun n d => 10 * n + d) 0

/-- A leading sign: whether it is negative, and the rest. -/
def signOf : List Char → Bool × List Char
  | '-' :: cs => (true, cs)
  | '+' :: cs => (false, cs)
  | cs => (false, cs)

/-- Longest integer text that is accepted, in digits. -/
def maxIntegerDigits : Nat := 4300

/-- The integer that a text stands for. -/
def readInt? (s : String) : Option Int :=
  let (negative, cs) := signOf (trimMargins s.toList)
  match digitRun cs with
  | ([], _) => none
  | (ds, []) =>
    if ds.length ≤ maxIntegerDigits then
      let n : Int := numberOfDigits ds
      some (if negative then -n else n)
    else none
  | _ => none

/-- What the text of a real stands for. -/
inductive RealText where
  | nan
  | infinite (negative : Bool)
  | decimal (negative : Bool) (d : Decimal)
deriving DecidableEq, Repr

/-- The exponent part of a real: nothing, or a mark, a sign and digits. -/
def readExponent? : List Char → Option Int
  | [] => some 0
  | c :: cs =>
    if c = 'e' ∨ c = 'E' then
      let (negative, cs) := signOf cs
      match digitRun cs with
      | ([], _) => none
      | (ds, []) =>
        let n : Int := numberOfDigits ds
        some (if negative then -n else n)
      | _ => none
    else none

/-- The digits of a real: before the point, behind it, and the exponent. -/
def readDecimal? (cs : List Char) : Option Decimal :=
  let (whole, rest) := digitRun cs
  let (fraction, rest) :=
    match rest with
    | '.' :: rest => digitRun rest
    | rest => ([], rest)
  if whole.isEmpty ∧ fraction.isEmpty then none
  else
    (readExponent? rest).map fun e =>
      ⟨numberOfDigits (whole ++ fraction), e - (fraction.length : Int)⟩

/-- The real that a text stands for. -/
def readReal? (s : String) : Option RealText :=
  let (negative, cs) := signOf (trimMargins s.toList)
  let word := String.ofList (cs.map Char.toLower)
  if word = "inf" ∨ word = "infinity" then some (.infinite negative)
  else if word = "nan" then some .nan
  else (readDecimal? cs).map (.decimal negative)

/-- The number of a real's text. -/
def RealText.number {R : Type} [Numeral R] : RealText → R
  | .nan => Numeral.notANumber
  | .infinite negative => Numeral.ofInfinity negative
  | .decimal negative d => Numeral.ofDecimal negative d

end MeshlessGas
