/-
Fractions — the fraction with a small denominator closest to a number.

The convergents of the continued fraction are followed as long as their denominators
stay within the limit.  The closest fraction is then the last convergent, or the last
of the fractions between it and the next; of two equally close ones the convergent.
-/
import MeshlessGas.Arithmetic

namespace MeshlessGas

/-- A fraction. -/
structure Fraction where
  num : Int
  den : Nat
deriving DecidableEq, Repr

namespace Fraction

/-- The last two convergents of `num / den` whose denominators are within a limit,
starting behind two given ones. -/
def convergents (limit : Nat) (num : Int) (den : Nat) (older newer : Fraction) :
    Fraction × Fraction :=
  if den = 0 then (older, newer)
  else
    let a := num / den
    let next : Fraction := ⟨older.num + a * newer.num, older.den + a.toNat * newer.den⟩
    if limit < next.den then (older, newer)
    else convergents limit den (num % den).toNat newer next
termination_by den
decreasing_by
  have h : 0 < (den : Int) := by omega
  have := Int.emod_lt_of_pos num h
  omega

/-- Distance of a fraction from `num / den`, times both denominators. -/
def distance (num : Int) (den : Nat) (f : Fraction) : Nat := (f.num * den - num * f.den).natAbs

/-- The fraction closest to `num / den` with a denominator within a limit. -/
def closest (limit : Nat) (num : Int) (den : Nat) : Fraction :=
  let common := Nat.gcd num.natAbs den
  let num := num / (common : Int)
  let den := den / common
  if den ≤ limit then ⟨num, den⟩
  else
    let (older, newer) := convergents limit num den ⟨0, 1⟩ ⟨1, 0⟩
    let k := (limit - older.den) / newer.den
    let between : Fraction := ⟨older.num + k * newer.num, older.den + k * newer.den⟩
    if distance num den newer * between.den ≤ distance num den between * newer.den then newer
    else between

/-- The sum of two fractions in lowest terms. -/
def add (f g : Fraction) : Fraction :=
  let num := f.num * g.den + g.num * f.den
  let den := f.den * g.den
  let common := Nat.gcd num.natAbs den
  ⟨num / (common : Int), den / common⟩

/-- The fraction as a number. -/
def toReal {D : Type} [Arithmetic D] (f : Fraction) : D :=
  Arithmetic.ofInt f.num / Arithmetic.ofInt f.den

/-- The fraction closest to the shortest decimal of a number; numbers that are not
finite have none. -/
def ofShortest? {D : Type} [Numeral D] (limit : Nat) (x : D) : Option Fraction :=
  match Numeral.value x with
  | .finite negative significand exponent =>
    if significand = 0 then some ⟨0, 1⟩
    else
      let d := shortestDecimal (Numeral.format D) significand exponent
      let digits : Int := if negative then -d.digits else d.digits
      some (closest limit (digits * pow10 d.exponent.toNat) (pow10 (-d.exponent).toNat))
  | _ => none

end Fraction

end MeshlessGas
