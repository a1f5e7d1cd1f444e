/-
Rounding — exact quotients of naturals, rounded to nearest with ties to even.

Everything that turns a number into decimal digits, or a decimal into a number,
goes through `roundQuotient`; the significand and the exponent of a rounded
decimal come from `significantDigits`.  Both work on a quotient `num / den` of
naturals, so nothing here depends on how the number was stored.
-/
import MeshlessGas.Numeral.Power

namespace MeshlessGas

/-- The integer nearest to `num / den`; a tie goes to the even neighbour. -/
def roundQuotient (num den : Nat) : Nat :=
  let floor := num / den
  let rest := num % den
  if 2 * rest < den then floor
  else if den < 2 * rest then floor + 1
  else floor + floor % 2

/-- Number of decimal digits of a natural; `0` has one digit. -/
def decimalLength (n : Nat) : Nat :=
  (Nat.toDigits 10 n).length

/-- `num / den` divided by the power `10 ^ k`, again as a quotient of naturals. -/
def scaleByTen (num den : Nat) (k : Int) : Nat × Nat :=
  if 0 ≤ k then (num, den * pow10 k.toNat) else (num * pow10 (-k).toNat, den)

/-- The exponent `e` with `10 ^ e ≤ num / den < 10 ^ (e + 1)`, for positive
`num` and `den`.  The lengths of the two numbers leave only two candidates. -/
def decimalExponent (num den : Nat) : Int :=
  let guess : Int := (decimalLength num : Int) - (decimalLength den : Int)
  let (scaledNum, scaledDen) := scaleByTen num den guess
  if scaledDen ≤ scaledNum then guess else guess - 1

/-- A decimal `digits * 10 ^ exponent` without sign. -/
structure Decimal where
  digits : Nat
  exponent : Int
deriving DecidableEq, Repr

/-- `num / den` rounded to `count` significant digits, for positive `num`,
`den` and `count`.  A carry out of the leading digit moves the exponent, so the
significand always has exactly `count` digits. -/
def significantDigits (count num den : Nat) : Decimal :=
  let exponent := decimalExponent num den - ((count : Int) - 1)
  let (scaledNum, scaledDen) := scaleByTen num den exponent
  let digits := roundQuotient scaledNum scaledDen
  if digits = pow10 count then ⟨pow10 (count - 1), exponent + 1⟩ else ⟨digits, exponent⟩

/-- The value of a decimal as a quotient of naturals. -/
def Decimal.quotient (d : Decimal) : Nat × Nat :=
  if 0 ≤ d.exponent then (d.digits * pow10 d.exponent.toNat, 1)
  else (d.digits, pow10 (-d.exponent).toNat)

/-! ## Small laws -/

theorem roundQuotient_one (n : Nat) : roundQuotient n 1 = n := by
  simp [roundQuotient, Nat.mod_one]

/-- A rounded quotient is the floor or its successor. -/
theorem roundQuotient_eq_or (num den : Nat) :
    roundQuotient num den = num / den ∨ roundQuotient num den = num / den + 1 := by
  unfold roundQuotient
  dsimp only
  split
  · exact Or.inl rfl
  · split
    · exact Or.inr rfl
    · omega

end MeshlessGas
