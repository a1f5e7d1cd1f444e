/-
Binary floating-point formats — bit patterns as exact values, and back.

A format is a number of fraction bits and of exponent bits.  `decode` reads a
bit pattern as `± significand * 2 ^ exponent`; `nearest` is the bit pattern of
the representable value closest to a quotient of naturals, ties to even, with
gradual underflow and overflow to infinity.
-/
import MeshlessGas.Numeral.Rounding

namespace MeshlessGas

/-- A binary interchange format. -/
structure BinaryFormat where
  fractionBits : Nat
  exponentBits : Nat
deriving DecidableEq, Repr

/-- The 64-bit format. -/
def binary64 : BinaryFormat := ⟨52, 11⟩

/-- The 32-bit format. -/
def binary32 : BinaryFormat := ⟨23, 8⟩

/-- The 16-bit format. -/
def binary16 : BinaryFormat := ⟨10, 5⟩

/-- What a bit pattern stands for. -/
inductive BinaryValue where
  | nan
  | infinite (negative : Bool)
  | finite (negative : Bool) (significand : Nat) (exponent : Int)
deriving DecidableEq, Repr

namespace BinaryFormat

/-- Exponent of the last place of the smallest numbers. -/
def minExponent (f : BinaryFormat) : Int :=
  2 - (pow2 (f.exponentBits - 1) : Int) - (f.fractionBits : Int)

/-- Bit pattern of positive infinity. -/
def infinityBits (f : BinaryFormat) : Nat :=
  (pow2 f.exponentBits - 1) * pow2 f.fractionBits

/-- Weight of the sign bit. -/
def signWeight (f : BinaryFormat) : Nat :=
  pow2 (f.fractionBits + f.exponentBits)

/-- The value of a bit pattern. -/
def decode (f : BinaryFormat) (bits : Nat) : BinaryValue :=
  let negative := bits / f.signWeight % 2 = 1
  let fraction := bits % pow2 f.fractionBits
  let biased := bits / pow2 f.fractionBits % pow2 f.exponentBits
  if biased = pow2 f.exponentBits - 1 then
    if fraction = 0 then .infinite negative else .nan
  else if biased = 0 then .finite negative fraction f.minExponent
  else .finite negative (pow2 f.fractionBits + fraction) (f.minExponent + (biased - 1 : Nat))

/-- The exponent `e` with `2 ^ e ≤ num / den < 2 ^ (e + 1)`, for positive `num`
and `den`. -/
def binaryExponent (num den : Nat) : Int :=
  let guess : Int := (num.log2 : Int) - (den.log2 : Int)
  let (scaledNum, scaledDen) :=
    if 0 ≤ guess then (num, den * pow2 guess.toNat) else (num * pow2 (-guess).toNat, den)
  if scaledDen ≤ scaledNum then guess else guess - 1

/-- Bit pattern of the magnitude nearest to `num / den`.  The significand is
added to the shifted exponent instead of being masked in, so a carry out of it
raises the exponent by itself. -/
def nearestMagnitude (f : BinaryFormat) (num den : Nat) : Nat :=
  if num = 0 then 0
  else
    let exponent := max (binaryExponent num den - f.fractionBits) f.minExponent
    let significand :=
      if 0 ≤ exponent then roundQuotient num (den * pow2 exponent.toNat)
      else roundQuotient (num * pow2 (-exponent).toNat) den
    min ((exponent - f.minExponent).toNat * pow2 f.fractionBits + significand) f.infinityBits

/-- Bit pattern of the number nearest to `± num / den`. -/
def nearest (f : BinaryFormat) (negative : Bool) (num den : Nat) : Nat :=
  nearestMagnitude f num den + if negative then f.signWeight else 0

/-- Exponent `e` such that every decimal of `digits * 10 ^ k` with more than
`e` places before the point is infinite, and after it zero. -/
def decimalReach (f : BinaryFormat) : Nat :=
  pow2 (f.exponentBits - 1) + f.fractionBits

/-- Bit pattern of the number nearest to the decimal `± digits * 10 ^ exponent`.
Exponents beyond the reach of the format are cut off first, so that the powers
of ten stay small. -/
def nearestDecimal (f : BinaryFormat) (negative : Bool) (d : Decimal) : Nat :=
  if d.digits = 0 then nearest f negative 0 1
  else
    let leading := d.exponent + (decimalLength d.digits : Int)
    if (f.decimalReach : Int) < leading then
      f.infinityBits + if negative then f.signWeight else 0
    else if leading < -(f.decimalReach : Int) then nearest f negative 0 1
    else
      let (num, den) := d.quotient
      nearest f negative num den

end BinaryFormat

/-- The magnitude `significand * 2 ^ exponent` as a quotient of naturals. -/
def binaryQuotient (significand : Nat) (exponent : Int) : Nat × Nat :=
  if 0 ≤ exponent then (significand * pow2 exponent.toNat, 1)
  else (significand, pow2 (-exponent).toNat)

/-- A value rounded to a format. -/
def BinaryValue.roundTo (f : BinaryFormat) : BinaryValue → BinaryValue
  | .finite negative significand exponent =>
    let (num, den) := binaryQuotient significand exponent
    f.decode (f.nearest negative num den)
  | x => x

/-- Bit pattern of a value in a format. -/
def BinaryFormat.encode (f : BinaryFormat) : BinaryValue → Nat
  | .nan => f.infinityBits + pow2 (f.fractionBits - 1)
  | .infinite negative => f.infinityBits + if negative then f.signWeight else 0
  | .finite negative significand exponent =>
    let (num, den) := binaryQuotient significand exponent
    f.nearest negative num den

end MeshlessGas
