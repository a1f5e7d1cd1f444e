/-
Rounded arithmetic — the reals of a binary format, without bounds on their exponents.

A number of a format is a real with as many significant bits as the format has.  Every operation
is the exact one followed by one rounding, where a tie goes to the even neighbour; conversions
from integers and decimals are rounded in the same way.  Nothing overflows and nothing is lost
near zero, so that what is said about doubles below is said about the bits that they keep.
-/
import MeshlessGas.Proofs.RealUnits

namespace MeshlessGas

def BinaryFormat.bits (f : BinaryFormat) : ℕ := f.fractionBits + 1

/-- A real with the significant bits of a format. -/
@[ext] structure Rounded (f : BinaryFormat) where
  toReal : ℝ
  hasPlaces : Exact.HasPlaces 2 f.bits toReal

namespace Rounded

variable {f g : BinaryFormat}

theorem one_le_bits : 1 ≤ f.bits := Nat.le_add_left 1 f.fractionBits

noncomputable def round (f : BinaryFormat) (x : ℝ) : Rounded f :=
  ⟨Exact.roundPlaces 2 f.bits x, Exact.hasPlaces_roundPlaces Nat.one_lt_two one_le_bits x⟩

theorem toReal_round (x : ℝ) : (round f x).toReal = Exact.roundPlaces 2 f.bits x := rfl

theorem toReal_round_of_hasPlaces {x : ℝ} (h : Exact.HasPlaces 2 f.bits x) :
    (round f x).toReal = x :=
  h.roundPlaces_eq Nat.one_lt_two

theorem toReal_round_eq_iff {x : ℝ} :
    (round f x).toReal = x ↔ Exact.HasPlaces 2 f.bits x :=
  Exact.roundPlaces_eq_iff Nat.one_lt_two one_le_bits

theorem round_toReal (x : Rounded f) : round f x.toReal = x :=
  Rounded.ext (toReal_round_of_hasPlaces x.hasPlaces)

theorem abs_toReal_round_sub_le (x : ℝ) (y : Rounded f) :
    |(round f x).toReal - x| ≤ |y.toReal - x| :=
  Exact.abs_roundPlaces_sub_le_of_hasPlaces Nat.one_lt_two one_le_bits y.hasPlaces

theorem toReal_round_pos {x : ℝ} (hx : 0 < x) : 0 < (round f x).toReal :=
  Exact.roundPlaces_pos Nat.one_lt_two one_le_bits hx

/-- The first integer that no number of a format stands for lies half way between two of them,
and its predecessor is the even one. -/
theorem toReal_round_firstLost (hbits : 1 ≤ f.fractionBits) :
    (round f ((2 ^ f.bits + 1 : ℕ) : ℝ)).toReal = (2 ^ f.bits : ℕ) := by
  set x : ℝ := ((2 ^ f.bits + 1 : ℕ) : ℝ) with hx
  have hlog : Nat.log 2 (2 ^ f.bits + 1) = f.bits := by
    have hone : 1 < 2 ^ f.bits := Nat.one_lt_two_pow (Nat.succ_ne_zero f.fractionBits)
    exact Nat.log_eq_of_pow_le_of_lt_pow (by omega) (by rw [pow_succ]; omega)
  have hunit : Exact.lastUnit 2 f.bits x = 2 := by
    rw [Exact.lastUnit, hx, Nat.abs_cast, Int.log_natCast, hlog, sub_sub_cancel]
    norm_num
  obtain ⟨half, hhalf⟩ : ∃ half : ℤ, (2 : ℤ) ^ f.fractionBits = 2 * half :=
    dvd_pow_self 2 (by omega)
  have hbelow : x / 2 = ((2 * half : ℤ) : ℝ) + 1 / 2 := by
    rw [← hhalf, hx, BinaryFormat.bits, pow_succ]
    push_cast
    ring
  have hfloor : ⌊x / 2⌋ = 2 * half := by
    rw [hbelow, Int.floor_intCast_add]
    norm_num
  have hfract : Int.fract (x / 2) = 1 / 2 := by
    rw [Int.fract, hfloor, hbelow, add_sub_cancel_left]
  have heven : Exact.roundEven (x / 2) = 2 * half := by
    rw [Exact.roundEven, hfract, hfloor, if_neg (by norm_num), if_neg (by norm_num),
      Int.mul_emod_right, add_zero]
  rw [toReal_round, Exact.roundPlaces, hunit, heven, ← hhalf, BinaryFormat.bits, pow_succ]
  push_cast
  ring

/-! ## Operations -/

noncomputable instance : Arithmetic (Rounded f) where
  add x y := round f (x.toReal + y.toReal)
  sub x y := round f (x.toReal - y.toReal)
  mul x y := round f (x.toReal * y.toReal)
  div x y := round f (x.toReal / y.toReal)
  neg x := round f (-x.toReal)
  lt x y := x.toReal < y.toReal
  le x y := x.toReal ≤ y.toReal
  ofScientific m s e := round f (OfScientific.ofScientific m s e)
  decLt _ _ := inferInstanceAs (Decidable (_ < (_ : ℝ)))
  decLe _ _ := inferInstanceAs (Decidable (_ ≤ (_ : ℝ)))
  floor x := round f ⌊x.toReal⌋
  truncate x := if 0 ≤ x.toReal then ⌊x.toReal⌋ else ⌈x.toReal⌉
  isFinite _ := true
  ofInt n := round f n
  ofQuotient n d := round f (n / d)

noncomputable instance : Transcendental (Rounded f) where
  exp x := round f (Real.exp x.toReal)
  log x := round f (Real.log x.toReal)
  sqrt x := round f (Real.sqrt x.toReal)
  pow x y := round f (x.toReal ^ y.toReal)
  cos x := round f (Real.cos x.toReal)
  sin x := round f (Real.sin x.toReal)
  pi := round f Real.pi
  roundTo count x := round f (Exact.roundDigits count x.toReal)

noncomputable instance : Numeral (Rounded f) where
  format := f
  value x := Numeral.value x.toReal
  ofDecimal negative d := round f (Numeral.ofDecimal negative d)
  ofInfinity _ := round f 0
  notANumber := round f 0

/-! ## Laws -/

theorem toReal_ofInt (n : ℤ) :
    (Arithmetic.ofInt n : Rounded f).toReal = Exact.roundPlaces 2 f.bits n := rfl

theorem mul_eq (x y : Rounded f) : x * y = round f (x.toReal * y.toReal) := rfl

theorem toReal_round_zero : (round f 0).toReal = 0 :=
  toReal_round_of_hasPlaces ⟨0, 0, by positivity, by norm_num⟩

theorem toReal_round_one : (round f 1).toReal = 1 := by
  have hone : (1 : ℤ) < 2 ^ f.bits := by
    exact_mod_cast Nat.one_lt_two_pow (Nat.succ_ne_zero f.fractionBits)
  exact toReal_round_of_hasPlaces ⟨1, 0, by simpa using hone, by norm_num⟩

theorem toReal_zero : (0.0 : Rounded f).toReal = 0 := by
  show (round f (0.0 : ℝ)).toReal = 0
  rw [Exact.zero_eq, toReal_round_zero]

theorem toReal_one : (1.0 : Rounded f).toReal = 1 := by
  show (round f (1.0 : ℝ)).toReal = 1
  rw [Exact.one_eq, toReal_round_one]

theorem zero_lt_iff {x : Rounded f} : 0.0 < x ↔ 0 < x.toReal := by
  show (0.0 : Rounded f).toReal < x.toReal ↔ _
  rw [toReal_zero]

theorem size_eq (u : NamedUnit) : (u.size : Rounded f) = round f u.size := by
  cases u <;> rfl

instance : FiniteNumbers (Rounded f) where
  isFinite _ := rfl
  value_finite x := FiniteNumbers.value_finite x.toReal
  le_refl x := le_refl x.toReal
  lt_irrefl x := lt_irrefl x.toReal
  not_lt_zero h := lt_asymm (α := ℝ) h
  not_agree_zero h := decide_eq_false fun hagree => not_le_of_gt (α := ℝ) h hagree.1
  mul_pos hx hy := by
    rw [zero_lt_iff] at *
    exact toReal_round_pos (mul_pos hx hy)
  div_pos hx hy := by
    rw [zero_lt_iff] at *
    exact toReal_round_pos (div_pos hx hy)
  roundTo_pos hx := by
    rw [zero_lt_iff] at *
    exact toReal_round_pos (BaseUnit.roundDigits_pos hx)
  size_pos u := by
    rw [zero_lt_iff, size_eq]
    exact toReal_round_pos (NamedUnit.size_pos u)
  floor_zero := by
    refine Rounded.ext ?_
    show (round f ((⌊(0.0 : Rounded f).toReal⌋ : ℤ) : ℝ)).toReal = _
    rw [toReal_zero, Int.floor_zero, Int.cast_zero, toReal_round_zero]
  mul_one x := by
    rw [mul_eq, toReal_one, mul_one, round_toReal]
  pow_zero x := by
    refine Rounded.ext ?_
    show (round f (x.toReal ^ (0.0 : Rounded f).toReal)).toReal = _
    rw [toReal_zero, Real.rpow_zero, toReal_round_one, toReal_one]

end Rounded

/-- A double without bounds on its exponent. -/
abbrev Double := Rounded binary64

/-- A single without bounds on its exponent. -/
abbrev Single := Rounded binary32

noncomputable instance : Narrowing Double Single where
  narrow x := .round binary32 x.toReal
  widen x := .round binary64 x.toReal
  half x := .round binary64 (Rounded.round binary16 x.toReal).toReal

/-- A single has fewer bits than a double, and is not rounded where it becomes one. -/
theorem Single.toReal_widen (x : Single) : (Narrowing.widen x : Double).toReal = x.toReal :=
  Rounded.toReal_round_of_hasPlaces (x.hasPlaces.mono Nat.one_lt_two (by decide))

end MeshlessGas
