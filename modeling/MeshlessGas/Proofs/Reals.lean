/-
Exact arithmetic — the number system of the reals.

Read at the reals every operation is the exact one, and a number in single precision is the
number itself.  The one rounding that is left is what reading units asks for: to a number
of significant decimal digits, where a tie goes to the even digit.

Two instances of every operation on the reals are in scope, and the later one is found first.
Modules about the reals therefore import the reals before the rest.
-/
import Mathlib.Analysis.SpecialFunctions.Pow.Real
import Mathlib.Analysis.SpecialFunctions.Trigonometric.Basic
import Mathlib.Data.Int.Log
import MeshlessGas.Arithmetic

namespace MeshlessGas

/-! ## Rounding to significant digits -/

namespace Exact

/-- The integer nearest to a real; a tie goes to the even neighbour. -/
noncomputable def roundEven (x : ℝ) : ℤ :=
  if 2 * Int.fract x < 1 then ⌊x⌋
  else if 1 < 2 * Int.fract x then ⌊x⌋ + 1
  else ⌊x⌋ + ⌊x⌋ % 2

theorem roundEven_intCast (n : ℤ) : roundEven n = n := by
  simp [roundEven]

theorem abs_roundEven_sub_le (x : ℝ) : |(roundEven x : ℝ) - x| ≤ 1 / 2 := by
  have hfract : Int.fract x = x - ⌊x⌋ := rfl
  have h₀ := Int.fract_nonneg x
  have h₁ := Int.fract_lt_one x
  unfold roundEven
  split
  next hlow =>
    rw [abs_le]
    constructor <;> linarith
  next hlow =>
    split
    next hhigh =>
      push_cast
      rw [abs_le]
      constructor <;> linarith
    next hhigh =>
      have htie : Int.fract x = 1 / 2 := by linarith
      have hparity : ((⌊x⌋ % 2 : ℤ) : ℝ) = 0 ∨ ((⌊x⌋ % 2 : ℤ) : ℝ) = 1 := by
        rcases Int.emod_two_eq_zero_or_one ⌊x⌋ with h | h
        · exact .inl (by rw [h]; norm_num)
        · exact .inr (by rw [h]; norm_num)
      rw [Int.cast_add, abs_le]
      rcases hparity with h | h
      · constructor <;> linarith
      · constructor <;> linarith

theorem abs_roundEven_sub_le_of_int (x : ℝ) (n : ℤ) : |(roundEven x : ℝ) - x| ≤ |(n : ℝ) - x| := by
  have hround := abs_roundEven_sub_le x
  by_cases heq : n = roundEven x
  · rw [heq]
  · have hapart : (1 : ℝ) ≤ |(n : ℝ) - roundEven x| := by
      have hone : 1 ≤ |n - roundEven x| := Int.one_le_abs (sub_ne_zero.mpr heq)
      exact_mod_cast hone
    have htriangle := abs_sub_le (n : ℝ) x (roundEven x)
    rw [abs_sub_comm x] at htriangle
    linarith

/-! ### Significant places in a base -/

section Base

variable (base count : ℕ)

/-- The value of one in the last of some significant places, in a base. -/
noncomputable def lastUnit (x : ℝ) : ℝ := (base : ℝ) ^ (Int.log base |x| - ((count : ℤ) - 1))

/-- A real rounded to a number of significant places in a base. -/
noncomputable def roundPlaces (x : ℝ) : ℝ :=
  roundEven (x / lastUnit base count x) * lastUnit base count x

/-- A number that is written in a base with a number of places, and zeros or places behind
them. -/
def HasPlaces (x : ℝ) : Prop :=
  ∃ digits exponent : ℤ, |digits| < (base : ℤ) ^ count ∧ x = digits * (base : ℝ) ^ exponent

theorem roundPlaces_zero : roundPlaces base count 0 = 0 := by
  simp [roundPlaces, roundEven]

variable {base count} (hbase : 1 < base)

include hbase

theorem base_pos : (0 : ℝ) < base := by
  exact_mod_cast (zero_lt_one.trans hbase)

theorem lastUnit_pos (x : ℝ) : 0 < lastUnit base count x :=
  zpow_pos (base_pos hbase) _

theorem HasPlaces.mono {more : ℕ} (hle : count ≤ more) {x : ℝ} (h : HasPlaces base count x) :
    HasPlaces base more x := by
  obtain ⟨digits, exponent, hdigits, hx⟩ := h
  have hpower : (base : ℤ) ^ count ≤ (base : ℤ) ^ more :=
    pow_le_pow_right₀ (by exact_mod_cast hbase.le) hle
  exact ⟨digits, exponent, hdigits.trans_le hpower, hx⟩

theorem abs_div_lastUnit {x : ℝ} (hx : x ≠ 0) (hcount : 1 ≤ count) :
    (base : ℝ) ^ (count - 1) ≤ |x / lastUnit base count x| ∧
      |x / lastUnit base count x| < (base : ℝ) ^ count := by
  have hpos := base_pos hbase
  have hunit : 0 < lastUnit base count x := lastUnit_pos hbase x
  have hlow : (base : ℝ) ^ Int.log base |x| ≤ |x| :=
    Int.zpow_log_le_self hbase (abs_pos.mpr hx)
  have hhigh : |x| < (base : ℝ) ^ (Int.log base |x| + 1) := Int.lt_zpow_succ_log_self hbase _
  have hscale : ∀ n : ℕ, (base : ℝ) ^ n * lastUnit base count x
      = (base : ℝ) ^ (Int.log base |x| + ((n : ℤ) + 1 - count)) := by
    intro n
    rw [lastUnit, ← zpow_natCast, ← zpow_add₀ hpos.ne']
    congr 1
    ring
  rw [abs_div, abs_of_pos hunit, le_div_iff₀ hunit, div_lt_iff₀ hunit, hscale, hscale]
  have hfirst : Int.log base |x| + (((count - 1 : ℕ) : ℤ) + 1 - count) = Int.log base |x| := by
    omega
  have hlast : Int.log base |x| + ((count : ℤ) + 1 - count) = Int.log base |x| + 1 := by
    omega
  rw [hfirst, hlast]
  exact ⟨hlow, hhigh⟩

theorem abs_roundPlaces_sub_le (x : ℝ) :
    |roundPlaces base count x - x| ≤ lastUnit base count x / 2 := by
  have hunit : 0 < lastUnit base count x := lastUnit_pos hbase x
  have hround := abs_roundEven_sub_le (x / lastUnit base count x)
  have hdiff : roundPlaces base count x - x
      = (roundEven (x / lastUnit base count x) - x / lastUnit base count x)
        * lastUnit base count x := by
    rw [roundPlaces, sub_mul, div_mul_cancel₀ x hunit.ne']
  rw [hdiff, abs_mul, abs_of_pos hunit]
  nlinarith

theorem lastUnit_le {x : ℝ} (hx : x ≠ 0) :
    lastUnit base count x ≤ |x| * (base : ℝ) ^ (1 - (count : ℤ)) := by
  have hlow : (base : ℝ) ^ Int.log base |x| ≤ |x| :=
    Int.zpow_log_le_self hbase (abs_pos.mpr hx)
  have hsplit : lastUnit base count x
      = (base : ℝ) ^ Int.log base |x| * (base : ℝ) ^ (1 - (count : ℤ)) := by
    rw [lastUnit, ← zpow_add₀ (base_pos hbase).ne']
    congr 1
    ring
  have hpower := zpow_pos (base_pos hbase) (1 - (count : ℤ))
  rw [hsplit]
  gcongr

theorem lastUnit_le_of_lt {x : ℝ} (hx : x ≠ 0) {exponent : ℤ} (hlt : |x| < (base : ℝ) ^ exponent) :
    lastUnit base count x ≤ (base : ℝ) ^ (exponent - count) := by
  have hlog : Int.log base |x| < exponent :=
    (Int.lt_zpow_iff_log_lt hbase (abs_pos.mpr hx)).mp hlt
  have hone : (1 : ℝ) ≤ base := by exact_mod_cast hbase.le
  exact zpow_le_zpow_right₀ hone (by omega)

theorem HasPlaces.exists_multiple {x y : ℝ} (hy : HasPlaces base count y)
    (hle : (base : ℝ) ^ Int.log base |x| ≤ |y|) :
    ∃ n : ℤ, y = n * lastUnit base count x := by
  obtain ⟨digits, exponent, hdigits, rfl⟩ := hy
  have hpos := base_pos hbase
  have hpower := zpow_pos hpos exponent
  have hlt : |(digits : ℝ) * (base : ℝ) ^ exponent| < (base : ℝ) ^ ((count : ℤ) + exponent) := by
    have hcast : |(digits : ℝ)| < (base : ℝ) ^ count := by exact_mod_cast hdigits
    rw [abs_mul, abs_of_pos hpower, zpow_add₀ hpos.ne', zpow_natCast]
    gcongr
  have hexponent : Int.log base |x| < (count : ℤ) + exponent :=
    (zpow_lt_zpow_iff_right₀ (by exact_mod_cast hbase)).mp (hle.trans_lt hlt)
  obtain ⟨k, hk⟩ : ∃ k : ℕ, exponent = Int.log base |x| - ((count : ℤ) - 1) + k :=
    ⟨(exponent - (Int.log base |x| - ((count : ℤ) - 1))).toNat, by omega⟩
  refine ⟨digits * (base : ℤ) ^ k, ?_⟩
  rw [lastUnit, hk, zpow_add₀ hpos.ne', zpow_natCast]
  push_cast
  ring

theorem HasPlaces.roundPlaces_eq {x : ℝ} (h : HasPlaces base count x) :
    roundPlaces base count x = x := by
  by_cases hzero : x = 0
  · rw [hzero, roundPlaces_zero]
  obtain ⟨n, hn⟩ := h.exists_multiple hbase (Int.zpow_log_le_self hbase (abs_pos.mpr hzero))
  have hunit : lastUnit base count x ≠ 0 := (lastUnit_pos hbase x).ne'
  have hquotient : x / lastUnit base count x = n := (div_eq_iff hunit).mpr hn
  rw [roundPlaces, hquotient, roundEven_intCast]
  exact hn.symm

/-- No multiple of the last place is nearer to a number than what it is rounded to. -/
theorem abs_roundPlaces_sub_le_of_multiple (x : ℝ) (n : ℤ) :
    |roundPlaces base count x - x| ≤ |n * lastUnit base count x - x| := by
  have hunit : 0 < lastUnit base count x := lastUnit_pos hbase x
  have hscale : ∀ m : ℤ, |m * lastUnit base count x - x|
      = |(m : ℝ) - x / lastUnit base count x| * lastUnit base count x := by
    intro m
    rw [← abs_of_pos hunit, ← abs_mul, abs_of_pos hunit, sub_mul, div_mul_cancel₀ x hunit.ne']
  rw [roundPlaces, hscale, hscale]
  exact mul_le_mul_of_nonneg_right (abs_roundEven_sub_le_of_int _ n) hunit.le

theorem abs_roundPlaces_sub_le_of_hasPlaces (hcount : 1 ≤ count) {x y : ℝ}
    (hy : HasPlaces base count y) : |roundPlaces base count x - x| ≤ |y - x| := by
  by_cases hzero : x = 0
  · rw [hzero, roundPlaces_zero, sub_self, abs_zero]
    exact abs_nonneg _
  have hfirst : (base : ℝ) ^ Int.log base |x| ≤ |x| :=
    Int.zpow_log_le_self hbase (abs_pos.mpr hzero)
  obtain hle | hlt := le_or_gt ((base : ℝ) ^ Int.log base |x|) |y|
  · obtain ⟨n, rfl⟩ := hy.exists_multiple hbase hle
    exact abs_roundPlaces_sub_le_of_multiple hbase x n
  -- Below its first place, the power of the base lies between a number and the other.
  · obtain ⟨sign, hsign, habs⟩ : ∃ sign : ℤ, |sign| = 1 ∧ x = sign * |x| := by
      rcases lt_or_gt_of_ne hzero with hneg | hpos
      · exact ⟨-1, by simp, by rw [abs_of_neg hneg]; simp⟩
      · exact ⟨1, by simp, by rw [abs_of_pos hpos]; simp⟩
    have hpower : (sign : ℝ) * (base : ℝ) ^ Int.log base |x|
        = ((sign * (base : ℤ) ^ (count - 1) : ℤ) : ℝ) * lastUnit base count x := by
      have hexponent : ((count - 1 : ℕ) : ℤ) + (Int.log base |x| - ((count : ℤ) - 1))
          = Int.log base |x| := by omega
      rw [lastUnit]
      push_cast
      rw [mul_assoc, ← zpow_natCast, ← zpow_add₀ (base_pos hbase).ne', hexponent]
    have hbetween : |(sign : ℝ) * (base : ℝ) ^ Int.log base |x| - x|
        = |x| - (base : ℝ) ^ Int.log base |x| := by
      have hsign : |(sign : ℝ)| = 1 := by exact_mod_cast hsign
      nth_rewrite 2 [habs]
      rw [← mul_sub, abs_mul, hsign, one_mul, abs_of_nonpos (by linarith), neg_sub]
    have hmultiple : |roundPlaces base count x - x|
        ≤ |((sign * (base : ℤ) ^ (count - 1) : ℤ) : ℝ) * lastUnit base count x - x| :=
      abs_roundPlaces_sub_le_of_multiple hbase x _
    rw [← hpower, hbetween] at hmultiple
    have hreverse := abs_sub_abs_le_abs_sub x y
    rw [abs_sub_comm x y] at hreverse
    linarith

/-- What is rounded has its places.  Rounding up may lead to the next power of the base, which
has a single one. -/
theorem hasPlaces_roundPlaces (hcount : 1 ≤ count) (x : ℝ) :
    HasPlaces base count (roundPlaces base count x) := by
  by_cases hzero : x = 0
  · refine ⟨0, 0, ?_, ?_⟩
    · rw [abs_zero]
      exact_mod_cast pow_pos (zero_lt_one.trans hbase) count
    · rw [hzero, roundPlaces_zero, Int.cast_zero, zero_mul]
  obtain ⟨-, hhigh⟩ := abs_div_lastUnit hbase hzero hcount
  set y := x / lastUnit base count x with hy
  have hround := abs_le.mp (abs_roundEven_sub_le y)
  have hle : |roundEven y| ≤ (base : ℤ) ^ count := by
    have hy' := abs_lt.mp hhigh
    have hupper : (roundEven y : ℝ) < (base : ℝ) ^ count + 1 := by linarith
    have hlower : -((base : ℝ) ^ count + 1) < (roundEven y : ℝ) := by linarith
    have hupper : roundEven y < (base : ℤ) ^ count + 1 := by exact_mod_cast hupper
    have hlower : -((base : ℤ) ^ count + 1) < roundEven y := by exact_mod_cast hlower
    rw [abs_le]
    constructor <;> linarith
  rcases hle.lt_or_eq with hlt | heq
  · exact ⟨roundEven y, _, hlt, rfl⟩
  · have hpos := base_pos hbase
    have hone : (1 : ℤ) < (base : ℤ) ^ count := by
      exact_mod_cast Nat.one_lt_pow (by omega) hbase
    have hexponent : (base : ℝ) ^ (count : ℤ) * lastUnit base count x
        = (base : ℝ) ^ ((count : ℤ) + (Int.log base |x| - ((count : ℤ) - 1))) := by
      rw [lastUnit, zpow_add₀ hpos.ne']
    obtain ⟨sign, hsign, hcarry⟩ :
        ∃ sign : ℤ, |sign| = 1 ∧ roundEven y = sign * (base : ℤ) ^ count := by
      rcases (abs_eq (by positivity)).mp heq with h | h
      · exact ⟨1, by simp, by rw [h, one_mul]⟩
      · exact ⟨-1, by simp, by rw [h, neg_one_mul]⟩
    refine ⟨sign, (count : ℤ) + (Int.log base |x| - ((count : ℤ) - 1)), hsign ▸ hone, ?_⟩
    rw [roundPlaces, ← hy, hcarry, ← hexponent, zpow_natCast]
    push_cast
    ring

theorem roundPlaces_eq_iff (hcount : 1 ≤ count) {x : ℝ} :
    roundPlaces base count x = x ↔ HasPlaces base count x := by
  constructor
  · intro h
    exact h ▸ hasPlaces_roundPlaces hbase hcount x
  · exact HasPlaces.roundPlaces_eq hbase

theorem roundPlaces_pos (hcount : 1 ≤ count) {x : ℝ} (hx : 0 < x) :
    0 < roundPlaces base count x := by
  obtain ⟨hlow, -⟩ := abs_div_lastUnit hbase hx.ne' hcount
  have hunit : 0 < lastUnit base count x := lastUnit_pos hbase x
  have hquotient : 0 < x / lastUnit base count x := div_pos hx hunit
  rw [abs_of_pos hquotient] at hlow
  have hone : (1 : ℝ) ≤ (base : ℝ) ^ (count - 1) :=
    one_le_pow₀ (by exact_mod_cast hbase.le)
  have hround := abs_le.mp (abs_roundEven_sub_le (x / lastUnit base count x))
  have hpositive : (0 : ℝ) < roundEven (x / lastUnit base count x) := by linarith
  exact mul_pos hpositive hunit

/-- A natural number has some places exactly if it has them before its last zeros. -/
theorem hasPlaces_natCast_iff {n : ℕ} :
    HasPlaces base count (n : ℝ) ↔
      ∃ digits zeros : ℕ, digits < base ^ count ∧ n = digits * base ^ zeros := by
  constructor
  · rintro ⟨digits, exponent, hdigits, hn⟩
    have hdigits : digits.natAbs < base ^ count := by
      zify
      exact hdigits
    cases exponent with
    | ofNat zeros =>
      rw [Int.ofNat_eq_natCast, zpow_natCast] at hn
      have hn : (n : ℤ) = digits * (base : ℤ) ^ zeros := by exact_mod_cast hn
      refine ⟨digits.natAbs, zeros, hdigits, ?_⟩
      rw [← Int.natAbs_natCast n, hn, Int.natAbs_mul, Int.natAbs_pow, Int.natAbs_natCast]
    | negSucc places =>
      -- Without places behind it the number is smaller than its digits.
      have hpower : (base : ℝ) ^ (places + 1) ≠ 0 := (pow_pos (base_pos hbase) _).ne'
      rw [zpow_negSucc, ← div_eq_mul_inv, eq_div_iff hpower] at hn
      have hn : (n : ℤ) * (base : ℤ) ^ (places + 1) = digits := by exact_mod_cast hn
      have habs : n * base ^ (places + 1) = digits.natAbs := by
        rw [← hn, Int.natAbs_mul, Int.natAbs_pow, Int.natAbs_natCast, Int.natAbs_natCast]
      have hle : n ≤ digits.natAbs := habs ▸ Nat.le_mul_of_pos_right n (Nat.pow_pos (by omega))
      exact ⟨n, 0, hle.trans_lt hdigits, by rw [pow_zero, mul_one]⟩
  · rintro ⟨digits, zeros, hdigits, rfl⟩
    refine ⟨digits, zeros, ?_, ?_⟩
    · rw [Nat.abs_cast]
      exact_mod_cast hdigits
    · push_cast
      rw [zpow_natCast]

end Base

/-! ### Significant digits -/

/-- The value of one in the last of some significant digits. -/
noncomputable def lastPlace (count : ℕ) (x : ℝ) : ℝ := 10 ^ (Int.log 10 |x| - ((count : ℤ) - 1))

/-- A real rounded to a number of significant digits. -/
noncomputable def roundDigits (count : ℕ) (x : ℝ) : ℝ :=
  roundEven (x / lastPlace count x) * lastPlace count x

/-- A number that is written with a number of digits, and zeros or places behind them. -/
def HasDigits (count : ℕ) (x : ℝ) : Prop :=
  ∃ digits exponent : ℤ, |digits| < 10 ^ count ∧ x = digits * 10 ^ exponent

theorem roundDigits_eq_roundPlaces (count : ℕ) (x : ℝ) :
    roundDigits count x = roundPlaces 10 count x := by
  simp only [roundDigits, roundPlaces, lastPlace, lastUnit, Nat.cast_ofNat]

/-- Rounding changes a number by half of its last digit at most. -/
theorem abs_roundDigits_sub_le (count : ℕ) {x : ℝ} (hx : x ≠ 0) :
    |roundDigits count x - x| ≤ |x| * 10 ^ (1 - (count : ℤ)) / 2 := by
  have hten : 1 < 10 := by norm_num
  have hround : |roundPlaces 10 count x - x| ≤ lastUnit 10 count x / 2 :=
    abs_roundPlaces_sub_le hten x
  have hunit : lastUnit 10 count x ≤ |x| * ((10 : ℕ) : ℝ) ^ (1 - (count : ℤ)) :=
    lastUnit_le hten hx
  rw [Nat.cast_ofNat] at hunit
  rw [roundDigits_eq_roundPlaces]
  linarith

theorem HasDigits.roundDigits_eq {count : ℕ} {x : ℝ} (h : HasDigits count x) :
    roundDigits count x = x := by
  have hplaces : HasPlaces 10 count x := by
    simpa only [HasPlaces, HasDigits, Nat.cast_ofNat] using h
  rw [roundDigits_eq_roundPlaces, hplaces.roundPlaces_eq (by norm_num)]

end Exact

/-! ## The reals as a number system -/

noncomputable instance : Arithmetic ℝ where
  decLt := inferInstance
  decLe := inferInstance
  floor x := (⌊x⌋ : ℝ)
  truncate x := if 0 ≤ x then ⌊x⌋ else ⌈x⌉
  isFinite _ := true
  ofInt n := (n : ℝ)
  ofQuotient n d := (n : ℝ) / (d : ℝ)

namespace Exact

theorem zero_eq : (0.0 : ℝ) = 0 := by norm_num

theorem one_eq : (1.0 : ℝ) = 1 := by norm_num

end Exact

noncomputable instance : Transcendental ℝ where
  exp := Real.exp
  log := Real.log
  sqrt := Real.sqrt
  pow x y := x ^ y
  cos := Real.cos
  sin := Real.sin
  pi := Real.pi
  roundTo := Exact.roundDigits

noncomputable instance : Narrowing ℝ ℝ where
  narrow x := x
  widen x := x
  half x := x

/-- A real is written as the largest multiple of the smallest double that it reaches.  No real
is infinite, and zero stands in for what would be. -/
noncomputable instance : Numeral ℝ where
  format := binary64
  value x := .finite (decide (x < 0)) ⌊|x| * 2 ^ 1074⌋₊ (-1074)
  ofDecimal negative d :=
    (if negative then -1 else 1) * ((d.digits : ℝ) * (10 : ℝ) ^ d.exponent)
  ofInfinity _ := 0
  notANumber := 0

end MeshlessGas
