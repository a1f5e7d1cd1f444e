/-
Unit factors over the reals — powers of positive sizes, and units that are read back.

A unit system whose units have positive sizes has a real factor for every tag: the product of
powers of its sizes.  Reading the units of a file keeps five significant digits of each size,
as a multiple of the named unit that is closest to it, and so changes no size by more than
five parts in a hundred thousand.
-/
import Mathlib.Tactic.FieldSimp
import Mathlib.Tactic.Positivity
import MeshlessGas.Proofs.Reals
import MeshlessGas.Proofs.FiniteNumbers

namespace MeshlessGas

/-! ## Powers of positive numbers -/

theorem Arithmetic.agree_iff {x y : ℝ} : Arithmetic.agree x y = true ↔ x = y := by
  rw [Arithmetic.agree, decide_eq_true_iff]
  exact le_antisymm_iff.symm

theorem NamedUnit.size_pos (u : NamedUnit) : (0 : ℝ) < u.size := by
  cases u <;> norm_num [size]

theorem BaseUnit.roundDigits_pos {x : ℝ} (hx : 0 < x) : 0 < Exact.roundDigits keptDigits x := by
  rw [Exact.roundDigits_eq_roundPlaces]
  exact Exact.roundPlaces_pos (by norm_num) (by decide) hx

instance : FiniteNumbers ℝ where
  isFinite _ := rfl
  value_finite _ := ⟨_, _, _, rfl⟩
  le_refl := le_refl
  lt_irrefl := lt_irrefl
  not_lt_zero h := h.asymm
  not_agree_zero h := by
    rw [Bool.eq_false_iff]
    exact fun hagree => h.ne' (Arithmetic.agree_iff.mp hagree)
  mul_pos hx hy := by
    rw [Exact.zero_eq] at *
    exact mul_pos hx hy
  div_pos hx hy := by
    rw [Exact.zero_eq] at *
    exact div_pos hx hy
  roundTo_pos hx := by
    rw [Exact.zero_eq] at *
    exact BaseUnit.roundDigits_pos hx
  size_pos u := by
    rw [Exact.zero_eq]
    exact NamedUnit.size_pos u
  floor_zero := by
    show ((⌊(0.0 : ℝ)⌋ : ℤ) : ℝ) = 0.0
    norm_num
  mul_one x := by
    rw [Exact.one_eq, mul_one]
  pow_zero x := by
    rw [Exact.one_eq, Exact.zero_eq]
    exact Real.rpow_zero x

theorem power_of_pos {x : ℝ} (hx : 0 < x) (y : ℝ) : power x y = .ok (x ^ y) :=
  FiniteNumbers.power_eq (Exact.zero_eq.symm ▸ hx) y

namespace Factor

theorem power_of_pos {x : ℝ} (hx : 0 < x) (y : ℝ) : power x y = .ok (real (x ^ y)) :=
  FiniteNumbers.factorPower_eq (Exact.zero_eq.symm ▸ hx) y

theorem isOne_real {x : ℝ} : (real x).isOne = true ↔ x = 1 := by
  have hzero : Arithmetic.agree (0.0 : ℝ) 0.0 = true := Arithmetic.agree_iff.mpr rfl
  simp only [isOne, re, im, hzero, and_true, Bool.decide_eq_true]
  rw [Arithmetic.agree_iff]
  norm_num

end Factor

theorem quotient_of_ne_zero (x : ℝ) {y : ℝ} (hy : y ≠ 0) : quotient x y = .ok (x / y) := by
  have hne : ¬ Arithmetic.agree y 0.0 = true := by
    rw [Arithmetic.agree_iff, Exact.zero_eq]
    exact hy
  rw [quotient, if_neg hne]

theorem productOfPowers_of_real {size : BaseDimension → ℝ}
    {exponents : List (BaseDimension × Exponent ℝ)}
    (hpower : ∀ x ∈ exponents,
      Factor.power (size x.1) x.2.toReal = .ok (.real (size x.1 ^ x.2.toReal)))
    (start : ℝ) :
    productOfPowers (fun d => .ok (size d)) (.real start) exponents
      = .ok (.real (start * (exponents.map fun x => size x.1 ^ x.2.toReal).prod)) := by
  induction exponents generalizing start with
  | nil =>
    rw [List.map_nil, List.prod_nil, mul_one]
    rfl
  | cons x exponents ih =>
    obtain ⟨d, e⟩ := x
    obtain ⟨hfirst, hrest⟩ := List.forall_mem_cons.mp hpower
    have hfirst : Factor.power (size d) e.toReal = .ok (.real (size d ^ e.toReal)) := hfirst
    simp only [productOfPowers, Result.ok_bind, hfirst, Factor.mul]
    rw [ih hrest, List.map_cons, List.prod_cons, mul_assoc]

theorem productOfPowers_of_pos {size : BaseDimension → ℝ} (hsize : ∀ d, 0 < size d) (start : ℝ)
    (exponents : List (BaseDimension × Exponent ℝ)) :
    productOfPowers (fun d => .ok (size d)) (.real start) exponents
      = .ok (.real (start * (exponents.map fun x => size x.1 ^ x.2.toReal).prod)) :=
  productOfPowers_of_real (fun x _ => Factor.power_of_pos (hsize x.1) x.2.toReal) start

/-! ## Unit systems of positive sizes -/

namespace UnitSystem

def Positive (u : UnitSystem ℝ) : Prop := ∀ d, 0 < u.sizeInCgs d

/-- The size of a unit of one system in the unit of another. -/
noncomputable def ratio (u v : UnitSystem ℝ) (d : BaseDimension) : ℝ :=
  u.sizeInCgs d / v.sizeInCgs d

theorem Positive.hasPositiveSizes {u : UnitSystem ℝ} (hu : u.Positive) : u.HasPositiveSizes := by
  intro d
  rw [Exact.zero_eq]
  exact hu d

theorem cgs_positive : (cgs : UnitSystem ℝ).Positive := by
  intro d
  cases d <;> norm_num [sizeInCgs, unit?, cgs, BaseUnit.sizeIn, BaseUnit.named,
    BaseDimension.cgsUnit, NamedUnit.size]

theorem mks_positive : (mks : UnitSystem ℝ).Positive := by
  intro d
  cases d <;> norm_num [sizeInCgs, unit?, mks, ofMechanical, BaseUnit.sizeIn, BaseUnit.named,
    BaseDimension.cgsUnit, NamedUnit.size]

end UnitSystem

namespace UnitTag

variable {u v : UnitSystem ℝ}

theorem cgsFactor_of_positive (hu : u.Positive) (tag : UnitTag) (gamma : ℝ) :
    tag.cgsFactor u gamma = .ok (.real
      ((tag.exponents gamma).map fun x => u.sizeInCgs x.1 ^ x.2.toReal).prod) := by
  rw [cgsFactor, productOfPowers_of_pos hu, Exact.one_eq, one_mul]

theorem prod_filter_exponents (ratio : BaseDimension → ℝ)
    (exponents : List (BaseDimension × Exponent ℝ)) :
    ((exponents.filter fun x => !x.2.isZero).map fun x => ratio x.1 ^ x.2.toReal).prod
      = (exponents.map fun x => ratio x.1 ^ x.2.toReal).prod := by
  induction exponents with
  | nil => rfl
  | cons x exponents ih =>
    rw [List.map_cons, List.prod_cons, List.filter_cons]
    cases hzero : x.2.isZero with
    | false =>
      simp only [Bool.not_false, if_true, List.map_cons, List.prod_cons, ih]
    | true =>
      have hexponent : x.2.toReal = 0 := by
        cases he : x.2 with
        | whole n =>
          rw [he] at hzero
          have hn : n = 0 := by simpa [Exponent.isZero] using hzero
          rw [hn]
          exact Int.cast_zero
        | real y =>
          rw [he] at hzero
          have hy : y = 0.0 := Arithmetic.agree_iff.mp hzero
          rw [hy]
          exact (by norm_num : (0.0 : ℝ) = 0)
      rw [hexponent, Real.rpow_zero, one_mul]
      exact ih

/-- The factor between two systems is the product of the powers of the ratios of their sizes where
all of these are real. -/
theorem conversionFactor_of_real (hv : ∀ d, v.sizeInCgs d ≠ 0) {tag : UnitTag} {gamma : ℝ}
    (hpower : ∀ x ∈ tag.exponents gamma,
      Factor.power (u.ratio v x.1) x.2.toReal = .ok (.real (u.ratio v x.1 ^ x.2.toReal))) :
    tag.conversionFactor u v gamma
      = .ok (.real ((tag.exponents gamma).map fun x => u.ratio v x.1 ^ x.2.toReal).prod) := by
  have hquotient : (fun d => quotient (u.sizeInCgs d) (v.sizeInCgs d))
      = fun d => .ok (u.ratio v d) :=
    funext fun d => quotient_of_ne_zero (u.sizeInCgs d) (hv d)
  have hlisted : ∀ x ∈ (tag.exponents gamma).filter fun x => !x.2.isZero,
      Factor.power (u.ratio v x.1) x.2.toReal = .ok (.real (u.ratio v x.1 ^ x.2.toReal)) :=
    fun x hx => hpower x (List.mem_of_mem_filter hx)
  rw [conversionFactor, hquotient, productOfPowers_of_real hlisted,
    prod_filter_exponents (u.ratio v), Exact.one_eq, one_mul]

theorem conversionFactor_of_positive (hu : u.Positive) (hv : v.Positive) (tag : UnitTag)
    (gamma : ℝ) :
    tag.conversionFactor u v gamma = .ok (.real ((tag.exponents gamma).map fun x =>
      (u.sizeInCgs x.1 / v.sizeInCgs x.1) ^ x.2.toReal).prod) :=
  conversionFactor_of_real (fun d => (hv d).ne') fun x _ =>
    Factor.power_of_pos (div_pos (hu x.1) (hv x.1)) x.2.toReal

end UnitTag

/-- The dataset of a field has all its attributes in a system of positive units, as long as
the scale factor is positive. -/
theorem FieldDescriptor.exists_attributes {S : Type} {f : FieldDescriptor} (hf : f.IsPlain)
    {u : UnitSystem ℝ} (hu : u.Positive) {a : ℝ} (ha : 0 < a) (gamma : ℝ) :
    ∃ attributes : List (String × Attribute ℝ S), f.attributes u a gamma = .ok attributes :=
  exists_attributes_of_pos hf hu.hasPositiveSizes (Exact.zero_eq.symm ▸ ha) gamma

/-! ## Units that are read back -/

namespace BaseUnit

/-- A size in the cgs unit of a dimension, as a multiple of the closest common unit. -/
noncomputable def closestMultiple (size : ℝ) (d : BaseDimension) : ℝ :=
  express UnitSystem.storedBytes size d (closestCommon UnitSystem.storedBytes size d)

theorem express_eq (size : ℝ) (d : BaseDimension) (u : NamedUnit) :
    express UnitSystem.storedBytes size d u = size * (d.cgsUnit.size / u.size) := rfl

theorem closestMultiple_pos {size : ℝ} (hsize : 0 < size) (d : BaseDimension) :
    0 < closestMultiple size d := by
  rw [closestMultiple, express_eq]
  exact mul_pos hsize (div_pos (NamedUnit.size_pos _) (NamedUnit.size_pos _))

theorem abs_roundDigits_keptDigits_sub_le {x : ℝ} (hx : 0 < x) :
    |Exact.roundDigits keptDigits x - x| ≤ 5 / 100000 * x := by
  have herror := Exact.abs_roundDigits_sub_le keptDigits hx.ne'
  have hpower : (10 : ℝ) ^ (1 - (keptDigits : ℤ)) = 1 / 10000 := by norm_num [keptDigits]
  rw [hpower, abs_of_pos hx] at herror
  linarith

end BaseUnit

namespace UnitSystem

variable {u : UnitSystem ℝ}

theorem sizeInCgs_recovered (hu : u.Positive) (d : BaseDimension) :
    u.recovered.sizeInCgs d = u.sizeInCgs d
      * (Exact.roundDigits BaseUnit.keptDigits (BaseUnit.closestMultiple (u.sizeInCgs d) d)
          / BaseUnit.closestMultiple (u.sizeInCgs d) d) := by
  have hsize : u.recovered.sizeInCgs d = (u.recoveredUnit d).sizeIn d := by
    rw [sizeInCgs, unit?_recovered]
  have hunit := NamedUnit.size_pos (BaseUnit.closestCommon storedBytes (u.sizeInCgs d) d)
  have hcgs := NamedUnit.size_pos d.cgsUnit
  have hpos := hu d
  rw [hsize, recoveredUnit, BaseUnit.sizeIn, BaseUnit.ofStored]
  show Exact.roundDigits BaseUnit.keptDigits (BaseUnit.closestMultiple (u.sizeInCgs d) d)
    * _ / _ = _
  rw [BaseUnit.closestMultiple, BaseUnit.express_eq]
  field_simp

theorem Positive.recovered (hu : u.Positive) : u.recovered.Positive := by
  intro d
  have hmultiple := BaseUnit.closestMultiple_pos (hu d) d
  rw [sizeInCgs_recovered hu]
  exact mul_pos (hu d) (div_pos (BaseUnit.roundDigits_pos hmultiple) hmultiple)

theorem Positive.checked_recovered (hu : u.Positive) :
    u.recovered.checked = .ok u.recovered :=
  hu.hasPositiveSizes.checked_recovered

theorem abs_sizeInCgs_recovered_le (hu : u.Positive) (d : BaseDimension) :
    |u.recovered.sizeInCgs d / u.sizeInCgs d - 1| ≤ 5 / 100000 := by
  have hsize := (hu d).ne'
  have hmultiple := BaseUnit.closestMultiple_pos (hu d) d
  have hratio : u.recovered.sizeInCgs d / u.sizeInCgs d - 1
      = (Exact.roundDigits BaseUnit.keptDigits (BaseUnit.closestMultiple (u.sizeInCgs d) d)
          - BaseUnit.closestMultiple (u.sizeInCgs d) d)
        / BaseUnit.closestMultiple (u.sizeInCgs d) d := by
    rw [sizeInCgs_recovered hu]
    field_simp
  rw [hratio, abs_div, abs_of_pos hmultiple, div_le_iff₀ hmultiple]
  exact BaseUnit.abs_roundDigits_keptDigits_sub_le hmultiple

/-- A size of five digits in its closest unit is read back as it was. -/
theorem sizeInCgs_recovered_of_hasDigits (hu : u.Positive) {d : BaseDimension}
    (h : Exact.HasDigits BaseUnit.keptDigits (BaseUnit.closestMultiple (u.sizeInCgs d) d)) :
    u.recovered.sizeInCgs d = u.sizeInCgs d := by
  have hne := (BaseUnit.closestMultiple_pos (hu d) d).ne'
  rw [sizeInCgs_recovered hu, h.roundDigits_eq, div_self hne, mul_one]

end UnitSystem

end MeshlessGas
