/-
Finite numbers — what number systems without infinities have in common.

The reals are such a number system, and so are the reals rounded to a number of bits after
every operation.  The rules of signs are enough for most of what can fail in writing and opening
a snapshot: powers of positive sizes exist, a field has its attributes, and units that were
stored are read back as units with sizes.
-/
import MeshlessGas.Proofs.Results
import MeshlessGas.Proofs.StoredUnits
import MeshlessGas.Snapshot.Quantity

namespace MeshlessGas

/-- A number system of finite numbers.  The usual rules of signs hold, and one is a unit of
products and powers. -/
class FiniteNumbers (D : Type) [Transcendental D] [Numeral D] : Prop where
  isFinite (x : D) : Arithmetic.isFinite x = true
  value_finite (x : D) : ∃ negative significand exponent,
    Numeral.value x = .finite negative significand exponent
  le_refl (x : D) : x ≤ x
  lt_irrefl (x : D) : ¬ x < x
  not_lt_zero {x : D} : 0.0 < x → ¬ x < 0.0
  not_agree_zero {x : D} : 0.0 < x → Arithmetic.agree x 0.0 = false
  mul_pos {x y : D} : 0.0 < x → 0.0 < y → 0.0 < x * y
  div_pos {x y : D} : 0.0 < x → 0.0 < y → 0.0 < x / y
  roundTo_pos {x : D} : 0.0 < x → 0.0 < Transcendental.roundTo BaseUnit.keptDigits x
  size_pos (u : NamedUnit) : (0.0 : D) < u.size
  floor_zero : Arithmetic.floor (0.0 : D) = 0.0
  mul_one (x : D) : x * 1.0 = x
  pow_zero (x : D) : Transcendental.pow x 0.0 = 1.0

namespace FiniteNumbers

variable {D : Type} [Transcendental D] [Numeral D] [FiniteNumbers D]

/-! ## Powers -/

theorem power_eq {x : D} (hx : 0.0 < x) (y : D) : power x y = .ok (Transcendental.pow x y) := by
  simp only [power, not_agree_zero hx, isFinite, Bool.false_eq_true, false_and, if_false,
    not_true_eq_false, and_false]

theorem factorPower_eq {x : D} (hx : 0.0 < x) (y : D) :
    Factor.power x y = .ok (.real (Transcendental.pow x y)) := by
  simp only [Factor.power, not_lt_zero hx, false_and, if_false, power_eq hx, Result.ok_bind]
  rfl

theorem factorPower_zero (x : D) : Factor.power x 0.0 = .ok (.real 1.0) := by
  have hwhole : Factor.isFractional (0.0 : D) = false := by
    have hagree : Arithmetic.agree (0.0 : D) 0.0 = true := by
      simp only [Arithmetic.agree, le_refl, and_self, decide_true]
    simp only [Factor.isFractional, floor_zero, hagree, not_true_eq_false, and_false, decide_false]
  have hpower : power x 0.0 = .ok 1.0 := by
    simp only [power, pow_zero, lt_irrefl, isFinite, and_false, if_false, not_true_eq_false]
  simp only [Factor.power, hwhole, Bool.false_eq_true, and_false, if_false, hpower, Result.ok_bind]
  rfl

theorem hasPowers {x : D} (hx : 0.0 < x) : Factor.HasPowers x := fun y => ⟨_, factorPower_eq hx y⟩

end FiniteNumbers

variable {D S : Type} [Transcendental D] [Numeral D] [FiniteNumbers D]

/-! ## Positive units -/

def UnitSystem.HasPositiveSizes (u : UnitSystem D) : Prop := ∀ d, 0.0 < u.sizeInCgs d

/-- In cgs all sizes are those of named units, and the missing one counts as one. -/
theorem UnitSystem.hasPositiveSizes_cgs : (UnitSystem.cgs : UnitSystem D).HasPositiveSizes := by
  have hone : (0.0 : D) < 1.0 := FiniteNumbers.size_pos .second
  have hnamed : ∀ d : BaseDimension, (0.0 : D) < (BaseUnit.named d.cgsUnit).sizeIn d := fun d =>
    FiniteNumbers.div_pos (FiniteNumbers.mul_pos hone (FiniteNumbers.size_pos _))
      (FiniteNumbers.size_pos _)
  intro d
  cases d with
  | mass => exact hnamed .mass
  | length => exact hnamed .length
  | time => exact hnamed .time
  | current => exact hone
  | temperature => exact hnamed .temperature

/-- The dataset of a field has all its attributes in a system of positive units, as long as
the scale factor is positive. -/
theorem FieldDescriptor.exists_attributes_of_pos {f : FieldDescriptor} (hf : f.IsPlain)
    {u : UnitSystem D} (hu : u.HasPositiveSizes) {a : D} (ha : 0.0 < a) (gamma : D) :
    ∃ attributes : List (String × Attribute D S), f.attributes u a gamma = .ok attributes := by
  exact exists_attributes_of_powers hf (fun d _ => FiniteNumbers.hasPowers (hu d))
    (FiniteNumbers.hasPowers ha)

/-! ## Units that are read back -/

theorem BaseUnit.hasSize_of_pos {b : BaseUnit D} (h : 0.0 < b.multiple) : b.hasSize = true := by
  simp only [hasSize, FiniteNumbers.isFinite, FiniteNumbers.not_agree_zero h]
  rfl

namespace UnitSystem

variable [Narrowing D S]

theorem HasPositiveSizes.checked_recovered {u : UnitSystem D} (hu : u.HasPositiveSizes) :
    u.recovered.checked = .ok u.recovered := by
  refine checked_recovered_eq_ok_iff.mpr ⟨rfl, fun d => ?_⟩
  have hexpress : ∀ v : NamedUnit, 0.0 < BaseUnit.express storedBytes (u.sizeInCgs d) d v := by
    intro v
    exact FiniteNumbers.mul_pos (hu d)
      (FiniteNumbers.div_pos (FiniteNumbers.size_pos _) (FiniteNumbers.size_pos v))
  exact BaseUnit.hasSize_of_pos (FiniteNumbers.roundTo_pos (hexpress _))

end UnitSystem

/-! ## Units of quantities -/

namespace Quantity

theorem exists_unitOf (name : String) (gamma : D) : ∃ unit, unitOf name gamma = .ok unit := by
  have hexponent : ∀ e : Exponent D, ∃ x, ComposedUnit.exponent e = .ok x := by
    intro e
    cases e with
    | whole n => exact ⟨_, rfl⟩
    | real x =>
      obtain ⟨negative, significand, exponent, hvalue⟩ := FiniteNumbers.value_finite x
      obtain ⟨fraction, hfraction⟩ :
          ∃ fraction, Fraction.ofShortest? ComposedUnit.largestDenominator x = some fraction := by
        simp only [Fraction.ofShortest?, hvalue]
        split
        · exact ⟨_, rfl⟩
        · exact ⟨_, rfl⟩
      exact ⟨fraction, by rw [ComposedUnit.exponent, hfraction, Failure.ofOption_some]⟩
  have htag : ∀ tag : UnitTag, ∃ unit, ComposedUnit.ofTag BaseDimension.cgsUnit gamma tag
      = .ok unit := by
    intro tag
    obtain ⟨powers, hpowers⟩ : ∃ powers, ((tag.exponents gamma).mapM fun x => do
        return (BaseDimension.cgsUnit x.1, ← ComposedUnit.exponent x.2)) = .ok powers := by
      refine Result.exists_mapM_eq_ok fun x _ => ?_
      obtain ⟨e, he⟩ := hexponent x.2
      rw [he]
      exact ⟨_, rfl⟩
    rw [ComposedUnit.ofTag, hpowers]
    exact ⟨_, rfl⟩
  obtain ⟨units, hunits⟩ : ∃ units, (UnitTag.all.mapM fun tag => do
      return (tag, ← ComposedUnit.ofTag BaseDimension.cgsUnit gamma tag)) = .ok units := by
    refine Result.exists_mapM_eq_ok fun tag _ => ?_
    obtain ⟨unit, hunit⟩ := htag tag
    rw [hunit]
    exact ⟨_, rfl⟩
  rw [unitOf, ComposedUnit.all, hunits]
  exact ⟨_, rfl⟩

end Quantity

end MeshlessGas
