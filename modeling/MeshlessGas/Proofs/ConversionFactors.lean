/-
Conversion factors — the factors between unit systems as ratios of sizes in cgs.

Two loops compute powers of base sizes.  The factor between two systems is the product of the
powers of ratios and leaves out the base dimensions that a tag does not depend on; the factor
to cgs beside a dataset is the product of the powers of the sizes themselves.  In positive
units the first is the ratio of two of the second, whatever the adiabatic index.  Factors
between systems therefore compose and cancel, and numbers that are converted while they are
read keep their size in cgs.
-/
import MeshlessGas.Proofs.UnitRecovery

namespace MeshlessGas

/-! ## Sizes of tags -/

namespace UnitTag

/-- The size in cgs of the unit of a tag. -/
noncomputable def sizeInCgs (tag : UnitTag) (u : UnitSystem ℝ) (gamma : ℝ) : ℝ :=
  ((tag.exponents gamma).map fun x => u.sizeInCgs x.1 ^ x.2.toReal).prod

variable {u v w : UnitSystem ℝ}

theorem cgsFactor_eq_sizeInCgs (hu : u.Positive) (tag : UnitTag) (gamma : ℝ) :
    tag.cgsFactor u gamma = .ok (.real (tag.sizeInCgs u gamma)) :=
  cgsFactor_of_positive hu tag gamma

theorem sizeInCgs_pos (hu : u.Positive) (tag : UnitTag) (gamma : ℝ) :
    0 < tag.sizeInCgs u gamma := by
  refine List.prod_pos fun y hy => ?_
  obtain ⟨x, -, rfl⟩ := List.mem_map.mp hy
  exact Real.rpow_pos_of_pos (hu x.1) _

theorem prod_ratios (hu : u.Positive) (hv : v.Positive)
    (exponents : List (BaseDimension × Exponent ℝ)) :
    (exponents.map fun x => (u.sizeInCgs x.1 / v.sizeInCgs x.1) ^ x.2.toReal).prod
      = (exponents.map fun x => u.sizeInCgs x.1 ^ x.2.toReal).prod
        / (exponents.map fun x => v.sizeInCgs x.1 ^ x.2.toReal).prod := by
  induction exponents with
  | nil => exact (div_one _).symm
  | cons x exponents ih =>
    have hpower : (u.sizeInCgs x.1 / v.sizeInCgs x.1) ^ x.2.toReal
        = u.sizeInCgs x.1 ^ x.2.toReal / v.sizeInCgs x.1 ^ x.2.toReal :=
      Real.div_rpow (hu x.1).le (hv x.1).le _
    simp only [List.map_cons, List.prod_cons]
    rw [hpower, ih, div_mul_div_comm]

theorem conversionFactor_eq_ratio (hu : u.Positive) (hv : v.Positive) (tag : UnitTag)
    (gamma : ℝ) :
    tag.conversionFactor u v gamma
      = .ok (.real (tag.sizeInCgs u gamma / tag.sizeInCgs v gamma)) := by
  rw [conversionFactor_of_positive hu hv, prod_ratios hu hv]
  rfl

theorem conversionFactor_self (hu : u.Positive) (tag : UnitTag) (gamma : ℝ) :
    tag.conversionFactor u u gamma = .ok (.real 1) := by
  rw [conversionFactor_eq_ratio hu hu, div_self (sizeInCgs_pos hu tag gamma).ne']

end UnitTag

/-! ## Factors beside datasets -/

namespace FieldDescriptor

variable {u : UnitSystem ℝ}

theorem lookup_cgsFactorName {S : Type} (hu : u.Positive) {f : FieldDescriptor} {a gamma : ℝ}
    {attributes : List (String × Attribute ℝ S)} (h : f.attributes u a gamma = .ok attributes) :
    attributes.lookup cgsFactorName = some (.reals [f.units.sizeInCgs u gamma]) := by
  obtain ⟨cgs, scale, description, hcgs, rfl⟩ := exists_of_attributes h
  rw [UnitTag.cgsFactor_eq_sizeInCgs hu] at hcgs
  rw [← Except.ok.inj hcgs, factorAttribute, List.lookup_cons_self]

theorem exists_attributes_of_described {S : Type} (hu : u.Positive) {f : FieldDescriptor}
    (hlabel : f.label.isKey = true) (hdescribed : ∃ s, f.description = .text s) {a : ℝ}
    (ha : 0 < a) (gamma : ℝ) :
    ∃ attributes : List (String × Attribute ℝ S), f.attributes u a gamma = .ok attributes := by
  obtain ⟨description, hdescription⟩ := hdescribed
  have hkey : ¬ ¬ f.label.isKey = true := not_not_intro hlabel
  simp only [FieldDescriptor.attributes, UnitTag.cgsFactor_eq_sizeInCgs hu,
    Factor.power_of_pos ha, hkey, if_false, hdescription, Result.ok_bind, Result.pure_eq,
    Except.ok.injEq, exists_eq']

/-! ## Converted numbers -/

/-- Over the reals every number of a scaled array is multiplied by the factor, whatever the
element type. -/
theorem scaled_eq_map (values : NumericArray ℝ ℝ) (factor : ℝ) :
    ∃ g : Cell ℝ ℝ → Cell ℝ ℝ, (values.scaled factor).cells = values.cells.map g ∧
      ∀ x, (g x).toDouble = x.toDouble * factor := by
  have hsingle : ∀ x : Cell ℝ ℝ, x.toSingle = x.toDouble := by
    intro x
    cases x <;> rfl
  unfold NumericArray.scaled
  split
  next => exact ⟨_, rfl, fun x => congrArg (· * factor) (hsingle x)⟩
  next => exact ⟨_, rfl, fun x => rfl⟩
  next => exact ⟨_, rfl, fun x => rfl⟩

/-- Two arrays of one shape that measure the same: their numbers are equal in cgs, where a unit
of the first and one of the second have the given sizes. -/
structure SameInCgs (values values' : NumericArray ℝ ℝ) (size size' : ℝ) : Prop where
  shape : values'.shape = values.shape
  cells : List.Forall₂ (fun x y : Cell ℝ ℝ => y.toDouble * size' = x.toDouble * size)
    values.cells.cells values'.cells.cells

theorem sameInCgs_inUnits {v : UnitSystem ℝ} (hu : u.Positive) (hv : v.Positive)
    (tag : UnitTag) (gamma : ℝ) (values : NumericArray ℝ ℝ) :
    ∃ values', inUnits tag (UnitChange.between (some u) (some v)) gamma values = .ok values' ∧
      SameInCgs values values' (tag.sizeInCgs u gamma) (tag.sizeInCgs v gamma) := by
  have hsize := (tag.sizeInCgs_pos hv gamma).ne'
  simp only [inUnits, UnitChange.between, UnitTag.conversionFactor_eq_ratio hu hv,
    Result.ok_bind, Result.pure_eq, Except.ok.injEq, exists_eq_left']
  split
  next hone =>
    have hequal : tag.sizeInCgs u gamma = tag.sizeInCgs v gamma :=
      (div_eq_one_iff_eq hsize).mp (Factor.isOne_real.mp hone)
    rw [hequal]
    exact ⟨rfl, List.forall₂_same.mpr fun _ _ => rfl⟩
  next =>
    obtain ⟨g, hcells, hg⟩ :=
      scaled_eq_map values (tag.sizeInCgs u gamma / tag.sizeInCgs v gamma)
    have hshape : (values.scaled _).shape = (values.cells.map g).shape :=
      congrArg Tensor.shape hcells
    refine ⟨hshape, ?_⟩
    rw [hcells]
    refine List.forall₂_map_right_iff.mpr (List.forall₂_same.mpr fun x _ => ?_)
    rw [hg, mul_assoc, div_mul_cancel₀ _ hsize]

end FieldDescriptor

/-! ## The laws of conversion factors -/

namespace UnitTag

open FieldDescriptor (cgsFactorName inUnits SameInCgs)

/-- Factors between systems of positive units are one from a system to itself, compose, and
cancel.  They are the ratios of the factors to cgs that the attributes of a field of the tag
state in one system and in the other, and so converting numbers while they are read keeps what
they measure in cgs. -/
theorem conversionFactor_laws {u v w : UnitSystem ℝ} (hu : u.Positive) (hv : v.Positive)
    (hw : w.Positive) (tag : UnitTag) (gamma : ℝ) :
    tag.conversionFactor u u gamma = .ok (.real 1) ∧
      ∃ uv vw uw vu uCgs vCgs : ℝ,
        tag.conversionFactor u v gamma = .ok (.real uv) ∧
        tag.conversionFactor v w gamma = .ok (.real vw) ∧
        tag.conversionFactor u w gamma = .ok (.real uw) ∧
        tag.conversionFactor v u gamma = .ok (.real vu) ∧
        uv * vw = uw ∧ uv * vu = 1 ∧ 0 < vCgs ∧ uv = uCgs / vCgs ∧
        (∀ f : FieldDescriptor, f.units = tag → ∀ a : ℝ,
          (∀ inU : List (String × Attribute ℝ ℝ), f.attributes u a gamma = .ok inU →
            inU.lookup cgsFactorName = some (.reals [uCgs])) ∧
          (∀ inV : List (String × Attribute ℝ ℝ), f.attributes v a gamma = .ok inV →
            inV.lookup cgsFactorName = some (.reals [vCgs])) ∧
          (f.label.isKey = true → (∃ s, f.description = .text s) → 0 < a →
            ∃ inU inV : List (String × Attribute ℝ ℝ),
              f.attributes u a gamma = .ok inU ∧ f.attributes v a gamma = .ok inV)) ∧
        ∀ values : NumericArray ℝ ℝ, ∃ values',
          inUnits tag (UnitChange.between (some u) (some v)) gamma values = .ok values' ∧
          SameInCgs values values' uCgs vCgs := by
  have hposU := (tag.sizeInCgs_pos hu gamma).ne'
  have hposV := (tag.sizeInCgs_pos hv gamma).ne'
  refine ⟨conversionFactor_self hu tag gamma, _, _, _, _, tag.sizeInCgs u gamma,
    tag.sizeInCgs v gamma, conversionFactor_eq_ratio hu hv tag gamma,
    conversionFactor_eq_ratio hv hw tag gamma, conversionFactor_eq_ratio hu hw tag gamma,
    conversionFactor_eq_ratio hv hu tag gamma, ?compose, ?cancel, tag.sizeInCgs_pos hv gamma,
    rfl, ?attributes, FieldDescriptor.sameInCgs_inUnits hu hv tag gamma⟩
  case compose => exact div_mul_div_cancel₀ hposV
  case cancel => rw [div_mul_div_cancel₀ hposV, div_self hposU]
  case attributes =>
    rintro f rfl a
    refine ⟨fun _ => FieldDescriptor.lookup_cgsFactorName hu,
      fun _ => FieldDescriptor.lookup_cgsFactorName hv, fun hlabel hdescribed ha => ?_⟩
    obtain ⟨inU, hinU⟩ :=
      FieldDescriptor.exists_attributes_of_described (S := ℝ) hu hlabel hdescribed ha gamma
    obtain ⟨inV, hinV⟩ :=
      FieldDescriptor.exists_attributes_of_described (S := ℝ) hv hlabel hdescribed ha gamma
    exact ⟨inU, inV, hinU, hinV⟩

/-- The entropic function of a monatomic gas, between the units of centimetres, of metres and of
megaparsecs. -/
theorem conversionFactor_laws_entropy :
    ∃ uv vw uw : ℝ,
      entropy.conversionFactor (.cgs : UnitSystem ℝ) .mks (5 / 3) = .ok (.real uv) ∧
      entropy.conversionFactor (.mks : UnitSystem ℝ) .cosmological (5 / 3) = .ok (.real vw) ∧
      entropy.conversionFactor (.cgs : UnitSystem ℝ) .cosmological (5 / 3) = .ok (.real uw) ∧
      uv * vw = uw := by
  have hcgs : (UnitSystem.cgs : UnitSystem ℝ).Positive := by
    intro d
    have hsize := UnitSystem.hasPositiveSizes_cgs (D := ℝ) d
    rwa [Exact.zero_eq] at hsize
  have hmks : (UnitSystem.mks : UnitSystem ℝ).Positive := by
    intro d
    cases d <;> norm_num [UnitSystem.sizeInCgs, UnitSystem.unit?, UnitSystem.mks,
      UnitSystem.ofMechanical, BaseUnit.sizeIn, BaseUnit.named, BaseDimension.cgsUnit,
      NamedUnit.size]
  obtain ⟨-, uv, vw, uw, _, _, _, huv, hvw, huw, -, hcompose, -⟩ :=
    conversionFactor_laws hcgs hmks UnitSystem.cosmological_positive entropy (5 / 3)
  exact ⟨uv, vw, uw, huv, hvw, huw, hcompose⟩

end UnitTag

end MeshlessGas
