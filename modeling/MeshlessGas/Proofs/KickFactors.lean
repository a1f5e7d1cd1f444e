/-
Kick factors over the reals — a measure of the timeline.

The tables of a cosmology hold cumulative trapezoidal integrals at evenly spaced fractions of
the timeline.  The scale factor grows with the fraction, so that a positive integrand adds to
the integral in every cell and the table grows.  A kick factor is the difference of the table
at two ticks: differences add up whatever the table holds, are positive where it grows, and
vanish on each side of the timeline, where the table is continued by a constant.
-/
import Mathlib.Analysis.SpecialFunctions.Log.Basic
import MeshlessGas.Proofs.Interpolation
import MeshlessGas.Proofs.ScaleFactor
import MeshlessGas.Proofs.Tensor

namespace MeshlessGas

namespace Cosmology

variable {c : Expansion ℝ} {kind : KickKind}

/-! ## The grid of the tables -/

noncomputable def gridPoint (i : ℕ) : ℝ := i / (tableLength - 1 : ℕ)

noncomputable def gridScale (c : Expansion ℝ) (i : ℕ) : ℝ := scaleFactorAt c (gridPoint i)

noncomputable def gridIntegrand (c : Expansion ℝ) (kind : KickKind) (i : ℕ) : ℝ :=
  c.integrand kind (gridScale c i)

/-- The trapezoidal sum of an integrand over a number of cells of the tables. -/
noncomputable def gridIntegral (c : Expansion ℝ) (kind : KickKind) (cells : ℕ) : ℝ :=
  trapezoid (gridScale c) (gridIntegrand c kind) cells

theorem cells_pos : (0 : ℝ) < (tableLength - 1 : ℕ) := Nat.cast_pos.mpr (by decide)

theorem gridPoint_zero : gridPoint 0 = 0 := by
  rw [gridPoint, Nat.cast_zero, zero_div]

theorem gridPoint_last : gridPoint (tableLength - 1) = 1 := div_self cells_pos.ne'

theorem strictMono_gridPoint : StrictMono gridPoint := by
  intro i j hij
  have hcast : (i : ℝ) < j := Nat.cast_lt.mpr hij
  exact div_lt_div_of_pos_right hcast cells_pos

theorem length_tablePoints : (tablePoints : List ℝ).length = (tableLength - 1) + 1 := by
  rw [tablePoints, List.length_append, List.length_map, List.length_range, List.length_singleton]

theorem getElem?_tablePoints {i : ℕ} (hi : i ≤ tableLength - 1) :
    (tablePoints : List ℝ)[i]? = some (gridPoint i) := by
  have hlength : ((List.range (tableLength - 1)).map fun i : ℕ =>
      (Arithmetic.ofInt (i : ℤ) : ℝ) * (1.0 / Arithmetic.ofInt (tableLength - 1 : ℕ))).length
        = tableLength - 1 := by
    rw [List.length_map, List.length_range]
  obtain hlt | rfl := hi.lt_or_eq
  · rw [tablePoints, List.getElem?_append_left (hlength.symm ▸ hlt), List.getElem?_map,
      List.getElem?_range hlt]
    refine congrArg some ?_
    show (i : ℝ) * (1.0 / (tableLength - 1 : ℕ)) = gridPoint i
    rw [Exact.one_eq, mul_one_div, gridPoint]
  · rw [tablePoints, List.getElem?_append_right hlength.le, hlength, Nat.sub_self, gridPoint_last,
      ← Exact.one_eq]
    rfl

theorem strictMono_gridScale (hbegin : 0 < c.aBegin) (hgrowth : 1 < c.growth) :
    StrictMono (gridScale c) := by
  intro i j hij
  have hlog : 0 < Real.log c.growth := Real.log_pos hgrowth
  have hexponent : gridPoint i * Real.log c.growth < gridPoint j * Real.log c.growth :=
    mul_lt_mul_of_pos_right (strictMono_gridPoint hij) hlog
  exact mul_lt_mul_of_pos_left (Real.exp_lt_exp.mpr hexponent) hbegin

/-! ## The tables -/

noncomputable def samples (c : Expansion ℝ) (kind : KickKind) : List (ℝ × ℝ) :=
  tablePoints.map fun x => (scaleFactorAt c x, c.integrand kind (scaleFactorAt c x))

theorem table_eq (c : Expansion ℝ) (kind : KickKind) :
    table c kind = ⟨tablePoints.toArray, (cumulate 0.0 (samples c kind)).toArray⟩ := rfl

theorem length_samples : (samples c kind).length = (tableLength - 1) + 1 := by
  rw [samples, List.length_map, length_tablePoints]

theorem getElem?_samples : ∀ i < (samples c kind).length,
    (samples c kind)[i]? = some (gridScale c i, gridIntegrand c kind i) := by
  intro i hi
  rw [length_samples] at hi
  rw [samples, List.getElem?_map, getElem?_tablePoints (Nat.le_of_lt_succ hi)]
  rfl

/-- A table holds the trapezoidal sums of its integrand. -/
theorem tabulates_table (c : Expansion ℝ) (kind : KickKind) :
    (table c kind).Tabulates (tableLength - 1) gridPoint (gridIntegral c kind) where
  size_points := by rw [table_eq, List.size_toArray, length_tablePoints]
  size_values := by rw [table_eq, List.size_toArray, length_cumulate, length_samples]
  point := fun i hi => by rw [table_eq, List.getElem?_toArray, getElem?_tablePoints hi]
  value := fun i hi => by
    have hin : i < (samples c kind).length := by
      rw [length_samples]
      exact Nat.lt_succ_of_le hi
    rw [table_eq, List.getElem?_toArray, getElem?_cumulate 0.0 getElem?_samples hin, Exact.zero_eq,
      zero_add, gridIntegral]
  increasing := strictMono_gridPoint.strictMonoOn _

theorem strictMonoOn_gridIntegral (hbegin : 0 < c.aBegin) (hgrowth : 1 < c.growth)
    (hpos : ∀ x ∈ (tablePoints : List ℝ), 0 < c.integrand kind (scaleFactorAt c x)) :
    StrictMonoOn (gridIntegral c kind) (Set.Iic (tableLength - 1)) := by
  have hgrid : ∀ i ≤ tableLength - 1, 0 < gridIntegrand c kind i := fun i hi =>
    hpos _ (List.mem_of_getElem? (getElem?_tablePoints hi))
  refine strictMonoOn_Iic_of_lt_succ fun i hi => ?_
  have hscale := strictMono_gridScale hbegin hgrowth (Nat.lt_succ_self i)
  exact trapezoid_lt_succ hscale (hgrid i hi.le) (hgrid (i + 1) (Nat.succ_le_of_lt hi))

/-! ## Factors -/

variable {k : Cosmology ℝ}

theorem ticks_eq : (ticks : ℝ) = ((Timeline.length : ℤ) : ℝ) := rfl

theorem ticks_pos : (0 : ℝ) < ticks := by
  rw [ticks_eq]
  exact Int.cast_pos.mpr (by decide)

theorem factor_add_factor (k : Cosmology ℝ) (kind : KickKind) (a b c : ℝ) :
    k.factor kind a b + k.factor kind b c = k.factor kind a c :=
  sub_add_sub_cancel' _ _ _

theorem factor_swap (k : Cosmology ℝ) (kind : KickKind) (a b : ℝ) :
    k.factor kind a b = -k.factor kind b a :=
  (neg_sub _ _).symm

theorem integral_of_nonpos (hk : k.IsAccepted) {t : ℝ} (ht : t ≤ 0) :
    k.integral kind t = gridIntegral k.expansion kind 0 := by
  obtain ⟨-, -, htables⟩ := hk.expansion
  rw [integral, htables]
  refine (tabulates_table k.expansion kind).eval_of_le_first ?_
  rw [gridPoint_zero]
  exact div_nonpos_of_nonpos_of_nonneg ht ticks_pos.le

theorem integral_of_ge (hk : k.IsAccepted) {t : ℝ} (ht : ticks ≤ t) :
    k.integral kind t = gridIntegral k.expansion kind (tableLength - 1) := by
  obtain ⟨-, -, htables⟩ := hk.expansion
  rw [integral, htables]
  refine (tabulates_table k.expansion kind).eval_of_ge ?_
  rw [gridPoint_last]
  exact (one_le_div ticks_pos).mpr ht

theorem integral_lt_integral (hk : k.IsAccepted)
    (hpos : ∀ x ∈ (tablePoints : List ℝ),
      0 < k.expansion.integrand kind (scaleFactorAt k.expansion x))
    {s t : ℝ} (hs : 0 ≤ s) (hst : s < t) (ht : t ≤ ticks) :
    k.integral kind s < k.integral kind t := by
  obtain ⟨hbegin, hgrowth, htables⟩ := hk.expansion
  rw [integral, integral, htables]
  refine (tabulates_table k.expansion kind).eval_lt_eval
    (strictMonoOn_gridIntegral hbegin hgrowth hpos) ?_ ?_ ?_
  · rw [gridPoint_zero]
    exact div_nonneg hs ticks_pos.le
  · exact div_lt_div_of_pos_right hst ticks_pos
  · rw [gridPoint_last]
    exact (div_le_one ticks_pos).mpr ht

/-- The factors of a kind measure the timeline: they add up, are positive over every step that
lies on it, vanish on each side of it, and are the trapezoidal sum of the whole table over all
of it. -/
structure IsMeasure (k : Cosmology ℝ) (kind : KickKind) : Prop where
  add : ∀ a b c : ℤ, k.factor kind a b + k.factor kind b c = k.factor kind a c
  swap : ∀ a b : ℤ, k.factor kind a b = -k.factor kind b a
  pos : ∀ a b : ℤ, 0 ≤ a → a < b → b ≤ Timeline.length → 0 < k.factor kind a b
  before : ∀ a b : ℤ, a ≤ 0 → b ≤ 0 → k.factor kind a b = 0
  after : ∀ a b : ℤ, Timeline.length ≤ a → Timeline.length ≤ b → k.factor kind a b = 0
  total : k.factor kind (0 : ℤ) Timeline.length
    = gridIntegral k.expansion kind (tableLength - 1)

theorem factors_map {α : Type} (k : Cosmology ℝ) (kind : KickKind) (first last : α → ℝ)
    (steps : Tensor α) :
    k.factors kind (steps.map first) (steps.map last)
      = .ok (steps.map fun s => k.factor kind (first s) (last s)) := by
  rw [factors, Tensor.map_map, Tensor.map_map, Tensor.map₂?_map]
  rfl

/-- Where an integrand is positive at every point of the tables, its kick factors measure the
timeline, and those of many steps are the ones of each step. -/
theorem isMeasure_of_integrand_pos (hk : k.IsAccepted)
    (hpos : ∀ x ∈ (tablePoints : List ℝ),
      0 < k.expansion.integrand kind (scaleFactorAt k.expansion x)) :
    k.IsMeasure kind ∧ ∀ steps : Tensor (ℤ × ℤ),
      k.factors kind (steps.map fun s => (s.1 : ℝ)) (steps.map fun s => (s.2 : ℝ))
        = .ok (steps.map fun s => k.factor kind s.1 s.2) := by
  have hbefore : ∀ t : ℤ, t ≤ 0 → k.integral kind t = gridIntegral k.expansion kind 0 :=
    fun t ht => integral_of_nonpos hk (Int.cast_nonpos.mpr ht)
  have hafter : ∀ t : ℤ, Timeline.length ≤ t →
      k.integral kind t = gridIntegral k.expansion kind (tableLength - 1) :=
    fun t ht => integral_of_ge hk (by rw [ticks_eq]; exact Int.cast_le.mpr ht)
  refine ⟨?_, factors_map k kind _ _⟩
  constructor
  case add => exact fun a b c => factor_add_factor k kind a b c
  case swap => exact fun a b => factor_swap k kind a b
  case pos =>
    intro a b ha hab hb
    have hgrows := integral_lt_integral hk hpos (Int.cast_nonneg ha) (Int.cast_lt.mpr hab)
      (by rw [ticks_eq]; exact Int.cast_le.mpr hb)
    exact sub_pos.mpr hgrows
  case before =>
    intro a b ha hb
    rw [factor, hbefore a ha, hbefore b hb, sub_self]
  case after =>
    intro a b ha hb
    rw [factor, hafter a ha, hafter b hb, sub_self]
  case total =>
    have hnone : gridIntegral k.expansion kind 0 = 0 := trapezoid_zero _ _
    rw [factor, hbefore 0 le_rfl, hafter _ le_rfl, hnone, sub_zero]

/-! ### A flat universe -/

theorem integrand_pos {a : ℝ} (hhubble : 0 < c.hubble) (ha : 0 < a) (hrate : 0 < c.rate a) :
    0 < c.integrand kind a := by
  have hspeed : 0 < c.hubble * c.rate a := mul_pos hhubble hrate
  have hinverse : 0 < 1.0 / a := div_pos (by norm_num) ha
  cases kind with
  | drift => exact div_pos (Real.rpow_pos_of_pos hinverse _) hspeed
  | gravity => exact div_pos (mul_pos hinverse hinverse) hspeed
  | hydro => exact div_pos (mul_pos (Real.rpow_pos_of_pos ha _) hinverse) hspeed

theorem rate_flatExpansion_pos {units : UnitSystem ℝ} {a : ℝ} (ha : 0 < a) :
    0 < (flatExpansion 0.7 0.5 1 0.3 0.7 units).rate a := by
  have hinverse : 0 < 1.0 / a := div_pos (by norm_num) ha
  have hmatter : 0 < (0.3 : ℝ) * (1.0 / a) ^ (3.0 : ℝ) :=
    mul_pos (by norm_num) (Real.rpow_pos_of_pos hinverse _)
  have hvacuum : 0 < (0.7 : ℝ) * (flatExpansion 0.7 0.5 1 0.3 0.7 units).darkEnergy a :=
    mul_pos (by norm_num) (Real.exp_pos _)
  refine Real.sqrt_pos.mpr ?_
  show 0 < (0.0 : ℝ) * (1.0 / a) ^ (4.0 : ℝ) + 0.3 * (1.0 / a) ^ (3.0 : ℝ)
    + (1.0 - (0.3 + 0.0 + 0.7)) * (1.0 / a * (1.0 / a)) + 0.7 * _
  have hflat : (1.0 - (0.3 + 0.0 + 0.7) : ℝ) = 0 := by norm_num
  rw [hflat, Exact.zero_eq, zero_mul, zero_mul, zero_add, add_zero]
  exact add_pos hmatter hvacuum

/-- The factors of every kind measure the timeline of a flat universe that doubles in size. -/
theorem isMeasure_flatUniverse :
    ∃ k, ofOptions (flatOptions 0.7 0.5 1 0.3 0.7) .cosmological = .ok k ∧ ∀ kind,
      (∀ x ∈ (tablePoints : List ℝ),
        0 < k.expansion.integrand kind (scaleFactorAt k.expansion x)) ∧ k.IsMeasure kind := by
  have hbegin : (0 : ℝ) < 0.5 := by norm_num
  have hend : (0.5 : ℝ) < 1 := by norm_num
  obtain ⟨k, hk, -⟩ := exists_ofOptions hbegin hend 0.7 0.3 0.7 .cosmological
  have hexpansion : k.expansion = flatExpansion 0.7 0.5 1 0.3 0.7 .cosmological :=
    Except.ok.inj ((expansionOf_of_ofOptions hk).1.symm.trans
      (expansionOf_flatOptions hbegin hend 0.7 0.3 0.7 .cosmological))
  have hhubble : 0 < k.expansion.hubble := by
    rw [hexpansion]
    norm_num [flatExpansion, hubbleOf, UnitSystem.cosmological, UnitSystem.ofMechanical,
      NamedUnit.size]
  have hpos : ∀ kind, ∀ x ∈ (tablePoints : List ℝ),
      0 < k.expansion.integrand kind (scaleFactorAt k.expansion x) := by
    intro kind x _
    have hscale : 0 < scaleFactorAt k.expansion x := by
      rw [hexpansion]
      exact mul_pos hbegin (Real.exp_pos _)
    refine integrand_pos hhubble hscale ?_
    rw [hexpansion] at hscale ⊢
    exact rate_flatExpansion_pos hscale
  exact ⟨k, hk, fun kind =>
    ⟨hpos kind, (isMeasure_of_integrand_pos (isAccepted_of_ofOptions hk) (hpos kind)).1⟩⟩

end Cosmology

end MeshlessGas
