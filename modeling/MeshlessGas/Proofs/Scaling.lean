/-
Scaling — the first initialisation in other units.

The sizes of units may be negative: the factors that are whole powers of their ratios are real all
the same, and they belong together, so that the factor of an energy is that of a mass times that of
a specific energy.  What the first initialisation composes of masses, velocities and specific
energies is therefore scaled as a whole when these are scaled.  A pressure is given to positive
densities only, and is scaled where scaling keeps the sign of the density.
-/
import MeshlessGas.Proofs.ConversionFactors
import MeshlessGas.Proofs.Energies

namespace MeshlessGas

/-! ## Powers of numbers other than zero -/

theorem Factor.power_intCast {x : ℝ} (hx : x ≠ 0) (n : ℤ) :
    Factor.power x n = .ok (.real (x ^ (n : ℝ))) := by
  have hwhole : Factor.isFractional (n : ℝ) = false := by
    have hfloor : Arithmetic.agree (Arithmetic.floor (n : ℝ)) (n : ℝ) = true := by
      refine Arithmetic.agree_iff.mpr ?_
      show ((⌊(n : ℝ)⌋ : ℤ) : ℝ) = n
      rw [Int.floor_intCast]
    simp [Factor.isFractional, hfloor]
  have hne : ¬ Arithmetic.agree x 0.0 = true := by
    rw [Arithmetic.agree_iff, Exact.zero_eq]
    exact hx
  have hpower : MeshlessGas.power x (n : ℝ) = .ok (x ^ (n : ℝ)) := by
    have hfinite : ∀ y : ℝ, Arithmetic.isFinite y = true := fun _ => rfl
    simp only [MeshlessGas.power, hne, hfinite, if_false, not_true_eq_false, and_false]
    rfl
  simp only [Factor.power, hwhole, Bool.false_eq_true, and_false, if_false, hpower,
    Result.ok_bind, Result.pure_eq]

/-! ## Units that have sizes -/

theorem BaseUnit.hasSize_iff {b : BaseUnit ℝ} (d : BaseDimension) :
    b.hasSize = true ↔ b.sizeIn d ≠ 0 := by
  have hmultiple : b.hasSize = true ↔ b.multiple ≠ 0 := by
    simp only [hasSize, Bool.decide_and, Bool.and_eq_true, decide_eq_true_eq,
      Arithmetic.agree_iff, Exact.zero_eq]
    exact and_iff_right rfl
  have hsize := (NamedUnit.size_pos b.unit).ne'
  have hcgs := (NamedUnit.size_pos d.cgsUnit).ne'
  rw [hmultiple, sizeIn, Ne, Ne, div_eq_zero_iff, mul_eq_zero]
  simp only [hsize, hcgs, or_false]

namespace UnitSystem

/-- No unit of a system vanishes; sizes may be negative. -/
def HasSizes (u : UnitSystem ℝ) : Prop := ∀ d, u.sizeInCgs d ≠ 0

theorem Positive.hasSizes {u : UnitSystem ℝ} (hu : u.Positive) : u.HasSizes :=
  fun d => (hu d).ne'

theorem hasSizes_iff {u : UnitSystem ℝ} :
    u.HasSizes ↔ ∀ d b, u.unit? d = some b → b.hasSize = true := by
  constructor
  · intro hu d b hunit
    have hsize := hu d
    rw [sizeInCgs, hunit] at hsize
    exact (BaseUnit.hasSize_iff d).mpr hsize
  · intro h d
    rw [sizeInCgs]
    cases hunit : u.unit? d with
    | none => norm_num
    | some b => exact (BaseUnit.hasSize_iff d).mp (h d b hunit)

theorem checked_eq_ok {u w : UnitSystem ℝ} : u.checked = .ok w ↔ w = u ∧ u.HasSizes := by
  rw [checked_eq_ok_iff, hasSizes_iff]

theorem HasSizes.ratio_ne_zero {u v : UnitSystem ℝ} (hu : u.HasSizes) (hv : v.HasSizes)
    (d : BaseDimension) : u.ratio v d ≠ 0 := div_ne_zero (hu d) (hv d)

end UnitSystem

/-! ## Factors that belong together -/

namespace UnitTag

theorem exists_whole {tag : UnitTag} (htag : tag ≠ .entropy) (gamma : ℝ) :
    ∀ x ∈ tag.exponents gamma, ∃ n : ℤ, x.2.toReal = n := by
  intro x hx
  cases tag with
  | entropy => exact absurd rfl htag
  | noUnits => exact absurd hx List.not_mem_nil
  | _ =>
    simp only [exponents, List.mem_cons, List.not_mem_nil, or_false] at hx
    rcases hx with rfl | rfl | rfl <;> exact ⟨_, rfl⟩

/-- All tags but the entropic function have whole exponents, and so a real factor between any two
systems whose units have sizes. -/
theorem conversionFactor_of_hasSizes {u v : UnitSystem ℝ} (hu : u.HasSizes) (hv : v.HasSizes)
    {tag : UnitTag} (htag : tag ≠ .entropy) (gamma : ℝ) :
    tag.conversionFactor u v gamma
      = .ok (.real ((tag.exponents gamma).map fun x => u.ratio v x.1 ^ x.2.toReal).prod) := by
  refine conversionFactor_of_real hv fun x hx => ?_
  obtain ⟨n, hn⟩ := exists_whole htag gamma x hx
  rw [hn]
  exact Factor.power_intCast (hu.ratio_ne_zero hv x.1) n

end UnitTag

def Particle.withPressure (p : Particle ℝ ℝ) (pressure : ℝ) : Particle ℝ ℝ :=
  { p with primitives := { p.primitives with pressure } }

/-- Factors of the tags.  That of the entropic function depends on the adiabatic index and may be
any number. -/
structure UnitFactors where
  factor : UnitTag → ℝ
  noUnits : factor .noUnits = 1
  specific : factor .energyPerUnitMass = factor .speed * factor .speed
  energy : factor .energy = factor .mass * factor .energyPerUnitMass
  pressure : factor .pressure = factor .density * factor .energyPerUnitMass

namespace UnitFactors

/-- The factors between two unit systems, whatever the adiabatic index. -/
def AreBetween (k : UnitFactors) (u v : UnitSystem ℝ) : Prop :=
  ∀ tag : UnitTag, tag ≠ .entropy → ∀ gamma : ℝ,
    tag.conversionFactor u v gamma = .ok (.real (k.factor tag))

variable {u v : UnitSystem ℝ}

/-- The product of the powers of the ratios that a tag lists. -/
noncomputable def composed (u v : UnitSystem ℝ) (tag : UnitTag) : ℝ :=
  ((tag.exponents (0 : ℝ)).map fun x => u.ratio v x.1 ^ x.2.toReal).prod

theorem composed_eq (u v : UnitSystem ℝ) :
    composed u v .mass = u.ratio v .mass ∧
      composed u v .speed = u.ratio v .length * (u.ratio v .time)⁻¹ ∧
      composed u v .energyPerUnitMass = u.ratio v .length ^ 2 * (u.ratio v .time ^ 2)⁻¹ ∧
      composed u v .density = u.ratio v .mass * (u.ratio v .length ^ 3)⁻¹ ∧
      composed u v .energy
        = u.ratio v .mass * (u.ratio v .length ^ 2 * (u.ratio v .time ^ 2)⁻¹) ∧
      composed u v .pressure
        = u.ratio v .mass * ((u.ratio v .length)⁻¹ * (u.ratio v .time ^ 2)⁻¹) := by
  have hwhole : ∀ n : ℤ, (Exponent.whole n : Exponent ℝ).toReal = n := fun _ => rfl
  simp only [composed, UnitTag.exponents, List.map_cons, List.map_nil, List.prod_cons,
    List.prod_nil, hwhole, Real.rpow_intCast, mul_one, zpow_neg, zpow_ofNat, pow_one, and_self]

/-- The factors between two systems whose units have sizes. -/
noncomputable def between (hu : u.HasSizes) (hv : v.HasSizes) : UnitFactors where
  factor := composed u v
  noUnits := rfl
  specific := by
    obtain ⟨-, hspeed, hspecific, -⟩ := composed_eq u v
    rw [hspeed, hspecific]
    ring
  energy := by
    obtain ⟨hmass, -, hspecific, -, henergy, -⟩ := composed_eq u v
    rw [hmass, hspecific, henergy]
  pressure := by
    obtain ⟨-, -, hspecific, hdensity, -, hpressure⟩ := composed_eq u v
    have hlength := hu.ratio_ne_zero hv .length
    rw [hspecific, hdensity, hpressure]
    field_simp

theorem areBetween_between (hu : u.HasSizes) (hv : v.HasSizes) :
    (between hu hv).AreBetween u v := by
  intro tag htag gamma
  have hexponents : tag.exponents gamma = tag.exponents 0 := by
    cases tag with
    | entropy => exact absurd rfl htag
    | _ => rfl
  rw [UnitTag.conversionFactor_of_hasSizes hu hv htag, hexponents]
  rfl

/-- Scaling keeps the signs of densities where the units of mass and of length have sizes of the
same sign. -/
theorem density_pos_iff (hu : u.HasSizes) (hv : v.Positive) :
    0 < (between hu hv.hasSizes).factor .density ↔
      0 < u.sizeInCgs .mass * u.sizeInCgs .length := by
  obtain ⟨-, -, -, hdensity, -⟩ := composed_eq u v
  have hlength : u.ratio v .length ≠ 0 := hu.ratio_ne_zero hv.hasSizes .length
  have hlength' := hv .length
  have hmass' := hv .mass
  have hscale : 0 < (v.sizeInCgs .mass * v.sizeInCgs .length * u.ratio v .length ^ 4)⁻¹ := by
    positivity
  have hproduct : (between hu hv.hasSizes).factor .density = u.sizeInCgs .mass * u.sizeInCgs .length
      * (v.sizeInCgs .mass * v.sizeInCgs .length * u.ratio v .length ^ 4)⁻¹ := by
    refine hdensity.trans ?_
    have hsize : u.sizeInCgs .length = u.ratio v .length * v.sizeInCgs .length :=
      (div_mul_cancel₀ _ hlength'.ne').symm
    rw [hsize, UnitSystem.ratio]
    field_simp
  rw [hproduct]
  exact mul_pos_iff_of_pos_right hscale

/-! ## Particles in other units -/

section Particles

variable (k : UnitFactors)

/-- The factors of the tags, kind by kind. -/
def kinds : KindFactors where
  mass := k.factor .mass
  length := k.factor .length
  speed := k.factor .speed
  acceleration := k.factor .acceleration
  momentum := k.factor .mass * k.factor .speed
  energy := k.factor .energy
  density := k.factor .density
  pressure := k.factor .pressure

/-- A particle that was read, in other units: its conserved energy is still specific, and what is
not read stays as it is. -/
def loaded (p : Particle ℝ ℝ) : Particle ℝ ℝ :=
  let multiplied := { k.kinds with energy := k.factor .energyPerUnitMass }.particle p
  { multiplied with
    conserved := { multiplied.conserved with momentum := p.conserved.momentum }
    primitives := { p.primitives with rho := multiplied.primitives.rho } }

def state (s : ExtendedState ℝ) : ExtendedState ℝ := k.kinds.state s

def loadedGas (g : Gas ℝ ℝ) : Gas ℝ ℝ := { g with parts := g.parts.map k.loaded }

/-- A particle that is ready for a run, and the one in other units.  Pressures correspond where
scaling keeps the sign of the density; where it does not, a positive density leaves no pressure. -/
structure Scales (p p' : Particle ℝ ℝ) : Prop where
  others : p' = (k.kinds.particle p).withPressure p'.primitives.pressure
  pressure : 0 < k.factor .density ∨ p.primitives.rho = 0 →
    p'.primitives.pressure = p.primitives.pressure * k.factor .pressure
  pressure_reversed : k.factor .density < 0 → 0 < p.primitives.rho → p'.primitives.pressure = 0

/-- A gas that is ready for a run, and the one in other units. -/
structure GasScales (g g' : Gas ℝ ℝ) : Prop where
  parts : List.Forall₂ k.Scales g.parts g'.parts
  xparts : g'.xparts = g.xparts.map k.state
  axes : g'.axes = g.axes

variable {k} {p : Particle ℝ ℝ} (gamma : ℝ) (conservedIsTotal : Bool)

theorem v_loaded : (k.loaded p).v = p.v.map (· * k.factor .speed) := rfl

theorem mass_loaded : (k.loaded p).conserved.mass = p.conserved.mass * k.factor .mass := rfl

theorem energy_loaded :
    (k.loaded p).conserved.energy = p.conserved.energy * k.factor .energyPerUnitMass := rfl

theorem energy_firstInit_loaded :
    ((k.loaded p).firstInit gamma conservedIsTotal).conserved.energy
      = (p.firstInit gamma conservedIsTotal).conserved.energy * k.factor .energy := by
  have henergy : ∀ q : Particle ℝ ℝ, (q.firstInit gamma conservedIsTotal).conserved.energy
      = if conservedIsTotal then q.conserved.mass * q.conserved.energy
          + 0.5 * q.conserved.mass * Particle.normSq q.v
        else q.conserved.mass * q.conserved.energy := fun _ => rfl
  have hsquare : Particle.normSq (k.loaded p).v
      = Particle.normSq p.v * k.factor .energyPerUnitMass := by
    simp only [v_loaded, Particle.normSq, Vec3.map, Vec3.sum, k.specific]
    ring
  rw [henergy, henergy, hsquare, k.energy, mass_loaded, energy_loaded]
  split <;> ring

/-- The pressure of a particle in other units.  Without density it has none. -/
theorem pressure_firstInit_loaded (hpressure : p.primitives.pressure = 0) :
    ((k.loaded p).firstInit gamma conservedIsTotal).primitives.pressure
      = if 0 < p.primitives.rho * k.factor .density
        then (gamma - 1) * p.primitives.rho * p.conserved.energy * k.factor .pressure else 0 := by
  rw [Particle.pressure_firstInit, k.pressure]
  show (if 0 < p.primitives.rho * k.factor .density then
      (gamma - 1) * (p.primitives.rho * k.factor .density)
        * (p.conserved.energy * k.factor .energyPerUnitMass)
    else p.primitives.pressure) = _
  rw [hpressure]
  split <;> ring

theorem scales_firstInit (hpressure : p.primitives.pressure = 0) :
    k.Scales (p.firstInit gamma conservedIsTotal)
      ((k.loaded p).firstInit gamma conservedIsTotal) where
  others := by
    have hmomentum : ((k.loaded p).firstInit gamma conservedIsTotal).conserved.momentum
        = (p.firstInit gamma conservedIsTotal).conserved.momentum.map (· * k.kinds.momentum) := by
      have hscale : ∀ x : ℝ, p.conserved.mass * k.factor .mass * (x * k.factor .speed)
          = p.conserved.mass * x * (k.factor .mass * k.factor .speed) := fun x => by ring
      show (k.loaded p).v.map ((k.loaded p).conserved.mass * ·)
        = (p.v.map (p.conserved.mass * ·)).map (· * (k.factor .mass * k.factor .speed))
      simp only [v_loaded, mass_loaded, Vec3.map, hscale]
    have hconserved : ((k.loaded p).firstInit gamma conservedIsTotal).conserved
        = (k.kinds.particle (p.firstInit gamma conservedIsTotal)).conserved :=
      congrArg₂ (Conserved.mk _) hmomentum (energy_firstInit_loaded gamma conservedIsTotal)
    show { (k.loaded p).firstInit gamma conservedIsTotal with
      conserved := ((k.loaded p).firstInit gamma conservedIsTotal).conserved } = _
    rw [hconserved]
    rfl
  pressure := by
    intro hsign
    have hsame : 0 < p.primitives.rho * k.factor .density ↔ 0 < p.primitives.rho := by
      rcases hsign with hpos | hzero
      · exact mul_pos_iff_of_pos_right hpos
      · have hzero : p.primitives.rho = 0 := hzero
        rw [hzero, zero_mul]
    rw [pressure_firstInit_loaded gamma conservedIsTotal hpressure, Particle.pressure_firstInit,
      hpressure]
    simp only [hsame]
    split
    next => rfl
    next => rw [zero_mul]
  pressure_reversed := by
    intro hneg hrho
    have hrho : 0 < p.primitives.rho := hrho
    rw [pressure_firstInit_loaded gamma conservedIsTotal hpressure,
      if_neg (mul_neg_of_pos_of_neg hrho hneg).not_gt]

theorem gasScales_firstInit {g : Gas ℝ ℝ} (hpressure : ∀ p ∈ g.parts, p.primitives.pressure = 0) :
    k.GasScales (g.firstInit gamma conservedIsTotal)
      ((k.loadedGas g).firstInit gamma conservedIsTotal) where
  parts := by
    have hparts : ((k.loadedGas g).firstInit gamma conservedIsTotal).parts
        = g.parts.map fun p => (k.loaded p).firstInit gamma conservedIsTotal := List.map_map
    rw [hparts]
    refine List.forall₂_map_left_iff.mpr (List.forall₂_map_right_iff.mpr ?_)
    exact List.forall₂_same.mpr fun p hp => scales_firstInit gamma conservedIsTotal (hpressure p hp)
  xparts := by
    show List.zipWith Particle.firstInitExtended (g.parts.map k.loaded) g.xparts
      = (List.zipWith Particle.firstInitExtended g.parts g.xparts).map k.state
    rw [List.zipWith_map_left, List.map_zipWith]
    rfl
  axes := rfl

end Particles

end UnitFactors

end MeshlessGas
