/-
The equation of state of a snapshot — internal energies and entropies in physical units.

Four fields take part in it, and four tables give their factors: the exponents of units, the
exponents of the scale factor, the sizes of units, and the names of the fields.  The factor of
the pressure is the product of those of density and internal energy, and that of the entropy
their quotient by a power, for every scale factor and every adiabatic index.  What a converter
makes of density and pressure in the units of the run then holds of what is read in physical
units.
-/
import MeshlessGas.Proofs.Quantities

namespace MeshlessGas

open Conversion (Row)

/-! ## Factors of the thermal fields -/

namespace Rescaling

variable (u : Rescaling) {a : ℝ} (gamma : ℝ)

theorem physicalFactor_density_pos (ha : 0 < a) : 0 < u.physicalFactor a gamma "Density" := by
  rw [physicalFactor_density]
  exact mul_pos u.density_pos (Real.rpow_pos_of_pos ha _)

theorem density_mul_potential : u.density * u.potential = u.pressure := by
  have hm := u.mass_pos
  have hl := u.length_pos
  have ht := u.time_pos
  rw [density, potential, pressure]
  field_simp

theorem physicalFactor_pressure_eq (ha : 0 < a) :
    u.physicalFactor a gamma "Pressure"
      = u.physicalFactor a gamma "Density" * u.physicalFactor a gamma "InternalEnergy" := by
  have hscale : a ^ (-3 * gamma) = a ^ (-3 : ℝ) * a ^ (-3 * (gamma - 1)) := by
    rw [← Real.rpow_add ha]
    congr 1
    ring
  rw [physicalFactor_pressure, physicalFactor_density, physicalFactor_internalEnergy, hscale,
    ← u.density_mul_potential]
  ring

theorem physicalFactor_entropy_eq (ha : 0 < a) :
    u.physicalFactor a gamma "Entropy"
      = u.physicalFactor a gamma "Pressure" / u.physicalFactor a gamma "Density" ^ gamma := by
  have hpower : (u.density * a ^ (-3 : ℝ)) ^ gamma = u.density ^ gamma * a ^ (-3 * gamma) := by
    rw [Real.mul_rpow u.density_pos.le (Real.rpow_nonneg ha.le _), ← Real.rpow_mul ha.le]
  have hscale : a ^ (-3 * gamma) ≠ 0 := (Real.rpow_pos_of_pos ha _).ne'
  rw [physicalFactor_entropy, physicalFactor_pressure, physicalFactor_density, hpower,
    mul_div_mul_right _ _ hscale]

end Rescaling

/-! ## Particles in physical units -/

/-- Internal energy and entropy follow from density and pressure, as for an ideal gas. -/
structure PhysicalState.IsIdealGas (gamma : ℝ) (x : PhysicalState) : Prop where
  internalEnergy : x.internalEnergy = x.pressure / ((gamma - 1) * x.density)
  entropy : x.entropy = x.pressure / x.density ^ gamma

namespace Conversion

variable {context : Context ℝ ℝ} {a : ℝ}

theorem entropicFunction_of_pos {gamma rho : ℝ} (hrho : 0 < rho) (pressure : ℝ) :
    Particle.entropicFunction gamma rho pressure = pressure / rho ^ gamma := by
  rw [Particle.entropicFunction, Exact.zero_eq, if_pos hrho]
  rfl

/-- A converter's law holds in physical units as well, since the factors obey it. -/
theorem isIdealGas_physicalOf (u : Rescaling) (ha : 0 < a) {r : Row ℝ ℝ}
    (hrho : 0 < r.1.primitives.rho) :
    (physicalOf context (u.physicalFactor a context.scheme.gamma) r).IsIdealGas
      context.scheme.gamma := by
  set gamma := context.scheme.gamma
  set factor := u.physicalFactor a gamma
  have hfactor : 0 < factor "Density" := u.physicalFactor_density_pos gamma ha
  constructor
  · have hcomoving : r.1.internalEnergy gamma
        = r.1.primitives.pressure / ((gamma - 1) * r.1.primitives.rho) :=
      (specificEnergy_eq gamma _ _).trans (if_pos hrho)
    have hpressure : factor "Pressure" = factor "Density" * factor "InternalEnergy" :=
      u.physicalFactor_pressure_eq gamma ha
    calc r.1.internalEnergy gamma * factor "InternalEnergy"
        = r.1.primitives.pressure * factor "InternalEnergy"
            / ((gamma - 1) * r.1.primitives.rho) := by
          rw [hcomoving, div_mul_eq_mul_div]
      _ = r.1.primitives.pressure * factor "InternalEnergy" * factor "Density"
            / ((gamma - 1) * r.1.primitives.rho * factor "Density") :=
          (mul_div_mul_right _ _ hfactor.ne').symm
      _ = r.1.primitives.pressure * factor "Pressure"
            / ((gamma - 1) * (r.1.primitives.rho * factor "Density")) := by
          rw [hpressure, mul_assoc, mul_comm (factor "InternalEnergy"), mul_assoc (gamma - 1)]
  · have hcomoving : r.1.entropy gamma
        = r.1.primitives.pressure / r.1.primitives.rho ^ gamma :=
      entropicFunction_of_pos hrho r.1.primitives.pressure
    have hentropy : factor "Entropy" = factor "Pressure" / factor "Density" ^ gamma :=
      u.physicalFactor_entropy_eq gamma ha
    show r.1.entropy gamma * factor "Entropy"
      = r.1.primitives.pressure * factor "Pressure"
          / (r.1.primitives.rho * factor "Density") ^ gamma
    rw [hcomoving, hentropy, Real.mul_rpow hrho.le hfactor.le, div_mul_div_comm]

end Conversion

/-! ## Snapshots -/

namespace Snapshot

/-- The factors stored with the thermal fields obey the equation of state, and so do the
numbers that are read from a snapshot for every particle with density. -/
theorem isIdealGas_of_write :
    (∀ {u : UnitSystem ℝ} {a : ℝ} (gamma : ℝ), u.Positive → 0 < a →
      ∃ factor : String → ℝ,
        (∀ f ∈ FieldDescriptor.writeRegistry, ∃ attributes : List (String × Attribute ℝ ℝ),
          f.attributes u a gamma = .ok attributes ∧
            attributes.lookup FieldDescriptor.physicalFactorName
              = some (.reals [factor f.name])) ∧
        factor "Pressure" = factor "Density" * factor "InternalEnergy" ∧
        factor "Entropy" = factor "Pressure" / factor "Density" ^ gamma) ∧
    (∀ {c : Contents ℝ ℝ} {files files' : Directory ℝ ℝ} {file : String},
      c.gas.IsRows → c.units.Positive → 0 < c.context.a →
      write files file c = (.ok (), files') →
      ∃ s states, (openFile files' file none).result = (.ok s, []) ∧
        s.Measures files' states ∧
        List.Forall₂ (fun p x => 0 < p.primitives.rho →
          x.IsIdealGas c.context.scheme.gamma) c.gas.parts states) := by
  constructor
  · intro u a gamma hu ha
    refine ⟨hu.toCgs.physicalFactor a gamma, fun f hf => ?_,
      hu.toCgs.physicalFactor_pressure_eq gamma ha, hu.toCgs.physicalFactor_entropy_eq gamma ha⟩
    obtain ⟨attributes, hattributes, hlookup, -⟩ :=
      FieldDescriptor.exists_physicalFactor hf hu ha gamma
    exact ⟨attributes, hattributes, hlookup⟩
  · intro c files files' file hgas hu ha hwrite
    obtain ⟨s, hopen, hs⟩ := exists_openFile hu hwrite
    refine ⟨s, _, hopen, hs.measures hgas hu ha, hgas.forall₂_rows fun r _ hrho => ?_⟩
    exact Conversion.isIdealGas_physicalOf hu.toCgs ha hrho

/-- The sample of two particles, and the factors in cgs units at half of today's scale
factor. -/
theorem isIdealGas_of_write_sample :
    (∃ factor : String → ℝ,
      (∀ f ∈ FieldDescriptor.writeRegistry, ∃ attributes : List (String × Attribute ℝ ℝ),
        f.attributes sampleContents.units (1 / 2) 2 = .ok attributes ∧
          attributes.lookup FieldDescriptor.physicalFactorName
            = some (.reals [factor f.name])) ∧
      factor "Pressure" = factor "Density" * factor "InternalEnergy" ∧
      factor "Entropy" = factor "Pressure" / factor "Density" ^ (2 : ℝ)) ∧
    ∃ files' s x y, write {} "a.hdf5" sampleContents = (.ok (), files') ∧
      (openFile files' "a.hdf5" none).result = (.ok s, []) ∧ s.Measures files' [x, y] ∧
      x.IsIdealGas Scheme.monatomicGamma ∧ y.IsIdealGas Scheme.monatomicGamma := by
  constructor
  · exact isIdealGas_of_write.1 2 sampleContents_admissible.units (by norm_num)
  · obtain ⟨files', hwrite⟩ := sampleContents_admissible.exists_write writable_sampleFile
    obtain ⟨s, states, hopen, hmeasures, hstates⟩ := isIdealGas_of_write.2
      sampleContents_admissible.gas sampleContents_admissible.units
      sampleContents_admissible.a_pos hwrite
    have hrho : ∀ id x, 0 < (sampleParticle id x).primitives.rho := by
      intro id x
      norm_num [sampleParticle]
    obtain ⟨x, rest, hx, hrest, rfl⟩ := List.forall₂_cons_left_iff.mp hstates
    obtain ⟨y, last, hy, hlast, rfl⟩ := List.forall₂_cons_left_iff.mp hrest
    obtain rfl := List.forall₂_nil_left_iff.mp hlast
    exact ⟨files', s, x, y, hwrite, hopen, hmeasures, hx (hrho 1 _), hy (hrho 2 _)⟩

end Snapshot

end MeshlessGas
