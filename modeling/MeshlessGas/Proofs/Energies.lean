/-
Energies of a snapshot — what the total energy of a particle that was just initialised is the
sum of.

The converter adds a thermal and a kinetic energy as the run has them, comoving, and what is
stored with the sum takes it to be physical.  Internal energies and velocities are made
physical on their own, one by the factor that is stored with it and the other by its
converter.  Read back, the total energy is therefore the sum of its parts with powers of the
scale factor that undo both, and the sum of the parts themselves at the scale factor one only.
-/
import MeshlessGas.Proofs.Quantities
import MeshlessGas.Proofs.Restart

namespace MeshlessGas

open Conversion (Row)

/-! ## Particles that were just initialised -/

namespace Particle

variable (gamma : ℝ) (conservedIsTotal : Bool) {p : Particle ℝ ℝ}

theorem normSq_nonneg (v : Vec3 ℝ) : 0 ≤ normSq v :=
  add_nonneg (add_nonneg (mul_self_nonneg v.x) (mul_self_nonneg v.y)) (mul_self_nonneg v.z)

theorem kineticEnergy_of_velocity {mass : ℝ} (hmass : 0 ≤ mass) (v : Vec3 ℝ) :
    kineticEnergy mass (v.map (mass * ·)) = mass * (normSq v / 2) := by
  obtain rfl | hpos := hmass.eq_or_lt
  · -- Without mass nothing is divided, and nothing moves.
    rw [kineticEnergy, Exact.zero_eq, if_neg (lt_irrefl 0), zero_mul]
  · have hsquare : normSq (v.map (mass * ·)) = mass ^ 2 * normSq v := by
      simp only [normSq, Vec3.sum, Vec3.map]
      ring
    have hhalf : (0.5 : ℝ) = 1 / 2 := by norm_num
    rw [kineticEnergy, Exact.zero_eq, if_pos hpos, hsquare, hhalf]
    field_simp

/-- Whatever the conserved energy holds, the total energy is that of the velocity and of the
specific energy that was given. -/
theorem totalEnergy_firstInit (hmass : 0 ≤ p.conserved.mass) :
    (p.firstInit gamma conservedIsTotal).totalEnergy conservedIsTotal
      = p.conserved.mass * (p.conserved.energy + normSq p.v / 2) := by
  cases conservedIsTotal with
  | true =>
    show p.conserved.mass * p.conserved.energy + 0.5 * p.conserved.mass * normSq p.v = _
    ring
  | false =>
    show p.conserved.mass * p.conserved.energy
      + kineticEnergy p.conserved.mass (p.v.map (p.conserved.mass * ·)) = _
    rw [kineticEnergy_of_velocity hmass, mul_add]

theorem pressure_firstInit : (p.firstInit gamma conservedIsTotal).primitives.pressure
    = if 0 < p.primitives.rho then (gamma - 1) * p.primitives.rho * p.conserved.energy
      else p.primitives.pressure := by
  show (if (0.0 : ℝ) < p.primitives.rho then (gamma - 1.0) * p.primitives.rho
    * p.conserved.energy else p.primitives.pressure) = _
  rw [Exact.zero_eq, Exact.one_eq]

variable {gamma}

theorem internalEnergy_firstInit (hgamma : 1 < gamma) (hrho : 0 < p.primitives.rho) :
    (p.firstInit gamma conservedIsTotal).internalEnergy gamma = p.conserved.energy := by
  have hdiff : gamma - 1 ≠ 0 := by linarith
  show specificEnergy gamma p.primitives.rho
    (p.firstInit gamma conservedIsTotal).primitives.pressure = _
  rw [Conversion.specificEnergy_eq, if_pos hrho, pressure_firstInit, if_pos hrho]
  field_simp

end Particle

/-! ## Expanding space -/

namespace Context

variable {c : Context ℝ ℝ}

theorem a_of_isAccepted (h : ∀ k ∈ c.cosmology, k.IsAccepted) :
    0 < c.a ∧ c.a2Inv = 1 / c.a * (1 / c.a) := by
  cases hk : c.cosmology with
  | none =>
    simp only [a, a2Inv, hk, Exact.one_eq]
    norm_num
  | some k =>
    simp only [a, a2Inv, hk]
    exact (h k hk).epoch

end Context

namespace Conversion

variable {context : Context ℝ ℝ}

noncomputable def initialisedRow (context : Context ℝ ℝ) (r : Row ℝ ℝ) : Row ℝ ℝ :=
  (r.1.firstInit context.scheme.gamma context.scheme.totalEnergy,
    Particle.firstInitExtended r.1 r.2)

theorem velocityOf_initialised {r : Row ℝ ℝ} (h : context.Unaccelerated r.1) :
    velocityOf context (initialisedRow context r) = r.1.v.map (· * context.a2Inv) := by
  have hunaccelerated : context.Unaccelerated (initialisedRow context r).1 := ⟨h.hydro, h.gravity⟩
  have hdrifted : (Particle.narrowVec (driftedOf context (initialisedRow context r)) : Vec3 ℝ)
      = r.1.v := driftedOf_of_unaccelerated hunaccelerated
  rw [velocityOf, hdrifted]
  cases hk : context.cosmology with
  | some k => rfl
  | none =>
    simp only [Context.a2Inv, hk, Exact.one_eq, mul_one]
    rfl

end Conversion

/-! ## The sum of the parts -/

namespace Rescaling

variable (u : Rescaling)

theorem mass_mul_potential : u.mass * u.potential = u.energy := by
  rw [potential, energy, mul_div_assoc]

theorem speed_sq : u.speed ^ 2 = u.potential := by
  rw [speed, potential, div_pow]

end Rescaling

namespace PhysicalState

variable {x : PhysicalState} {gamma a : ℝ}

def IsSumOfParts (x : PhysicalState) : Prop :=
  x.totalEnergy = x.mass * (x.internalEnergy + 0.5 * Particle.normSq x.velocity)

/-- The total energy is the thermal and the kinetic energy as the run has them: each times
the power of the scale factor that takes it back to comoving units. -/
def IsSumOfComovingParts (gamma a : ℝ) (x : PhysicalState) : Prop :=
  x.totalEnergy = x.mass * (x.internalEnergy * a ^ (3.0 * (gamma - 1.0))
    + 0.5 * Particle.normSq x.velocity * a ^ 4)

theorem isSumOfParts_iff : x.IsSumOfParts ↔
    x.totalEnergy = x.mass * (x.internalEnergy + Particle.normSq x.velocity / 2) := by
  have hhalf : 0.5 * Particle.normSq x.velocity = Particle.normSq x.velocity / 2 := by ring
  rw [IsSumOfParts, hhalf]

theorem isSumOfComovingParts_iff : x.IsSumOfComovingParts gamma a ↔
    x.totalEnergy = x.mass * (x.internalEnergy * a ^ (3 * (gamma - 1))
      + Particle.normSq x.velocity / 2 * a ^ 4) := by
  have hhalf : 0.5 * Particle.normSq x.velocity = Particle.normSq x.velocity / 2 := by ring
  have hexponent : 3.0 * (gamma - 1.0) = 3 * (gamma - 1) := by norm_num
  rw [IsSumOfComovingParts, hhalf, hexponent]

theorem IsSumOfComovingParts.isSumOfParts (h : x.IsSumOfComovingParts gamma 1) :
    x.IsSumOfParts := by
  rw [IsSumOfComovingParts, Real.one_rpow, mul_one, one_pow, mul_one] at h
  exact h

/-- Where there is heat both sums agree at the scale factor one only: below it the powers make
both parts smaller, and above it they make both larger. -/
theorem IsSumOfComovingParts.eq_one (h : x.IsSumOfComovingParts gamma a) (hgamma : 1 < gamma)
    (ha : 0 < a) (hmass : 0 < x.mass) (henergy : 0 < x.internalEnergy) (hsum : x.IsSumOfParts) :
    a = 1 := by
  have hexponent : 0 < 3 * (gamma - 1) := by linarith
  have hkinetic : 0 ≤ Particle.normSq x.velocity / 2 :=
    div_nonneg (Particle.normSq_nonneg x.velocity) zero_le_two
  have hparts : x.internalEnergy + Particle.normSq x.velocity / 2
      = x.internalEnergy * a ^ (3 * (gamma - 1)) + Particle.normSq x.velocity / 2 * a ^ 4 :=
    mul_left_cancel₀ hmass.ne'
      ((isSumOfParts_iff.mp hsum).symm.trans (isSumOfComovingParts_iff.mp h))
  rcases lt_trichotomy a 1 with hlt | heq | hgt
  · have hthermal := mul_lt_mul_of_pos_left (Real.rpow_lt_one ha.le hlt hexponent) henergy
    have hmoving := mul_le_mul_of_nonneg_left (pow_le_one₀ ha.le hlt.le (n := 4)) hkinetic
    linarith
  · exact heq
  · have hthermal := mul_lt_mul_of_pos_left (Real.one_lt_rpow hgt hexponent) henergy
    have hmoving := mul_le_mul_of_nonneg_left (one_le_pow₀ hgt.le (n := 4)) hkinetic
    linarith

end PhysicalState

namespace Conversion

variable {context : Context ℝ ℝ} (u : Rescaling) {r : Row ℝ ℝ}

noncomputable def measuredOf (context : Context ℝ ℝ) (u : Rescaling) (r : Row ℝ ℝ) :
    PhysicalState :=
  physicalOf context (u.physicalFactor context.a context.scheme.gamma) (initialisedRow context r)

theorem internalEnergy_measuredOf (hgamma : 1 < context.scheme.gamma)
    (hrho : 0 < r.1.primitives.rho) :
    (measuredOf context u r).internalEnergy
      = r.1.conserved.energy * (u.potential * context.a ^ (-3 * (context.scheme.gamma - 1))) := by
  show (initialisedRow context r).1.internalEnergy context.scheme.gamma
    * u.physicalFactor context.a context.scheme.gamma "InternalEnergy" = _
  rw [u.physicalFactor_internalEnergy]
  exact congrArg (· * _) (Particle.internalEnergy_firstInit _ hgamma hrho)

theorem totalEnergy_measuredOf (hmass : 0 < r.1.conserved.mass) :
    (measuredOf context u r).totalEnergy
      = r.1.conserved.mass * (r.1.conserved.energy + Particle.normSq r.1.v / 2) * u.energy := by
  show (initialisedRow context r).1.totalEnergy context.scheme.totalEnergy
    * u.physicalFactor context.a context.scheme.gamma "TotEnergy" = _
  rw [u.physicalFactor_totalEnergy]
  exact congrArg (· * _) (Particle.totalEnergy_firstInit _ _ hmass.le)

theorem mass_measuredOf :
    (measuredOf context u r).mass = r.1.conserved.mass * u.mass :=
  congrArg (r.1.conserved.mass * ·) (u.physicalFactor_masses _ _)

theorem velocity_measuredOf (h : context.Unaccelerated r.1) :
    (measuredOf context u r).velocity = r.1.v.map (· * (context.a2Inv * u.speed)) := by
  show (velocityOf context (initialisedRow context r)).map
    (· * u.physicalFactor context.a context.scheme.gamma "Velocities") = _
  rw [velocityOf_initialised h, u.physicalFactor_velocities]
  simp only [Vec3.map, mul_assoc]

/-- The parts that are read, taken back to comoving units, are those that the converter
added. -/
theorem isSumOfComovingParts_measuredOf (hmade : ∀ k ∈ context.cosmology, k.IsAccepted)
    (hgamma : 1 < context.scheme.gamma) (hmass : 0 < r.1.conserved.mass)
    (hrho : 0 < r.1.primitives.rho) (h : context.Unaccelerated r.1) :
    (measuredOf context u r).IsSumOfComovingParts context.scheme.gamma context.a := by
  obtain ⟨ha, hinverse⟩ := Context.a_of_isAccepted hmade
  have hthermal : context.a ^ (-3 * (context.scheme.gamma - 1))
      * context.a ^ (3 * (context.scheme.gamma - 1)) = 1 := by
    rw [neg_mul, Real.rpow_neg ha.le]
    exact inv_mul_cancel₀ (Real.rpow_pos_of_pos ha _).ne'
  have hkinetic : context.a2Inv ^ 2 * context.a ^ 4 = 1 := by
    rw [hinverse]
    field_simp
  have hnorm : Particle.normSq (measuredOf context u r).velocity
      = Particle.normSq r.1.v * context.a2Inv ^ 2 * u.potential := by
    rw [velocity_measuredOf u h, ← u.speed_sq]
    simp only [Particle.normSq, Vec3.sum, Vec3.map]
    ring
  rw [PhysicalState.isSumOfComovingParts_iff, totalEnergy_measuredOf u hmass, mass_measuredOf,
    internalEnergy_measuredOf u hgamma hrho, hnorm, ← u.mass_mul_potential]
  calc r.1.conserved.mass * (r.1.conserved.energy + Particle.normSq r.1.v / 2)
        * (u.mass * u.potential)
      = r.1.conserved.mass * u.mass * u.potential
          * (r.1.conserved.energy * 1 + Particle.normSq r.1.v / 2 * 1) := by ring
    _ = r.1.conserved.mass * u.mass * u.potential
          * (r.1.conserved.energy * (context.a ^ (-3 * (context.scheme.gamma - 1))
              * context.a ^ (3 * (context.scheme.gamma - 1)))
            + Particle.normSq r.1.v / 2 * (context.a2Inv ^ 2 * context.a ^ 4)) := by
        rw [hthermal, hkinetic]
    _ = _ := by ring

end Conversion

/-! ## Snapshots -/

theorem Gas.rows_ofRows {α D S : Type} (p : α → Particle D S) (s : α → ExtendedState S)
    (entries : List α) : (ofRows p s entries).rows = entries.map fun a => (p a, s a) :=
  List.zip_map'

namespace Snapshot

variable {c : Contents ℝ ℝ} {g : Gas ℝ ℝ} {files files' : Directory ℝ ℝ} {file : String}

theorem measures_of_initialise (hgas : g.IsRows)
    (hinit : g.initialise (.ok c.context.scheme.gamma) c.context.scheme.totalEnergy
      = (.ok (), c.gas)) (hu : c.units.Positive) (ha : 0 < c.context.a)
    (hwrite : write files file c = (.ok (), files')) :
    ∃ s, (openFile files' file none).result = (.ok s, []) ∧
      s.Measures files' (g.rows.map (Conversion.measuredOf c.context hu.toCgs)) := by
  rw [← hgas.ofRows_rows, Gas.initialise_ofRows, Gas.firstInit_ofRows] at hinit
  have hrows : c.gas.rows = g.rows.map (Conversion.initialisedRow c.context) := by
    rw [← (Prod.mk.inj hinit).2, Gas.rows_ofRows]
    rfl
  have hgas' : c.gas.IsRows := by
    rw [← (Prod.mk.inj hinit).2]
    exact Gas.isRows_ofRows _ _ _
  obtain ⟨s, hopen, hs⟩ := exists_openFile hu hwrite
  have hmeasures := hs.measures hgas' hu ha
  rw [hrows, List.map_map] at hmeasures
  exact ⟨s, hopen, hmeasures⟩

/-- What is read from a snapshot of particles that were just initialised: the total energy is
the sum of the comoving parts.  It is the sum of the parts that are read at the scale factor
one, and for a particle with heat at no other. -/
theorem totalEnergy_of_write (hgas : g.IsRows)
    (hinit : g.initialise (.ok c.context.scheme.gamma) c.context.scheme.totalEnergy
      = (.ok (), c.gas))
    (hmade : ∀ k ∈ c.context.cosmology, k.IsAccepted) (hgamma : 1 < c.context.scheme.gamma)
    (hu : c.units.Positive)
    (hparts : ∀ p ∈ g.parts,
      0 < p.conserved.mass ∧ 0 < p.primitives.rho ∧ c.context.Unaccelerated p)
    (hwrite : write files file c = (.ok (), files')) :
    ∃ s states, (openFile files' file none).result = (.ok s, []) ∧ s.Measures files' states ∧
      List.Forall₂ (fun p x =>
        x.IsSumOfComovingParts c.context.scheme.gamma c.context.a ∧
        (c.context.a = 1 → x.IsSumOfParts) ∧
        (0 < p.conserved.energy → x.IsSumOfParts → c.context.a = 1)) g.parts states := by
  obtain ⟨ha, -⟩ := Context.a_of_isAccepted hmade
  obtain ⟨s, hopen, hmeasures⟩ := measures_of_initialise hgas hinit hu ha hwrite
  refine ⟨s, _, hopen, hmeasures, hgas.forall₂_rows fun r hr => ?_⟩
  obtain ⟨hmass, hrho, hunaccelerated⟩ := Gas.forall_rows hparts r hr
  have hsum := Conversion.isSumOfComovingParts_measuredOf hu.toCgs hmade hgamma hmass hrho
    hunaccelerated
  refine ⟨hsum, fun hone => ?_, fun henergy hparts => ?_⟩
  · rw [hone] at hsum
    exact hsum.isSumOfParts
  · refine hsum.eq_one hgamma ha ?_ ?_ hparts
    · rw [Conversion.mass_measuredOf]
      exact mul_pos hmass hu.toCgs.mass_pos
    · have hpotential : 0 < hu.toCgs.potential := by
        rw [← hu.toCgs.speed_sq]
        exact pow_pos (div_pos hu.toCgs.length_pos hu.toCgs.time_pos) 2
      rw [Conversion.internalEnergy_measuredOf hu.toCgs hgamma hrho]
      exact mul_pos henergy (mul_pos hpotential (Real.rpow_pos_of_pos ha _))

/-! ### A warm particle in an expanding space -/

noncomputable def warmParticle : Particle ℝ ℝ :=
  { sampleParticle 1 ⟨0.25, 0.5, 0.75⟩ with
    v := ⟨2.0, 0.0, 0.0⟩
    conserved := ⟨2.0, .replicate 0.0, 1.0⟩ }

noncomputable def warmGas : Gas ℝ ℝ where
  parts := [warmParticle]
  xparts := [.zero]

/-- The particle after its initialisation, in a gas of the adiabatic index two. -/
noncomputable def warmContents (k : Cosmology ℝ) : Contents ℝ ℝ :=
  { expandingContents k with
    context :=
      { (expandingContents k).context with
        scheme := { (Scheme.standard : Scheme ℝ) with gamma := 2.0 } }
    gas := warmGas.firstInit 2.0 false }

theorem isRows_warmGas : warmGas.IsRows := ⟨rfl, rfl⟩

theorem initialise_warmGas (k : Cosmology ℝ) :
    warmGas.initialise (.ok (warmContents k).context.scheme.gamma)
      (warmContents k).context.scheme.totalEnergy = (.ok (), (warmContents k).gas) := by
  rw [← isRows_warmGas.ofRows_rows, Gas.initialise_ofRows, isRows_warmGas.ofRows_rows]
  rfl

theorem gamma_warmContents (k : Cosmology ℝ) : 1 < (warmContents k).context.scheme.gamma := by
  show (1 : ℝ) < 2.0
  norm_num

theorem warmContents_admissible {k : Cosmology ℝ} (hk : 0 < k.epoch.a) :
    (warmContents k).Admissible where
  gas := ⟨rfl, rfl⟩
  fits := by
    show 1 * 109 ≤ Layout.maxBytes
    decide
  regular :=
    ⟨sampleContents_admissible.regular.tick_nonneg, sampleContents_admissible.regular.tick_le,
      sampleContents_admissible.regular.dim_shape, sampleContents_admissible.regular.dim_pos⟩
  couples := fun p _ gparts h => absurd h nofun
  units := sampleContents_admissible.units
  properties := sampleContents_admissible.properties
  parameters := nofun
  gamma := gamma_warmContents k
  scaleFactor := (expandingContents_admissible hk).scaleFactor

theorem warmParticle_initial (k : Cosmology ℝ) : ∀ p ∈ warmGas.parts,
    0 < p.conserved.mass ∧ 0 < p.primitives.rho ∧ (warmContents k).context.Unaccelerated p := by
  intro p hp
  obtain rfl : p = warmParticle := List.mem_singleton.mp hp
  refine ⟨?_, ?_, rfl, ?_⟩
  · norm_num [warmParticle]
  · norm_num [warmParticle, sampleParticle]
  · refine if_pos ?_
    show (-1 : Int64) < 0
    decide

theorem exists_warmUniverse :
    ∃ k, Cosmology.ofOptions (Cosmology.flatOptions 0.7 0.5 1 0.3 0.7) .cosmological = .ok k ∧
      (∀ k' ∈ (warmContents k).context.cosmology, k'.IsAccepted) ∧
      (warmContents k).context.a = 0.5 ∧ (warmContents k).context.a2Inv = 4 ∧
      (warmContents k).Admissible := by
  obtain ⟨k, hk, ha, hinverse⟩ := Cosmology.exists_ofOptions
    (show (0 : ℝ) < 0.5 by norm_num) (show (0.5 : ℝ) < 1 by norm_num) 0.7 0.3 0.7 .cosmological
  refine ⟨k, hk, fun k' hk' => ?_, ha, ?_, warmContents_admissible (by rw [ha]; norm_num)⟩
  · obtain rfl := Option.some.inj hk'
    exact Cosmology.isAccepted_of_ofOptions hk
  · show k.epoch.a2Inv = 4
    rw [hinverse]
    norm_num

/-- At half of today's scale factor the total energy of the warm particle is the sum of its
comoving parts. -/
theorem totalEnergy_of_write_warm :
    ∃ k files' s x, Cosmology.ofOptions (Cosmology.flatOptions 0.7 0.5 1 0.3 0.7) .cosmological
        = .ok k ∧
      write {} "a.hdf5" (warmContents k) = (.ok (), files') ∧
      (openFile files' "a.hdf5" none).result = (.ok s, []) ∧ s.Measures files' [x] ∧
      x.IsSumOfComovingParts 2.0 0.5 := by
  obtain ⟨k, hk, hmade, ha, -, hc⟩ := exists_warmUniverse
  obtain ⟨files', hwrite⟩ := hc.exists_write writable_sampleFile
  obtain ⟨s, states, hopen, hmeasures, hstates⟩ := totalEnergy_of_write isRows_warmGas
    (initialise_warmGas k) hmade (gamma_warmContents k) hc.units (warmParticle_initial k) hwrite
  obtain ⟨x, last, ⟨hx, -⟩, hlast, rfl⟩ := List.forall₂_cons_left_iff.mp hstates
  obtain rfl := List.forall₂_nil_left_iff.mp hlast
  rw [ha] at hx
  exact ⟨k, files', s, x, hk, hwrite, hopen, hmeasures, hx⟩

theorem toCgs_cgs (hu : (UnitSystem.cgs : UnitSystem ℝ).Positive) :
    hu.toCgs.mass = 1 ∧ hu.toCgs.length = 1 ∧ hu.toCgs.time = 1 := by
  refine ⟨?_, ?_, ?_⟩ <;>
    norm_num [UnitSystem.Positive.toCgs, UnitSystem.sizeInCgs, UnitSystem.unit?, UnitSystem.cgs,
      BaseUnit.sizeIn, BaseUnit.named, BaseDimension.cgsUnit, NamedUnit.size]

/-- At half of today's scale factor the total energy that is read for the warm particle is 6,
and the sum of the parts that are read is 80. -/
theorem totalEnergy_at_half :
    ∃ k files' s x, Cosmology.ofOptions (Cosmology.flatOptions 0.7 0.5 1 0.3 0.7) .cosmological
        = .ok k ∧
      (∀ p ∈ warmGas.parts, 0 < p.conserved.mass ∧ 0 < p.primitives.rho ∧
        (warmContents k).context.Unaccelerated p) ∧
      warmGas.initialise (.ok (warmContents k).context.scheme.gamma)
        (warmContents k).context.scheme.totalEnergy = (.ok (), (warmContents k).gas) ∧
      write {} "a.hdf5" (warmContents k) = (.ok (), files') ∧
      (openFile files' "a.hdf5" none).result = (.ok s, []) ∧ s.Measures files' [x] ∧
      x.totalEnergy = 6 ∧
      x.mass * (x.internalEnergy + Particle.normSq x.velocity / 2) = 80 ∧ ¬ x.IsSumOfParts := by
  obtain ⟨k, hk, hmade, ha, hinverse, hc⟩ := exists_warmUniverse
  obtain ⟨files', hwrite⟩ := hc.exists_write writable_sampleFile
  obtain ⟨s, hopen, hmeasures⟩ := measures_of_initialise isRows_warmGas (initialise_warmGas k)
    hc.units hc.a_pos hwrite
  obtain ⟨hmass, hrho, hunaccelerated⟩ := warmParticle_initial k _ (List.mem_singleton_self _)
  obtain ⟨hm, hl, ht⟩ : hc.units.toCgs.mass = 1 ∧ hc.units.toCgs.length = 1 ∧
      hc.units.toCgs.time = 1 := toCgs_cgs hc.units
  let r : Row ℝ ℝ := (warmParticle, .zero)
  let x := Conversion.measuredOf (warmContents k).context hc.units.toCgs r
  have htotal : x.totalEnergy = 6 := by
    rw [Conversion.totalEnergy_measuredOf (r := r) hc.units.toCgs hmass, Rescaling.energy, hm, hl,
      ht]
    norm_num [r, warmParticle, Particle.normSq, Vec3.sum, Vec3.map]
  have hsum : x.mass * (x.internalEnergy + Particle.normSq x.velocity / 2) = 80 := by
    have hexponent : (-3 : ℝ) * ((warmContents k).context.scheme.gamma - 1) = -3 := by
      show (-3 : ℝ) * (2.0 - 1) = -3
      norm_num
    have hpower : (0.5 : ℝ) ^ (-3 : ℝ) = 8 := by
      rw [show (-3 : ℝ) = ((-3 : ℤ) : ℝ) by norm_num, Real.rpow_intCast]
      norm_num
    rw [Conversion.mass_measuredOf, Conversion.internalEnergy_measuredOf (r := r) hc.units.toCgs
      (gamma_warmContents k) hrho, Conversion.velocity_measuredOf (r := r) hc.units.toCgs
      hunaccelerated, Rescaling.potential, Rescaling.speed, hm, hl, ht, ha, hinverse, hexponent,
      hpower]
    norm_num [r, warmParticle, Particle.normSq, Vec3.sum, Vec3.map]
  refine ⟨k, files', s, x, hk, warmParticle_initial k, initialise_warmGas k, hwrite, hopen,
    hmeasures, htotal, hsum, fun hparts => ?_⟩
  rw [PhysicalState.isSumOfParts_iff, htotal, hsum] at hparts
  norm_num at hparts

end Snapshot

end MeshlessGas
