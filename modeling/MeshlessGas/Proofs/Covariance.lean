/-
Covariance — the written fields under a change of units.

A change of units multiplies every quantity of a state by powers of three positive numbers,
one for mass, one for length and one for time.  The numbers that a field gives are then
multiplied by the powers that the tag of the field lists: wrapping, kicks and the equation
of state know nothing of units.
-/
import MeshlessGas.Proofs.RoundTrip

namespace MeshlessGas

open Conversion (Row)

/-! ## Multiplied particles -/

/-- By what the numbers of particles and of their states are multiplied, each kind of them. -/
structure KindFactors where
  mass : ℝ
  length : ℝ
  speed : ℝ
  acceleration : ℝ
  momentum : ℝ
  energy : ℝ
  density : ℝ
  pressure : ℝ

namespace KindFactors

noncomputable section

variable (k : KindFactors)

def particle (p : Particle ℝ ℝ) : Particle ℝ ℝ :=
  { p with
    x := p.x.map (· * k.length)
    v := p.v.map (· * k.speed)
    aHydro := p.aHydro.map (· * k.acceleration)
    h := p.h * k.length
    conserved :=
      { mass := p.conserved.mass * k.mass
        momentum := p.conserved.momentum.map (· * k.momentum)
        energy := p.conserved.energy * k.energy }
    primitives :=
      { rho := p.primitives.rho * k.density
        v := p.primitives.v.map (· * k.speed)
        pressure := p.primitives.pressure * k.pressure } }

def state (s : ExtendedState ℝ) : ExtendedState ℝ := { s with vFull := s.vFull.map (· * k.speed) }

end

end KindFactors

/-! ## Changes of units -/

/-- A change of units: by what the numbers of masses, lengths and times are multiplied. -/
structure Rescaling where
  mass : ℝ
  length : ℝ
  time : ℝ
  mass_pos : 0 < mass
  length_pos : 0 < length
  time_pos : 0 < time

namespace Rescaling

noncomputable section

variable (u : Rescaling)

def speed : ℝ := u.length / u.time

def acceleration : ℝ := u.length / u.time ^ 2

def momentum : ℝ := u.mass * u.length / u.time

def energy : ℝ := u.mass * u.length ^ 2 / u.time ^ 2

def density : ℝ := u.mass / u.length ^ 3

def pressure : ℝ := u.mass / (u.length * u.time ^ 2)

def potential : ℝ := u.length ^ 2 / u.time ^ 2

def factors : KindFactors where
  mass := u.mass
  length := u.length
  speed := u.speed
  acceleration := u.acceleration
  momentum := u.momentum
  energy := u.energy
  density := u.density
  pressure := u.pressure

def particle (p : Particle ℝ ℝ) : Particle ℝ ℝ := u.factors.particle p

def state (s : ExtendedState ℝ) : ExtendedState ℝ := u.factors.state s

def gravity (g : GravityParticle ℝ ℝ) : GravityParticle ℝ ℝ :=
  { g with
    x := g.x.map (· * u.length)
    vFull := g.vFull.map (· * u.speed)
    aGrav := g.aGrav.map (· * u.acceleration)
    mass := g.mass * u.mass
    potential := g.potential * u.potential }

def context (c : Context ℝ ℝ) : Context ℝ ℝ :=
  { c with
    timeBase := c.timeBase * u.time
    dim := c.dim.map (· * u.length)
    gparts := c.gparts.map (List.map u.gravity) }

def row (r : Row ℝ ℝ) : Row ℝ ℝ := (u.particle r.1, u.state r.2)

/-- By what numbers of a tag are multiplied, as the exponents of the tag say. -/
def factor (tag : UnitTag) (gamma : ℝ) : ℝ :=
  u.mass ^ (tag.exponent gamma .mass).toReal * u.length ^ (tag.exponent gamma .length).toReal
    * u.time ^ (tag.exponent gamma .time).toReal

end

/-! ## Factors of tags -/

variable (u : Rescaling)

theorem factor_eq_zpow (tag : UnitTag) (gamma : ℝ) {m l t : ℤ}
    (hm : (tag.exponent gamma .mass).toReal = m) (hl : (tag.exponent gamma .length).toReal = l)
    (ht : (tag.exponent gamma .time).toReal = t) :
    u.factor tag gamma = u.mass ^ m * u.length ^ l * u.time ^ t := by
  rw [factor, hm, hl, ht, Real.rpow_intCast, Real.rpow_intCast, Real.rpow_intCast]

theorem toReal_none : (Exponent.real (0.0 : ℝ)).toReal = ((0 : ℤ) : ℝ) := by
  show (0.0 : ℝ) = ((0 : ℤ) : ℝ)
  norm_num

variable (gamma : ℝ)

theorem factor_noUnits : u.factor .noUnits gamma = 1 := by
  rw [u.factor_eq_zpow .noUnits gamma toReal_none toReal_none toReal_none]
  simp only [zpow_zero, one_mul]

theorem factor_mass : u.factor .mass gamma = u.mass := by
  rw [u.factor_eq_zpow .mass gamma (m := 1) rfl toReal_none toReal_none]
  simp only [zpow_zero, zpow_one, mul_one]

theorem factor_length : u.factor .length gamma = u.length := by
  rw [u.factor_eq_zpow .length gamma (l := 1) toReal_none rfl toReal_none]
  simp only [zpow_zero, zpow_one, mul_one, one_mul]

theorem factor_speed : u.factor .speed gamma = u.speed := by
  rw [u.factor_eq_zpow .speed gamma (l := 1) (t := -1) toReal_none rfl rfl, speed, zpow_zero,
    zpow_one, zpow_neg_one]
  ring

theorem factor_energyPerUnitMass : u.factor .energyPerUnitMass gamma = u.potential := by
  rw [u.factor_eq_zpow .energyPerUnitMass gamma (l := 2) (t := -2) toReal_none rfl rfl,
    potential, zpow_zero, zpow_neg, zpow_ofNat, zpow_ofNat]
  ring

theorem factor_potential : u.factor .potential gamma = u.potential :=
  u.factor_energyPerUnitMass gamma

theorem factor_density : u.factor .density gamma = u.density := by
  rw [u.factor_eq_zpow .density gamma (m := 1) (l := -3) rfl rfl toReal_none, density,
    zpow_zero, zpow_one, zpow_neg, zpow_ofNat]
  ring

theorem factor_pressure : u.factor .pressure gamma = u.pressure := by
  rw [u.factor_eq_zpow .pressure gamma (m := 1) (l := -1) (t := -2) rfl rfl rfl, pressure,
    zpow_one, zpow_neg_one, zpow_neg, zpow_ofNat]
  ring

theorem factor_energy : u.factor .energy gamma = u.energy := by
  rw [u.factor_eq_zpow .energy gamma (m := 1) (l := 2) (t := -2) rfl rfl rfl, energy, zpow_one,
    zpow_neg, zpow_ofNat, zpow_ofNat]
  ring

theorem density_pos : 0 < u.density := div_pos u.mass_pos (pow_pos u.length_pos 3)

theorem factor_entropy : u.factor .entropy gamma = u.pressure / u.density ^ gamma := by
  have hm := u.mass_pos
  have hl := u.length_pos
  have ht := u.time_pos
  have hmass : u.mass ^ (1.0 - gamma) = u.mass / u.mass ^ gamma := by
    rw [Exact.one_eq, Real.rpow_sub hm, Real.rpow_one]
  have hlength : u.length ^ (3.0 * gamma - 1.0) = (u.length ^ 3) ^ gamma / u.length := by
    have hthree : (3.0 : ℝ) = (3 : ℕ) := by norm_num
    rw [Exact.one_eq, hthree, Real.rpow_sub hl, Real.rpow_one, Real.rpow_mul hl.le,
      Real.rpow_natCast]
  have htime : u.time ^ (-2.0 : ℝ) = (u.time ^ 2)⁻¹ := by
    have htwo : (-2.0 : ℝ) = -(2 : ℕ) := by norm_num
    rw [htwo, Real.rpow_neg ht.le, Real.rpow_natCast]
  show u.mass ^ (1.0 - gamma) * u.length ^ (3.0 * gamma - 1.0) * u.time ^ (-2.0 : ℝ) = _
  have hcube : 0 < (u.length ^ 3) ^ gamma := by positivity
  have hpower : 0 < u.mass ^ gamma := Real.rpow_pos_of_pos hm gamma
  rw [hmass, hlength, htime, pressure, density, Real.div_rpow hm.le (by positivity)]
  field_simp

/-! ## States in the new units -/

theorem map_fst_row (rows : List (Row ℝ ℝ)) :
    (rows.map u.row).map Prod.fst = (rows.map Prod.fst).map u.particle := by
  rw [List.map_map, List.map_map]
  rfl

theorem map_snd_row (rows : List (Row ℝ ℝ)) :
    (rows.map u.row).map Prod.snd = (rows.map Prod.snd).map u.state := by
  rw [List.map_map, List.map_map]
  rfl

end Rescaling

namespace Context

variable (u : Rescaling) {c : Context ℝ ℝ}

theorem Regular.rescaled (h : c.Regular) : (u.context c).Regular where
  tick_nonneg := h.tick_nonneg
  tick_le := h.tick_le
  dim_shape := h.dim_shape
  dim_pos := by
    intro hperiodic l' hl'
    obtain ⟨l, hl, rfl⟩ := List.mem_map.mp hl'
    have hpos := h.dim_pos hperiodic l hl
    norm_num at hpos ⊢
    exact mul_pos hpos u.length_pos

theorem Couples.rescaled {p : Particle ℝ ℝ} (h : c.Couples p) :
    (u.context c).Couples (u.particle p) := by
  intro gparts' hgparts' hne
  obtain ⟨gparts, hgparts, rfl⟩ := Option.map_eq_some_iff.mp hgparts'
  rw [List.length_map]
  exact h gparts hgparts fun hnil => hne (by rw [hnil, List.map_nil])

end Context

/-! ## Wrapping -/

namespace Box

variable {k : ℝ}

theorem wrap_rescaled (hk : 0 < k) (x length : ℝ) :
    wrap (x * k) (length * k) = wrap x length * k := by
  have hremainder : remainder (x * k) (length * k) = remainder x length * k := by
    rw [remainder, remainder, mul_div_mul_right x length hk.ne']
    ring
  have hlift : ∀ w : ℝ, liftNegative (w * k) (length * k) = liftNegative w length * k := by
    intro w
    have hneg : w * k < 0 ↔ w < 0 := by
      rw [← not_le, ← not_le, mul_nonneg_iff_of_pos_right hk]
    simp only [liftNegative, Exact.zero_eq, hneg, ite_mul, add_mul]
  have hlower : ∀ w : ℝ, lowerExcess (w * k) (length * k) = lowerExcess w length * k := by
    intro w
    have hle : length * k ≤ w * k ↔ length ≤ w := mul_le_mul_iff_left₀ hk
    simp only [lowerExcess, hle, ite_mul, sub_mul]
  have hinside : (0.0 ≤ x * k ∧ x * k < length * k) ↔ (0.0 ≤ x ∧ x < length) := by
    rw [Exact.zero_eq, mul_nonneg_iff_of_pos_right hk, mul_lt_mul_iff_left₀ hk]
  simp only [wrap, hinside, ite_mul, hremainder, hlift, hlower]

end Box

/-! ## The equation of state -/

namespace Particle

variable (u : Rescaling)

theorem specificEnergy_rescaled (gamma rho pressure : ℝ) :
    specificEnergy gamma (rho * u.density) (pressure * u.pressure)
      = specificEnergy gamma rho pressure * u.potential := by
  have hm := u.mass_pos
  have hl := u.length_pos
  have ht := u.time_pos
  have hpos : 0 < rho * u.density ↔ 0 < rho := mul_pos_iff_of_pos_right u.density_pos
  have hratio : u.pressure / u.density = u.potential := by
    rw [Rescaling.pressure, Rescaling.density, Rescaling.potential]
    field_simp
  simp only [specificEnergy, Exact.zero_eq, hpos, ite_mul, zero_mul]
  rw [← hratio, ← mul_assoc, mul_div_mul_comm]

theorem entropicFunction_rescaled (gamma rho pressure : ℝ) :
    entropicFunction gamma (rho * u.density) (pressure * u.pressure)
      = entropicFunction gamma rho pressure * u.factor .entropy gamma := by
  have hpos : 0 < rho * u.density ↔ 0 < rho := mul_pos_iff_of_pos_right u.density_pos
  simp only [entropicFunction, Exact.zero_eq, hpos, ite_mul, zero_mul]
  split
  next hrho =>
    have hpower : Transcendental.pow (rho * u.density) gamma
        = Transcendental.pow rho gamma * u.density ^ gamma :=
      Real.mul_rpow hrho.le u.density_pos.le
    rw [hpower, u.factor_entropy, mul_div_mul_comm]
  next => rfl

theorem kineticEnergy_rescaled (mass : ℝ) (momentum : Vec3 ℝ) :
    kineticEnergy (mass * u.mass) (momentum.map (· * u.momentum))
      = kineticEnergy mass momentum * u.energy := by
  have hm := u.mass_pos
  have hpos : 0 < mass * u.mass ↔ 0 < mass := mul_pos_iff_of_pos_right hm
  have hnorm : normSq (momentum.map (· * u.momentum)) = normSq momentum * u.momentum ^ 2 := by
    simp only [normSq, Vec3.sum, Vec3.map]
    ring
  have hratio : u.momentum ^ 2 / u.mass = u.energy := by
    rw [Rescaling.momentum, Rescaling.energy]
    field_simp
  simp only [kineticEnergy, Exact.zero_eq, hpos, ite_mul, zero_mul]
  rw [hnorm, ← hratio, ← mul_assoc, mul_div_mul_comm]

theorem totalEnergy_rescaled (conservedIsTotal : Bool) (p : Particle ℝ ℝ) :
    (u.particle p).totalEnergy conservedIsTotal = p.totalEnergy conservedIsTotal * u.energy := by
  have hkinetic := kineticEnergy_rescaled u p.conserved.mass p.conserved.momentum
  unfold totalEnergy
  split
  · rfl
  · show p.conserved.energy * u.energy
        + kineticEnergy (p.conserved.mass * u.mass) (p.conserved.momentum.map (· * u.momentum))
      = (p.conserved.energy + kineticEnergy p.conserved.mass p.conserved.momentum) * u.energy
    rw [hkinetic, add_mul]

end Particle

/-! ## Conversions -/

theorem Vec3.ofList?_map {α β : Type} (f : α → β) (xs : List α) :
    ofList? (xs.map f) = (ofList? xs).map (Vec3.map f) := by
  rcases xs with _ | ⟨x, _ | ⟨y, _ | ⟨z, _ | ⟨w, rest⟩⟩⟩⟩
  all_goals rfl

namespace Conversion

variable (u : Rescaling) (context : Context ℝ ℝ)

theorem positionOf_rescaled (p : Particle ℝ ℝ) :
    positionOf (u.context context) (u.particle p)
      = (positionOf context p).map (· * u.length) := by
  have hcells : (u.context context).dim.cells = context.dim.cells.map (· * u.length) := rfl
  have hlengths : (u.context context).lengths = context.lengths.map (· * u.length) := by
    simp only [Context.lengths, hcells, Vec3.ofList?_map]
    cases Vec3.ofList? context.dim.cells with
    | none =>
      show Vec3.replicate (0.0 : ℝ) = (Vec3.replicate 0.0).map (· * u.length)
      simp only [Vec3.replicate, Vec3.map]
      norm_num
    | some v => rfl
  have hperiodic : (u.context context).periodic = context.periodic := rfl
  have hx : (u.particle p).x = p.x.map (· * u.length) := rfl
  simp only [positionOf, hperiodic, hx, hlengths]
  split
  · simp only [Vec3.zipWith, Vec3.map, Box.wrap_rescaled u.length_pos]
  · rfl

/-- What a gravity particle holds is rescaled with it, and nothing stays nothing. -/
theorem valueAt_rescaled {α : Type} (value : GravityParticle ℝ ℝ → α) (zero : α)
    (scale : α → α) (hvalue : ∀ g, value (u.gravity g) = scale (value g))
    (hzero : scale zero = zero) (index : Tick) :
    Gravity.valueAt value zero (u.context context).gparts index
      = scale (Gravity.valueAt value zero context.gparts index) := by
  have hgparts : (u.context context).gparts.getD []
      = (context.gparts.getD []).map u.gravity := by
    show (context.gparts.map (List.map u.gravity)).getD [] = _
    cases context.gparts with
    | none => rfl
    | some gparts => rfl
  simp only [Gravity.valueAt, hgparts, List.getElem?_map]
  split
  · exact hzero.symm
  · cases (context.gparts.getD [])[index.toInt.toNat]? with
    | none => exact hzero.symm
    | some g => exact hvalue g

theorem potentialOf_rescaled (p : Particle ℝ ℝ) :
    potentialOf (u.context context) (u.particle p) = potentialOf context p * u.potential :=
  valueAt_rescaled u context GravityParticle.potential 0.0 (· * u.potential) (fun _ => rfl)
    (by norm_num) p.gpart

variable {context}

theorem kickFactor_rescaled (hk : context.cosmology = none) (kind : KickKind) (bin : Int8) :
    kickFactor (u.context context) kind bin = kickFactor context kind bin * u.time := by
  have hk' : (u.context context).cosmology = none := hk
  simp only [kickFactor, hk, hk', elapsed]
  exact (mul_assoc _ context.timeBase u.time).symm

/-- An acceleration times a time is a velocity. -/
theorem driftedOf_rescaled (hk : context.cosmology = none) (r : Row ℝ ℝ) :
    driftedOf (u.context context) (u.row r) = (driftedOf context r).map (· * u.speed) := by
  have hspeed : u.acceleration * u.time = u.speed := by
    have ht := u.time_pos
    rw [Rescaling.acceleration, Rescaling.speed]
    field_simp
  have hkick : ∀ (a : Vec3 ℝ) (k : ℝ), (a.map (· * u.acceleration)).map (· * (k * u.time))
      = (a.map (· * k)).map (· * u.speed) := by
    intro a k
    simp only [Vec3.map, ← hspeed]
    congr 1 <;> ring
  have hzero : (Vec3.replicate (0.0 : ℝ)).map (· * u.acceleration) = .replicate 0.0 := by
    simp only [Vec3.replicate, Vec3.map]
    norm_num
  have hgravity := valueAt_rescaled u context
    (fun g => (Particle.widenVec g.aGrav : Vec3 ℝ)) (.replicate 0.0)
    (Vec3.map (· * u.acceleration)) (fun _ => rfl) hzero r.1.gpart
  have hhydro : (Particle.widenVec (u.row r).1.aHydro : Vec3 ℝ)
      = (Particle.widenVec r.1.aHydro).map (· * u.acceleration) := rfl
  have hvelocity : (Particle.widenVec (u.row r).2.vFull : Vec3 ℝ)
      = (Particle.widenVec r.2.vFull).map (· * u.speed) := rfl
  have hbin : (u.row r).1.timeBin = r.1.timeBin := rfl
  have hindex : (u.row r).1.gpart = r.1.gpart := rfl
  simp only [driftedOf, hbin, hindex, hgravity, hhydro, hvelocity, kickFactor_rescaled u hk,
    hkick]
  simp only [Vec3.zipWith, Vec3.map, add_mul]

theorem velocityOf_rescaled (hk : context.cosmology = none) (r : Row ℝ ℝ) :
    velocityOf (u.context context) (u.row r) = (velocityOf context r).map (· * u.speed) := by
  have hk' : (u.context context).cosmology = none := hk
  simp only [velocityOf, hk, hk']
  exact driftedOf_rescaled u hk r

end Conversion

/-! ## Fields -/

/-- An array holds the numbers of another one times a factor. -/
structure NumericArray.IsMultipleOf (b a : NumericArray ℝ ℝ) (factor : ℝ) : Prop where
  type : b.type = a.type
  shape : b.cells.shape = a.cells.shape
  cells : b.cells.cells.map Cell.toDouble = a.cells.cells.map fun c => c.toDouble * factor

namespace FieldDescriptor

variable (u : Rescaling) {context : Context ℝ ℝ} {f : FieldDescriptor}

theorem cellsOf_rescaled (hk : context.cosmology = none) (hf : f ∈ writeRegistry)
    (r : Row ℝ ℝ) :
    (f.cellsOf (u.context context) (u.row r)).map Cell.toDouble
      = (f.cellsOf context r).map fun c => c.toDouble * u.factor f.units context.scheme.gamma := by
  simp only [writeRegistry, List.mem_cons, List.not_mem_nil, or_false] at hf
  set gamma := context.scheme.gamma with hgamma
  rcases hf with rfl | rfl | rfl | rfl | rfl | rfl | rfl | rfl | rfl | rfl | rfl
  · show (Conversion.positionOf (u.context context) (u.particle r.1)).toList
      = (Conversion.positionOf context r.1).toList.map (· * u.factor .length gamma)
    rw [Conversion.positionOf_rescaled, u.factor_length]
    rfl
  · show (Conversion.velocityOf (u.context context) (u.row r)).toList
      = (Conversion.velocityOf context r).toList.map (· * u.factor .speed gamma)
    rw [Conversion.velocityOf_rescaled u hk, u.factor_speed]
    rfl
  · show [r.1.conserved.mass * u.mass] = [r.1.conserved.mass * u.factor .mass gamma]
    rw [u.factor_mass]
  · show [r.1.h * u.length] = [r.1.h * u.factor .length gamma]
    rw [u.factor_length]
  · show [Particle.specificEnergy gamma (r.1.primitives.rho * u.density)
        (r.1.primitives.pressure * u.pressure)]
      = [Particle.specificEnergy gamma r.1.primitives.rho r.1.primitives.pressure
          * u.factor .energyPerUnitMass gamma]
    rw [Particle.specificEnergy_rescaled, u.factor_energyPerUnitMass]
  · show [((r.1.id.toNat : ℤ) : ℝ)] = [((r.1.id.toNat : ℤ) : ℝ) * u.factor .noUnits gamma]
    rw [u.factor_noUnits, mul_one]
  · show [r.1.primitives.rho * u.density] = [r.1.primitives.rho * u.factor .density gamma]
    rw [u.factor_density]
  · show [Particle.entropicFunction gamma (r.1.primitives.rho * u.density)
        (r.1.primitives.pressure * u.pressure)]
      = [Particle.entropicFunction gamma r.1.primitives.rho r.1.primitives.pressure
          * u.factor .entropy gamma]
    rw [Particle.entropicFunction_rescaled]
  · show [r.1.primitives.pressure * u.pressure]
      = [r.1.primitives.pressure * u.factor .pressure gamma]
    rw [u.factor_pressure]
  · show [(u.particle r.1).totalEnergy context.scheme.totalEnergy]
      = [r.1.totalEnergy context.scheme.totalEnergy * u.factor .energy gamma]
    rw [Particle.totalEnergy_rescaled, u.factor_energy]
  · show [Conversion.potentialOf (u.context context) (u.particle r.1)]
      = [Conversion.potentialOf context r.1 * u.factor .potential gamma]
    rw [Conversion.potentialOf_rescaled, u.factor_potential]

/-- The numbers of every written field are those in the old units times the powers of the
change of units that the tag of the field lists. -/
theorem extract_rescaled (hr : context.Regular) (hk : context.cosmology = none)
    {parts : List (Particle ℝ ℝ)} {xparts : List (ExtendedState ℝ)}
    (hlength : parts.length = xparts.length) (hcouple : ∀ p ∈ parts, context.Couples p)
    (hf : f ∈ writeRegistry) :
    ∃ a b, f.extract (some context) parts xparts = .ok a ∧
      f.extract (some (u.context context)) (parts.map u.particle) (xparts.map u.state) = .ok b ∧
      b.IsMultipleOf a (u.factor f.units context.scheme.gamma) := by
  have hparts : (parts.zip xparts).map Prod.fst = parts :=
    List.map_fst_zip hlength.le
  have hstates : (parts.zip xparts).map Prod.snd = xparts :=
    List.map_snd_zip hlength.ge
  have hcouples : ∀ r ∈ parts.zip xparts, context.Couples r.1 := by
    intro r hrow
    exact hcouple r.1 (hparts ▸ List.mem_map_of_mem hrow)
  have hcouples' : ∀ r ∈ (parts.zip xparts).map u.row, (u.context context).Couples r.1 := by
    intro r' hrow'
    obtain ⟨r, hrow, rfl⟩ := List.mem_map.mp hrow'
    exact Context.Couples.rescaled u (hcouples r hrow)
  obtain ⟨h, hextract⟩ := (givesRows_writeRegistry hr hcouples hf).extract
  obtain ⟨h', hextract'⟩ := (givesRows_writeRegistry (hr.rescaled u) hcouples' hf).extract
  rw [hparts, hstates] at hextract
  rw [u.map_fst_row, u.map_snd_row, hparts, hstates] at hextract'
  refine ⟨_, _, hextract, hextract', rfl, ?_, ?_⟩
  · simp only [Tensor.shape_rows, List.length_map]
  · simp only [Tensor.cells_rows, List.flatMap_map, List.map_flatMap, cellsOf_rescaled u hk hf]

/-- The velocities of the sample of two particles, in units of which a length has three times
and a time five times the number. -/
theorem extract_rescaled_sample :
    ∃ (u : Rescaling) (f : FieldDescriptor) (a b : NumericArray ℝ ℝ), f ∈ writeRegistry ∧
      f.name = "Velocities" ∧ u.mass = 2 ∧ u.length = 3 ∧ u.time = 5 ∧
      f.extract (some Snapshot.sampleContext) Snapshot.sampleContents.gas.parts
        Snapshot.sampleContents.gas.xparts = .ok a ∧
      f.extract (some (u.context Snapshot.sampleContext))
        (Snapshot.sampleContents.gas.parts.map u.particle)
        (Snapshot.sampleContents.gas.xparts.map u.state) = .ok b ∧
      b.IsMultipleOf a (3 / 5) := by
  let u : Rescaling := ⟨2, 3, 5, by norm_num, by norm_num, by norm_num⟩
  obtain ⟨f, hf, hname, hunits⟩ :
      ∃ f ∈ writeRegistry, f.name = "Velocities" ∧ f.units = .speed :=
    ⟨writeRegistry[1], List.getElem_mem _, rfl, rfl⟩
  have hlength : Snapshot.sampleContents.gas.parts.length
      = Snapshot.sampleContents.gas.xparts.length := rfl
  obtain ⟨a, b, ha, hb, hmultiple⟩ := extract_rescaled u
    Snapshot.sampleContents_admissible.regular rfl hlength
    Snapshot.sampleContents_admissible.couples hf
  rw [hunits, u.factor_speed] at hmultiple
  exact ⟨u, f, a, b, hf, hname, rfl, rfl, rfl, ha, hb, hmultiple⟩

end FieldDescriptor

end MeshlessGas
