/-
The first initialisation — what converters make of particles that went through it.

Until then the conserved energy is a specific one.  The initialisation reads it before it is
overwritten: once for the energy of the particle, to which the kinetic energy of the velocity
is added or not, and once for the pressure.  The converter adds the kinetic energy of the
momentum exactly where the initialisation did not, and both are the same, without mass as
well.  Internal energy and entropy undo what was done to the pressure.
-/
import MeshlessGas.Proofs.Energies
import MeshlessGas.Proofs.EquationOfState

namespace MeshlessGas

open Conversion (Row)

/-! ## One particle -/

namespace Particle

variable {p : Particle ℝ ℝ} {gamma : ℝ}

theorem normSq_eq (v : Vec3 ℝ) : normSq v = v.x ^ 2 + v.y ^ 2 + v.z ^ 2 := by
  simp only [normSq, Vec3.sum, Vec3.map]
  ring

theorem internalEnergy_of_no_density (h : ¬ 0 < p.primitives.rho) :
    p.internalEnergy gamma = 0 :=
  (Conversion.specificEnergy_eq gamma _ _).trans (if_neg h)

theorem entropy_of_no_density (h : ¬ 0 < p.primitives.rho) : p.entropy gamma = 0 := by
  show entropicFunction gamma p.primitives.rho p.primitives.pressure = 0
  rw [entropicFunction, Exact.zero_eq, if_neg h]

theorem entropy_mul_pow (h : 0 < p.primitives.rho) :
    p.entropy gamma * p.primitives.rho ^ gamma = p.primitives.pressure := by
  have hpower : p.primitives.rho ^ gamma ≠ 0 := (Real.rpow_pos_of_pos h gamma).ne'
  show entropicFunction gamma p.primitives.rho p.primitives.pressure * _ = _
  rw [Conversion.entropicFunction_of_pos h, div_mul_cancel₀ _ hpower]

end Particle

/-! ## Rows before and after -/

/-- A row before and after the first initialisation. -/
structure Change where
  before : Row ℝ ℝ
  after : Row ℝ ℝ

namespace Change

noncomputable def ofRow (gamma : ℝ) (conservedIsTotal : Bool) (r : Row ℝ ℝ) : Change :=
  ⟨r, r.1.firstInit gamma conservedIsTotal, Particle.firstInitExtended r.1 r.2⟩

def mass (c : Change) : ℝ := c.before.1.conserved.mass

def specific (c : Change) : ℝ := c.before.1.conserved.energy

def density (c : Change) : ℝ := c.before.1.primitives.rho

noncomputable def kinetic (c : Change) : ℝ :=
  0.5 * c.mass * (c.before.1.v.x ^ 2 + c.before.1.v.y ^ 2 + c.before.1.v.z ^ 2)

/-- What the first initialisation sets, and what it leaves alone. -/
structure IsFirstInit (gamma : ℝ) (conservedIsTotal : Bool) (c : Change) : Prop where
  momentum : c.after.1.conserved.momentum = c.before.1.v.map (c.mass * ·)
  energy : c.after.1.conserved.energy
    = if conservedIsTotal then c.mass * c.specific + c.kinetic else c.mass * c.specific
  primitiveV : c.after.1.primitives.v = c.before.1.v
  vFull : c.after.2.vFull = c.before.1.v
  pressure : 0 < c.density →
    c.after.1.primitives.pressure = (gamma - 1) * c.density * c.specific
  pressure_kept : c.density ≤ 0 →
    c.after.1.primitives.pressure = c.before.1.primitives.pressure
  id : c.after.1.id = c.before.1.id
  gpart : c.after.1.gpart = c.before.1.gpart
  x : c.after.1.x = c.before.1.x
  v : c.after.1.v = c.before.1.v
  aHydro : c.after.1.aHydro = c.before.1.aHydro
  h : c.after.1.h = c.before.1.h
  timeBin : c.after.1.timeBin = c.before.1.timeBin
  mass_kept : c.after.1.conserved.mass = c.before.1.conserved.mass
  rho : c.after.1.primitives.rho = c.before.1.primitives.rho
  xDiff : c.after.2.xDiff = c.before.2.xDiff

variable {gamma : ℝ} (conservedIsTotal : Bool) {r : Row ℝ ℝ}

theorem isFirstInit_ofRow :
    (ofRow gamma conservedIsTotal r).IsFirstInit gamma conservedIsTotal where
  momentum := rfl
  energy := by
    have hset : (ofRow gamma conservedIsTotal r).after.1.conserved.energy
        = if conservedIsTotal then r.1.conserved.mass * r.1.conserved.energy
            + 0.5 * r.1.conserved.mass * Particle.normSq r.1.v
          else r.1.conserved.mass * r.1.conserved.energy := rfl
    rw [hset, Particle.normSq_eq]
    rfl
  primitiveV := rfl
  vFull := rfl
  pressure := fun hrho => (Particle.pressure_firstInit gamma conservedIsTotal).trans (if_pos hrho)
  pressure_kept := fun hrho =>
    (Particle.pressure_firstInit gamma conservedIsTotal).trans (if_neg (not_lt.mpr hrho))
  id := rfl
  gpart := rfl
  x := rfl
  v := rfl
  aHydro := rfl
  h := rfl
  timeBin := rfl
  mass_kept := rfl
  rho := rfl
  xDiff := rfl

/-- With the energy counted either way the converter gives all of it. -/
theorem totalEnergy_ofRow (hmass : 0 ≤ r.1.conserved.mass) :
    (ofRow gamma conservedIsTotal r).after.1.totalEnergy conservedIsTotal
      = r.1.conserved.mass * r.1.conserved.energy
        + (ofRow gamma conservedIsTotal r).kinetic := by
  have htotal : (ofRow gamma conservedIsTotal r).after.1.totalEnergy conservedIsTotal = _ :=
    Particle.totalEnergy_firstInit gamma conservedIsTotal hmass
  have hkinetic : (ofRow gamma conservedIsTotal r).kinetic
      = 0.5 * r.1.conserved.mass * (r.1.v.x ^ 2 + r.1.v.y ^ 2 + r.1.v.z ^ 2) := rfl
  rw [htotal, hkinetic, Particle.normSq_eq]
  ring

theorem internalEnergy_ofRow (hgamma : 1 < gamma) :
    (ofRow gamma conservedIsTotal r).after.1.internalEnergy gamma
      = if 0 < r.1.primitives.rho then r.1.conserved.energy else 0 := by
  split
  next hrho => exact Particle.internalEnergy_firstInit conservedIsTotal hgamma hrho
  next hrho => exact Particle.internalEnergy_of_no_density hrho

end Change

/-! ## What converters give -/

namespace Conversion

/-- Converters give back what was read: the energy of heat and motion, the specific energy, and
by the entropy the pressure.  Without density there is no specific energy and no entropy. -/
structure GivesBack (gamma : ℝ) (context : Context ℝ ℝ) (t : Tensor Change) : Prop where
  totalEnergy : convert .totalEnergy context (t.map (·.after.1)) (t.map (·.after.2))
    = .ok (numbers (t.map fun c => c.mass * c.specific + c.kinetic))
  internalEnergy : convert .internalEnergy context (t.map (·.after.1)) (t.map (·.after.2))
    = .ok (numbers (t.map fun c => if 0 < c.density then c.specific else 0))
  entropy : ∃ entropy : Change → ℝ,
    convert .entropy context (t.map (·.after.1)) (t.map (·.after.2))
      = .ok (numbers (t.map entropy)) ∧
    ∀ c ∈ t.cells,
      (0 < c.density → entropy c * c.density ^ gamma = c.after.1.primitives.pressure) ∧
      (c.density ≤ 0 → entropy c = 0)

variable {gamma : ℝ} {context : Context ℝ ℝ} {t : Tensor Change}

theorem givesBack_of_ofRow (hgamma : 1 < gamma) (hscheme : context.scheme.gamma = gamma)
    (h : ∀ c ∈ t.cells, ∃ r : Row ℝ ℝ, 0 ≤ r.1.conserved.mass ∧
      c = Change.ofRow gamma context.scheme.totalEnergy r) : GivesBack gamma context t where
  totalEnergy := by
    have henergy : ∀ c ∈ t.cells, c.after.1.totalEnergy context.scheme.totalEnergy
        = c.mass * c.specific + c.kinetic := by
      intro c hc
      obtain ⟨r, hmass, rfl⟩ := h c hc
      exact Change.totalEnergy_ofRow _ hmass
    rw [convert, Tensor.map_map, ← Tensor.map_congr henergy]
  internalEnergy := by
    have henergy : ∀ c ∈ t.cells, c.after.1.internalEnergy context.scheme.gamma
        = if 0 < c.density then c.specific else 0 := by
      intro c hc
      obtain ⟨r, -, rfl⟩ := h c hc
      rw [hscheme]
      exact Change.internalEnergy_ofRow _ hgamma
    rw [convert, Tensor.map_map, ← Tensor.map_congr henergy]
  entropy := by
    refine ⟨fun c => c.after.1.entropy gamma, ?_, fun c hc => ?_⟩
    · rw [convert, Tensor.map_map, hscheme]
    · obtain ⟨r, -, rfl⟩ := h c hc
      exact ⟨fun hrho => Particle.entropy_mul_pow hrho,
        fun hrho => Particle.entropy_of_no_density (not_lt.mpr hrho)⟩

end Conversion

namespace Gas

variable {g : Gas ℝ ℝ} {gamma : ℝ}

def changes (g g' : Gas ℝ ℝ) : List Change := List.zipWith Change.mk g.rows g'.rows

theorem map_changes {g' : Gas ℝ ℝ} (h : g'.rows.length = g.rows.length) :
    (changes g g').map Change.before = g.rows ∧ (changes g g').map Change.after = g'.rows := by
  rw [changes, List.map_zipWith, List.map_zipWith]
  constructor
  · exact List.ext_getElem (by simp [h]) fun i _ _ => by simp
  · exact List.ext_getElem (by simp [h]) fun i _ _ => by simp

theorem exists_initialise (hg : g.IsRows) (gamma : ℝ) (conservedIsTotal : Bool) :
    ∃ g' : Gas ℝ ℝ, g.initialise (.ok gamma) conservedIsTotal = (.ok (), g') ∧ g'.IsRows ∧
      g'.rows.length = g.rows.length ∧
      changes g g' = g.rows.map (Change.ofRow gamma conservedIsTotal) := by
  refine ⟨_, ?_, isRows_ofRows (fun r : Row ℝ ℝ => r.1.firstInit gamma conservedIsTotal)
    (fun r => Particle.firstInitExtended r.1 r.2) g.rows, ?_, ?_⟩
  · -- A gas of rows is made of its own rows.
    rw [← firstInit_ofRows Prod.fst Prod.snd g.rows, ← initialise_ofRows, hg.ofRows_rows]
  · rw [rows_ofRows, List.length_map]
  · rw [changes, rows_ofRows, List.zipWith_map_right, List.zipWith_self]
    rfl

/-- After the first initialisation of particles without negative masses, with the conserved
energy counted either way, the converters of that scheme give back what was read, for all
particles and for any of them. -/
theorem convert_of_initialise (hg : g.IsRows) (hgamma : 1 < gamma)
    (hmass : ∀ p ∈ g.parts, 0 ≤ p.conserved.mass) (conservedIsTotal : Bool) :
    ∃ g' : Gas ℝ ℝ, g.initialise (.ok gamma) conservedIsTotal = (.ok (), g') ∧ g'.IsRows ∧
      g'.rows.length = g.rows.length ∧
      (∀ c ∈ changes g g', c.IsFirstInit gamma conservedIsTotal) ∧
      ∀ context : Context ℝ ℝ, context.scheme.gamma = gamma →
        context.scheme.totalEnergy = conservedIsTotal →
        ∀ t : Tensor Change, (∀ c ∈ t.cells, c ∈ changes g g') →
          Conversion.GivesBack gamma context t := by
  obtain ⟨g', hinit, hrows, hlength, hchanges⟩ := exists_initialise hg gamma conservedIsTotal
  refine ⟨g', hinit, hrows, hlength, fun c hc => ?_, fun context hscheme htotal t ht => ?_⟩
  · rw [hchanges] at hc
    obtain ⟨r, -, rfl⟩ := List.mem_map.mp hc
    exact Change.isFirstInit_ofRow conservedIsTotal
  · refine Conversion.givesBack_of_ofRow hgamma hscheme fun c hc => ?_
    have hchange := ht c hc
    rw [hchanges] at hchange
    obtain ⟨r, hr, rfl⟩ := List.mem_map.mp hchange
    exact ⟨r, forall_rows hmass r hr, by rw [htotal]⟩

/-! ### A warm particle beside an empty one -/

noncomputable def warmAndEmpty : Gas ℝ ℝ where
  parts := [Snapshot.warmParticle, .zero]
  xparts := [.zero, .zero]

noncomputable def totalEnergyContext : Context ℝ ℝ :=
  { Snapshot.sampleContext with
    scheme := { (Scheme.standard : Scheme ℝ) with gamma := 2.0, totalEnergy := true } }

theorem mass_nonneg_warmAndEmpty : ∀ p ∈ warmAndEmpty.parts, 0 ≤ p.conserved.mass := by
  intro p hp
  obtain rfl | hp := List.mem_cons.mp hp
  · norm_num [Snapshot.warmParticle]
  · obtain rfl := List.mem_singleton.mp hp
    norm_num [Particle.zero]

/-- Of a particle of mass 2, unit specific energy and speed 2, the energy 6 is given back, and
none of an empty one. -/
theorem convert_of_initialise_warm :
    (∀ p ∈ warmAndEmpty.parts, 0 ≤ p.conserved.mass) ∧ ∃ g' : Gas ℝ ℝ,
      warmAndEmpty.initialise (.ok 2.0) true = (.ok (), g') ∧
      Conversion.convert .totalEnergy totalEnergyContext (.vector g'.parts) (.vector g'.xparts)
        = .ok (.singles (.vector [6, 0])) := by
  have hrows : warmAndEmpty.IsRows := ⟨rfl, rfl⟩
  obtain ⟨g', hinit, hrows', hlength, -, hgives⟩ := convert_of_initialise hrows
    (show (1 : ℝ) < 2.0 by norm_num) mass_nonneg_warmAndEmpty true
  obtain ⟨hbefore, hafter⟩ := map_changes hlength
  have hback := (hgives totalEnergyContext rfl rfl (.vector (changes warmAndEmpty g'))
    fun c hc => hc).totalEnergy
  have hparts : (Tensor.vector (changes warmAndEmpty g')).map (·.after.1) = .vector g'.parts := by
    rw [← hrows'.map_fst_rows, ← hafter, List.map_map, Tensor.map_vector]
    rfl
  have hstates : (Tensor.vector (changes warmAndEmpty g')).map (·.after.2)
      = .vector g'.xparts := by
    rw [← hrows'.map_snd_rows, ← hafter, List.map_map, Tensor.map_vector]
    rfl
  have henergies : (changes warmAndEmpty g').map (fun c => c.mass * c.specific + c.kinetic)
      = [6, 0] := by
    have hread : (changes warmAndEmpty g').map (fun c => c.mass * c.specific + c.kinetic)
        = warmAndEmpty.rows.map fun r => r.1.conserved.mass * r.1.conserved.energy
          + 0.5 * r.1.conserved.mass * (r.1.v.x ^ 2 + r.1.v.y ^ 2 + r.1.v.z ^ 2) := by
      rw [← hbefore, List.map_map]
      rfl
    rw [hread]
    norm_num [rows, warmAndEmpty, Snapshot.warmParticle, Particle.zero, Vec3.replicate]
  rw [hparts, hstates, Tensor.map_vector, henergies] at hback
  exact ⟨mass_nonneg_warmAndEmpty, g', hinit, hback⟩

end Gas

end MeshlessGas
