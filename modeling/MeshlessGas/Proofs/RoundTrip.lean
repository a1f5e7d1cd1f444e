/-
The round trip of snapshots — what is read from a file that was just written.

The particles come back in their order, with their identifiers, masses, smoothing lengths and
densities as they were, at their positions in the box, and with the velocities that were
written; no number of them is rounded again.  Momenta, energies and pressures are made anew,
and over the reals they are those of the particles that were written.
-/
import MeshlessGas.Proofs.ClosestUnits
import MeshlessGas.Proofs.Reading
import MeshlessGas.Proofs.Rounded

namespace MeshlessGas

open Conversion (Row)

/-! ## What comes back in every number system -/

/-- Storage that gives back what was stored: a narrow number is not changed by widening. -/
class LawfulNarrowing (D : Type) (S : outParam Type) [Narrowing D S] : Prop where
  narrow_widen : ∀ x : S, (Narrowing.narrow (Narrowing.widen x : D) : S) = x

instance : LawfulNarrowing ℝ ℝ := ⟨fun _ => rfl⟩

instance : LawfulNarrowing Double Single where
  narrow_widen x := by
    show Rounded.round binary32 (Narrowing.widen x : Double).toReal = x
    rw [Single.toReal_widen, Rounded.round_toReal]

section Stored

variable {D S : Type}

/-- What a snapshot keeps of a particle: all that it stores of it is as it was, and the
position lies in the box. -/
structure Context.Keeps [Arithmetic D] (context : Context D S) (p q : Particle D S) : Prop where
  id : q.id = p.id
  mass : q.conserved.mass = p.conserved.mass
  h : q.h = p.h
  rho : q.primitives.rho = p.primitives.rho
  x : q.x = if context.periodic then p.x.zipWith Box.wrap context.lengths else p.x

/-- All velocities of a gas, of its particles and of their states, are those of a list. -/
structure Gas.MovesWith (g : Gas D S) (velocities : List (Vec3 S)) : Prop where
  v : g.parts.map Particle.v = velocities
  primitives : (g.parts.map fun p => p.primitives.v) = velocities
  states : g.xparts.map ExtendedState.vFull = velocities

theorem Gas.IsRows.forall₂_rows {α : Type} {R : Particle D S → α → Prop} {f : Row D S → α}
    {g : Gas D S} (hg : g.IsRows) (h : ∀ r ∈ g.rows, R r.1 (f r)) :
    List.Forall₂ R g.parts (g.rows.map f) := by
  rw [← hg.map_fst_rows, List.forall₂_map_left_iff, List.forall₂_map_right_iff, List.forall₂_same]
  exact h

theorem narrowVec_widenVec [Narrowing D S] [LawfulNarrowing D S] (v : Vec3 S) :
    Particle.narrowVec (Particle.widenVec (D := D) v) = v := by
  obtain ⟨x, y, z⟩ := v
  simp only [Particle.narrowVec, Particle.widenVec, Vec3.map, LawfulNarrowing.narrow_widen]

variable [Transcendental D] [Arithmetic S] [Narrowing D S]

namespace Conversion

theorem keeps_restoredOf (context : Context D S) (r : Row D S) :
    context.Keeps r.1 (restoredOf context r) :=
  ⟨rfl, rfl, rfl, rfl, rfl⟩

theorem movesWith_restored [LawfulNarrowing D S] (context : Context D S)
    (rows : List (Row D S)) :
    (Gas.ofRows (restoredOf context) (restoredState context) rows).MovesWith
      (rows.map (velocityOf context)) := by
  refine ⟨?_, ?_, ?_⟩
  · simp only [Gas.ofRows, List.map_map]
    rfl
  · simp only [Gas.ofRows, List.map_map]
    refine List.map_congr_left fun r _ => ?_
    exact narrowVec_widenVec (D := D) (velocityOf context r)
  · simp only [Gas.ofRows, List.map_map]
    rfl

end Conversion

end Stored

/-! ## Contents that can be written -/

def Value.IsNumber {D : Type} : Value D → Prop
  | .bool _ | .int _ | .real _ => True
  | _ => False

/-- The options of properties that are stored are numbers. -/
structure SchemeProperties.IsNumeric {D : Type} (p : SchemeProperties D) : Prop where
  eta : p.derived.eta.IsNumber
  deltaNeighbours : p.derived.deltaNeighbours.IsNumber
  courant : p.courant.IsNumber

namespace SchemeProperties

section Stored

variable {D S : Type} [Transcendental D] [Numeral D] [Arithmetic S] [Narrowing D S]

theorem exists_storedSingle {v : Value D} {x : D}
    (hv : (Value.list [v]).tensor maxRank = .ok (.vector [v])) (hx : v.storedReal = .ok x) :
    ∃ a : Attribute D S, storedSingle v = .ok a := by
  have hcells : (Tensor.vector [v]).mapM (Value.store .float32)
      = .ok ((Tensor.vector [v]).map fun _ => (Cell.double x : Cell D S).cast .float32) := by
    refine Tensor.mapM_of_forall_ok fun w hw => ?_
    obtain rfl := List.mem_singleton.mp hw
    simp only [Value.store, hx, Result.ok_bind]
    rfl
  simp only [storedSingle, NumericArray.store, hv, hcells, Result.ok_bind, Result.pure_eq]
  exact ⟨_, rfl⟩

theorem exists_attributes {p : SchemeProperties D}
    (hdelta : ∃ a : Attribute D S, storedSingle p.derived.deltaNeighbours = .ok a)
    (heta : ∃ a : Attribute D S, storedSingle p.derived.eta = .ok a)
    (hcourant : ∃ a : Attribute D S, storedSingle p.courant = .ok a)
    (hiterations : ∃ a : Attribute D S, storedSingle (.int p.derived.maxIterations) = .ok a) :
    ∃ attributes : List (String × Attribute D S), p.attributes = .ok attributes := by
  obtain ⟨delta, hdelta⟩ := hdelta
  obtain ⟨eta, heta⟩ := heta
  obtain ⟨courant, hcourant⟩ := hcourant
  obtain ⟨iterations, hiterations⟩ := hiterations
  simp only [attributes, hdelta, heta, hcourant, hiterations, Result.ok_bind]
  exact ⟨_, rfl⟩

end Stored

theorem IsNumeric.exists_attributes {p : SchemeProperties ℝ} (h : p.IsNumeric) :
    ∃ attributes : List (String × Attribute ℝ ℝ), p.attributes = .ok attributes := by
  have hstored : ∀ v : Value ℝ, v.IsNumber →
      ∃ a : Attribute ℝ ℝ, storedSingle v = .ok a := by
    intro v hv
    cases v with
    | bool b => exact exists_storedSingle rfl rfl
    | int n => exact exists_storedSingle rfl rfl
    | real x => exact exists_storedSingle rfl rfl
    | none | text | list | dict => exact absurd hv id
  exact SchemeProperties.exists_attributes (hstored _ h.deltaNeighbours) (hstored _ h.eta)
    (hstored _ h.courant) (hstored (.int p.derived.maxIterations) trivial)

end SchemeProperties

namespace Snapshot.Contents

/-- Contents that a run may write: a gas of one axis whose records fit into an array, in a
regular context with its gravity particles, with numbers as properties, in positive units. -/
structure Admissible (c : Contents ℝ ℝ) : Prop where
  gas : c.gas.IsRows
  fits : c.gas.parts.length * (Particle.layout : Layout (Particle ℝ ℝ) ℝ ℝ _).bytes
    ≤ Layout.maxBytes
  regular : c.context.Regular
  couples : ∀ p ∈ c.gas.parts, c.context.Couples p
  units : c.units.Positive
  properties : c.properties.IsNumeric
  parameters : c.StorableParameters
  /-- A scheme is not made for any other gas. -/
  gamma : 1 < c.context.scheme.gamma
  /-- The expansion begins at a positive scale factor. -/
  scaleFactor : ∀ k ∈ c.context.cosmology, 0 < k.epoch.a

variable {c : Contents ℝ ℝ}

theorem Admissible.a_pos (hc : c.Admissible) : 0 < c.context.a := by
  cases hk : c.context.cosmology with
  | none =>
    simp only [Context.a, hk]
    norm_num
  | some k =>
    simp only [Context.a, hk]
    exact hc.scaleFactor k hk

/-- Admissible contents are written under every name that can be written. -/
theorem Admissible.exists_write (hc : c.Admissible) {files : Directory ℝ ℝ} {file : String}
    (hfile : files.Writable file) : ∃ files', write files file c = (.ok (), files') := by
  have htime : ∃ time, c.context.time = .ok time := by
    cases hk : c.context.cosmology with
    | none =>
      simp only [Context.time, hk]
      exact ⟨_, rfl⟩
    | some k =>
      simp only [Context.time, hk]
      exact ⟨_, rfl⟩
  refine Snapshot.exists_write hfile hc.gas hc.regular hc.couples hc.parameters htime
    hc.properties.exists_attributes fun f hf => ?_
  exact FieldDescriptor.exists_attributes (FieldDescriptor.isPlain_writeRegistry hf) hc.units
    hc.a_pos c.context.scheme.gamma

end Snapshot.Contents

/-! ## Conserved quantities over the reals -/

/-- A particle that was made ready to run out of what is stored of another: its momentum and
its energy follow from the mass, the velocity and the internal energy, and its pressure is
that of the other where there is density. -/
structure Particle.Restores (gamma : ℝ) (conservedIsTotal : Bool) (p q : Particle ℝ ℝ) :
    Prop where
  momentum : q.conserved.momentum = q.v.map fun x => p.conserved.mass * x
  energy : q.conserved.energy
    = p.conserved.mass * (if 0 < p.primitives.rho
        then p.primitives.pressure / ((gamma - 1) * p.primitives.rho) else 0)
      + if conservedIsTotal then p.conserved.mass * normSq q.v / 2 else 0
  pressure : q.primitives.pressure = if 0 < p.primitives.rho then p.primitives.pressure else 0

namespace Conversion

theorem specificEnergy_eq (gamma rho pressure : ℝ) :
    Particle.specificEnergy gamma rho pressure
      = if 0 < rho then pressure / ((gamma - 1) * rho) else 0 := by
  unfold Particle.specificEnergy
  norm_num

/-- Over the reals the conserved quantities of a restored particle are exact. -/
theorem restores_restoredOf {context : Context ℝ ℝ} (hgamma : 1 < context.scheme.gamma)
    (r : Row ℝ ℝ) :
    r.1.Restores context.scheme.gamma context.scheme.totalEnergy (restoredOf context r) := by
  have hspecific : r.1.internalEnergy context.scheme.gamma
      = Particle.specificEnergy context.scheme.gamma r.1.primitives.rho
          r.1.primitives.pressure := rfl
  constructor
  · rfl
  · rw [← specificEnergy_eq, ← hspecific]
    show (if context.scheme.totalEnergy then r.1.conserved.mass
          * r.1.internalEnergy context.scheme.gamma
          + 0.5 * r.1.conserved.mass * Particle.normSq (velocityOf context r)
        else r.1.conserved.mass * r.1.internalEnergy context.scheme.gamma) = _
    have hv : (restoredOf context r).v = velocityOf context r := rfl
    rw [hv]
    split
    · ring
    · ring
  · show (if (0.0 : ℝ) < r.1.primitives.rho then (context.scheme.gamma - 1.0)
          * r.1.primitives.rho * r.1.internalEnergy context.scheme.gamma else (0.0 : ℝ)) = _
    rw [Exact.zero_eq, Exact.one_eq]
    split
    next hrho =>
      have hdiff : context.scheme.gamma - 1 ≠ 0 := by linarith
      rw [hspecific, specificEnergy_eq, if_pos hrho]
      field_simp
    next => rfl

end Conversion

/-! ## The round trip -/

namespace Snapshot

/-- A gas that comes back from contents in some number system: the particles in their order
with what a snapshot keeps of them, and with the velocities that are converted for it. -/
structure Contents.ReturnsAs {D S : Type} [Transcendental D] [Arithmetic S] [Narrowing D S]
    (c : Contents D S) (gas : Gas D S) : Prop where
  rows : gas.IsRows
  parts : List.Forall₂ c.context.Keeps c.gas.parts gas.parts
  velocities : ∃ velocities, Conversion.velocities c.context (.vector c.gas.parts)
      (.vector c.gas.xparts) = .ok (.vector velocities) ∧ gas.MovesWith velocities

theorem returnsAs_restored {D S : Type} [Transcendental D] [Arithmetic S] [Narrowing D S]
    [LawfulNarrowing D S] {c : Contents D S} (hgas : c.gas.IsRows) (hr : c.context.Regular)
    (hcouple : ∀ p ∈ c.gas.parts, c.context.Couples p) :
    c.ReturnsAs (Gas.ofRows (Conversion.restoredOf c.context)
      (Conversion.restoredState c.context) c.gas.rows) := by
  have hrows := Gas.forall_rows hcouple
  have hstates : c.gas.rows.map Prod.snd = c.gas.xparts :=
    congrArg Gas.xparts hgas.ofRows_rows
  constructor
  · exact Gas.isRows_ofRows _ _ _
  · exact hgas.forall₂_rows fun r _ => Conversion.keeps_restoredOf c.context r
  · refine ⟨_, ?_, Conversion.movesWith_restored c.context c.gas.rows⟩
    rw [← hgas.map_fst_rows, ← hstates]
    have hvelocities := Conversion.velocities_map (t := .vector c.gas.rows)
      hr.wellFormed.hasTick hrows
    simpa only [Tensor.map_vector] using hvelocities

/-! ### A snapshot of two particles -/

noncomputable def sampleParticle (id : UInt64) (x : Vec3 ℝ) : Particle ℝ ℝ :=
  { (Particle.zero : Particle ℝ ℝ) with
    id, x
    h := 1.0
    conserved := ⟨2.0, .replicate 0.0, 0.0⟩
    primitives := ⟨1.0, .replicate 0.0, 1.0⟩ }

noncomputable def sampleContext : Context ℝ ℝ where
  tick := 0
  timeBase := 1.0
  scheme := .standard
  periodic := true
  dim := .vector [1.0, 1.0, 1.0]
  cosmology := none
  gparts := none
  timeBegin := 0.0

/-- Two moving particles, of which one lies outside the box, in cgs units. -/
noncomputable def sampleContents : Contents ℝ ℝ where
  context := sampleContext
  gas :=
    { parts := [sampleParticle 1 ⟨0.25, 0.5, 0.75⟩, sampleParticle 2 ⟨1.25, 0.0, 0.0⟩]
      xparts := [⟨.replicate 0.0, ⟨4.0, 8.0, 12.0⟩⟩, ⟨.replicate 0.0, ⟨-4.0, 0.0, 0.0⟩⟩] }
  properties :=
    { scheme := .standard
      courant := .real 0.1
      derived :=
        { eta := .real 1.0, targetNeighbours := 48.0, deltaNeighbours := .real 0.1
          maxIterations := 30, logMaxLengthChange := .real 0.0 } }
  units := .cgs
  parameters := none

theorem sampleContents_admissible : sampleContents.Admissible where
  gas := ⟨rfl, rfl⟩
  fits := by
    show 2 * 109 ≤ Layout.maxBytes
    decide
  regular := by
    refine ⟨by decide, by decide, fun _ => rfl, fun _ l hl => ?_⟩
    have hone : l = 1.0 := by simpa [sampleContents, sampleContext] using hl
    rw [hone]
    norm_num
  couples := fun p _ gparts h => absurd h nofun
  units := by
    intro d
    cases d <;> norm_num [UnitSystem.sizeInCgs, UnitSystem.unit?, sampleContents, UnitSystem.cgs,
      BaseUnit.sizeIn, BaseUnit.named, BaseDimension.cgsUnit, NamedUnit.size]
  properties := ⟨trivial, trivial, trivial⟩
  parameters := nofun
  gamma := by norm_num [sampleContents, sampleContext, Scheme.standard, Scheme.monatomicGamma]
  scaleFactor := nofun

theorem writable_sampleFile : ({} : Directory ℝ ℝ).Writable "a.hdf5" :=
  ⟨"a.hdf5", rfl, nofun⟩

theorem writable_otherFile : ({} : Directory ℝ ℝ).Writable "b.hdf5" :=
  ⟨"b.hdf5", rfl, nofun⟩

/-! ### Snapshots of resting particles -/

section Resting

variable {D S : Type} [Transcendental D] [Numeral D] [Arithmetic S] [Numeral S] [Narrowing D S]

/-- A particle of unit mass and unit density that has nothing but an identifier. -/
def restingParticle (id : UInt64) : Particle D S :=
  { (Particle.zero : Particle D S) with
    id
    h := 1.0
    conserved := ⟨1.0, .replicate 0.0, 0.0⟩
    primitives := ⟨1.0, .replicate 0.0, 0.0⟩ }

def restingContext : Context D S where
  tick := 0
  timeBase := 1.0
  scheme := .standard
  periodic := false
  dim := .vector [1.0, 1.0, 1.0]
  cosmology := none
  gparts := none
  timeBegin := 0.0

/-- Resting particles of some identifiers, in some units. -/
def Contents.resting (units : UnitSystem D) (ids : List UInt64) : Contents D S where
  context := restingContext
  gas := .ofRows restingParticle (fun _ => .zero) ids
  properties :=
    { scheme := .standard
      courant := .real 0.1
      derived :=
        { eta := .real 1.0, targetNeighbours := 48.0, deltaNeighbours := .real 0.1
          maxIterations := 30, logMaxLengthChange := .real 0.0 } }
  units
  parameters := none

omit [Numeral D] [Arithmetic S] [Numeral S] [Narrowing D S] in
theorem regular_restingContext : (restingContext : Context D S).Regular := by
  have htick : (0 : Int) ≤ Timeline.length := by decide
  exact ⟨le_rfl, htick, nofun, nofun⟩

/-- Resting particles are written in all units whose sizes have powers, whatever the current. -/
theorem exists_write_resting {units : UnitSystem D}
    (hunits : ∀ d ≠ .current, Factor.HasPowers (units.sizeInCgs d))
    (hone : Factor.HasPowers (1.0 : D))
    (hfinite : ∀ n ∈ [0, 30], Arithmetic.isFinite (Arithmetic.ofInt n : D) = true)
    (ids : List UInt64) :
    ∃ files' : Directory D S, write {} "a.hdf5" (.resting units ids) = (.ok (), files') := by
  have hreal : ∀ n ∈ [0, 30], Number.realOfInt n = .ok (Arithmetic.ofInt n : D) :=
    fun n hn => if_pos (hfinite n hn)
  refine exists_write ⟨"a.hdf5", rfl, nofun⟩ (Gas.isRows_ofRows _ _ ids) regular_restingContext
    (fun p _ gparts h => absurd h nofun) nofun ?time ?properties fun f hf => ?fields
  case time =>
    show ∃ time, (do return (0.0 : D) + (← Number.realOfInt 0) * 1.0) = Except.ok time
    rw [hreal 0 (by decide)]
    exact ⟨_, rfl⟩
  case properties =>
    exact SchemeProperties.exists_attributes (SchemeProperties.exists_storedSingle rfl rfl)
      (SchemeProperties.exists_storedSingle rfl rfl) (SchemeProperties.exists_storedSingle rfl rfl)
      (SchemeProperties.exists_storedSingle rfl (hreal 30 (by decide)))
  case fields =>
    exact FieldDescriptor.exists_attributes_of_powers (FieldDescriptor.isPlain_writeRegistry hf)
      hunits hone

end Resting

/-- Resting particles of some identifiers, in cgs units. -/
noncomputable def restingContents (ids : List UInt64) : Contents Double Single := .resting .cgs ids

theorem isRows_restingContents (ids : List UInt64) : (restingContents ids).gas.IsRows :=
  Gas.isRows_ofRows _ _ ids

theorem hasPositiveSizes_restingContents (ids : List UInt64) :
    (restingContents ids).units.HasPositiveSizes :=
  UnitSystem.hasPositiveSizes_cgs

theorem exists_write_restingContents (ids : List UInt64) :
    ∃ files', write {} "a.hdf5" (restingContents ids) = (.ok (), files') :=
  exists_write_resting (fun d _ => FiniteNumbers.hasPowers (UnitSystem.hasPositiveSizes_cgs d))
    (FiniteNumbers.hasPowers (FiniteNumbers.size_pos .second))
    (fun _ _ => FiniteNumbers.isFinite _) ids

/-! ### The theorem -/

/-- In every number system, a snapshot that was just written is read exactly if its stored sizes
are read as units with sizes, and is refused otherwise; what is read are its particles, without
any rounding.  Where no number is infinite, all positive units are read.  Over the reals what is
made anew of each particle is exact, and all admissible contents are written. -/
theorem readGas_write :
    (∀ {D S : Type} [Transcendental D] [Numeral D] [Arithmetic S] [Numeral S] [Narrowing D S]
        [LawfulNarrowing D S] {c : Contents D S} {files files' : Directory D S}
        {file : String},
      c.gas.IsRows →
      c.gas.parts.length * (Particle.layout : Layout (Particle D S) D S _).bytes
        ≤ Layout.maxBytes →
      c.context.Regular → (∀ p ∈ c.gas.parts, c.context.Couples p) →
      write files file c = (.ok (), files') →
      ((∀ d, (c.units.recoveredUnit d).hasSize = true) →
        ∃ gas, (readGas files' file c.context.scheme none).result = (.ok gas, []) ∧
          c.ReturnsAs gas) ∧
      ((∃ d, (c.units.recoveredUnit d).hasSize = false) →
        (readGas files' file c.context.scheme none).result = (.error .noSuchKey, []))) ∧
    (∀ {D S : Type} [Transcendental D] [Numeral D] [FiniteNumbers D] [Arithmetic S] [Numeral S]
        [Narrowing D S] [LawfulNarrowing D S] {c : Contents D S} {files files' : Directory D S}
        {file : String},
      c.gas.IsRows →
      c.gas.parts.length * (Particle.layout : Layout (Particle D S) D S _).bytes
        ≤ Layout.maxBytes →
      c.context.Regular → (∀ p ∈ c.gas.parts, c.context.Couples p) → c.units.HasPositiveSizes →
      write files file c = (.ok (), files') →
      ∃ gas, (readGas files' file c.context.scheme none).result = (.ok gas, []) ∧
        c.ReturnsAs gas) ∧
    (∀ {c : Contents ℝ ℝ} {files files' : Directory ℝ ℝ} {file : String},
      c.gas.IsRows →
      c.gas.parts.length * (Particle.layout : Layout (Particle ℝ ℝ) ℝ ℝ _).bytes
        ≤ Layout.maxBytes →
      c.context.Regular → (∀ p ∈ c.gas.parts, c.context.Couples p) → c.units.Positive →
      1 < c.context.scheme.gamma → write files file c = (.ok (), files') →
      ∃ gas, (readGas files' file c.context.scheme none).result = (.ok gas, []) ∧
        c.ReturnsAs gas ∧
        List.Forall₂ (Particle.Restores c.context.scheme.gamma c.context.scheme.totalEnergy)
          c.gas.parts gas.parts) ∧
    (∀ {c : Contents ℝ ℝ} {files : Directory ℝ ℝ} {file : String},
      c.Admissible → files.Writable file → ∃ files', write files file c = (.ok (), files')) := by
  refine ⟨?general, ?finite, ?reals, fun hc hfile => hc.exists_write hfile⟩
  case general =>
    intro D S _ _ _ _ _ _ c files files' file hgas hfits hr hcouple hwrite
    constructor
    · intro hsizes
      have hunits := UnitSystem.checked_recovered_eq_ok_iff.mpr ⟨rfl, hsizes⟩
      exact ⟨_, readGas_of_write hgas hfits hr hcouple hunits hwrite,
        returnsAs_restored hgas hr hcouple⟩
    · intro hsize
      have hunits := UnitSystem.checked_recovered_eq_error_iff.mpr ⟨rfl, hsize⟩
      exact readGas_of_checked_eq_error hunits hwrite _ _
  case finite =>
    intro D S _ _ _ _ _ _ _ c files files' file hgas hfits hr hcouple hunits hwrite
    exact ⟨_, readGas_of_write hgas hfits hr hcouple hunits.checked_recovered hwrite,
      returnsAs_restored hgas hr hcouple⟩
  case reals =>
    intro c files files' file hgas hfits hr hcouple hunits hgamma hwrite
    refine ⟨_, readGas_of_write hgas hfits hr hcouple hunits.checked_recovered hwrite,
      returnsAs_restored hgas hr hcouple, ?_⟩
    exact hgas.forall₂_rows fun r _ => Conversion.restores_restoredOf hgamma r

/-- The sample of two particles comes back over the reals, and a resting particle in doubles and
singles. -/
theorem readGas_write_sample :
    (∃ files' gas, write {} "a.hdf5" sampleContents = (.ok (), files') ∧
      (readGas files' "a.hdf5" .standard none).result = (.ok gas, []) ∧
      sampleContents.ReturnsAs gas ∧
      List.Forall₂ (Particle.Restores Scheme.monatomicGamma false) sampleContents.gas.parts
        gas.parts) ∧
    ∃ files' gas gas', write {} "a.hdf5" (restingContents [1]) = (.ok (), files') ∧
      (readGas files' "a.hdf5" .standard none).result = (.ok gas, []) ∧
      (restingContents [1]).ReturnsAs gas ∧
      (readGas files' "a.hdf5" .standard none).result = (.ok gas', []) ∧
      (restingContents [1]).ReturnsAs gas' := by
  constructor
  · have hc := sampleContents_admissible
    obtain ⟨files', hwrite⟩ := readGas_write.2.2.2 hc writable_sampleFile
    obtain ⟨gas, hread, hreturns, hrestores⟩ :=
      readGas_write.2.2.1 hc.gas hc.fits hc.regular hc.couples hc.units hc.gamma hwrite
    exact ⟨files', gas, hwrite, hread, hreturns, hrestores⟩
  · obtain ⟨files', hwrite⟩ := exists_write_restingContents [1]
    have hgas := isRows_restingContents [1]
    have hfits : (restingContents [1]).gas.parts.length
        * (Particle.layout : Layout (Particle Double Single) Double Single _).bytes
        ≤ Layout.maxBytes := by
      show 1 * 109 ≤ Layout.maxBytes
      decide
    have hcouple : ∀ p ∈ (restingContents [1]).gas.parts,
        (restingContents [1]).context.Couples p := fun p _ gparts h => absurd h nofun
    have hunits := hasPositiveSizes_restingContents [1]
    obtain ⟨gas, hread, hreturns⟩ :=
      readGas_write.2.1 hgas hfits regular_restingContext hcouple hunits hwrite
    obtain ⟨hsizes, -⟩ := readGas_write.1 hgas hfits regular_restingContext hcouple hwrite
    obtain ⟨gas', hread', hreturns'⟩ :=
      hsizes (UnitSystem.checked_recovered_eq_ok_iff.mp hunits.checked_recovered).2
    exact ⟨files', gas, gas', hwrite, hread, hreturns, hread', hreturns'⟩

/-! ### Units that are not read back -/

/-- Cgs units, and a unit of current of which five digits lie beyond all doubles. -/
def strongUnits : UnitSystem Float :=
  { UnitSystem.ofMechanical (.named .centimetre) (.named .gram) (.named .second) with
    current := some ⟨1.7976931348623157e308, .ampere⟩ }

/-- Centimetres, seconds, and a unit of mass whose size in grams is beyond all doubles. -/
def heavyUnits : UnitSystem Float :=
  .ofMechanical (.named .centimetre) ⟨1e306, .kilogram⟩ (.named .second)

theorem hasPowers_strongUnits :
    ∀ d ≠ .current, Factor.HasPowers (strongUnits.sizeInCgs d) := by
  intro d hd
  have hone : strongUnits.sizeInCgs d = 1.0 := by
    cases d with
    | current => exact absurd rfl hd
    | mass | length | time | temperature => decide +kernel
  rw [hone]
  exact Factor.hasPowers_one

theorem hasPowers_heavyUnits : ∀ d ≠ .current, Factor.HasPowers (heavyUnits.sizeInCgs d) := by
  intro d _
  by_cases hmass : d = .mass
  · subst hmass
    exact Factor.hasPowers_of_not_isFinite (by decide +kernel) (by decide +kernel)
      (by decide +kernel)
  · have hone : heavyUnits.sizeInCgs d = 1.0 := by
      cases d with
      | mass => exact absurd rfl hmass
      | length | time | current | temperature => decide +kernel
    rw [hone]
    exact Factor.hasPowers_one

/-- A file is refused if a size that it stores is no finite multiple of any common unit. -/
theorem exists_write_refused {units : UnitSystem Float}
    (hpowers : ∀ d ≠ .current, Factor.HasPowers (units.sizeInCgs d)) {d : BaseDimension}
    (hmultiple : ∀ u ∈ d.commonUnits, (BaseUnit.mk (Transcendental.roundTo BaseUnit.keptDigits
      (BaseUnit.express UnitSystem.storedBytes (units.sizeInCgs d) d u)) u).hasSize = false) :
    ∃ files' : Directory Float Float32,
      write {} "a.hdf5" (.resting units [1]) = (.ok (), files') ∧
      (readGas files' "a.hdf5" .standard none).result = (.error .noSuchKey, []) := by
  have hfinite : ∀ n ∈ [0, 30], Arithmetic.isFinite (Arithmetic.ofInt n : Float) = true := by
    decide +kernel
  have hsize : (units.recoveredUnit d).hasSize = false :=
    hmultiple _ (BaseUnit.closestCommon_mem _ _ _)
  obtain ⟨files', hwrite⟩ := exists_write_resting hpowers Factor.hasPowers_one hfinite [1]
  exact ⟨files', hwrite, readGas_of_checked_eq_error (c := .resting units [1])
    (UnitSystem.checked_recovered_eq_error_iff.mpr ⟨rfl, d, hsize⟩) hwrite .standard none⟩

/-- A particle is written in units of positive sizes, and the file is refused: the five digits of a
stored size are not finite, or the stored size is not. -/
theorem overflowing_units_refused :
    (∀ d, Arithmetic.isFinite (strongUnits.sizeInCgs d) = true) ∧
    ∀ units ∈ [strongUnits, heavyUnits],
      units.checked = .ok units ∧ (∀ d, 0.0 < units.sizeInCgs d) ∧
        ∃ files' : Directory Float Float32,
          write {} "a.hdf5" (.resting units [1]) = (.ok (), files') ∧
          (readGas files' "a.hdf5" .standard none).result = (.error .noSuchKey, []) := by
  have hchecked : ∀ units ∈ [strongUnits, heavyUnits],
      (BaseDimension.all.filterMap units.unit?).all BaseUnit.hasSize = true := by
    decide +kernel
  have hpositive : ∀ units ∈ [strongUnits, heavyUnits], ∀ d ∈ BaseDimension.all,
      0.0 < units.sizeInCgs d := by
    decide +kernel
  have hall : ∀ d, d ∈ BaseDimension.all := by
    intro d
    cases d <;> decide
  refine ⟨fun d => ?finite, fun units hunits =>
    ⟨if_pos (hchecked units hunits), fun d => hpositive units hunits d (hall d), ?refused⟩⟩
  case finite => cases d <;> decide +kernel
  case refused =>
    simp only [List.mem_cons, List.not_mem_nil, or_false] at hunits
    rcases hunits with rfl | rfl
    · exact exists_write_refused hasPowers_strongUnits (d := .current) (by decide +kernel)
    · exact exists_write_refused hasPowers_heavyUnits (d := .mass) (by decide +kernel)

end Snapshot

end MeshlessGas
