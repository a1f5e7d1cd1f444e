/-
Restarting from a snapshot — writing once more what was read.

The particles that are read from a snapshot stand where the snapshot says, at rest relative to
its velocities: no kick is left to be made up for, and wrapping them again does not move
them.  Written in the same context they give the datasets that they were read from.  The
velocities are the exception where space expands: they are stored as peculiar velocities and
read as they are stored, so that a second snapshot scales them a second time.
-/
import MeshlessGas.Proofs.RoundTrip
import MeshlessGas.Proofs.ScaleFactor

namespace MeshlessGas

open Conversion (Row)

/-! ## Wrapping twice -/

namespace Box

variable {x length : ℝ}

theorem remainder_mem (hlength : 0 < length) :
    0 ≤ remainder x length ∧ remainder x length < length := by
  have hlow : (⌊x / length⌋ : ℝ) * length ≤ x := (le_div_iff₀ hlength).mp (Int.floor_le _)
  have hhigh : x < (⌊x / length⌋ + 1) * length :=
    (div_lt_iff₀ hlength).mp (Int.lt_floor_add_one _)
  have hfloor : remainder x length = x - ⌊x / length⌋ * length := rfl
  rw [hfloor]
  constructor <;> linarith

theorem wrap_mem (hlength : 0 < length) : 0 ≤ wrap x length ∧ wrap x length < length := by
  obtain ⟨h₀, h₁⟩ := remainder_mem (x := x) hlength
  unfold wrap
  split
  next hinside =>
    rw [Exact.zero_eq] at hinside
    exact hinside
  next =>
    have hlift : liftNegative (remainder x length) length = remainder x length := by
      rw [liftNegative, Exact.zero_eq, if_neg (not_lt.mpr h₀)]
    rw [hlift, lowerExcess, if_neg (not_le.mpr h₁)]
    exact ⟨h₀, h₁⟩

theorem wrap_wrap (hlength : 0 < length) : wrap (wrap x length) length = wrap x length := by
  obtain ⟨h₀, h₁⟩ := wrap_mem (x := x) hlength
  rw [wrap, Exact.zero_eq, if_pos ⟨h₀, h₁⟩]

end Box

/-! ## Restored rows -/

/-- A particle without accelerations: its own is zero, and so is what it finds among the
gravity particles. -/
structure Context.Unaccelerated (c : Context ℝ ℝ) (p : Particle ℝ ℝ) : Prop where
  hydro : p.aHydro = .replicate 0.0
  gravity : Gravity.valueAt (fun g => Particle.widenVec (D := ℝ) g.aGrav) (.replicate 0.0)
    c.gparts p.gpart = .replicate 0.0

namespace Conversion

variable {context : Context ℝ ℝ}

noncomputable def restoredRow (context : Context ℝ ℝ) (r : Row ℝ ℝ) : Row ℝ ℝ :=
  (restoredOf context r, restoredState context r)

theorem couples_restoredOf (context : Context ℝ ℝ) (r : Row ℝ ℝ) :
    context.Couples (restoredOf context r) := by
  intro gparts _ _
  have hlength : (0 : Int) ≤ gparts.length := Int.natCast_nonneg _
  have hindex : (restoredOf context r).gpart.toInt = -1 := rfl
  omega

theorem lengths_pos (hr : context.Regular) (hp : context.periodic = true) :
    0 < context.lengths.x ∧ 0 < context.lengths.y ∧ 0 < context.lengths.z := by
  have hcells := Context.toList_lengths (hr.dim_shape hp)
  have hpos : ∀ l ∈ context.lengths.toList, 0 < l := by
    intro l hl
    rw [hcells] at hl
    have hlength := hr.dim_pos hp l hl
    norm_num at hlength
    exact hlength
  exact ⟨hpos _ (by simp [Vec3.toList]), hpos _ (by simp [Vec3.toList]),
    hpos _ (by simp [Vec3.toList])⟩

/-- A restored particle stands in the box already. -/
theorem positionOf_restored (hr : context.Regular) (r : Row ℝ ℝ) :
    positionOf context (restoredOf context r) = positionOf context r.1 := by
  have hx : (restoredOf context r).x = positionOf context r.1 := rfl
  cases hp : context.periodic with
  | false => simp only [positionOf, hp, Bool.false_eq_true, if_false, hx]
  | true =>
    obtain ⟨h₁, h₂, h₃⟩ := lengths_pos hr hp
    simp only [positionOf, hp, if_true, hx, Vec3.zipWith, Box.wrap_wrap h₁, Box.wrap_wrap h₂,
      Box.wrap_wrap h₃]

theorem driftedOf_of_unaccelerated {r : Row ℝ ℝ} (h : context.Unaccelerated r.1) :
    driftedOf context r = r.2.vFull := by
  have hdrifted : driftedOf context r
      = (r.2.vFull.zipWith (· + ·)
          (r.1.aHydro.map (· * kickFactor context .hydro r.1.timeBin))).zipWith (· + ·)
        ((Gravity.valueAt (fun g => Particle.widenVec (D := ℝ) g.aGrav) (.replicate 0.0)
          context.gparts r.1.gpart).map
            (· * kickFactor context .gravity r.1.timeBin)) := rfl
  rw [hdrifted, h.gravity, h.hydro]
  simp only [Vec3.zipWith, Vec3.map, Vec3.replicate, Exact.zero_eq, zero_mul, add_zero]

theorem driftedOf_of_free {r : Row ℝ ℝ} (hhydro : r.1.aHydro = .replicate 0.0)
    (hgpart : r.1.gpart < 0) : driftedOf context r = r.2.vFull :=
  driftedOf_of_unaccelerated ⟨hhydro, if_pos hgpart⟩

theorem driftedOf_restored (r : Row ℝ ℝ) :
    driftedOf context (restoredRow context r) = velocityOf context r := by
  refine driftedOf_of_free rfl ?_
  show (-1 : Int64) < 0
  decide

/-- Written once more, the velocity is scaled once more where space expands. -/
theorem velocityOf_restored (r : Row ℝ ℝ) :
    velocityOf context (restoredRow context r) = match context.cosmology with
      | some _ => (velocityOf context r).map (· * context.a2Inv)
      | none => velocityOf context r := by
  have hdrifted : (Particle.narrowVec (driftedOf context (restoredRow context r)) : Vec3 ℝ)
      = velocityOf context r := driftedOf_restored r
  rw [velocityOf, hdrifted]
  cases context.cosmology with
  | some k => rfl
  | none => rfl

theorem pressure_restored (hgamma : 1 < context.scheme.gamma) {r : Row ℝ ℝ}
    (hrho : 0 < r.1.primitives.rho) :
    (restoredOf context r).primitives.pressure = r.1.primitives.pressure := by
  rw [(restores_restoredOf hgamma r).pressure, if_pos hrho]

end Conversion

/-! ## Datasets that do not change -/

namespace FieldDescriptor

variable {context : Context ℝ ℝ} {rows : List (Row ℝ ℝ)} {units : UnitSystem ℝ}

/-- The fields that a second snapshot holds as the first one does. -/
def steadyNames : List String :=
  ["Coordinates", "Masses", "SmoothingLength", "InternalEnergy", "ParticleIDs", "Density",
   "Entropy", "Pressure"]

theorem cellsOf_restored {f : FieldDescriptor} (hf : f ∈ writeRegistry)
    (hsteady : f.name ∈ steadyNames) (hr : context.Regular) (hgamma : 1 < context.scheme.gamma)
    {r : Row ℝ ℝ} (hrho : 0 < r.1.primitives.rho) :
    f.cellsOf context (Conversion.restoredRow context r) = f.cellsOf context r := by
  -- Internal energies and entropies follow from pressures and densities alone.
  have hpressure := Conversion.pressure_restored hgamma hrho
  have hdensity : (Conversion.restoredOf context r).primitives.rho = r.1.primitives.rho := rfl
  simp only [writeRegistry, List.mem_cons, List.not_mem_nil, or_false] at hf
  rcases hf with rfl | rfl | rfl | rfl | rfl | rfl | rfl | rfl | rfl | rfl | rfl
  · show (Conversion.positionOf context (Conversion.restoredOf context r)).toList.map _ = _
    rw [Conversion.positionOf_restored hr]
    rfl
  · exact absurd hsteady (by decide)
  · rfl
  · rfl
  · show [Cell.single ((Conversion.restoredOf context r).internalEnergy context.scheme.gamma)]
      = [.single (r.1.internalEnergy context.scheme.gamma)]
    simp only [Particle.internalEnergy, hpressure, hdensity]
  · rfl
  · rfl
  · show [Cell.single ((Conversion.restoredOf context r).entropy context.scheme.gamma)]
      = [.single (r.1.entropy context.scheme.gamma)]
    simp only [Particle.entropy, hpressure, hdensity]
  · show [Cell.single (Conversion.restoredOf context r).primitives.pressure]
      = [.single r.1.primitives.pressure]
    rw [hpressure]
  · exact absurd hsteady (by decide)
  · exact absurd hsteady (by decide)

theorem numbers_restored {f : FieldDescriptor} (hf : f ∈ writeRegistry) (hr : context.Regular)
    (rows : List (Row ℝ ℝ)) :
    ∃ h : ∀ r, (f.cellsOf context r).length = cellCount f.shape.shape,
      f.numbers (some context) (rows.map (Conversion.restoredOf context))
          (rows.map (Conversion.restoredState context))
        = .ok ⟨f.type, Tensor.rows rows f.shape.shape
            (fun r => f.cellsOf context (Conversion.restoredRow context r)) fun _ => h _⟩ := by
  have hcouple : ∀ r ∈ rows.map (Conversion.restoredRow context), context.Couples r.1 := by
    intro r hrow
    obtain ⟨r, -, rfl⟩ := List.mem_map.mp hrow
    exact Conversion.couples_restoredOf context r
  obtain ⟨-, h, hnumbers⟩ := givesRows_writeRegistry hr hcouple hf
  rw [List.map_map, List.map_map, Tensor.rows_map] at hnumbers
  exact ⟨h, hnumbers⟩

theorem datasetOf_restored {f : FieldDescriptor} (hf : f ∈ writeRegistry)
    (hsteady : f.name ∈ steadyNames) (hr : context.Regular)
    (hcouple : ∀ r ∈ rows, context.Couples r.1) (hgamma : 1 < context.scheme.gamma)
    (hrho : ∀ r ∈ rows, 0 < r.1.primitives.rho) :
    f.datasetOf context (Gas.ofRows (Conversion.restoredOf context)
        (Conversion.restoredState context) rows) units
      = f.datasetOf context (Gas.ofRows Prod.fst Prod.snd rows) units := by
  obtain ⟨h, hrestored⟩ := numbers_restored hf hr rows
  obtain ⟨-, _, hnumbers⟩ := givesRows_writeRegistry hr hcouple hf
  have hcells : rows.flatMap (fun r => f.cellsOf context (Conversion.restoredRow context r))
      = rows.flatMap (f.cellsOf context) := by
    rw [List.flatMap_def, List.flatMap_def]
    refine congrArg List.flatten (List.map_congr_left fun r hmem => ?_)
    exact cellsOf_restored hf hsteady hr hgamma (hrho r hmem)
  have htensor : Tensor.rows rows f.shape.shape
      (fun r => f.cellsOf context (Conversion.restoredRow context r)) (fun _ => h _)
        = Tensor.rows rows f.shape.shape (f.cellsOf context) h := Tensor.ext rfl hcells
  rw [htensor] at hrestored
  rw [datasetOf, datasetOf, Gas.numbersOf_ofRows, Gas.numbersOf_ofRows, hrestored, hnumbers]

theorem velocities_restored {f : FieldDescriptor} (hf : f ∈ writeRegistry)
    (hname : f.name = "Velocities") (hr : context.Regular)
    (hcouple : ∀ r ∈ rows, context.Couples r.1) {d d' : Dataset ℝ ℝ}
    (hd : f.datasetOf context (Gas.ofRows Prod.fst Prod.snd rows) units = .ok d)
    (hd' : f.datasetOf context (Gas.ofRows (Conversion.restoredOf context)
      (Conversion.restoredState context) rows) units = .ok d') :
    d'.attributes = d.attributes ∧ d'.values = match context.cosmology with
      | some _ => d.values.scaled context.a2Inv
      | none => d.values := by
  obtain ⟨htype, hcells⟩ : f.type = .float32 ∧ f.cellsOf context = fun r =>
      (Conversion.velocityOf context r).toList.map .single := by
    simp only [writeRegistry, List.mem_cons, List.not_mem_nil, or_false] at hf
    rcases hf with rfl | rfl | rfl | rfl | rfl | rfl | rfl | rfl | rfl | rfl | rfl
    · exact absurd hname (by decide)
    · exact ⟨rfl, rfl⟩
    all_goals exact absurd hname (by decide)
  obtain ⟨hkeeps, h, hnumbers⟩ := givesRows_writeRegistry hr hcouple hf
  obtain ⟨h', hrestored⟩ := numbers_restored hf hr rows
  rw [datasetOf, Gas.numbersOf_ofRows, hnumbers, Result.ok_bind, Result.bind_eq_ok] at hd
  rw [datasetOf, Gas.numbersOf_ofRows, hrestored, Result.ok_bind, Result.bind_eq_ok] at hd'
  -- Attributes follow from the field, the units and the context, which are the same twice.
  obtain ⟨attributes, hattributes, hd⟩ := hd
  obtain ⟨attributes', hattributes', hd'⟩ := hd'
  obtain rfl : attributes = attributes' := Except.ok.inj (hattributes.symm.trans hattributes')
  obtain rfl := Except.ok.inj hd
  obtain rfl := Except.ok.inj hd'
  refine ⟨rfl, ?_⟩
  simp only [NumericArray.cast_rows h hkeeps, NumericArray.cast_rows (fun _ => h' _)
    fun r => hkeeps (Conversion.restoredRow context r)]
  cases hk : context.cosmology with
  | none =>
    refine congrArg (NumericArray.mk f.type) (Tensor.ext rfl ?_)
    simp only [Tensor.cells_rows, hcells, Conversion.velocityOf_restored, hk]
  | some k =>
    simp only [NumericArray.scaled, htype]
    refine congrArg (NumericArray.mk .float32) (Tensor.ext rfl ?_)
    simp only [Tensor.map_rows, Tensor.cells_rows, hcells, Conversion.velocityOf_restored, hk]
    rfl

end FieldDescriptor

/-! ## The second snapshot -/

namespace Snapshot

variable {c : Contents ℝ ℝ}

noncomputable def Contents.restarted (c : Contents ℝ ℝ) : Contents ℝ ℝ :=
  { c with
    gas := Gas.ofRows (Conversion.restoredOf c.context) (Conversion.restoredState c.context)
      c.gas.rows }

theorem Contents.Admissible.restarted (hc : c.Admissible) : c.restarted.Admissible where
  gas := Gas.isRows_ofRows _ _ _
  fits := by
    have hlength : c.restarted.gas.parts.length = c.gas.parts.length := by
      show (c.gas.rows.map (Conversion.restoredOf c.context)).length = _
      rw [List.length_map, hc.gas.length_rows]
    rw [hlength]
    exact hc.fits
  regular := hc.regular
  couples := by
    intro p hp
    obtain ⟨r, -, rfl⟩ := List.mem_map.mp hp
    exact Conversion.couples_restoredOf c.context r
  units := hc.units
  properties := hc.properties
  parameters := hc.parameters
  gamma := hc.gamma
  scaleFactor := hc.scaleFactor

/-- Writing, reading and writing again succeeds, and both files hold the dataset of every
field. -/
theorem exists_restart (hc : c.Admissible) {files : Directory ℝ ℝ} {file file' : String}
    (hfile : files.Writable file) (hfile' : files.Writable file') :
    ∃ files₁ files₂ f₁ f₂, write files file c = (.ok (), files₁) ∧
      (readGas files₁ file c.context.scheme none).result = (.ok c.restarted.gas, []) ∧
      write files₁ file' c.restarted = (.ok (), files₂) ∧
      files₁.read file = .ok f₁ ∧ files₂.read file' = .ok f₂ ∧
      ∀ f ∈ FieldDescriptor.writeRegistry, ∃ d₁ d₂,
        f.datasetOf c.context (Gas.ofRows Prod.fst Prod.snd c.gas.rows) c.units = .ok d₁ ∧
        f.datasetOf c.context c.restarted.gas c.units = .ok d₂ ∧
        f₁.dataset? [particleGroup, f.name] = some d₁ ∧
        f₂.dataset? [particleGroup, f.name] = some d₂ := by
  obtain ⟨files₁, hwrite⟩ := hc.exists_write hfile
  have hread := readGas_of_write hc.gas hc.fits hc.regular hc.couples
    hc.units.checked_recovered hwrite
  obtain ⟨files₂, hwrite'⟩ := hc.restarted.exists_write (writable_of_write hfile' hwrite)
  obtain ⟨f₁, hf₁, hheld⟩ := dataset?_of_write hwrite
  obtain ⟨f₂, hf₂, hheld'⟩ := dataset?_of_write hwrite'
  rw [← hc.gas.ofRows_rows] at hheld
  refine ⟨files₁, files₂, f₁, f₂, hwrite, hread, hwrite', hf₁, hf₂, fun f hf => ?_⟩
  obtain ⟨d₁, hd₁, hfound₁⟩ := hheld f hf
  obtain ⟨d₂, hd₂, hfound₂⟩ := hheld' f hf
  exact ⟨d₁, d₂, hd₁, hd₂, hfound₁, hfound₂⟩

/-- A snapshot that is read and written again in the same context holds the same datasets,
except for the velocities, which are scaled once more by the inverse square of the scale
factor where space expands. -/
theorem write_readGas_write (hc : c.Admissible) (hrho : ∀ p ∈ c.gas.parts, 0 < p.primitives.rho)
    {files : Directory ℝ ℝ} {file file' : String} (hfile : files.Writable file)
    (hfile' : files.Writable file') :
    ∃ files₁ gas files₂ f₁ f₂, write files file c = (.ok (), files₁) ∧
      (readGas files₁ file c.context.scheme none).result = (.ok gas, []) ∧
      write files₁ file' { c with gas } = (.ok (), files₂) ∧
      files₁.read file = .ok f₁ ∧ files₂.read file' = .ok f₂ ∧
      (∀ name ∈ FieldDescriptor.steadyNames, ∃ d,
        f₁.dataset? [particleGroup, name] = some d ∧
        f₂.dataset? [particleGroup, name] = some d) ∧
      ∃ d₁ d₂, f₁.dataset? [particleGroup, "Velocities"] = some d₁ ∧
        f₂.dataset? [particleGroup, "Velocities"] = some d₂ ∧
        d₂.attributes = d₁.attributes ∧
        d₂.values = match c.context.cosmology with
          | some _ => d₁.values.scaled c.context.a2Inv
          | none => d₁.values := by
  obtain ⟨files₁, files₂, f₁, f₂, hwrite, hread, hwrite', hf₁, hf₂, hheld⟩ :=
    exists_restart hc hfile hfile'
  have hcouple := Gas.forall_rows hc.couples
  have hrows := Gas.forall_rows hrho
  refine ⟨files₁, _, files₂, f₁, f₂, hwrite, hread, hwrite', hf₁, hf₂, ?_, ?_⟩
  · intro name hname
    have hregistry : ∀ name ∈ FieldDescriptor.steadyNames,
        name ∈ FieldDescriptor.writeRegistry.map FieldDescriptor.name := by
      decide
    obtain ⟨f, hf, rfl⟩ := List.mem_map.mp (hregistry name hname)
    obtain ⟨d₁, d₂, hd₁, hd₂, hfound₁, hfound₂⟩ := hheld f hf
    have hsame : f.datasetOf c.context c.restarted.gas c.units
        = f.datasetOf c.context (Gas.ofRows Prod.fst Prod.snd c.gas.rows) c.units :=
      FieldDescriptor.datasetOf_restored hf hname hc.regular hcouple hc.gamma hrows
    obtain rfl : d₂ = d₁ := Except.ok.inj (hd₂.symm.trans (hsame.trans hd₁))
    exact ⟨d₂, hfound₁, hfound₂⟩
  · obtain ⟨f, hf, hname⟩ : ∃ f ∈ FieldDescriptor.writeRegistry, f.name = "Velocities" :=
      ⟨FieldDescriptor.writeRegistry[1], List.getElem_mem _, rfl⟩
    obtain ⟨d₁, d₂, hd₁, hd₂, hfound₁, hfound₂⟩ := hheld f hf
    rw [hname] at hfound₁ hfound₂
    obtain ⟨hattributes, hvalues⟩ :=
      FieldDescriptor.velocities_restored hf hname hc.regular hcouple hd₁ hd₂
    exact ⟨d₁, d₂, hfound₁, hfound₂, hattributes, hvalues⟩

theorem rho_pos_sampleContents : ∀ p ∈ sampleContents.gas.parts, 0 < p.primitives.rho := by
  intro p hp
  simp only [sampleContents, List.mem_cons, List.not_mem_nil, or_false] at hp
  rcases hp with rfl | rfl
  · norm_num [sampleParticle]
  · norm_num [sampleParticle]

/-- Without cosmology the second snapshot of the sample holds the velocities of the first. -/
theorem write_readGas_write_sample :
    ∃ files₁ gas files₂ f₁ f₂, write {} "a.hdf5" sampleContents = (.ok (), files₁) ∧
      (readGas files₁ "a.hdf5" .standard none).result = (.ok gas, []) ∧
      write files₁ "b.hdf5" { sampleContents with gas } = (.ok (), files₂) ∧
      files₁.read "a.hdf5" = .ok f₁ ∧ files₂.read "b.hdf5" = .ok f₂ ∧
      ∃ d₁ d₂, f₁.dataset? [particleGroup, "Velocities"] = some d₁ ∧
        f₂.dataset? [particleGroup, "Velocities"] = some d₂ ∧ d₂.values = d₁.values := by
  obtain ⟨files₁, gas, files₂, f₁, f₂, hwrite, hread, hwrite', hf₁, hf₂, -, d₁, d₂, hfound₁,
    hfound₂, -, hvalues⟩ := write_readGas_write sampleContents_admissible rho_pos_sampleContents
      writable_sampleFile writable_otherFile
  exact ⟨files₁, gas, files₂, f₁, f₂, hwrite, hread, hwrite', hf₁, hf₂, d₁, d₂, hfound₁,
    hfound₂, hvalues⟩

/-! ## Where space expands -/

/-- The sample of two particles in an expanding space. -/
noncomputable def expandingContents (k : Cosmology ℝ) : Contents ℝ ℝ :=
  { sampleContents with context := { sampleContext with cosmology := some k } }

theorem expandingContents_admissible {k : Cosmology ℝ} (hk : 0 < k.epoch.a) :
    (expandingContents k).Admissible where
  gas := sampleContents_admissible.gas
  fits := sampleContents_admissible.fits
  regular :=
    ⟨sampleContents_admissible.regular.tick_nonneg, sampleContents_admissible.regular.tick_le,
      sampleContents_admissible.regular.dim_shape, sampleContents_admissible.regular.dim_pos⟩
  couples := fun p _ gparts h => absurd h nofun
  units := sampleContents_admissible.units
  properties := sampleContents_admissible.properties
  parameters := nofun
  gamma := sampleContents_admissible.gamma
  scaleFactor := fun k' hk' => by
    obtain rfl := Option.some.inj hk'
    exact hk

noncomputable def firstRow : Row ℝ ℝ :=
  (sampleParticle 1 ⟨0.25, 0.5, 0.75⟩, ⟨.replicate 0.0, ⟨4.0, 8.0, 12.0⟩⟩)

theorem velocity_firstRow (k : Cosmology ℝ) :
    (Conversion.velocityOf (expandingContents k).context firstRow).x = 4.0 * k.epoch.a2Inv := by
  have hgpart : firstRow.1.gpart < 0 := by
    show (-1 : Int64) < 0
    decide
  have hdrifted : Conversion.driftedOf (expandingContents k).context firstRow = ⟨4.0, 8.0, 12.0⟩ :=
    Conversion.driftedOf_of_free rfl hgpart
  have hvelocity : (Conversion.velocityOf (expandingContents k).context firstRow).x
      = (Conversion.driftedOf (expandingContents k).context firstRow).x * k.epoch.a2Inv := rfl
  rw [hvelocity, hdrifted]

/-- At half of today's scale factor a second snapshot does not hold the velocities of the
first one. -/
theorem velocities_change_at_half :
    ∃ k files₁ gas files₂ f₁ f₂ d₁ d₂,
      Cosmology.ofOptions (Cosmology.flatOptions 0.7 0.5 1 0.3 0.7) .cosmological = .ok k ∧
      (expandingContents k).Admissible ∧
      (∀ p ∈ (expandingContents k).gas.parts, 0 < p.conserved.mass ∧ 0 < p.primitives.rho) ∧
      write {} "a.hdf5" (expandingContents k) = (.ok (), files₁) ∧
      (readGas files₁ "a.hdf5" (expandingContents k).context.scheme none).result
        = (.ok gas, []) ∧
      write files₁ "b.hdf5" { expandingContents k with gas } = (.ok (), files₂) ∧
      files₁.read "a.hdf5" = .ok f₁ ∧ files₂.read "b.hdf5" = .ok f₂ ∧
      f₁.dataset? [particleGroup, "Velocities"] = some d₁ ∧
      f₂.dataset? [particleGroup, "Velocities"] = some d₂ ∧ d₂.values ≠ d₁.values := by
  obtain ⟨k, hk, ha, ha2⟩ := Cosmology.exists_ofOptions
    (show (0 : ℝ) < 0.5 by norm_num) (show (0.5 : ℝ) < 1 by norm_num) 0.7 0.3 0.7 .cosmological
  have hc : (expandingContents k).Admissible := expandingContents_admissible (by
    rw [ha]
    norm_num)
  obtain ⟨files₁, files₂, f₁, f₂, hwrite, hread, hwrite', hf₁, hf₂, hheld⟩ :=
    exists_restart hc writable_sampleFile writable_otherFile
  obtain ⟨f, hf, hname, htype, hcells⟩ : ∃ f ∈ FieldDescriptor.writeRegistry,
      f.name = "Velocities" ∧ f.type = .float32 ∧
      f.cellsOf (expandingContents k).context = fun r =>
        (Conversion.velocityOf (expandingContents k).context r).toList.map .single :=
    ⟨FieldDescriptor.writeRegistry[1], List.getElem_mem _, rfl, rfl, rfl⟩
  obtain ⟨d₁, d₂, hd₁, hd₂, hfound₁, hfound₂⟩ := hheld f hf
  have hcouple := Gas.forall_rows hc.couples
  obtain ⟨-, hscaled⟩ :=
    FieldDescriptor.velocities_restored hf hname hc.regular hcouple hd₁ hd₂
  obtain ⟨h, hvalues⟩ :=
    (FieldDescriptor.givesRows_writeRegistry hc.regular hcouple hf).values_datasetOf hd₁
  rw [hname] at hfound₁ hfound₂
  refine ⟨k, files₁, _, files₂, f₁, f₂, d₁, d₂, hk, hc, ?_, hwrite, hread, hwrite', hf₁, hf₂,
    hfound₁, hfound₂, ?_⟩
  · intro p hp
    refine ⟨?_, rho_pos_sampleContents p hp⟩
    simp only [expandingContents, sampleContents, List.mem_cons, List.not_mem_nil,
      or_false] at hp
    rcases hp with rfl | rfl
    · norm_num [sampleParticle]
    · norm_num [sampleParticle]
  · have hfirst : d₁.values.cells.cells.head? = some (.single (4.0 * k.epoch.a2Inv)) := by
      rw [hvalues, Tensor.cells_rows, hcells, ← velocity_firstRow k]
      rfl
    have hsecond : d₂.values.cells.cells.head?
        = some (.single (4.0 * k.epoch.a2Inv * k.epoch.a2Inv)) := by
      have hfloat : d₁.values.type = .float32 := by rw [hvalues, htype]
      have htwice : d₂.values = d₁.values.scaled k.epoch.a2Inv := hscaled
      rw [htwice, NumericArray.scaled, hfloat]
      show (d₁.values.cells.cells.map _).head? = _
      rw [List.head?_map, hfirst]
      rfl
    intro hsame
    rw [hsame, hfirst, ha2] at hsecond
    norm_num at hsecond

end Snapshot

end MeshlessGas
