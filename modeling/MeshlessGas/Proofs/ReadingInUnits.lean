/-
Reading in other units — every leaf that is read, and the gas that a run is started from.

Each field is scaled by the factor of its tag before it is stored in its leaf, so the gas of a file
that is read in other units has the same leaves, scaled.  The first initialisation then scales what
it composes of them.
-/
import MeshlessGas.Proofs.ReadIdentifiers
import MeshlessGas.Proofs.Scaling

namespace MeshlessGas

/-! ## Scaled leaves -/

namespace Cell

/-- A cell times a number; identifiers are not multiplied. -/
def times (factor : ℝ) : Cell ℝ ℝ → Cell ℝ ℝ
  | double x => double (x * factor)
  | single x => single (x * factor)
  | whole n => whole n

theorem times_one (c : Cell ℝ ℝ) : c.times 1 = c := by
  cases c with
  | double x => exact congrArg double (mul_one x)
  | single x => exact congrArg single (mul_one x)
  | whole n => rfl

theorem cast_of_toDouble {t : ElementType} (ht : t = .float64 ∨ t = .float32) {c c' : Cell ℝ ℝ}
    {factor : ℝ} (h : c'.toDouble = c.toDouble * factor) : c'.cast t = (c.cast t).times factor := by
  have hsingle : ∀ x : Cell ℝ ℝ, x.toSingle = x.toDouble := by
    intro x
    cases x <;> rfl
  obtain rfl | rfl := ht
  · exact congrArg double h
  · refine congrArg single ?_
    rw [hsingle, hsingle, h]

end Cell

/-- The tag in which a leaf is read.  What is not read has no unit. -/
def ParticleLeaf.readTag : ParticleLeaf → UnitTag
  | x | h => .length
  | v => .speed
  | aHydro => .acceleration
  | mass => .mass
  | energy => .energyPerUnitMass
  | rho => .density
  | id | gpart | timeBin | momentum | primitiveV | pressure => .noUnits

/-- The tag in which a leaf of the particles is read; their states are not. -/
def GasLeaf.readTag : GasLeaf → UnitTag
  | part l => l.readTag
  | state _ => .noUnits

namespace UnitFactors

variable {k : UnitFactors} {u v : UnitSystem ℝ}

theorem get_loaded (l : ParticleLeaf) (p : Particle ℝ ℝ) :
    (Particle.layout.lens l : Lens (Particle ℝ ℝ) ℝ ℝ).get (k.loaded p)
      = ((Particle.layout.lens l).get p).map (Cell.times (k.factor l.readTag)) := by
  cases l with
  | id | gpart | timeBin | x | v | aHydro | h | mass | energy | rho => rfl
  | momentum | primitiveV | pressure =>
    rw [ParticleLeaf.readTag, k.noUnits, funext Cell.times_one, List.map_id']
    rfl

theorem column_loadedGas (l : GasLeaf) (g : Gas ℝ ℝ) :
    l.column (k.loadedGas g)
      = ⟨(l.column g).type, (l.column g).cells.map (Cell.times (k.factor l.readTag))⟩ := by
  cases l with
  | part l =>
    refine congrArg (NumericArray.mk _) (Tensor.ext ?_ ?_)
    · show (g.parts.map k.loaded).length :: _ = g.parts.length :: _
      rw [List.length_map]
    · show (g.parts.map k.loaded).flatMap _ = (g.parts.flatMap _).map _
      rw [List.flatMap_map, List.map_flatMap]
      exact List.flatMap_congr fun p _ => get_loaded l p
  | state l =>
    refine congrArg (NumericArray.mk _) (Tensor.ext rfl ?_)
    rw [GasLeaf.readTag, k.noUnits, Tensor.cells_map, funext Cell.times_one, List.map_id']
    rfl

theorem loadedGas_atRest (n : ℕ) : k.loadedGas (Gas.atRest n) = Gas.atRest n := by
  have hzero : k.loaded .zero = .zero := by
    simp only [loaded, KindFactors.particle, Particle.zero, Vec3.map, Vec3.replicate, Exact.zero_eq,
      zero_mul]
  have hparts : ((List.range n).map fun _ => (Particle.zero : Particle ℝ ℝ)).map k.loaded
      = (List.range n).map fun _ => .zero := by
    rw [List.map_map]
    exact List.map_congr_left fun _ _ => hzero
  simp only [loadedGas, Gas.atRest, Gas.ofRows, hparts]

end UnitFactors

/-! ## Fields in other units -/

namespace FieldDescriptor

variable {k : UnitFactors} {u v : UnitSystem ℝ} {gamma : ℝ}

theorem exists_inUnits (hk : k.AreBetween u v) {tag : UnitTag} (htag : tag ≠ .entropy)
    {t : ElementType} (ht : tag = .noUnits ∨ t = .float64 ∨ t = .float32) (gamma : ℝ)
    (values : NumericArray ℝ ℝ) :
    ∃ (values' : NumericArray ℝ ℝ) (scale : Cell ℝ ℝ → Cell ℝ ℝ),
      inUnits tag (some ⟨u, v⟩) gamma values = .ok values' ∧
      values'.cells = values.cells.map scale ∧
      ∀ c : Cell ℝ ℝ, (scale c).cast t = (c.cast t).times (k.factor tag) := by
  have hid : values.cells = values.cells.map id := Tensor.ext rfl (List.map_id _).symm
  obtain rfl | ht := ht
  · refine ⟨values, id, inUnits_noUnits _ _ _, hid, fun c => ?_⟩
    rw [k.noUnits, Cell.times_one]
    rfl
  · have hunits : inUnits tag (some ⟨u, v⟩) gamma values
        = .ok (if (Factor.real (k.factor tag)).isOne then values
          else values.scaled (k.factor tag)) := by
      rw [inUnits, hk tag htag gamma]
      rfl
    by_cases hone : (Factor.real (k.factor tag)).isOne = true
    · rw [if_pos hone] at hunits
      refine ⟨values, id, hunits, hid, fun c => Cell.cast_of_toDouble ht ?_⟩
      rw [Factor.isOne_real.mp hone, mul_one]
      rfl
    · rw [if_neg hone] at hunits
      obtain ⟨scale, hcells, hscale⟩ := scaled_eq_map values (k.factor tag)
      exact ⟨_, scale, hunits, hcells, fun c => Cell.cast_of_toDouble ht (hscale c)⟩

theorem reshape?_of_cells {values values' rows : NumericArray ℝ ℝ} {shape : List ℕ}
    {scale : Cell ℝ ℝ → Cell ℝ ℝ} (hcells : values'.cells = values.cells.map scale)
    (h : values.reshape? shape = some rows) :
    values'.reshape? shape = some ⟨values'.type, rows.cells.map scale⟩ := by
  rw [NumericArray.reshape?, Tensor.reshape?] at h ⊢
  by_cases hcount : values.cells.cells.length = cellCount shape
  · have hcount' : values'.cells.cells.length = cellCount shape := by
      rw [hcells, Tensor.cells_map, List.length_map, hcount]
    rw [dif_pos hcount] at h
    obtain rfl := Option.some.inj h
    rw [dif_pos hcount']
    refine congrArg (fun t => some (NumericArray.mk _ t)) (Tensor.ext rfl ?_)
    show values'.cells.cells = values.cells.cells.map scale
    rw [hcells, Tensor.cells_map]
  · rw [dif_neg hcount] at h
    cases h

/-- Every field of the particles has a leaf of its tag, which is one of reals if it has units. -/
theorem units_readRegistry {f : FieldDescriptor} (hf : f ∈ readRegistry) (g : Gas ℝ ℝ) :
    f.units ≠ .entropy ∧ (readLeaf f).readTag = f.units ∧
      (f.units = .noUnits ∨ ((readLeaf f).column g).type = .float64 ∨
        ((readLeaf f).column g).type = .float32) := by
  simp only [readRegistry, List.mem_cons, List.not_mem_nil, or_false] at hf
  rcases hf with rfl | rfl | rfl | rfl | rfl | rfl | rfl | rfl
  case inr.inr.inr.inr.inr.inl => exact ⟨by decide, rfl, .inl rfl⟩
  case inl => exact ⟨by decide, rfl, .inr (.inl rfl)⟩
  all_goals exact ⟨by decide, rfl, .inr (.inr rfl)⟩

/-- What the fields fill particles at rest with in other units is what they fill them with, in
other units. -/
theorem IsFilled.loaded {found : FieldDescriptor → Option (Dataset ℝ ℝ)} {n : ℕ} {g : Gas ℝ ℝ}
    (hk : k.AreBetween u v)
    (h : IsFilled none gamma found readLeaf readRegistry (Gas.atRest n) g) :
    IsFilled (some ⟨u, v⟩) gamma found readLeaf readRegistry (Gas.atRest n) (k.loadedGas g) where
  isRows := by
    have hcount : (k.loadedGas g).parts.length = g.parts.length := List.length_map _
    exact ⟨by rw [hcount]; exact h.isRows.axes, by rw [hcount]; exact h.isRows.states⟩
  length := (List.length_map _).trans h.length
  read := by
    intro f hf d hd
    obtain ⟨_, rows, ⟨⟩, hrows, hcolumn⟩ := h.read f hf d hd
    obtain ⟨hentropy, htag, htype⟩ := units_readRegistry hf (Gas.atRest n)
    obtain ⟨values', scale, hunits, hcells, hscale⟩ :=
      exists_inUnits hk hentropy htype gamma d.values
    refine ⟨values', _, hunits, reshape?_of_cells hcells hrows, ?_⟩
    rw [UnitFactors.column_loadedGas, hcolumn, htag]
    refine congrArg (NumericArray.mk _) ?_
    show (rows.cells.map _).map _ = (rows.cells.map scale).map _
    rw [Tensor.map_map, Tensor.map_map]
    exact Tensor.map_congr fun c _ => (hscale c).symm
  kept := by
    intro l hl
    rw [UnitFactors.column_loadedGas, h.kept l hl, ← UnitFactors.column_loadedGas,
      UnitFactors.loadedGas_atRest]

end FieldDescriptor

/-! ## Units of opened files -/

namespace UnitSystem

theorem hasSizes_of_ofStoredUnits {units : List (BaseDimension × BaseUnit ℝ)} {u : UnitSystem ℝ}
    (h : ofStoredUnits units = .ok u) : u.HasSizes := by
  simp only [ofStoredUnits, Result.bind_eq_ok] at h
  obtain ⟨_, -, _, -, _, -, hchecked⟩ := h
  obtain ⟨rfl, hsizes⟩ := checked_eq_ok.mp hchecked
  exact hsizes

/-! ### Units of centimetres and metres, and of a negative mass -/

theorem sizeInCgs_cgs (d : BaseDimension) : (cgs : UnitSystem ℝ).sizeInCgs d = 1 := by
  cases d <;> norm_num [sizeInCgs, unit?, cgs, BaseUnit.sizeIn, BaseUnit.named,
    BaseDimension.cgsUnit, NamedUnit.size]

/-- Units that count in negative grams, and are those of cgs else. -/
noncomputable def reversed : UnitSystem ℝ := { (cgs : UnitSystem ℝ) with mass := ⟨-1, .gram⟩ }

theorem sizeInCgs_reversed :
    reversed.sizeInCgs .mass = -1 ∧ ∀ d, d ≠ .mass → reversed.sizeInCgs d = 1 := by
  have hmass : reversed.sizeInCgs .mass = -1 := by
    norm_num [sizeInCgs, unit?, reversed, BaseUnit.sizeIn, BaseDimension.cgsUnit, NamedUnit.size]
  refine ⟨hmass, fun d hd => ?_⟩
  have hunit : reversed.unit? d = cgs.unit? d := by
    cases d with
    | mass => exact absurd rfl hd
    | _ => rfl
  rw [sizeInCgs, hunit]
  exact sizeInCgs_cgs d

theorem recoveredUnit_of_abs_eq_one {u : UnitSystem ℝ} {d : BaseDimension}
    (h : |u.sizeInCgs d| = 1) : u.recoveredUnit d = ⟨u.sizeInCgs d, d.cgsUnit⟩ := by
  have hexpress : BaseUnit.express storedBytes (u.sizeInCgs d) d d.cgsUnit = u.sizeInCgs d := by
    rw [BaseUnit.express_eq, div_self (NamedUnit.size_pos _).ne', mul_one]
  have hdistance : BaseUnit.distance storedBytes (u.sizeInCgs d) d d.cgsUnit = 0 := by
    rw [BaseUnit.distance, hexpress]
    show Arithmetic.abs (Real.log (u.sizeInCgs d)) = 0
    rw [Arithmetic.abs_eq, ← Real.log_abs, h, Real.log_one, abs_zero]
  have hdigits : Exact.HasDigits BaseUnit.keptDigits (u.sizeInCgs d) := by
    rcases (abs_eq zero_le_one).mp h with hone | hone
    · exact ⟨1, 0, by norm_num [BaseUnit.keptDigits], by norm_num [hone]⟩
    · exact ⟨-1, 0, by norm_num [BaseUnit.keptDigits], by norm_num [hone]⟩
  have hclosest : BaseUnit.closestCommon storedBytes (u.sizeInCgs d) d = d.cgsUnit :=
    BaseUnit.closest_eq_first fun _ _ => hdistance.trans_le BaseUnit.distance_nonneg
  rw [recoveredUnit, BaseUnit.ofStored, hclosest, hexpress]
  exact congrArg (BaseUnit.mk · _) hdigits.roundDigits_eq

theorem sizeInCgs_recovered_reversed (d : BaseDimension) :
    reversed.recovered.sizeInCgs d = reversed.sizeInCgs d := by
  obtain ⟨hmass, hothers⟩ := sizeInCgs_reversed
  have habs : |reversed.sizeInCgs d| = 1 := by
    by_cases hd : d = .mass
    · rw [hd, hmass, abs_neg, abs_one]
    · rw [hothers d hd, abs_one]
  have hsize : reversed.recovered.sizeInCgs d = (reversed.recoveredUnit d).sizeIn d := by
    rw [sizeInCgs, unit?_recovered]
  rw [hsize, recoveredUnit_of_abs_eq_one habs, BaseUnit.sizeIn,
    mul_div_cancel_right₀ _ (NamedUnit.size_pos _).ne']

theorem hasSizes_recovered_reversed : reversed.recovered.HasSizes := by
  obtain ⟨hmass, hothers⟩ := sizeInCgs_reversed
  intro d
  rw [sizeInCgs_recovered_reversed]
  by_cases hd : d = .mass
  · norm_num [hd, hmass]
  · norm_num [hothers d hd]

theorem checked_recovered_reversed : reversed.recovered.checked = .ok reversed.recovered :=
  checked_eq_ok.mpr ⟨rfl, hasSizes_recovered_reversed⟩

end UnitSystem

namespace Snapshot

open FieldDescriptor (readRegistry readLeaf offered IsFilled)

variable {files : Directory ℝ ℝ} {file : String} {handle : Option Handle} {s : Snapshot ℝ ℝ}
  {notices : List Notice} {u v : UnitSystem ℝ} {scheme : Scheme ℝ} {gas : Gas ℝ ℝ}

theorem hasSizes_of_openFile (hopen : (openFile files file handle).result = (.ok s, notices))
    (hunits : s.units = some u) : u.HasSizes := by
  obtain ⟨f, _, -, hread⟩ := Run.bind_eq_ok.mp hopen
  obtain ⟨units, _, hstored, hrest⟩ := Run.bind_eq_ok.mp hread
  obtain ⟨count, _, -, hpure⟩ := Run.bind_eq_ok.mp hrest
  cases hpure
  obtain rfl : units = some u := hunits
  rw [unitsOf?] at hstored
  cases hattributes : f.attributes? [UnitSystem.groupName] with
  | none =>
    rw [hattributes] at hstored
    cases hstored
  | some attributes =>
    rw [hattributes] at hstored
    obtain ⟨u', _, hsystem, hpure⟩ := Run.bind_eq_ok.mp hstored
    cases hpure
    obtain ⟨stored, _, -, hchecked⟩ := Run.bind_eq_ok.mp hsystem
    exact UnitSystem.hasSizes_of_ofStoredUnits (Run.liftM_eq_ok.mp hchecked).1

/-! ## The gas of a file in other units -/

theorem pressure_of_isFilled {change : Option (UnitChange ℝ)} {gamma : ℝ} {n : ℕ} {g : Gas ℝ ℝ}
    {found : FieldDescriptor → Option (Dataset ℝ ℝ)}
    (h : IsFilled change gamma found readLeaf readRegistry (Gas.atRest n) g) :
    ∀ p ∈ g.parts, p.primitives.pressure = 0 := by
  have hkept := h.kept (.part .pressure) fun f hf _ => by
    simp only [readRegistry, List.mem_cons, List.not_mem_nil, or_false] at hf
    rcases hf with rfl | rfl | rfl | rfl | rfl | rfl | rfl | rfl <;> decide
  have hcells : g.parts.flatMap (fun p => [(Cell.single p.primitives.pressure : Cell ℝ ℝ)])
      = (Gas.atRest n : Gas ℝ ℝ).parts.flatMap fun p => [.single p.primitives.pressure] :=
    congrArg (fun a => a.cells.cells) hkept
  intro p hp
  have hmem : Cell.single p.primitives.pressure
      ∈ g.parts.flatMap fun p => [(Cell.single p.primitives.pressure : Cell ℝ ℝ)] :=
    List.mem_flatMap.mpr ⟨p, hp, List.mem_singleton.mpr rfl⟩
  rw [hcells] at hmem
  obtain ⟨q, hq, hcell⟩ := List.mem_flatMap.mp hmem
  obtain ⟨-, -, rfl⟩ := List.mem_map.mp hq
  exact (Cell.single.inj (List.mem_singleton.mp hcell)).trans Exact.zero_eq

/-- The gas of a file that can be read is read in other units as well, and is the same in these
units. -/
theorem exists_gasScales {k : UnitFactors} (hk : k.AreBetween u v) (hunits : s.units = some u)
    {f : Archive ℝ ℝ} (hfile : files.read s.file = .ok f)
    (hreadable : s.IsReadableFrom f none scheme.gamma) :
    ∃ gas gas', s.readParticles files scheme none true = .ok gas ∧
      s.readParticles files scheme (some v) true = .ok gas' ∧ k.GasScales gas gas' := by
  have hnone : UnitChange.between s.units none = none := by
    rw [hunits]
    rfl
  have hsome : UnitChange.between s.units (some v) = some ⟨u, v⟩ := by
    rw [hunits]
    rfl
  have hother : s.IsReadableFrom f (some ⟨u, v⟩) scheme.gamma :=
    hreadable.of_factors fun field hfield =>
      ⟨_, hk _ (FieldDescriptor.units_readRegistry hfield (Gas.atRest 0)).1 _⟩
  rw [← hnone] at hreadable
  rw [← hsome] at hother
  obtain ⟨g, hfilled, hread⟩ := hreadable.exists_filled hfile
  obtain ⟨g', hfilled', hread'⟩ := hother.exists_filled hfile
  rw [hnone] at hfilled
  rw [hsome] at hfilled'
  obtain rfl : k.loadedGas g = g' := (hfilled.loaded hk).unique hfilled'
  exact ⟨_, _, hread true, hread' true,
    UnitFactors.gasScales_firstInit scheme.gamma scheme.totalEnergy (pressure_of_isFilled hfilled)⟩

/-! ### A file of one particle that states its units -/

/-- The file of the particle that states some units. -/
noncomputable def statedArchive (u : UnitSystem ℝ) : Archive ℝ ℝ :=
  loneArchive (Writing.storeAll [] (Contents.unitAttributes u))

noncomputable def statedDirectory (u : UnitSystem ℝ) : Directory ℝ ℝ :=
  loneDirectory (Writing.storeAll [] (Contents.unitAttributes u))

theorem openFile_stated (hu : u.recovered.checked = .ok u.recovered) :
    (openFile (statedDirectory u) "ics.hdf5" none).result
      = (.ok (loneSnapshot (some u.recovered)), []) := by
  refine openFile_lone _ ?_
  rw [UnitSystem.ofAttributes_unitAttributes, hu]
  rfl

/-- A scheme in which the pressure is the product of density and specific energy. -/
noncomputable def gammaTwoScheme : Scheme ℝ := { (Scheme.standard : Scheme ℝ) with gamma := 2.0 }

noncomputable def readyGas : Gas ℝ ℝ :=
  loneGas.firstInit gammaTwoScheme.gamma gammaTwoScheme.totalEnergy

theorem readParticles_stated :
    (loneSnapshot (some u.recovered)).readParticles (statedDirectory u) gammaTwoScheme none true
      = .ok readyGas :=
  readParticles_lone _ gammaTwoScheme

theorem pressure_readyGas : readyGas.parts.map (·.primitives.pressure) = [1] := by
  refine congrArg (fun x : ℝ => [x]) ((Particle.pressure_firstInit _ _).trans ?_)
  show (if (0 : ℝ) < 1.0 then (2.0 - 1) * 1.0 * 1.0 else 0.0) = (1 : ℝ)
  norm_num

/-! ### Reading -/

/-- A file that states its units is read in positive units exactly if it is read in its own, and
the gas that is made ready for a run is then the same in these units, with the factors of their
tags.  Only the pressures of densities that change their signs are not: these are the densities of
a file whose units of mass and of length have sizes of different signs. -/
theorem readParticles_inUnits (hopen : (openFile files file handle).result = (.ok s, notices))
    (hunits : s.units = some u) (hv : v.Positive) (scheme : Scheme ℝ) :
    ∃ k : UnitFactors, k.AreBetween u v ∧
      (0 < k.factor .density ↔ 0 < u.sizeInCgs .mass * u.sizeInCgs .length) ∧
      (∀ gas, s.readParticles files scheme none true = .ok gas →
        ∃ gas', s.readParticles files scheme (some v) true = .ok gas' ∧ k.GasScales gas gas') ∧
      ∀ gas', s.readParticles files scheme (some v) true = .ok gas' →
        ∃ gas, s.readParticles files scheme none true = .ok gas ∧ k.GasScales gas gas' := by
  have hu := hasSizes_of_openFile hopen hunits
  have hk := UnitFactors.areBetween_between hu hv.hasSizes
  -- Either reading shows that the file can be read, whatever the units.
  have hboth : ∀ wanted gas, s.readParticles files scheme wanted true = .ok gas →
      ∃ f, files.read s.file = .ok f ∧ s.IsReadableFrom f none scheme.gamma := by
    intro wanted gas hgas
    obtain ⟨_, -, hopened⟩ := Result.bind_eq_ok.mp hgas
    obtain ⟨f, hfile, -⟩ := Result.bind_eq_ok.mp hopened
    exact ⟨f, hfile, (isReadableFrom_of_readParticles hfile hgas).without_units⟩
  refine ⟨_, hk, UnitFactors.density_pos_iff hu hv, fun gas hgas => ?_, fun gas' hgas' => ?_⟩
  · obtain ⟨f, hfile, hreadable⟩ := hboth none gas hgas
    obtain ⟨gas₁, gas', hgas₁, hgas', hscales⟩ := exists_gasScales hk hunits hfile hreadable
    obtain rfl := Except.ok.inj (hgas.symm.trans hgas₁)
    exact ⟨gas', hgas', hscales⟩
  · obtain ⟨f, hfile, hreadable⟩ := hboth (some v) gas' hgas'
    obtain ⟨gas, gas₁, hgas, hgas₁, hscales⟩ := exists_gasScales hk hunits hfile hreadable
    obtain rfl := Except.ok.inj (hgas'.symm.trans hgas₁)
    exact ⟨gas, hgas, hscales⟩

/-- A file in units of centimetres, grams and seconds is read in units of metres. -/
theorem readParticles_inUnits_metres :
    ∃ (s : Snapshot ℝ ℝ) (u : UnitSystem ℝ) (k : UnitFactors) (gas gas' : Gas ℝ ℝ),
      (openFile (statedDirectory .cgs) "ics.hdf5" none).result = (.ok s, []) ∧
      s.units = some u ∧ (UnitSystem.mks : UnitSystem ℝ).Positive ∧ k.AreBetween u .mks ∧
      s.readParticles (statedDirectory .cgs) gammaTwoScheme none true = .ok gas ∧
      s.readParticles (statedDirectory .cgs) gammaTwoScheme (some .mks) true = .ok gas' ∧
      0 < k.factor .density ∧ k.GasScales gas gas' := by
  have hopen := openFile_stated UnitSystem.cgs_positive.checked_recovered
  have hrecovered := UnitSystem.cgs_positive.recovered
  obtain ⟨k, hk, hdensity, hread, -⟩ :=
    readParticles_inUnits hopen rfl UnitSystem.mks_positive gammaTwoScheme
  obtain ⟨gas', hgas', hscales⟩ := hread _ readParticles_stated
  exact ⟨_, _, k, _, gas', hopen, rfl, UnitSystem.mks_positive, hk, readParticles_stated, hgas',
    hdensity.mpr (mul_pos (hrecovered .mass) (hrecovered .length)), hscales⟩

/-- A file that counts in negative grams has negative densities in positive units: the pressure of
its particle is then not one times the factor of a pressure, but none. -/
theorem pressure_lost_in_positive_units :
    ∃ (s : Snapshot ℝ ℝ) (u : UnitSystem ℝ) (gas gas' : Gas ℝ ℝ) (factor : ℝ),
      (openFile (statedDirectory .reversed) "ics.hdf5" none).result = (.ok s, []) ∧
      s.units = some u ∧ (UnitSystem.cgs : UnitSystem ℝ).Positive ∧
      s.readParticles (statedDirectory .reversed) gammaTwoScheme none true = .ok gas ∧
      s.readParticles (statedDirectory .reversed) gammaTwoScheme (some .cgs) true = .ok gas' ∧
      UnitTag.pressure.conversionFactor u .cgs gammaTwoScheme.gamma = .ok (.real factor) ∧
      gas.parts.map (·.primitives.pressure) = [1] ∧
      gas'.parts.map (·.primitives.pressure) = [0] ∧
      gas'.parts.map (·.primitives.pressure)
        ≠ gas.parts.map (·.primitives.pressure * factor) := by
  have hu := UnitSystem.hasSizes_recovered_reversed
  have hv := UnitSystem.cgs_positive
  have hk := UnitFactors.areBetween_between hu hv.hasSizes
  have hopen := openFile_stated UnitSystem.checked_recovered_reversed
  have hfile : (statedDirectory .reversed).read
      (loneSnapshot (some UnitSystem.reversed.recovered) : Snapshot ℝ ℝ).file
        = .ok (statedArchive .reversed) := read_loneDirectory _
  have hreadable : (loneSnapshot (some UnitSystem.reversed.recovered)).IsReadableFrom
      (statedArchive .reversed) none gammaTwoScheme.gamma := isReadableFrom_lone _ _ _
  obtain ⟨gas, gas', hgas, hgas', hscales⟩ := exists_gasScales hk rfl hfile hreadable
  obtain rfl := Except.ok.inj (hgas.symm.trans readParticles_stated)
  obtain ⟨p', rest, hp, hrest, hparts⟩ := List.forall₂_cons_left_iff.mp hscales.parts
  obtain rfl := List.forall₂_nil_left_iff.mp hrest
  obtain ⟨hmass, hothers⟩ := UnitSystem.sizeInCgs_reversed
  have hratio : ∀ d, UnitSystem.reversed.recovered.ratio .cgs d
      = UnitSystem.reversed.sizeInCgs d := by
    intro d
    rw [UnitSystem.ratio, UnitSystem.sizeInCgs_recovered_reversed, UnitSystem.sizeInCgs_cgs, div_one]
  obtain ⟨-, -, -, hdensity, -, hpressure⟩ :=
    UnitFactors.composed_eq UnitSystem.reversed.recovered .cgs
  simp only [hratio, hmass, hothers .length (by decide), hothers .time (by decide), one_pow,
    inv_one, mul_one] at hdensity hpressure
  have hafter : gas'.parts.map (·.primitives.pressure) = [0] := by
    have hnegative : (UnitFactors.between hu hv.hasSizes).factor .density < 0 :=
      hdensity.trans_lt (by norm_num)
    have hrho : (0 : ℝ) < 1.0 := by norm_num
    rw [hparts]
    exact congrArg (fun x : ℝ => [x]) (hp.pressure_reversed hnegative hrho)
  have hscaled : readyGas.parts.map
      (·.primitives.pressure * (UnitFactors.between hu hv.hasSizes).factor .pressure) = [-1] := by
    have hfactor : (UnitFactors.between hu hv.hasSizes).factor .pressure = -1 := hpressure
    have hmap := congrArg (List.map (· * (-1 : ℝ))) pressure_readyGas
    rw [List.map_map, List.map_cons, one_mul] at hmap
    rw [hfactor]
    exact hmap
  refine ⟨_, _, _, gas', _, hopen, rfl, hv, hgas, hgas', hk .pressure (by decide) _,
    pressure_readyGas, hafter, ?_⟩
  rw [hafter, hscaled]
  norm_num

end Snapshot

end MeshlessGas
