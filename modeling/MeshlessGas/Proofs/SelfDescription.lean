/-
Self-description — the factors of a dataset follow from the rest of its file.

The same information is written in four places: the sizes of the base units with the units, the
scale factor and the number of particles in the header, exponents and factors beside each
dataset, and the rows of the dataset itself.  A reader that multiplies the sizes to the stored
exponents gets the stored factors, and with them what reading the dataset gives.
-/
import MeshlessGas.Proofs.Energies

namespace MeshlessGas

open Writing (storeAll)

/-! ## Rows of datasets -/

namespace FieldDescriptor

variable {D S : Type}
variable {f : FieldDescriptor} {gas : Gas D S} {values : NumericArray D S}

theorem shape_of_reshaped {shape : List Nat} {a : NumericArray D S}
    (h : f.reshaped shape a = .ok values) : values.shape = shape := by
  unfold reshaped at h
  split at h
  · cases hreshape : a.reshape? shape with
    | none =>
      rw [hreshape] at h
      cases h
    | some b =>
      rw [hreshape] at h
      obtain rfl := Except.ok.inj h
      simp only [NumericArray.reshape?, Tensor.reshape?] at hreshape
      split at hreshape
      · obtain rfl := Option.some.inj hreshape
        rfl
      · cases hreshape
  · cases h

theorem kind_writeRegistry (hf : f ∈ writeRegistry) :
    (∃ converter, f.kind = .converted converter) ∨ ∃ path, f.kind = .stored path .parts := by
  simp only [writeRegistry, List.mem_cons, List.not_mem_nil, or_false] at hf
  rcases hf with rfl | rfl | rfl | rfl | rfl | rfl | rfl | rfl | rfl | rfl | rfl
  · exact .inl ⟨_, rfl⟩
  · exact .inl ⟨_, rfl⟩
  · exact .inr ⟨_, rfl⟩
  · exact .inr ⟨_, rfl⟩
  · exact .inl ⟨_, rfl⟩
  · exact .inr ⟨_, rfl⟩
  · exact .inr ⟨_, rfl⟩
  · exact .inl ⟨_, rfl⟩
  · exact .inr ⟨_, rfl⟩
  · exact .inl ⟨_, rfl⟩
  · exact .inl ⟨_, rfl⟩

variable {R L : Type} {layout : Layout R D S L} {n : Nat}

theorem shape_of_storedColumn {path : List String} {rs : List R}
    (h : storedColumn layout f path rs = .ok values) : values.shape = f.rowShape rs.length := by
  rw [storedColumn, Result.bind_eq_ok] at h
  obtain ⟨target, -, h⟩ := h
  cases target with
  | leaf _ => exact shape_of_reshaped h
  | node _ => cases h

theorem shape_of_selectedNumbers {axes : List Nat} {rs : List R}
    (h : f.selectedNumbers layout (n :: axes) rs = .ok values) :
    values.shape = f.rowShape n := by
  have hwithin : f.rowShapeWithin (n :: axes) = .ok (f.rowShape n) := rfl
  simp only [selectedNumbers, hwithin, Result.ok_bind, Result.bind_eq_ok] at h
  obtain ⟨selection, -, h⟩ := h
  -- One number at the end of the steps, or a group of a single one.
  split at h
  next =>
    obtain ⟨_, -, h⟩ := Result.bind_eq_ok.mp h
    exact shape_of_reshaped h
  next =>
    split at h
    · obtain ⟨_, -, h⟩ := Result.bind_eq_ok.mp h
      exact shape_of_reshaped h
    · cases h
  next => cases h

theorem axes_of_rowCount (h : gas.rowCount = .ok n) : ∃ axes, gas.axes = n :: axes := by
  cases haxes : gas.axes with
  | nil =>
    rw [Gas.rowCount, haxes] at h
    cases h
  | cons m axes =>
    rw [Gas.rowCount, haxes] at h
    obtain rfl : m = n := Except.ok.inj h
    exact ⟨axes, rfl⟩

variable [Transcendental D] [Arithmetic S] [Narrowing D S] {context : Context D S}

theorem rowCount_of_numbersOf (hf : f ∈ writeRegistry)
    (h : f.numbersOf (some context) gas = .ok values) (hn : gas.rowCount = .ok n) :
    values.rowCount = .ok n := by
  obtain ⟨axes, haxes⟩ := axes_of_rowCount hn
  have hshape : values.shape = f.rowShape n := by
    unfold numbersOf at h
    split at h
    next hrow =>
      have hrow : gas.axes = [gas.parts.length] := of_decide_eq_true hrow
      have hcount : gas.parts.length = n := by
        rw [haxes] at hrow
        exact (List.cons.inj hrow).1.symm
      rw [← hcount]
      rcases kind_writeRegistry hf with ⟨converter, hkind⟩ | ⟨path, hkind⟩
      · simp only [numbers, hkind, Result.bind_eq_ok] at h
        obtain ⟨_, -, h⟩ := h
        exact shape_of_reshaped h
      · simp only [numbers, hkind] at h
        exact shape_of_storedColumn h
    next =>
      have hwithin : f.rowShapeWithin (n :: axes) = .ok (f.rowShape n) := rfl
      rcases kind_writeRegistry hf with ⟨converter, hkind⟩ | ⟨path, hkind⟩
      · simp only [numbersWithin, hkind, haxes, hwithin, Result.ok_bind, Result.bind_eq_ok] at h
        obtain ⟨_, -, h⟩ := h
        exact shape_of_reshaped h
      · simp only [numbersWithin, hkind, FieldKind.source?, haxes] at h
        exact shape_of_selectedNumbers h
  rw [NumericArray.rowCount, hshape]
  rfl

end FieldDescriptor

/-! ## Attributes of a dataset -/

noncomputable def factorOf (size exponent : BaseDimension → ℝ) : ℝ :=
  (BaseDimension.all.map fun d => size d ^ exponent d).prod

theorem UnitTag.prod_exponents (tag : UnitTag) (gamma : ℝ) (size : BaseDimension → ℝ) :
    ((tag.exponents gamma).map fun x => size x.1 ^ x.2.toReal).prod
      = factorOf size fun d => (tag.exponent gamma d).toReal := by
  cases tag <;>
    simp only [factorOf, exponent, exponents, BaseDimension.all, List.find?_cons, List.find?_nil,
      reduceCtorEq, decide_false, decide_true, Option.map_some, Option.map_none,
      Option.getD_some, Option.getD_none, List.map_cons, List.map_nil, List.prod_cons,
      List.prod_nil, Exponent.toReal, Exact.zero_eq, Real.rpow_zero, one_mul, mul_one]

/-- The first number of an attribute among others. -/
noncomputable def statedNumber? (attributes : Table (Attribute ℝ ℝ)) (name : String) : Option ℝ :=
  (attributes.find? name).bind fun a => a.firstReal.toOption

theorem statedNumber?_of_find? {attributes : Table (Attribute ℝ ℝ)} {name : String}
    {a : Attribute ℝ ℝ} (h : attributes.find? name = some a) {x : ℝ} (hx : a.firstReal = .ok x) :
    statedNumber? attributes name = some x := by
  rw [statedNumber?, h, Option.bind_some, hx]
  rfl

theorem statedNumber?_of_reals {attributes : Table (Attribute ℝ ℝ)} {name : String} {x : ℝ}
    (h : attributes.find? name = some (.reals [x])) : statedNumber? attributes name = some x := by
  have hnumber : (Attribute.reals [x] : Attribute ℝ ℝ).firstReal = .ok x := rfl
  exact statedNumber?_of_find? h hnumber

namespace FieldDescriptor

theorem statedNumber?_exponent (toCgs toPhysical scaleExponent : ℝ) (description : String)
    (exponent : BaseDimension → Exponent ℝ) (d : BaseDimension) :
    statedNumber? (storeAll [] (statements toCgs toPhysical scaleExponent description exponent))
      (exponentName d) = some (exponent d).toReal := by
  have hmem : (exponentName d, (exponentAttribute (exponent d) : Attribute ℝ ℝ))
      ∈ statements toCgs toPhysical scaleExponent description exponent := by
    cases d <;> simp [statements]
  have hname : Path.beforeNull (exponentName d) = exponentName d := by
    cases d <;> decide
  have hnumber : (exponentAttribute (exponent d) : Attribute ℝ ℝ).firstReal
      = .ok (exponent d).toReal := by
    cases exponent d <;> rfl
  exact statedNumber?_of_find? (find?_statements _ _ _ _ _ hmem hname) hnumber

variable {f : FieldDescriptor} {u : UnitSystem ℝ}

theorem attributes_of_positive (hf : f.IsPlain) (hu : u.Positive) {a : ℝ} (ha : 0 < a)
    (gamma : ℝ) : ∃ description, f.attributes u a gamma
      = .ok (statements (factorOf u.sizeInCgs fun d => (f.units.exponent gamma d).toReal)
          ((factorOf u.sizeInCgs fun d => (f.units.exponent gamma d).toReal)
            * a ^ scaleExponent f.name gamma)
          (scaleExponent f.name gamma) description (f.units.exponent gamma)
            : List (String × Attribute ℝ ℝ)) := by
  have hcgs := UnitTag.cgsFactor_of_positive hu f.units gamma
  rw [UnitTag.prod_exponents] at hcgs
  exact attributes_of_factors hf hcgs (Factor.power_of_pos ha _)

end FieldDescriptor

/-! ## Datasets that agree with their file -/

/-- A dataset whose attributes and rows agree with what its file states elsewhere: the sizes of
the base units, the scale factor, and the number of particles. -/
structure Dataset.AgreesWith (d : Dataset ℝ ℝ) (size : BaseDimension → ℝ) (a : ℝ) (count : ℕ)
    (exponent : BaseDimension → ℝ) (scaleExponent : ℝ) : Prop where
  exponents : ∀ dim, statedNumber? d.attributes (FieldDescriptor.exponentName dim)
    = some (exponent dim)
  scale : statedNumber? d.attributes "a-scale exponent" = some scaleExponent
  toCgs : statedNumber? d.attributes FieldDescriptor.cgsFactorName
    = some (factorOf size exponent)
  toPhysical : statedNumber? d.attributes FieldDescriptor.physicalFactorName
    = some (factorOf size exponent * a ^ scaleExponent)
  rows : d.values.rowCount = .ok count
  readAs : Quantity.physical d = .ok (.doubles (d.values.cells.map fun x =>
    x.toDouble * (factorOf size exponent * a ^ scaleExponent)))

theorem Dataset.agreesWith_of_statements {d : Dataset ℝ ℝ} {size : BaseDimension → ℝ} {a : ℝ}
    {count : ℕ} {exponent : BaseDimension → Exponent ℝ} {scaleExponent : ℝ} (description : String)
    (hattributes : d.attributes = storeAll [] (FieldDescriptor.statements
      (factorOf size fun dim => (exponent dim).toReal)
      ((factorOf size fun dim => (exponent dim).toReal) * a ^ scaleExponent)
      scaleExponent description exponent))
    (hformat : d.format = .plain) (hrows : d.values.rowCount = .ok count) :
    d.AgreesWith size a count (fun dim => (exponent dim).toReal) scaleExponent := by
  have hfind : ∀ {name : String} {x : ℝ}, (name, Attribute.reals [x]) ∈
      (FieldDescriptor.statements (factorOf size fun dim => (exponent dim).toReal)
        ((factorOf size fun dim => (exponent dim).toReal) * a ^ scaleExponent) scaleExponent
        description exponent : List (String × Attribute ℝ ℝ)) →
      Path.beforeNull name = name → d.attributes.find? name = some (.reals [x]) := by
    intro name x hmem hname
    rw [hattributes]
    exact FieldDescriptor.find?_statements _ _ _ _ _ hmem hname
  have hphysical : d.attributes.find? FieldDescriptor.physicalFactorName = some (.reals
      [(factorOf size fun dim => (exponent dim).toReal) * a ^ scaleExponent]) :=
    hfind (by simp [FieldDescriptor.statements]) (by decide)
  have hcgs : d.attributes.find? FieldDescriptor.cgsFactorName = some (.reals
      [factorOf size fun dim => (exponent dim).toReal]) :=
    hfind (by simp [FieldDescriptor.statements]) (by decide)
  have hscale : d.attributes.find? "a-scale exponent" = some (.reals [scaleExponent]) :=
    hfind (by simp [FieldDescriptor.statements]) (by decide)
  refine ⟨fun dim => ?_, statedNumber?_of_reals hscale, statedNumber?_of_reals hcgs,
    statedNumber?_of_reals hphysical, hrows, Quantity.physical_eq hformat hphysical⟩
  rw [hattributes]
  exact FieldDescriptor.statedNumber?_exponent _ _ _ _ exponent dim

/-- The dataset of a field agrees with the units and the scale factor it was made with. -/
theorem FieldDescriptor.agreesWith_datasetOf {f : FieldDescriptor} (hf : f ∈ writeRegistry)
    {context : Context ℝ ℝ} {gas : Gas ℝ ℝ} {u : UnitSystem ℝ} (hu : u.Positive)
    (ha : 0 < context.a) {count : ℕ} (hcount : gas.rowCount = .ok count) {d : Dataset ℝ ℝ}
    (hd : f.datasetOf context gas u = .ok d) :
    d.AgreesWith u.sizeInCgs context.a count
      (fun dim => (f.units.exponent context.scheme.gamma dim).toReal)
      (scaleExponent f.name context.scheme.gamma) := by
  obtain ⟨description, hattributes⟩ :=
    attributes_of_positive (isPlain_writeRegistry hf) hu ha context.scheme.gamma
  rw [datasetOf, hattributes, Result.bind_eq_ok] at hd
  obtain ⟨values, hvalues, hd⟩ := hd
  have hd := Except.ok.inj hd
  refine Dataset.agreesWith_of_statements description ?_ ?_ ?_
  · rw [← hd]
  · rw [← hd]
  · have hcast : (values.cast f.type).rowCount = values.rowCount := rfl
    rw [← hd, hcast, rowCount_of_numbersOf hf hvalues hcount]

/-! ## Snapshots -/

namespace Snapshot

noncomputable def statedCount? (header : Table (Attribute ℝ ℝ)) : Option ℤ :=
  (header.find? countName).bind fun counts => (counts.first >>= Entry.toInt).toOption

/-- What a file states of all its particles: the sizes of the base units, the scale factor, and
the number of particles. -/
structure States (f : Archive ℝ ℝ) (size : BaseDimension → ℝ) (a : ℝ) (count : ℕ) : Prop where
  units : ∃ attributes, f.attributes? [UnitSystem.groupName] = some attributes ∧
    ∀ dim, statedNumber? attributes dim.attributeName = some (size dim)
  header : ∃ attributes, f.attributes? [headerGroup] = some attributes ∧
    statedNumber? attributes scaleFactorName = some a ∧ statedCount? attributes = some count

variable {c : Contents ℝ ℝ} {files files' : Directory ℝ ℝ} {file : String}

theorem statedNumber?_units (u : UnitSystem ℝ) (dim : BaseDimension) :
    statedNumber? (storeAll [] (Contents.unitAttributes u)) dim.attributeName
      = some (u.sizeInCgs dim) := by
  have hfind : (storeAll [] (Contents.unitAttributes u) : Table (Attribute ℝ ℝ)).find?
      dim.attributeName = some (.reals [u.sizeInCgs dim]) := by
    rw [UnitSystem.storeAll_unitAttributes]
    cases dim <;> rfl
  exact statedNumber?_of_reals hfind

theorem states_archiveOf {header properties : List (String × Attribute ℝ ℝ)}
    {particles : Group ℝ ℝ} (hheader : c.header = .ok header) {count : ℕ}
    (hcount : c.gas.rowCount = .ok count) :
    States (c.archiveOf header properties particles) c.units.sizeInCgs c.context.a count := by
  obtain ⟨hcounts, hscale⟩ := find?_header hheader hcount
  have hfirst : statedCount? (storeAll [] header) = some (count : ℤ) := by
    rw [statedCount?, hcounts]
    rfl
  have hunits : (c.archiveOf header properties particles).attributes? [UnitSystem.groupName]
      = some (storeAll [] (Contents.unitAttributes c.units)) := by
    rw [attributes?_archiveOf header properties particles
      (c.find?_archiveOf_units header properties particles)]
  have hattributes : (c.archiveOf header properties particles).attributes? [headerGroup]
      = some (storeAll [] header) := by
    rw [attributes?_archiveOf header properties particles
      (c.find?_archiveOf_header header properties particles)]
  exact ⟨⟨_, hunits, statedNumber?_units c.units⟩,
    ⟨_, hattributes, statedNumber?_of_reals hscale, hfirst⟩⟩

/-- In the file of a snapshot every dataset of the particles agrees with the units and the
header: its factors are the powers of the stored sizes and of the stored scale factor that its
own exponents name, reading it multiplies by them, and it has a row for each particle. -/
theorem agreesWith_of_write (hu : c.units.Positive)
    (hmade : ∀ k ∈ c.context.cosmology, k.IsAccepted)
    (hwrite : write files file c = (.ok (), files')) :
    ∃ f size a count, files'.read file = .ok f ∧ States f size a count ∧
      (∀ x ∈ FieldDescriptor.writeRegistry, ∃ d, f.dataset? [particleGroup, x.name] = some d) ∧
      ∀ name d, f.dataset? [particleGroup, name] = some d →
        ∃ exponent scaleExponent, d.AgreesWith size a count exponent scaleExponent := by
  obtain ⟨ha, -⟩ := Context.a_of_isAccepted hmade
  obtain ⟨header, properties, particles, hheader, hparticles, hread, -⟩ := read_of_write hwrite
  obtain ⟨count, hcount⟩ : ∃ count, c.gas.rowCount = .ok count := by
    rw [Contents.header, Result.bind_eq_ok] at hheader
    obtain ⟨count, hcount, -⟩ := hheader
    exact ⟨count, hcount⟩
  have hdataset : ∀ name, (c.archiveOf header properties particles).dataset?
      [particleGroup, name] = particles.datasets.find? name := by
    intro name
    show ((c.archiveOf header properties particles).groups.find? particleGroup).bind
      (fun g => g.datasets.find? name) = _
    rw [c.find?_archiveOf_particles header properties particles, Option.bind_some]
  obtain ⟨hthere, hothers⟩ := FieldDescriptor.find?_storeAll (by decide) hparticles
  refine ⟨_, _, _, count, hread, states_archiveOf hheader hcount, fun x hx => ?_,
    fun name d hd => ?_⟩
  · obtain ⟨d, -, hfound⟩ := hthere x hx
    exact ⟨d, (hdataset x.name).trans hfound⟩
  · rw [hdataset] at hd
    by_cases hname : name ∈ FieldDescriptor.writeRegistry.map FieldDescriptor.name
    · obtain ⟨x, hx, rfl⟩ := List.mem_map.mp hname
      obtain ⟨d', hmade', hfound⟩ := hthere x hx
      obtain rfl := Option.some.inj (hd.symm.trans hfound)
      exact ⟨_, _, FieldDescriptor.agreesWith_datasetOf hx hu ha hcount hmade'⟩
    · rw [hothers name hname] at hd
      cases hd

/-- The densities of the sample, written at half of today's scale factor. -/
theorem agreesWith_of_write_expanding :
    ∃ k files' f size a count d exponent scaleExponent,
      Cosmology.ofOptions (Cosmology.flatOptions 0.7 (1 / 2) 1 0.3 0.7) .cosmological = .ok k ∧
      write {} "a.hdf5" (expandingContents k) = (.ok (), files') ∧
      files'.read "a.hdf5" = .ok f ∧ States f size a count ∧
      f.dataset? [particleGroup, "Density"] = some d ∧
      d.AgreesWith size a count exponent scaleExponent := by
  obtain ⟨k, hk, ha, -⟩ := Cosmology.exists_ofOptions (show (0 : ℝ) < 1 / 2 by norm_num)
    (show (1 / 2 : ℝ) < 1 by norm_num) 0.7 0.3 0.7 .cosmological
  have hpos : 0 < k.epoch.a := by
    rw [ha]
    norm_num
  have hc := expandingContents_admissible hpos
  have hmade : ∀ k' ∈ (expandingContents k).context.cosmology, k'.IsAccepted := by
    intro k' hk'
    obtain rfl := Option.some.inj hk'
    exact Cosmology.isAccepted_of_ofOptions hk
  obtain ⟨files', hwrite⟩ := hc.exists_write writable_sampleFile
  obtain ⟨f, size, a, count, hread, hstates, hthere, hagree⟩ :=
    agreesWith_of_write hc.units hmade hwrite
  obtain ⟨d, hd⟩ := hthere FieldDescriptor.writeRegistry[6] (List.getElem_mem _)
  obtain ⟨exponent, scaleExponent, hdataset⟩ := hagree "Density" d hd
  exact ⟨k, files', f, size, a, count, d, exponent, scaleExponent, hk, hwrite, hread, hstates,
    hd, hdataset⟩

end Snapshot

end MeshlessGas
