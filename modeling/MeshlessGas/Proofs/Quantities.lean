/-
Quantities of a written snapshot — its datasets in physical cgs units.

Beside each dataset stands a factor: the powers of the base units that the tag of the field
lists, times the power of the scale factor that the name of the field asks for.  Reading a
field multiplies what is stored by this factor, in double precision.  Over the reals every
snapshot that was written opens, and each of its fields is read as the numbers of the
converted particles times the factor of the field.
-/
import MeshlessGas.Proofs.Covariance
import MeshlessGas.Snapshot.Quantity

namespace MeshlessGas

open Conversion (Row)
open Writing (storeAll)

/-! ## Stored factors -/

noncomputable def UnitSystem.Positive.toCgs {u : UnitSystem ℝ} (hu : u.Positive) : Rescaling where
  mass := u.sizeInCgs .mass
  length := u.sizeInCgs .length
  time := u.sizeInCgs .time
  mass_pos := hu .mass
  length_pos := hu .length
  time_pos := hu .time

/-- The size of the unit of a tag is what the change to cgs multiplies by, apart from
temperatures. -/
theorem UnitTag.cgsFactor_eq {u : UnitSystem ℝ} (hu : u.Positive) {tag : UnitTag}
    (htag : tag ≠ .temperature) (gamma : ℝ) :
    tag.cgsFactor u gamma = .ok (.real (hu.toCgs.factor tag gamma)) := by
  rw [cgsFactor_of_positive hu]
  refine congrArg (fun x => Except.ok (Factor.real x)) ?_
  -- Dimensions that a tag does not list have the real zero as their exponent.
  cases tag with
  | temperature => exact absurd rfl htag
  | _ =>
    simp only [Rescaling.factor, exponent, exponents, List.find?_cons, List.find?_nil,
      reduceCtorEq, decide_false, decide_true, Option.map_some, Option.map_none,
      Option.getD_some, Option.getD_none, List.map_cons, List.map_nil, List.prod_cons,
      List.prod_nil, Exponent.toReal, Exact.zero_eq, Real.rpow_zero, one_mul, mul_one,
      mul_assoc]
    try rfl

namespace Rescaling

variable (u : Rescaling) (a gamma : ℝ)

/-- The factor that is stored beside the dataset of a name. -/
noncomputable def physicalFactor (name : String) : ℝ :=
  u.factor ((Quantity.tagOf? name).getD .noUnits) gamma * a ^ scaleExponent name gamma

variable {name : String} (tag : UnitTag)

theorem physicalFactor_of_tag (htag : Quantity.tagOf? name = some tag) :
    u.physicalFactor a gamma name = u.factor tag gamma * a ^ scaleExponent name gamma := by
  rw [physicalFactor, htag, Option.getD_some]

theorem physicalFactor_of_unscaled (htag : Quantity.tagOf? name = some tag)
    (hscale : scaleExponent name gamma = 0.0) :
    u.physicalFactor a gamma name = u.factor tag gamma := by
  rw [u.physicalFactor_of_tag a gamma tag htag, hscale, Exact.zero_eq, Real.rpow_zero, mul_one]

theorem physicalFactor_masses : u.physicalFactor a gamma "Masses" = u.mass := by
  rw [u.physicalFactor_of_unscaled a gamma .mass (by decide) rfl, factor_mass]

theorem physicalFactor_velocities : u.physicalFactor a gamma "Velocities" = u.speed := by
  rw [u.physicalFactor_of_unscaled a gamma .speed (by decide) rfl, factor_speed]

theorem physicalFactor_totalEnergy : u.physicalFactor a gamma "TotEnergy" = u.energy := by
  rw [u.physicalFactor_of_unscaled a gamma .energy (by decide) rfl, factor_energy]

theorem physicalFactor_entropy :
    u.physicalFactor a gamma "Entropy" = u.pressure / u.density ^ gamma := by
  rw [u.physicalFactor_of_unscaled a gamma .entropy (by decide) rfl, factor_entropy]

theorem physicalFactor_density :
    u.physicalFactor a gamma "Density" = u.density * a ^ (-3 : ℝ) := by
  have hscale : scaleExponent "Density" gamma = -3.0 := rfl
  rw [u.physicalFactor_of_tag a gamma .density (by decide), hscale, factor_density]
  norm_num

theorem physicalFactor_pressure :
    u.physicalFactor a gamma "Pressure" = u.pressure * a ^ (-3 * gamma) := by
  have hscale : scaleExponent "Pressure" gamma = -3.0 * gamma := rfl
  rw [u.physicalFactor_of_tag a gamma .pressure (by decide), hscale, factor_pressure]
  norm_num

theorem physicalFactor_internalEnergy :
    u.physicalFactor a gamma "InternalEnergy" = u.potential * a ^ (-3 * (gamma - 1)) := by
  have hscale : scaleExponent "InternalEnergy" gamma = -3.0 * (gamma - 1.0) := rfl
  rw [u.physicalFactor_of_tag a gamma .energyPerUnitMass (by decide), hscale,
    factor_energyPerUnitMass]
  norm_num

end Rescaling

namespace FieldDescriptor

variable {f : FieldDescriptor} {S : Type}

theorem tagOf?_name (hf : f ∈ writeRegistry) : Quantity.tagOf? f.name = some f.units := by
  simp only [writeRegistry, List.mem_cons, List.not_mem_nil, or_false] at hf
  rcases hf with rfl | rfl | rfl | rfl | rfl | rfl | rfl | rfl | rfl | rfl | rfl <;> decide

theorem units_ne_temperature (hf : f ∈ writeRegistry) : f.units ≠ .temperature := by
  simp only [writeRegistry, List.mem_cons, List.not_mem_nil, or_false] at hf
  rcases hf with rfl | rfl | rfl | rfl | rfl | rfl | rfl | rfl | rfl | rfl | rfl <;> decide

theorem exists_physicalFactor (hf : f ∈ writeRegistry) {u : UnitSystem ℝ} (hu : u.Positive)
    {a : ℝ} (ha : 0 < a) (gamma : ℝ) :
    ∃ attributes : List (String × Attribute ℝ S), f.attributes u a gamma = .ok attributes ∧
      attributes.lookup physicalFactorName
        = some (.reals [hu.toCgs.physicalFactor a gamma f.name]) ∧
      (attributes.map fun x => Path.beforeNull x.1).Nodup := by
  obtain ⟨description, hattributes⟩ := attributes_of_factors (isPlain_writeRegistry hf)
    (UnitTag.cgsFactor_eq hu (units_ne_temperature hf) gamma) (Factor.power_of_pos ha _)
  refine ⟨_, hattributes, ?_, nodup_statements _ _ _ _ _⟩
  rw [hu.toCgs.physicalFactor_of_tag a gamma f.units (tagOf?_name hf)]
  rfl

theorem factor_datasetOf (hf : f ∈ writeRegistry) {context : Context ℝ ℝ} {gas : Gas ℝ ℝ}
    {u : UnitSystem ℝ} (hu : u.Positive) (ha : 0 < context.a) {d : Dataset ℝ ℝ}
    (hd : f.datasetOf context gas u = .ok d) :
    d.format = .plain ∧ d.attributes.find? physicalFactorName
      = some (.reals [hu.toCgs.physicalFactor context.a context.scheme.gamma f.name]) := by
  rw [hu.toCgs.physicalFactor_of_tag _ _ f.units (tagOf?_name hf)]
  exact physicalFactor_datasetOf (isPlain_writeRegistry hf)
    (UnitTag.cgsFactor_eq hu (units_ne_temperature hf) _) (Factor.power_of_pos ha _) hd

end FieldDescriptor

/-! ## Datasets in physical units -/

namespace Quantity

/-- A dataset times the factor that is stored with it.  The factor is a double, and so is the
product. -/
theorem physical_eq {D S : Type} [Transcendental D] [Numeral D] [Arithmetic S] [Numeral S]
    [Narrowing D S] {d : Dataset D S} {factor : D} (hformat : d.format = .plain)
    (hfactor : d.attributes.find? FieldDescriptor.physicalFactorName = some (.reals [factor])) :
    physical d = .ok (.doubles (d.values.cells.map fun c => c.toDouble * factor)) := by
  have hjoin : d.values.type.join .float64 = .float64 := by
    cases d.values.type <;> rfl
  have hnumeric : ¬ ¬ FieldFormat.isNumeric .plain = true := by decide
  have hfirst : (Attribute.reals [factor] : Attribute D S).first
      = .ok (.cell .float64 (.double factor)) := rfl
  simp only [physical, hfactor, hformat, hfirst, hnumeric, Result.ok_bind, if_false,
    NumericArray.times, hjoin, Tensor.map₂?_scalar, Failure.ofOption_some]
  refine congrArg (fun t => Except.ok (NumericArray.mk _ t)) ?_
  rw [Tensor.map_map]
  rfl

end Quantity

/-! ## Opened snapshots -/

namespace Snapshot

section Opened

variable {D S : Type} [Transcendental D] [Numeral D] [Arithmetic S] [Numeral S] [Narrowing D S]
  {c : Contents D S} {files files' : Directory D S} {file : String} {s : Snapshot D S}

/-- A snapshot that is open on the archive of some contents. -/
def IsOpenOn (s : Snapshot D S) (files : Directory D S) (c : Contents D S) : Prop :=
  ∃ header properties particles, c.properties.attributes = .ok properties ∧
    FieldDescriptor.writeRegistry.foldlM
      (FieldDescriptor.storeField c.context c.gas c.units) .empty = .ok particles ∧
    files.read s.file = .ok (c.archiveOf header properties particles) ∧
    s.scheme = (c.archiveOf header properties particles).attributes? [schemeGroup]

theorem exists_openFile_of_checked {units : UnitSystem D}
    (hunits : c.units.recovered.checked = .ok units)
    (h : write files file c = (.ok (), files')) :
    ∃ s, (openFile files' file none).result = (.ok s, []) ∧ s.IsOpenOn files' c := by
  obtain ⟨header, properties, particles, hheader, hparticles, -, hread, hproperties⟩ :=
    read_of_write h
  obtain ⟨n, hcount⟩ : ∃ n, c.gas.rowCount = .ok n := by
    rw [Contents.header, Result.bind_eq_ok] at hheader
    obtain ⟨n, hcount, -⟩ := hheader
    exact ⟨n, hcount⟩
  obtain ⟨s, hopen, hfile, -, -, -, hscheme⟩ := ofArchive_archiveOf header properties particles
    hheader hcount hunits file none
  refine ⟨s, ?_, header, properties, particles, hproperties, hparticles, ?_, hscheme⟩
  · rw [openFile, hread]
    show (ofArchive file none (c.archiveOf header properties particles)).result = _
    rw [hopen]
    rfl
  · rw [hfile]
    exact hread

omit [Numeral S] in
theorem find?_gamma {p : SchemeProperties D} {properties : List (String × Attribute D S)}
    (h : p.attributes = .ok properties) (scheme : Scheme D) :
    (storeAll (storeAll [] properties) (Contents.flavourAttributes scheme)
      : Table (Attribute D S)).find? SchemeProperties.gammaName
        = some (.singles [Narrowing.narrow p.scheme.gamma]) := by
  have hflavour : (Contents.flavourAttributes scheme
      : List (String × Attribute D S)).map (fun x => Path.beforeNull x.1)
        = ["Gradient reconstruction model", "Cell wide slope limiter model",
            "Piecewise slope limiter model", "Riemann solver type", "Particle movement"].map
              Path.beforeNull := rfl
  simp only [SchemeProperties.attributes, Result.bind_eq_ok, Result.pure_eq,
    Except.ok.injEq] at h
  obtain ⟨delta, -, eta, -, courant, -, iterations, -, rfl⟩ := h
  have hnodup : (["Adiabatic index", "Scheme", "Kernel function", "Kernel target N_ngb",
      "Kernel delta N_ngb", "Kernel eta", "CFL parameter", "Volume log(max(delta h))",
      "Volume max change time-step", "Max ghost iterations"].map Path.beforeNull).Nodup := by
    decide
  rw [(Writing.find?_storeAll (by rw [hflavour]; decide) _).2 _ (by rw [hflavour]; decide)]
  refine Writing.find?_storeAll_of_mem ?_ List.mem_cons_self (by decide) []
  exact hnodup

omit [Numeral S] in
theorem IsOpenOn.gamma_eq (h : s.IsOpenOn files c) :
    s.gamma = .ok (Narrowing.widen (Narrowing.narrow c.properties.scheme.gamma : S)) := by
  obtain ⟨header, properties, particles, hproperties, -, -, hscheme⟩ := h
  rw [Snapshot.gamma, hscheme, attributes?_archiveOf header properties particles
    (c.find?_archiveOf_scheme header properties particles), Option.bind_some,
    find?_gamma hproperties]
  rfl

omit [Arithmetic S] [Numeral S] [Narrowing D S] in
theorem member?_archiveOf {f : FieldDescriptor} (hf : f ∈ FieldDescriptor.writeRegistry)
    {header properties : List (String × Attribute D S)} {particles : Group D S}
    {d : Dataset D S} (hfound : particles.datasets.find? f.name = some d) :
    (c.archiveOf header properties particles).member? [particleGroup] f.name
      = some (.dataset d) := by
  have hfree : ∀ f ∈ FieldDescriptor.writeRegistry, Path.join [particleGroup, f.name]
      ∉ [particleGroup, ParameterSet.groupName, schemeGroup, UnitSystem.groupName,
          headerGroup] := by
    decide
  rw [Archive.member?_eq (c.within_archiveOf header properties particles)
    (c.find?_archiveOf_particles header properties particles)
    (FieldDescriptor.isPlain_writeRegistry hf).isName (hfree f hf), hfound, Option.map_some]

omit [Numeral S] in
theorem IsOpenOn.exists_dataset (h : s.IsOpenOn files c) (hgas : c.gas.IsRows)
    {f : FieldDescriptor} (hf : f ∈ FieldDescriptor.writeRegistry)
    (hready : f.Ready c.context c.gas.rows) :
    ∃ archive d hcells, files.read s.file = .ok archive ∧
      archive.dataset? [particleGroup] = none ∧
      archive.member? [particleGroup] f.name = some (.dataset d) ∧
      f.datasetOf c.context c.gas c.units = .ok d ∧
      d.values = ⟨f.type, Tensor.rows c.gas.rows f.shape.shape (f.cellsOf c.context) hcells⟩ := by
  obtain ⟨header, properties, particles, -, hparticles, hread, -⟩ := h
  obtain ⟨d, hd, hfound⟩ := (FieldDescriptor.find?_storeAll (by decide) hparticles).1 f hf
  have hrows := hd
  rw [← hgas.ofRows_rows] at hrows
  obtain ⟨hcells, hvalues⟩ :=
    (FieldDescriptor.givesRows_of_ready hready hf).values_datasetOf hrows
  exact ⟨_, d, hcells, hread,
    Archive.dataset?_eq_none (c.within_archiveOf header properties particles) (by decide),
    member?_archiveOf hf hfound, hd, hvalues⟩

theorem IsOpenOn.readField_of_factor [FiniteNumbers D] (h : s.IsOpenOn files c)
    (hgas : c.gas.IsRows) {f : FieldDescriptor} (hf : f ∈ FieldDescriptor.writeRegistry)
    (hready : f.Ready c.context c.gas.rows) {factor : D}
    (hfactor : ∀ d, f.datasetOf c.context c.gas c.units = .ok d → d.format = .plain ∧
      d.attributes.find? FieldDescriptor.physicalFactorName = some (.reals [factor])) :
    ∃ q hcells, s.readField files f.name = .ok q ∧
      q.values = .doubles (Tensor.rows c.gas.rows f.shape.shape
        (fun r => (f.cellsOf c.context r).map fun x => x.toDouble * factor) hcells) := by
  obtain ⟨archive, d, hcells, hread, hgroup, hmember, hd, hvalues⟩ :=
    h.exists_dataset hgas hf hready
  obtain ⟨hformat, hfactor⟩ := hfactor d hd
  have hgroup : ¬ (archive.dataset? [particleGroup]).isSome = true := by
    rw [hgroup]
    exact Bool.false_ne_true
  obtain ⟨unit, hunit⟩ := Quantity.exists_unitOf f.name
    (Narrowing.widen (Narrowing.narrow c.properties.scheme.gamma : S) : D)
  refine ⟨⟨f.name, .doubles (d.values.cells.map fun x => x.toDouble * factor), d.format, unit⟩,
    fun r => by rw [List.length_map]; exact hcells r, ?_, ?_⟩
  · simp only [Snapshot.readField, hread, Result.ok_bind, hgroup, hmember,
      Quantity.physical_eq hformat hfactor, h.gamma_eq, hunit]
    rfl
  · rw [hvalues, Tensor.map_rows]

end Opened

variable {c : Contents ℝ ℝ} {files files' : Directory ℝ ℝ} {file : String} {s : Snapshot ℝ ℝ}

/-- Every file in positive units opens, without a notice. -/
theorem exists_openFile (hu : c.units.Positive) (h : write files file c = (.ok (), files')) :
    ∃ s, (openFile files' file none).result = (.ok s, []) ∧ s.IsOpenOn files' c :=
  exists_openFile_of_checked hu.checked_recovered h

/-- Reading a field gives the cells of all particles times the factor of the field. -/
theorem IsOpenOn.readField (h : s.IsOpenOn files c) (hgas : c.gas.IsRows)
    (hu : c.units.Positive) (ha : 0 < c.context.a) {f : FieldDescriptor}
    (hf : f ∈ FieldDescriptor.writeRegistry) (hready : f.Ready c.context c.gas.rows) :
    ∃ q hcells, s.readField files f.name = .ok q ∧
      q.values = .doubles (Tensor.rows c.gas.rows f.shape.shape
        (fun r => (f.cellsOf c.context r).map fun x =>
          x.toDouble * hu.toCgs.physicalFactor c.context.a c.context.scheme.gamma f.name)
        hcells) :=
  h.readField_of_factor hgas hf hready fun _ => FieldDescriptor.factor_datasetOf hf hu ha

end Snapshot

/-! ## What a snapshot tells of its particles -/

/-- What is read for one particle, in physical cgs units. -/
structure PhysicalState where
  mass : ℝ
  density : ℝ
  pressure : ℝ
  internalEnergy : ℝ
  entropy : ℝ
  totalEnergy : ℝ
  velocity : Vec3 ℝ

/-- The fields of a row times the factors that are stored with them. -/
noncomputable def Conversion.physicalOf (context : Context ℝ ℝ) (factor : String → ℝ)
    (r : Row ℝ ℝ) : PhysicalState where
  mass := r.1.conserved.mass * factor "Masses"
  density := r.1.primitives.rho * factor "Density"
  pressure := r.1.primitives.pressure * factor "Pressure"
  internalEnergy := r.1.internalEnergy context.scheme.gamma * factor "InternalEnergy"
  entropy := r.1.entropy context.scheme.gamma * factor "Entropy"
  totalEnergy := r.1.totalEnergy context.scheme.totalEnergy * factor "TotEnergy"
  velocity := (velocityOf context r).map (· * factor "Velocities")

namespace Snapshot

variable {c : Contents ℝ ℝ} {files files' : Directory ℝ ℝ} {file : String} {s : Snapshot ℝ ℝ}

/-- Reading a dataset gives some numbers in double precision. -/
def Reads (s : Snapshot ℝ ℝ) (files : Directory ℝ ℝ) (name : String) (values : Tensor ℝ) :
    Prop :=
  ∃ q, s.readField files name = .ok q ∧ q.values = .doubles values

/-- Reading the datasets of the particles gives the states of a list, in its order. -/
structure Measures (s : Snapshot ℝ ℝ) (files : Directory ℝ ℝ) (states : List PhysicalState) :
    Prop where
  mass : s.Reads files "Masses" (.vector (states.map PhysicalState.mass))
  density : s.Reads files "Density" (.vector (states.map PhysicalState.density))
  pressure : s.Reads files "Pressure" (.vector (states.map PhysicalState.pressure))
  internalEnergy :
    s.Reads files "InternalEnergy" (.vector (states.map PhysicalState.internalEnergy))
  entropy : s.Reads files "Entropy" (.vector (states.map PhysicalState.entropy))
  totalEnergy : s.Reads files "TotEnergy" (.vector (states.map PhysicalState.totalEnergy))
  velocity : s.Reads files "Velocities"
    (Conversion.components (.vector (states.map PhysicalState.velocity)))

theorem IsOpenOn.reads_scalar (h : s.IsOpenOn files c) (hgas : c.gas.IsRows)
    (hu : c.units.Positive) (ha : 0 < c.context.a) {f : FieldDescriptor}
    (hf : f ∈ FieldDescriptor.writeRegistry) (hready : f.Ready c.context c.gas.rows)
    (hshape : f.shape.shape = []) {value : Row ℝ ℝ → ℝ}
    (hcells : ∀ r, f.cellsOf c.context r = [.single (value r)]) :
    s.Reads files f.name (.vector (c.gas.rows.map fun r =>
      value r * hu.toCgs.physicalFactor c.context.a c.context.scheme.gamma f.name)) := by
  obtain ⟨q, hlength, hq, hvalues⟩ := h.readField hgas hu ha hf hready
  have hvalue : ∀ r, (f.cellsOf c.context r).map (fun x =>
      x.toDouble * hu.toCgs.physicalFactor c.context.a c.context.scheme.gamma f.name)
        = [value r * hu.toCgs.physicalFactor c.context.a c.context.scheme.gamma f.name] := by
    intro r
    rw [hcells, List.map_singleton]
    rfl
  refine ⟨q, hq, ?_⟩
  rw [hvalues, Tensor.rows_eq_vector _ _ hshape hvalue]

theorem IsOpenOn.reads_vector (h : s.IsOpenOn files c) (hgas : c.gas.IsRows)
    (hu : c.units.Positive) (ha : 0 < c.context.a) {f : FieldDescriptor}
    (hf : f ∈ FieldDescriptor.writeRegistry) (hready : f.Ready c.context c.gas.rows)
    (hshape : f.shape.shape = [3]) {value : Row ℝ ℝ → Vec3 ℝ}
    (hcells : ∀ r, f.cellsOf c.context r = (value r).toList.map .single) :
    s.Reads files f.name (Conversion.components (.vector (c.gas.rows.map fun r =>
      (value r).map
        (· * hu.toCgs.physicalFactor c.context.a c.context.scheme.gamma f.name)))) := by
  obtain ⟨q, hlength, hq, hvalues⟩ := h.readField hgas hu ha hf hready
  refine ⟨q, hq, hvalues.trans (congrArg NumericArray.doubles ?_)⟩
  rw [← Tensor.map_vector, Conversion.components_map, Tensor.spreadOut_vector]
  refine Tensor.ext ?_ ?_
  · simp only [Tensor.shape_rows, hshape]
  · simp only [Tensor.cells_rows, hcells, List.map_map]
    rfl

theorem IsOpenOn.ready_velocity (h : s.IsOpenOn files c) (hgas : c.gas.IsRows) :
    Conversion.Ready c.context c.gas.rows .velocity := by
  obtain ⟨header, properties, particles, -, hparticles, -⟩ := h
  rw [← hgas.ofRows_rows] at hparticles
  obtain ⟨d, hd, -⟩ := (FieldDescriptor.find?_storeAll (by decide) hparticles).1
    FieldDescriptor.writeRegistry[1] (List.getElem_mem _)
  rw [FieldDescriptor.datasetOf, Gas.numbersOf_ofRows, Result.bind_eq_ok] at hd
  obtain ⟨a, ha, -⟩ := hd
  obtain ⟨velocities, hvelocities, -⟩ := Result.bind_eq_ok.mp ha
  have hready := Conversion.ready_of_convertWith (t := .vector c.gas.rows) rfl
    (by simpa only [Tensor.map_vector] using hvelocities)
  exact hready

theorem IsOpenOn.measures (h : s.IsOpenOn files c) (hgas : c.gas.IsRows)
    (hu : c.units.Positive) (ha : 0 < c.context.a) :
    s.Measures files (c.gas.rows.map (Conversion.physicalOf c.context
      (hu.toCgs.physicalFactor c.context.a c.context.scheme.gamma))) := by
  have hvelocity := h.ready_velocity hgas
  have hcomputed : ∀ {f : FieldDescriptor} {x : Converter}, f.kind = .converted x →
      Conversion.Ready c.context c.gas.rows x → f.Ready c.context c.gas.rows := by
    intro f x hkind hready y hy
    obtain rfl : x = y := FieldKind.converted.inj (hkind.symm.trans hy)
    exact hready
  have hstored : ∀ {f : FieldDescriptor} {path : List String}, f.kind = .stored path .parts →
      f.Ready c.context c.gas.rows := by
    intro f path hkind x hx
    rw [hkind] at hx
    cases hx
  have hfield : ∀ n (hn : n < FieldDescriptor.writeRegistry.length),
      FieldDescriptor.writeRegistry[n] ∈ FieldDescriptor.writeRegistry :=
    fun _ hn => List.getElem_mem hn
  constructor
  all_goals rw [List.map_map]
  · exact h.reads_scalar hgas hu ha (hfield 2 (by decide)) (hstored rfl) rfl fun _ => rfl
  · exact h.reads_scalar hgas hu ha (hfield 6 (by decide)) (hstored rfl) rfl fun _ => rfl
  · exact h.reads_scalar hgas hu ha (hfield 8 (by decide)) (hstored rfl) rfl fun _ => rfl
  · exact h.reads_scalar hgas hu ha (hfield 4 (by decide)) (hcomputed rfl trivial) rfl
      fun _ => rfl
  · exact h.reads_scalar hgas hu ha (hfield 7 (by decide)) (hcomputed rfl trivial) rfl
      fun _ => rfl
  · exact h.reads_scalar hgas hu ha (hfield 9 (by decide)) (hcomputed rfl trivial) rfl
      fun _ => rfl
  · exact h.reads_vector hgas hu ha (hfield 1 (by decide)) (hcomputed rfl hvelocity) rfl
      fun _ => rfl

end Snapshot

end MeshlessGas
