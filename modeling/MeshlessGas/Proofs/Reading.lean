/-
Reading a snapshot back — the gas that is read from a file that was just written.

The descriptive parts of the file give the number of particles and the units, and the
datasets give the rows of the particles.  Nothing but the header, the units and the group of
the particles takes part in it, so that every written snapshot is read in the same way.
-/
import MeshlessGas.Proofs.FileName
import MeshlessGas.Proofs.Filling
import MeshlessGas.Proofs.StoredUnits

namespace MeshlessGas

open Conversion (Row)
open Writing (Runs storeAll)

variable {D S : Type} [Transcendental D] [Arithmetic S] [Narrowing D S]

/-! ## Particles made ready to run -/

namespace Conversion

/-- The particle that comes back from a row: read, and made ready to run. -/
def restoredOf (context : Context D S) (r : Row D S) : Particle D S :=
  (loadedOf context r).firstInit context.scheme.gamma context.scheme.totalEnergy

def restoredState (context : Context D S) (r : Row D S) : ExtendedState S :=
  ⟨.replicate 0.0, velocityOf context r⟩

end Conversion

/-! ## The datasets of written particles -/

namespace FieldDescriptor

variable {f : FieldDescriptor} {context : Context D S} {entries : List (Row D S)}
  {units : UnitSystem D}

theorem GivesRows.values_datasetOf (hrows : f.GivesRows context entries) {d : Dataset D S}
    (hd : f.datasetOf context (Gas.ofRows Prod.fst Prod.snd entries) units = .ok d) :
    ∃ h : ∀ r, (f.cellsOf context r).length = cellCount f.shape.shape,
      d.values = ⟨f.type, Tensor.rows entries f.shape.shape (f.cellsOf context) h⟩ := by
  obtain ⟨hkeeps, h, hnumbers⟩ := hrows
  simp only [datasetOf, Gas.numbersOf_ofRows, hnumbers, Result.bind_eq_ok, Result.pure_eq,
    Except.ok.injEq] at hd
  obtain ⟨values, rfl, attributes, -, rfl⟩ := hd
  exact ⟨h, NumericArray.cast_rows h hkeeps f.type⟩

theorem GivesRows.exists_datasetOf (hrows : f.GivesRows context entries)
    {attributes : List (String × Attribute D S)}
    (hattributes : f.attributes units context.a context.scheme.gamma = .ok attributes) :
    ∃ d, f.datasetOf context (Gas.ofRows Prod.fst Prod.snd entries) units = .ok d := by
  obtain ⟨-, h, hnumbers⟩ := hrows
  rw [datasetOf, Gas.numbersOf_ofRows, hnumbers, Result.ok_bind, hattributes, Result.ok_bind]
  exact ⟨_, rfl⟩

/-- The group of written particles holds the rows of all fields, and nothing else. -/
theorem isHeld_of_storeAll {group : Group D S} (hr : context.Regular)
    (hcouple : ∀ r ∈ entries, context.Couples r.1)
    (h : writeRegistry.foldlM (storeField context (Gas.ofRows Prod.fst Prod.snd entries) units)
      .empty = .ok group) :
    (∀ f ∈ writeRegistry, f.IsHeld group context entries) ∧
      group.datasets.find? "Accelerations" = none := by
  obtain ⟨hthere, hothers⟩ := find?_storeAll (by decide) h
  constructor
  · intro f hf
    obtain ⟨d, hd, hfound⟩ := hthere f hf
    obtain ⟨hlength, hvalues⟩ :=
      (givesRows_writeRegistry hr hcouple hf).values_datasetOf hd
    exact ⟨d, hlength, hfound, hvalues⟩
  · exact hothers "Accelerations" (by decide)

end FieldDescriptor

/-! ## The archive of a written snapshot -/

namespace Snapshot

variable [Numeral D] [Numeral S] {c : Contents D S} {files files' : Directory D S}
  {file : String}

/-- What is read from a file that was just written, under its name and under the normal form
of its name. -/
theorem read_of_write (h : write files file c = (.ok (), files')) :
    ∃ header properties particles, c.header = .ok header ∧
      FieldDescriptor.writeRegistry.foldlM
        (FieldDescriptor.storeField c.context c.gas c.units) .empty = .ok particles ∧
      files'.read file = .ok (c.archiveOf header properties particles) ∧
      files'.read (Directory.normalName file)
        = .ok (c.archiveOf header properties particles) ∧
      c.properties.attributes = .ok properties := by
  unfold write at h
  split at h
  · cases h
  next header hheader =>
    obtain ⟨f, hruns, hread, hnormal⟩ := Directory.read_write h
    obtain ⟨-, -, properties, particles, hproperties, hparticles, rfl⟩ :=
      Contents.runs_writeTo.mp hruns
    exact ⟨header, properties, particles, hheader, hparticles, hread, hnormal, hproperties⟩

theorem dataset?_of_write (h : write files file c = (.ok (), files')) :
    ∃ f, files'.read file = .ok f ∧ ∀ x ∈ FieldDescriptor.writeRegistry,
      ∃ d, x.datasetOf c.context c.gas c.units = .ok d ∧
        f.dataset? [particleGroup, x.name] = some d := by
  obtain ⟨header, properties, particles, -, hparticles, hread, -⟩ := read_of_write h
  refine ⟨_, hread, fun x hx => ?_⟩
  obtain ⟨d, hd, hfound⟩ := (FieldDescriptor.find?_storeAll (by decide) hparticles).1 x hx
  refine ⟨d, hd, ?_⟩
  show ((c.archiveOf header properties particles).groups.find? particleGroup).bind
    (fun g => g.datasets.find? x.name) = some d
  rw [c.find?_archiveOf_particles header properties particles]
  exact hfound

theorem writable_of_write {other : String} (hother : files.Writable other)
    {result : Except Failure Unit} (h : write files file c = (result, files')) :
    files'.Writable other := by
  unfold write at h
  split at h
  · obtain ⟨-, rfl⟩ := Prod.mk.inj h
    exact hother
  next header _ =>
    have hafter : (files.write file .empty (c.writeTo header)).2 = files' := congrArg Prod.snd h
    rw [← hafter]
    exact hother.write

omit [Arithmetic S] [Narrowing D S] [Numeral D] [Numeral S] in
theorem nodup_header {header : List (String × Attribute D S)} (h : c.header = .ok header) :
    (header.map fun x => Path.beforeNull x.1).Nodup := by
  simp only [Contents.header, Result.bind_eq_ok, Result.pure_eq, Except.ok.injEq] at h
  obtain ⟨count, -, time, -, rfl⟩ := h
  show (["BoxSize", "NumPart_Total", "NumPart_Total_HighWord", countName,
    "NumFilesPerSnapshot", "Flag_Entropy_ICs", "Dimension", "Time", scaleFactorName,
    "Redshift"].map Path.beforeNull).Nodup
  decide

omit [Arithmetic S] [Narrowing D S] [Numeral D] [Numeral S] in
theorem find?_header {header : List (String × Attribute D S)} {n : Nat}
    (hheader : c.header = .ok header) (hcount : c.gas.rowCount = .ok n) :
    (storeAll ([] : Table (Attribute D S)) header).find? countName
        = some (.integers ((n : Int) :: List.replicate (kindCount - 1) 0)) ∧
      (storeAll ([] : Table (Attribute D S)) header).find? scaleFactorName
        = some (.reals [c.context.a]) := by
  have hnodup := nodup_header hheader
  simp only [Contents.header, hcount, Result.ok_bind, Result.bind_eq_ok, Result.pure_eq,
    Except.ok.injEq] at hheader
  obtain ⟨time, -, rfl⟩ := hheader
  exact ⟨Writing.find?_storeAll_of_mem hnodup (by simp) (by decide) [],
    Writing.find?_storeAll_of_mem hnodup (by simp) (by decide) []⟩

omit [Arithmetic S] [Numeral D] [Numeral S] in
theorem countGas_storeAll {header : List (String × Attribute D S)} {f : Archive D S} {n : Nat}
    (hheader : c.header = .ok header) (hcount : c.gas.rowCount = .ok n) :
    countGas (storeAll [] header) f = .ok n := by
  obtain ⟨hfound, -⟩ := find?_header hheader hcount
  have hfirst : (Attribute.integers ((n : Int) :: List.replicate (kindCount - 1) 0)
      : Attribute D S).first = .ok (.cell (.integer .int64) (.whole n)) := rfl
  simp only [countGas, hfound, hfirst, Result.ok_bind]
  rfl

section Opened

variable (header properties : List (String × Attribute D S)) (particles : Group D S)

omit [Arithmetic S] [Narrowing D S] [Numeral S] in
theorem at?_archiveOf {name : String} {g : Group D S}
    (h : (c.archiveOf header properties particles).groups.find? name = some g) :
    (c.archiveOf header properties particles).at? [name] = some (.group g) := by
  unfold Archive.at?
  rw [Archive.group?_single, h]

omit [Arithmetic S] [Narrowing D S] [Numeral S] in
theorem attributes?_archiveOf {name : String} {g : Group D S}
    (h : (c.archiveOf header properties particles).groups.find? name = some g) :
    (c.archiveOf header properties particles).attributes? [name] = some g.attributes := by
  rw [Archive.attributes?, at?_archiveOf header properties particles h]
  rfl

omit [Arithmetic S] [Numeral S] in
theorem unitsOf?_archiveOf : unitsOf? (c.archiveOf header properties particles)
    = some <$> (liftM c.units.recovered.checked : Reading (UnitSystem D)) := by
  have hstored := attributes?_archiveOf header properties particles
    (c.find?_archiveOf_units header properties particles)
  simp only [unitsOf?, hstored, UnitSystem.ofAttributes_unitAttributes]

omit [Arithmetic S] in
theorem ofArchive_archiveOf {units : UnitSystem D} {n : Nat} (hheader : c.header = .ok header)
    (hcount : c.gas.rowCount = .ok n) (hunits : c.units.recovered.checked = .ok units)
    (file : String) (handle : Option Handle) :
    ∃ s : Snapshot D S, (ofArchive file handle (c.archiveOf header properties particles)
        : Reading (Snapshot D S)) = pure s ∧
      s.file = Directory.normalName file ∧ s.handle = handle ∧ s.units = some units ∧
        s.gasCount = n ∧
        s.scheme = (c.archiveOf header properties particles).attributes? [schemeGroup] := by
  have hattributes : (c.archiveOf header properties particles).attributes? [headerGroup]
      = some (storeAll [] header) :=
    attributes?_archiveOf header properties particles
      (c.find?_archiveOf_header header properties particles)
  have hunitsOf : unitsOf? (c.archiveOf header properties particles)
      = (pure (some units) : Reading (Option (UnitSystem D))) := by
    rw [unitsOf?_archiveOf, hunits]
    rfl
  have hgas : countGas (storeAll [] header) (c.archiveOf header properties particles) = .ok n :=
    countGas_storeAll hheader hcount
  let f := c.archiveOf header properties particles
  refine ⟨⟨Directory.normalName file, handle, storeAll [] header, f.attributes? [schemeGroup],
    some units, (f.attributes? [ParameterSet.groupName]).map ParameterSet.ofAttributes, n⟩,
    ?_, rfl, rfl, rfl, rfl, rfl⟩
  simp only [ofArchive, hattributes, Option.getD_some, hunitsOf, hgas, pure_bind]
  rfl

end Opened

/-- A snapshot is written as soon as its parts can be made: the time, the properties of the
scheme, and the attributes of the fields. -/
theorem exists_write (hwritable : files.Writable file) (hgas : c.gas.IsRows)
    (hr : c.context.Regular) (hcouple : ∀ p ∈ c.gas.parts, c.context.Couples p)
    (hparameters : c.StorableParameters) (htime : ∃ time, c.context.time = .ok time)
    (hproperties : ∃ properties : List (String × Attribute D S),
      c.properties.attributes = .ok properties)
    (hattributes : ∀ f ∈ FieldDescriptor.writeRegistry,
      ∃ attributes : List (String × Attribute D S),
        f.attributes c.units c.context.a c.context.scheme.gamma = .ok attributes) :
    ∃ files', write files file c = (.ok (), files') := by
  have hcount : c.gas.rowCount = .ok c.gas.parts.length := by
    rw [Gas.rowCount, hgas.axes]
    rfl
  have hheader : ∃ header, c.header = .ok header := by
    obtain ⟨time, htime⟩ := htime
    simp only [Contents.header, hcount, htime, Result.ok_bind]
    exact ⟨_, rfl⟩
  obtain ⟨header, hheader⟩ := hheader
  obtain ⟨properties, hproperties⟩ := hproperties
  have hrows := Gas.forall_rows hcouple
  have hdatasets : ∀ f ∈ FieldDescriptor.writeRegistry,
      ∃ d, f.datasetOf c.context c.gas c.units = .ok d := by
    intro f hf
    obtain ⟨attributes, hattributes⟩ := hattributes f hf
    have hgives := FieldDescriptor.givesRows_writeRegistry hr hrows hf
    rw [← hgas.ofRows_rows]
    exact hgives.exists_datasetOf hattributes
  obtain ⟨particles, hparticles⟩ : ∃ particles, FieldDescriptor.writeRegistry.foldlM
      (FieldDescriptor.storeField c.context c.gas c.units) .empty = .ok particles :=
    FieldDescriptor.exists_storeAll hdatasets
  have hruns : Runs (c.writeTo header) .empty () (c.archiveOf header properties particles) :=
    Contents.runs_writeTo.mpr ⟨Contents.storable_header hheader, hparameters, properties,
      particles, hproperties, hparticles, rfl⟩
  obtain ⟨files', hwrite⟩ := Directory.write_of_runs hwritable hruns
  refine ⟨files', ?_⟩
  simp only [write, hheader]
  exact hwrite

/-- A file whose stored units are not read back is refused, as its units are. -/
theorem readGas_of_checked_eq_error {e : Failure} (hunits : c.units.recovered.checked = .error e)
    (h : write files file c = (.ok (), files')) (scheme : Scheme D) (wanted : Option (UnitSystem D)) :
    (readGas files' file scheme wanted).result = (.error e, []) := by
  obtain ⟨header, properties, particles, -, -, hread, -⟩ := read_of_write h
  rw [readGas, hread]
  show Reading.result (ofArchive file none (c.archiveOf header properties particles) >>= _) = _
  rw [ofArchive, unitsOf?_archiveOf, hunits]
  rfl

/-- Reading a file that was just written gives the particles of its rows, made ready to run.
The records of the particles must fit into an array, and the stored units must be read back
as units with sizes. -/
theorem readGas_of_write {units : UnitSystem D} (hgas : c.gas.IsRows)
    (hfits : c.gas.parts.length * (Particle.layout : Layout (Particle D S) D S _).bytes
      ≤ Layout.maxBytes)
    (hr : c.context.Regular) (hcouple : ∀ p ∈ c.gas.parts, c.context.Couples p)
    (hunits : c.units.recovered.checked = .ok units)
    (h : write files file c = (.ok (), files')) :
    (readGas files' file c.context.scheme none).result
      = (.ok (Gas.ofRows (Conversion.restoredOf c.context) (Conversion.restoredState c.context)
          c.gas.rows), []) := by
  obtain ⟨header, properties, particles, hheader, hparticles, hread, hnormal, -⟩ :=
    read_of_write h
  have hlength : c.gas.rows.length = c.gas.parts.length := hgas.length_rows
  have hrows := Gas.forall_rows hcouple
  rw [← hgas.ofRows_rows] at hparticles
  obtain ⟨hheld, hnone⟩ := FieldDescriptor.isHeld_of_storeAll hr hrows hparticles
  obtain ⟨names, hfill⟩ := (FieldDescriptor.fills_readRegistry c.context.scheme.gamma
    (c.within_archiveOf header properties particles) (by decide) (by decide)
    (c.find?_archiveOf_particles header properties particles) hheld hnone).run
  have hcount : c.gas.rowCount = .ok c.gas.rows.length := by
    rw [Gas.rowCount, hgas.axes, hlength]
    rfl
  obtain ⟨s, hopen, hfile, -, hsunits, hcountGas, -⟩ :=
    ofArchive_archiveOf header properties particles hheader hcount hunits file none
  have hallocate : (Gas.allocate [s.gasCount] : Except Failure (Gas D S))
      = .ok (Gas.ofRows (fun _ => .zero) (fun _ => .zero) c.gas.rows) := by
    rw [hcountGas]
    exact Gas.allocate_eq c.gas.rows (by rw [hlength]; exact hfits)
  have hthere : ((c.archiveOf header properties particles).at? [particleGroup]).isNone
      = false := by
    rw [at?_archiveOf header properties particles
      (c.find?_archiveOf_particles header properties particles)]
    rfl
  have hchange : UnitChange.between s.units none = none := by
    rw [hsunits]
    rfl
  have hgasRead : s.readParticles files' c.context.scheme none true
      = .ok (Gas.ofRows (Conversion.restoredOf c.context) (Conversion.restoredState c.context)
          c.gas.rows) := by
    -- The particles are read from the normal form of the name under which the file was opened.
    have hnormal' : files'.read s.file = .ok (c.archiveOf header properties particles) := by
      rw [hfile]
      exact hnormal
    simp only [readParticles, hallocate, hnormal', Result.ok_bind, hthere, Bool.false_eq_true,
      if_false, hchange]
    rw [hfill]
    simp only [Result.ok_bind, if_true, Result.pure_eq, Gas.firstInit_ofRows]
    rfl
  rw [readGas, hread]
  show Reading.result (ofArchive file none (c.archiveOf header properties particles) >>=
    fun s => liftM (s.readParticles files' c.context.scheme none true)) = _
  rw [hopen, pure_bind, hgasRead]
  rfl

end Snapshot

end MeshlessGas
