/-
Readable files — what a file must have for its gas to be read.

A successful reading is taken apart step by step: each of its fields was there or optional, and
what was there could be read.  So reading the gas succeeds for exactly the files that can be read,
and of the gas each field has filled its own leaf and nothing else.  Initialising it does not
enter: it never fails.
-/
import MeshlessGas.Proofs.FieldPrefix
import MeshlessGas.Proofs.FileName
import MeshlessGas.Snapshot.Particles

namespace MeshlessGas

/-! ## Successful runs -/

namespace Run

variable {ε σ α β : Type} {s s' : σ}

theorem bind_eq_ok {x : ExceptT ε (StateM σ) α} {k : α → ExceptT ε (StateM σ) β} {b : β} :
    (x >>= k).run.run s = (.ok b, s') ↔
      ∃ a s₁, x.run.run s = (.ok a, s₁) ∧ (k a).run.run s₁ = (.ok b, s') := by
  rw [ExceptT.run_bind, StateT.run_bind]
  cases x.run.run s with
  | mk result s₁ =>
    cases result with
    | error e =>
      constructor
      · intro h
        cases h
      · rintro ⟨a, s₂, h, -⟩
        cases h
    | ok a =>
      constructor
      · intro h
        exact ⟨a, s₁, rfl, h⟩
      · rintro ⟨a', s₂, h, hk⟩
        cases h
        exact hk

theorem liftM_eq_ok {x : Except ε α} {a : α} :
    (liftM x : ExceptT ε (StateM σ) α).run.run s = (.ok a, s') ↔ x = .ok a ∧ s' = s := by
  cases x with
  | error e =>
    constructor
    · intro h
      cases h
    · rintro ⟨h, -⟩
      cases h
  | ok b =>
    constructor
    · intro h
      cases h
      exact ⟨rfl, rfl⟩
    · rintro ⟨h, rfl⟩
      cases h
      rfl

end Run

namespace FieldDescriptor

variable {D S : Type} [Transcendental D] [Arithmetic S] [Narrowing D S]

section Reading

variable {file : Archive D S} {place : Place} {change : Option (UnitChange D)} {gamma : D}
  {f : FieldDescriptor} {fields : List FieldDescriptor} {l : GasLeaf} {g g' : Gas D S}
  {names : List String} {target : FieldDescriptor → GasLeaf}

theorem stored?_eq_none {path : String} {found : Option (Member D S)} {count : Except Failure Nat}
    (h : f.stored? path found count change gamma = .ok none) :
    found = none ∧ f.compulsory = false := by
  cases found with
  | none =>
    cases hcompulsory : f.compulsory with
    | false => exact ⟨rfl, rfl⟩
    | true =>
      simp only [stored?, hcompulsory, if_true] at h
      cases h
  | some m =>
    cases m with
    | group x => cases h
    | dataset d =>
      simp only [stored?, Result.bind_eq_ok] at h
      obtain ⟨rows, -, count, -, h⟩ := h
      split at h
      · cases h
      · obtain ⟨values, -, h⟩ := Result.bind_eq_ok.mp h
        cases h

theorem stored?_eq_some {path : String} {found : Option (Member D S)} {n : ℕ}
    {values : NumericArray D S}
    (h : f.stored? path found (.ok n) change gamma = .ok (some values)) :
    ∃ d, found = some (.dataset d) ∧ d.values.shape.head? = some n ∧
      inUnits f.units change gamma d.values = .ok values := by
  cases found with
  | none =>
    simp only [stored?] at h
    split at h <;> cases h
  | some m =>
    cases m with
    | group x => cases h
    | dataset d =>
      simp only [stored?, Result.bind_eq_ok, Except.ok.injEq] at h
      obtain ⟨rows, hrows, count, rfl, h⟩ := h
      have hhead : d.values.shape.head? = some rows := by
        rw [NumericArray.rowCount] at hrows
        cases hfirst : d.values.shape.head? with
        | none =>
          rw [hfirst] at hrows
          cases hrows
        | some first =>
          rw [hfirst] at hrows
          cases hrows
          rfl
      split at h
      · cases h
      next hcount =>
        obtain rfl := not_not.mp hcount
        obtain ⟨values', hunits, h⟩ := Result.bind_eq_ok.mp h
        cases h
        exact ⟨d, rfl, hhead, hunits⟩

theorem isReadable_none (hoptional : f.compulsory = false) (n : ℕ) :
    IsReadable change gamma n (none : Option (Dataset D S)) f where
  given := by
    intro hcompulsory
    rw [hoptional] at hcompulsory
    cases hcompulsory
  rows _ hd := by cases hd
  units _ hd := by cases hd
  numbers _ hd := by cases hd

/-- Where fields are read, the first of them was there or optional and could be read, and the
others are read from particles that are as many. -/
theorem exists_of_run_readAll (hf : f.IsFor D S l) (hg : g.IsRows)
    (h : (readAll file place change gamma (f :: fields)).run.run g = (.ok names, g')) :
    ∃ found : Option (Dataset D S), file.lookup? place f.name = .ok (found.map .dataset) ∧
      IsReadable change gamma g.parts.length found f ∧
      ∃ names' g₁, g₁.IsRows ∧ g₁.parts.length = g.parts.length ∧
        (readAll file place change gamma fields).run.run g₁ = (.ok names', g') := by
  rw [readAll, Filling.run_get_bind] at h
  simp only [nameText_of_label hf.label, hg.rowCount, Filling.liftM_ok, pure_bind] at h
  obtain ⟨found, g₁, hfound, hread⟩ := Run.bind_eq_ok.mp h
  obtain ⟨hlookup, rfl⟩ := Run.liftM_eq_ok.mp hfound
  obtain ⟨stored, g₂, hstored, hfill⟩ := Run.bind_eq_ok.mp hread
  obtain ⟨hvalues, rfl⟩ := Run.liftM_eq_ok.mp hstored
  cases stored with
  | none =>
    obtain ⟨rfl, hoptional⟩ := stored?_eq_none hvalues
    exact ⟨none, hlookup, isReadable_none hoptional _, names, _, hg, rfl, hfill⟩
  | some values =>
    obtain ⟨d, rfl, hrows, hunits⟩ := stored?_eq_some hvalues
    obtain ⟨g₃, g₄, hassigned, hset⟩ := Run.bind_eq_ok.mp hfill
    obtain ⟨hassign, rfl⟩ := Run.liftM_eq_ok.mp hassigned
    rw [hf.assignTo_eq hg, length_inUnits hunits] at hassign
    split at hassign
    next hnumbers =>
      obtain rfl := Except.ok.inj hassign
      rw [Filling.run_set_bind] at hset
      obtain ⟨names', g₅, hrest, hpure⟩ := Run.bind_eq_ok.mp hset
      cases hpure
      refine ⟨some d, hlookup, ⟨fun _ => rfl, ?_, ?_, ?_⟩, names', _,
        GasLeaf.isRows_store hg l _, GasLeaf.length_parts_store l _, hrest⟩
      all_goals
        rintro _ ⟨⟩
      · exact hrows
      · exact ⟨values, hunits⟩
      · exact hnumbers
    next => cases hassign

theorem forall_of_run_readAll (hleaf : ∀ f ∈ fields, f.IsFor D S (target f)) (hg : g.IsRows)
    (h : (readAll file place change gamma fields).run.run g = (.ok names, g')) :
    ∀ f ∈ fields, ∃ found : Option (Dataset D S),
      file.lookup? place f.name = .ok (found.map .dataset) ∧
        IsReadable change gamma g.parts.length found f := by
  induction fields generalizing g names with
  | nil => exact fun _ hf => absurd hf List.not_mem_nil
  | cons f fields ih =>
    obtain ⟨hf, hrest⟩ := List.forall_mem_cons.mp hleaf
    obtain ⟨found, hlookup, hreadable, names', g₁, hg₁, hcount, h⟩ :=
      exists_of_run_readAll hf hg h
    refine List.forall_mem_cons.mpr ⟨⟨found, hlookup, hreadable⟩, ?_⟩
    have hothers := ih hrest hg₁ h
    rwa [hcount] at hothers

omit [Transcendental D] [Arithmetic S] [Narrowing D S] in
theorem dataset?_eq_none_of_lookup {d : Dataset D S}
    (h : file.lookup? place f.name = .ok (some (.dataset d))) : file.dataset? place = none := by
  rw [Archive.lookup?] at h
  cases hplace : file.dataset? place with
  | none => rfl
  | some d' =>
    rw [hplace] at h
    dsimp only at h
    split at h
    · cases h
    · split at h <;> cases h

theorem isRequest_of_run (hleaf : ∀ f ∈ fields, f.IsFor D S (target f))
    (hdistinct : (fields.map target).Nodup)
    (hcompulsory : ∃ f ∈ fields, f.compulsory = true) (hg : g.IsRows)
    (h : (readAll file place change gamma fields).run.run g = (.ok names, g')) :
    IsRequest file place target fields ∧
      ∀ f ∈ fields, IsReadable change gamma g.parts.length (offered file place f) f := by
  have hall := forall_of_run_readAll hleaf hg h
  have hgroup : file.dataset? place = none := by
    obtain ⟨f, hf, hgiven⟩ := hcompulsory
    obtain ⟨found, hlookup, hreadable⟩ := hall f hf
    obtain ⟨d, rfl⟩ := Option.isSome_iff_exists.mp (hreadable.given hgiven)
    exact dataset?_eq_none_of_lookup hlookup
  have hmember : ∀ f ∈ fields, ∃ found : Option (Dataset D S),
      file.member? place f.name = found.map .dataset ∧
        IsReadable change gamma g.parts.length found f := by
    intro f hf
    obtain ⟨found, hlookup, hreadable⟩ := hall f hf
    rw [Archive.lookup?, hgroup] at hlookup
    exact ⟨found, Except.ok.inj hlookup, hreadable⟩
  refine ⟨⟨hgroup, ?_, hleaf, hdistinct⟩, ?_⟩
  · intro f hf m hm
    obtain ⟨found, hfound, hreadable⟩ := hmember f hf
    obtain ⟨d, rfl, rfl⟩ := Option.map_eq_some_iff.mp (hfound.symm.trans hm)
    refine ⟨d, rfl, fun hshape => ?_⟩
    have hrows := hreadable.rows d rfl
    rw [hshape] at hrows
    cases hrows
  · intro f hf
    obtain ⟨found, hfound, hreadable⟩ := hmember f hf
    have hoffered : offered file place f = found := by
      rw [offered, hfound]
      cases found <;> rfl
    rwa [hoffered]

end Reading

/-! ## The fields that a run is started from -/

/-- The leaf that a field of the particles is read into. -/
def readLeaf (f : FieldDescriptor) : GasLeaf :=
  match f.kind with
  | .stored path .parts =>
    match ParticleLeaf.tree.follow path with
    | .ok (.leaf l) => .part l
    | _ => .part .id
  | _ => .part .id

theorem isFor_readLeaf {f : FieldDescriptor} (hf : f ∈ readRegistry) :
    f.IsFor D S (readLeaf f) := by
  simp only [readRegistry, List.mem_cons, List.not_mem_nil, or_false] at hf
  rcases hf with rfl | rfl | rfl | rfl | rfl | rfl | rfl | rfl
  all_goals exact ⟨⟨rfl, rfl, _, rfl, rfl⟩, rfl⟩

theorem nodup_readLeaf : (readRegistry.map readLeaf).Nodup := by decide

theorem exists_compulsory : ∃ f ∈ readRegistry, f.compulsory = true :=
  ⟨readRegistry[0], List.mem_cons_self, rfl⟩

end FieldDescriptor

/-! ## Gases of a file -/

namespace Gas

variable {D S : Type} [Transcendental D] [Arithmetic S]

def atRest (n : ℕ) : Gas D S := ofRows (fun _ => .zero) (fun _ => .zero) (List.range n)

theorem isRows_atRest (n : ℕ) : (atRest n : Gas D S).IsRows := isRows_ofRows _ _ _

theorem length_atRest (n : ℕ) : (atRest n : Gas D S).parts.length = n := by
  simp [atRest, ofRows]

variable [Narrowing D S]

variable (D S) in
def Fits (n : Int) : Prop :=
  0 ≤ n ∧ n.toNat * (Particle.layout : Layout (Particle D S) D S _).bytes ≤ Layout.maxBytes

theorem allocate_of_fits {n : Int} (h : Fits D S n) :
    (allocate [n] : Except Failure (Gas D S)) = .ok (atRest n.toNat) := by
  have hcount : (((List.range n.toNat).length : ℕ) : Int) = n := by
    rw [List.length_range, Int.toNat_of_nonneg h.1]
  have hbytes := allocate_eq (S := S) (D := D) (List.range n.toNat) (by
    rw [List.length_range]
    exact h.2)
  rwa [hcount] at hbytes

theorem fits_of_allocate {n : Int} {g : Gas D S} (h : allocate [n] = .ok g) : Fits D S n := by
  obtain ⟨parts, hparts, -⟩ := Result.bind_eq_ok.mp h
  rw [Layout.allocate] at hparts
  split at hparts
  next => cases hparts
  next hnot =>
    simp only [List.any_cons, List.any_nil, Bool.or_false, decide_eq_true_eq, not_or, Int.not_lt,
      Nat.not_lt, List.map_cons, List.map_nil] at hnot
    obtain ⟨hsign, -, hbytes⟩ := hnot
    refine ⟨hsign, ?_⟩
    by_cases hzero : n.toNat = 0
    · rw [hzero, Nat.zero_mul]
      exact Nat.zero_le _
    · simpa [hzero] using hbytes

end Gas

namespace Snapshot

open FieldDescriptor (readAll readRegistry readLeaf offered IsRequest IsReadable IsFilled)

variable {D S : Type} [Transcendental D] [Arithmetic S] [Narrowing D S] {s : Snapshot D S}
  {files : Directory D S} {f : Archive D S} {scheme : Scheme D} {wanted : Option (UnitSystem D)}
  {firstInit : Bool} {gas : Gas D S}

/-- The gas of a file can be read: the records of its particles fit into an array, and there is a
group of them in which every field is optional or a dataset that can be read. -/
structure IsReadableFrom (s : Snapshot D S) (f : Archive D S) (change : Option (UnitChange D))
    (gamma : D) : Prop where
  fits : Gas.Fits D S s.gasCount
  group : (f.at? [particleGroup]).isSome = true
  request : IsRequest f [particleGroup] readLeaf readRegistry
  readable : ∀ field ∈ readRegistry,
    IsReadable change gamma s.gasCount.toNat (offered f [particleGroup] field) field

def made (scheme : Scheme D) (firstInit : Bool) (g : Gas D S) : Gas D S :=
  if firstInit then g.firstInit scheme.gamma scheme.totalEnergy else g

theorem readParticles_eq_ok (hfile : files.read s.file = .ok f) :
    s.readParticles files scheme wanted firstInit = .ok gas ↔
      ∃ g₀ names g, Gas.allocate [s.gasCount] = .ok g₀ ∧
        (f.at? [particleGroup]).isSome = true ∧
        (readAll f [particleGroup] (UnitChange.between s.units wanted) scheme.gamma
          readRegistry).run.run g₀ = (.ok names, g) ∧
        gas = made scheme firstInit g := by
  let run (g₀ : Gas D S) : Except Failure (List String) × Gas D S :=
    (readAll f [particleGroup] (UnitChange.between s.units wanted) scheme.gamma
      readRegistry).run.run g₀
  rw [readParticles, hfile]
  simp only [Result.bind_eq_ok, Result.ok_bind]
  cases hgroup : f.at? [particleGroup] with
  | none =>
    constructor
    · rintro ⟨g₀, -, h⟩
      cases h
    · rintro ⟨g₀, names, g, -, h, -⟩
      cases h
  | some m =>
    have hsteps : ∀ g₀, ((run g₀).1 >>= fun _ => .ok (made scheme firstInit (run g₀).2))
        = .ok gas ↔ ∃ names g, run g₀ = (.ok names, g) ∧ gas = made scheme firstInit g := by
      intro g₀
      rw [Result.bind_eq_ok]
      constructor
      · rintro ⟨names, hnames, h⟩
        exact ⟨names, _, Prod.ext hnames rfl, (Except.ok.inj h).symm⟩
      · rintro ⟨names, g, hrun, rfl⟩
        exact ⟨names, congrArg Prod.fst hrun, by rw [hrun]⟩
    constructor
    · rintro ⟨g₀, hempty, h⟩
      obtain ⟨names, g, hrun, hgas⟩ := (hsteps g₀).mp h
      exact ⟨g₀, names, g, hempty, rfl, hrun, hgas⟩
    · rintro ⟨g₀, names, g, hempty, -, hrun, hgas⟩
      exact ⟨g₀, hempty, (hsteps g₀).mpr ⟨names, g, hrun, hgas⟩⟩

/-- The gas of a file that can be read is read: the leaves of its fields are filled, and the rest
is at rest. -/
theorem IsReadableFrom.exists_filled (hfile : files.read s.file = .ok f)
    (h : s.IsReadableFrom f (UnitChange.between s.units wanted) scheme.gamma) :
    ∃ g, IsFilled (UnitChange.between s.units wanted) scheme.gamma (offered f [particleGroup])
        readLeaf readRegistry (Gas.atRest s.gasCount.toNat) g ∧
      ∀ firstInit, s.readParticles files scheme wanted firstInit
        = .ok (made scheme firstInit g) := by
  have hreadable := h.readable
  rw [← Gas.length_atRest (D := D) (S := S) s.gasCount.toNat] at hreadable
  obtain ⟨g, hrun, hfilled⟩ :=
    FieldDescriptor.exists_readAll h.request (Gas.isRows_atRest s.gasCount.toNat) hreadable
  refine ⟨g, hfilled, fun firstInit => (readParticles_eq_ok hfile).mpr ?_⟩
  exact ⟨_, _, g, Gas.allocate_of_fits h.fits, h.group, hrun, rfl⟩

theorem isReadableFrom_of_readParticles (hfile : files.read s.file = .ok f)
    (h : s.readParticles files scheme wanted firstInit = .ok gas) :
    s.IsReadableFrom f (UnitChange.between s.units wanted) scheme.gamma := by
  obtain ⟨g₀, names, g, hempty, hgroup, hrun, -⟩ := (readParticles_eq_ok hfile).mp h
  have hfits : Gas.Fits D S s.gasCount := Gas.fits_of_allocate hempty
  obtain rfl := Except.ok.inj (hempty.symm.trans (Gas.allocate_of_fits hfits))
  obtain ⟨hrequest, hreadable⟩ :=
    FieldDescriptor.isRequest_of_run (fun _ => FieldDescriptor.isFor_readLeaf)
      FieldDescriptor.nodup_readLeaf FieldDescriptor.exists_compulsory
      (Gas.isRows_atRest s.gasCount.toNat) hrun
  rw [Gas.length_atRest] at hreadable
  exact ⟨hfits, hgroup, hrequest, hreadable⟩

/-- Files that can be read in some units can be read without them. -/
theorem IsReadableFrom.without_units {change : Option (UnitChange D)} {gamma : D}
    (h : s.IsReadableFrom f change gamma) : s.IsReadableFrom f none gamma where
  fits := h.fits
  group := h.group
  request := h.request
  readable := by
    intro field hfield
    obtain ⟨given, rows, -, numbers⟩ := h.readable field hfield
    exact ⟨given, rows, fun d _ => ⟨d.values, rfl⟩, numbers⟩

theorem IsReadableFrom.of_factors {gamma : D} (h : s.IsReadableFrom f none gamma)
    {c : UnitChange D} (hfactors : ∀ field ∈ readRegistry, ∃ factor,
      field.units.conversionFactor c.source c.target gamma = .ok factor) :
    s.IsReadableFrom f (some c) gamma where
  fits := h.fits
  group := h.group
  request := h.request
  readable := by
    intro field hfield
    obtain ⟨given, rows, -, numbers⟩ := h.readable field hfield
    refine ⟨given, rows, fun d _ => ?_, numbers⟩
    obtain ⟨factor, hfactor⟩ := hfactors field hfield
    rw [FieldDescriptor.inUnits, hfactor]
    exact ⟨_, rfl⟩

/-! ### A file of one particle -/

/-- The datasets of a particle in which all numbers are one, but for the identifier, which is the
largest there is. -/
def loneDatasets : Table (Dataset D S) :=
  let ones : NumericArray D S := .doubles (.vector [1.0])
  let vector : NumericArray D S := .doubles ⟨[1, 3], [1.0, 1.0, 1.0], rfl⟩
  [("Coordinates", ⟨vector, [], .plain⟩), ("Density", ⟨ones, [], .plain⟩),
    ("InternalEnergy", ⟨ones, [], .plain⟩), ("Masses", ⟨ones, [], .plain⟩),
    ("ParticleIDs", ⟨.integers .uint64 (.vector [18446744073709551615]), [], .plain⟩),
    ("SmoothingLength", ⟨ones, [], .plain⟩), ("Velocities", ⟨vector, [], .plain⟩)]

def loneArchive (attributes : Table (Attribute D S)) : Archive D S :=
  ⟨[(particleGroup, ⟨[], loneDatasets⟩), (UnitSystem.groupName, ⟨attributes, []⟩)]⟩

def loneParticle : Particle D S :=
  { (Particle.zero : Particle D S) with
    id := 18446744073709551615
    x := .replicate 1.0
    v := .replicate (Narrowing.narrow (1.0 : D))
    h := Narrowing.narrow (1.0 : D)
    conserved := ⟨Narrowing.narrow (1.0 : D), .replicate 0.0, Narrowing.narrow (1.0 : D)⟩
    primitives := ⟨Narrowing.narrow (1.0 : D), .replicate 0.0, 0.0⟩ }

def loneGas : Gas D S := ⟨[loneParticle], [.zero], [1]⟩

def loneSnapshot (units : Option (UnitSystem D)) : Snapshot D S where
  file := "ics.hdf5"
  handle := none
  header := []
  scheme := none
  units := units
  parameters := none
  gasCount := 1

def loneDirectory (attributes : Table (Attribute D S)) : Directory D S :=
  { files := [("ics.hdf5", .archive (loneArchive attributes))] }

section Lone

variable (attributes : Table (Attribute D S))

omit [Arithmetic S] [Narrowing D S] in
theorem offered_lone {field : FieldDescriptor} (h : field ∈ readRegistry) :
    (loneArchive attributes).member? [particleGroup] field.name
        = (loneDatasets.find? field.name).map .dataset ∧
      offered (loneArchive attributes) [particleGroup] field
        = loneDatasets.find? field.name := by
  simp only [readRegistry, List.mem_cons, List.not_mem_nil, or_false] at h
  rcases h with rfl | rfl | rfl | rfl | rfl | rfl | rfl | rfl
  all_goals exact ⟨rfl, rfl⟩

theorem exists_loneDataset {field : FieldDescriptor} (h : field ∈ readRegistry) :
    (loneDatasets.find? field.name = (none : Option (Dataset D S)) ∧
        field.compulsory = false) ∨
      ∃ (d : Dataset D S) (rows : NumericArray D S), loneDatasets.find? field.name = some d ∧
        d.values.shape.head? = some 1 ∧
        d.values.cells.cells.length = 1 * field.shape.dimension ∧
        d.values.reshape? (1 :: field.shape.shape) = some rows ∧
        (readLeaf field).column loneGas
          = rows.cast ((readLeaf field).column (Gas.atRest 1 : Gas D S)).type := by
  simp only [readRegistry, List.mem_cons, List.not_mem_nil, or_false] at h
  rcases h with rfl | rfl | rfl | rfl | rfl | rfl | rfl | rfl
  case inr.inr.inr.inr.inr.inr.inl => exact .inl ⟨rfl, rfl⟩
  all_goals exact .inr ⟨_, _, rfl, rfl, rfl, rfl, rfl⟩

theorem isReadableFrom_lone (units : Option (UnitSystem D)) (gamma : D) :
    (loneSnapshot units : Snapshot D S).IsReadableFrom (loneArchive attributes) none gamma where
  fits := by
    have hbytes : 1 * 109 ≤ Layout.maxBytes := by decide
    exact ⟨Int.one_nonneg, hbytes⟩
  group := rfl
  request := by
    refine ⟨rfl, ?_, fun f => FieldDescriptor.isFor_readLeaf, FieldDescriptor.nodup_readLeaf⟩
    intro field hfield m hm
    rw [(offered_lone attributes hfield).1] at hm
    obtain ⟨d, hd, rfl⟩ := Option.map_eq_some_iff.mp hm
    refine ⟨d, rfl, fun hshape => ?_⟩
    obtain ⟨habsent, -⟩ | ⟨d', rows, hd', hrows, -⟩ := exists_loneDataset (D := D) (S := S) hfield
    · cases hd.symm.trans habsent
    · cases hd.symm.trans hd'
      rw [hshape] at hrows
      cases hrows
  readable := by
    intro field hfield
    rw [(offered_lone attributes hfield).2]
    obtain ⟨habsent, hoptional⟩ | ⟨d, rows, hd, hrows, hnumbers, -⟩ :=
      exists_loneDataset (D := D) (S := S) hfield
    · rw [habsent]
      exact FieldDescriptor.isReadable_none hoptional 1
    · rw [hd]
      refine ⟨fun _ => rfl, ?_, ?_, ?_⟩
      all_goals
        rintro _ ⟨⟩
      · exact hrows
      · exact ⟨_, rfl⟩
      · exact hnumbers

theorem isFilled_lone (gamma : D) :
    IsFilled none gamma (offered (loneArchive attributes) [particleGroup]) readLeaf readRegistry
      (Gas.atRest 1) loneGas where
  isRows := ⟨rfl, rfl⟩
  length := rfl
  read := by
    intro field hfield d hd
    rw [(offered_lone attributes hfield).2] at hd
    obtain ⟨habsent, -⟩ | ⟨d', rows, hd', -, -, hrows, hcolumn⟩ :=
      exists_loneDataset (D := D) (S := S) hfield
    · cases hd.symm.trans habsent
    · cases hd.symm.trans hd'
      exact ⟨_, rows, rfl, hrows, hcolumn⟩
  kept := by
    intro l hl
    have hread : ∀ i : Fin 8, (offered (loneArchive attributes) [particleGroup]
        readRegistry[i]).isSome = true → readLeaf readRegistry[i] ≠ l :=
      fun i => hl _ (List.getElem_mem _)
    cases l with
    | part l =>
      cases l with
      | x => exact absurd rfl (hread 0 rfl)
      | v => exact absurd rfl (hread 1 rfl)
      | mass => exact absurd rfl (hread 2 rfl)
      | h => exact absurd rfl (hread 3 rfl)
      | energy => exact absurd rfl (hread 4 rfl)
      | id => exact absurd rfl (hread 5 rfl)
      | rho => exact absurd rfl (hread 7 rfl)
      | gpart | aHydro | timeBin | momentum | primitiveV | pressure => rfl
    | state l => cases l <;> rfl

omit [Arithmetic S] [Narrowing D S] in
theorem read_loneDirectory : (loneDirectory attributes).read "ics.hdf5"
    = .ok (loneArchive attributes) := by
  have hname : Directory.LeadsTo (Path.beforeNull "ics.hdf5") "ics.hdf5" :=
    ⟨by decide, by decide, by decide, by decide⟩
  rw [Directory.read, Directory.locate_of_leadsTo hname]
  rfl

theorem readParticles_lone {units : Option (UnitSystem D)} (scheme : Scheme D) :
    (loneSnapshot units).readParticles (loneDirectory attributes) scheme none true
      = .ok (loneGas.firstInit scheme.gamma scheme.totalEnergy) := by
  have hunits : UnitChange.between (loneSnapshot units : Snapshot D S).units none = none := by
    cases units <;> rfl
  have hfilename : (loneSnapshot units : Snapshot D S).file = "ics.hdf5" := rfl
  have hfile : (loneDirectory attributes).read (loneSnapshot units : Snapshot D S).file
      = .ok (loneArchive attributes) := by
    rw [hfilename]
    exact read_loneDirectory attributes
  have hreadable : (loneSnapshot units : Snapshot D S).IsReadableFrom (loneArchive attributes)
      (UnitChange.between (loneSnapshot units : Snapshot D S).units none) scheme.gamma := by
    rw [hunits]
    exact isReadableFrom_lone attributes units scheme.gamma
  obtain ⟨g, hfilled, hread⟩ := hreadable.exists_filled hfile
  rw [hunits] at hfilled
  obtain rfl := hfilled.unique (isFilled_lone attributes scheme.gamma)
  exact hread true

variable [Numeral D] [Numeral S]

omit [Arithmetic S] in
theorem openFile_lone {u : UnitSystem D}
    (h : UnitSystem.ofAttributes attributes = (pure u : Reading (UnitSystem D))) :
    (openFile (loneDirectory attributes) "ics.hdf5" none).result
      = (.ok (loneSnapshot (some u)), []) := by
  have hname : Directory.normalName "ics.hdf5" = "ics.hdf5" := by decide
  have hunits : unitsOf? (loneArchive attributes)
      = (pure (some u) : Reading (Option (UnitSystem D))) := by
    show some <$> UnitSystem.ofAttributes attributes = _
    rw [h]
    rfl
  have hsubgroups : (loneArchive attributes).subgroups [particleGroup] = [] := by
    have hparticles : Path.components particleGroup = [particleGroup] := by decide
    have hgroup : Path.components UnitSystem.groupName = [UnitSystem.groupName] := by decide
    have hnot : particleGroup ≠ Path.join ([particleGroup] ++ [particleGroup]) ∧
        UnitSystem.groupName ≠ Path.join ([particleGroup] ++ [UnitSystem.groupName]) := by decide
    simpa [Archive.subgroups, loneArchive, hparticles, hgroup] using hnot
  have hcount : countGas [] (loneArchive attributes) = .ok 1 := by
    have hmembers : (loneArchive attributes).members [particleGroup]
        = loneDatasets.map fun x => (x.1, .dataset x.2) := by
      rw [Archive.members, hsubgroups]
      rfl
    show countRows (loneArchive attributes) = .ok 1
    rw [countRows, hmembers]
    rfl
  have hheader : ((loneArchive attributes).attributes? [headerGroup]).getD [] = [] := rfl
  have hrun : openFile (loneDirectory attributes) "ics.hdf5" none
      = ofArchive "ics.hdf5" none (loneArchive attributes) := by
    rw [openFile, hname, read_loneDirectory]
    rfl
  rw [hrun, ofArchive, hunits, hname, hheader, hcount]
  rfl

end Lone

end Snapshot

end MeshlessGas
