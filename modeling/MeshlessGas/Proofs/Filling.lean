/-
Filling particles — what reading the fields of a group makes of particles at rest.

Reading goes through the fields one by one.  A field whose dataset holds a row for each
particle puts every row into its record, and an optional field that is absent changes
nothing.  Over the fields that a run is started from this gives the particles that are read
from a snapshot, before they are made ready to run.
-/
import MeshlessGas.Proofs.FieldRows
import MeshlessGas.Proofs.Written

namespace MeshlessGas

open Conversion (Row)

variable {D S : Type}

/-! ## Gases of rows -/

namespace Gas

def rows (g : Gas D S) : List (Row D S) := g.parts.zip g.xparts

/-- A gas of one axis, on which every particle has its extended state. -/
structure IsRows (g : Gas D S) : Prop where
  axes : g.axes = [g.parts.length]
  states : g.xparts.length = g.parts.length

/-- The gas of which some entries give the particles and their states. -/
def ofRows {α : Type} (p : α → Particle D S) (s : α → ExtendedState S) (entries : List α) :
    Gas D S where
  parts := entries.map p
  xparts := entries.map s
  axes := [entries.length]

theorem IsRows.ofRows_rows {g : Gas D S} (h : g.IsRows) : ofRows Prod.fst Prod.snd g.rows = g := by
  obtain ⟨parts, xparts, axes⟩ := g
  obtain ⟨haxes, hstates⟩ := h
  have hparts : (parts.zip xparts).map Prod.fst = parts :=
    List.map_fst_zip (Nat.le_of_eq hstates.symm)
  have hxparts : (parts.zip xparts).map Prod.snd = xparts :=
    List.map_snd_zip (Nat.le_of_eq hstates)
  have hlength : (parts.zip xparts).length = parts.length := by
    rw [List.length_zip, hstates, Nat.min_self]
  have haxes : axes = [parts.length] := haxes
  subst haxes
  simp only [ofRows, rows, hparts, hxparts, hlength]

theorem IsRows.map_fst_rows {g : Gas D S} (h : g.IsRows) : g.rows.map Prod.fst = g.parts :=
  congrArg parts h.ofRows_rows

theorem IsRows.map_snd_rows {g : Gas D S} (h : g.IsRows) : g.rows.map Prod.snd = g.xparts :=
  congrArg xparts h.ofRows_rows

theorem IsRows.length_rows {g : Gas D S} (h : g.IsRows) : g.rows.length = g.parts.length := by
  rw [rows, List.length_zip, h.states, Nat.min_self]

theorem IsRows.isRow {g : Gas D S} (h : g.IsRows) : g.isRow = true := by
  rw [Gas.isRow, h.axes]
  exact decide_eq_true rfl

theorem IsRows.rowCount {g : Gas D S} (h : g.IsRows) : g.rowCount = .ok g.parts.length := by
  rw [Gas.rowCount, h.axes]
  rfl

theorem forall_rows {g : Gas D S} {P : Particle D S → Prop} (h : ∀ p ∈ g.parts, P p) :
    ∀ r ∈ g.rows, P r.1 :=
  fun r hr => h r.1 (List.of_mem_zip hr).1

section OfRows

variable {α : Type} (p : α → Particle D S) (s : α → ExtendedState S) (entries : List α)

theorem rowCount_ofRows : (ofRows p s entries).rowCount = .ok entries.length := rfl

theorem isRow_ofRows : (ofRows p s entries).isRow = true := by
  simp [isRow, ofRows]

theorem isRows_ofRows : (ofRows p s entries).IsRows :=
  ⟨by simp [ofRows], by simp [ofRows]⟩

theorem numbersOf_ofRows [Transcendental D] [Arithmetic S] [Narrowing D S]
    (f : FieldDescriptor) (context : Option (Context D S)) :
    f.numbersOf context (ofRows p s entries)
      = f.numbers context (entries.map p) (entries.map s) := by
  rw [FieldDescriptor.numbersOf, isRow_ofRows, if_pos rfl]
  rfl

theorem firstInit_ofRows [Transcendental D] [Arithmetic S] [Narrowing D S] (gamma : D)
    (conservedIsTotal : Bool) :
    (ofRows p s entries).firstInit gamma conservedIsTotal
      = ofRows (fun a => (p a).firstInit gamma conservedIsTotal)
          (fun a => Particle.firstInitExtended (p a) (s a)) entries := by
  simp only [firstInit, Particle.firstInitAll, ofRows, List.map_map, List.zipWith_map,
    List.zipWith_self]
  rfl

variable [Transcendental D] [Arithmetic S] [Narrowing D S]

/-- There is room for particles at rest as long as their records fit into an array. -/
theorem allocate_eq (hfits : entries.length * (Particle.layout : Layout _ D S _).bytes
      ≤ Layout.maxBytes) :
    (allocate [(entries.length : Int)] : Except Failure (Gas D S))
      = .ok (ofRows (fun _ => .zero) (fun _ => .zero) entries) := by
  have hparts : (Particle.layout : Layout (Particle D S) D S _).bytes = 109 := rfl
  have hstates : (ExtendedState.layout : Layout (ExtendedState S) D S _).bytes = 24 := rfl
  have hrank : ¬ maxRank < [(entries.length : Int)].length := by simp [maxRank]
  have hsign : ([(entries.length : Int)].any fun n => n < 0) = false := by simp
  have hone : ∀ {R L : Type} (layout : Layout R D S L) (r : R),
      entries.length * layout.bytes ≤ Layout.maxBytes → layout.bytes ≤ Layout.maxBytes →
      Layout.allocate layout [(entries.length : Int)] r
        = .ok (List.replicate entries.length r) := by
    intro R L layout r hbytes hempty
    -- Without entries the bytes of one record are counted.
    have hcount : cellCount (([(entries.length : Int)].map Int.toNat).filter (· ≠ 0))
        * layout.bytes ≤ Layout.maxBytes := by
      by_cases hzero : entries.length = 0
      · simpa [hzero] using hempty
      · simpa [hzero] using hbytes
    simp only [Layout.allocate, hsign, hrank, Nat.not_lt.mpr hcount, Bool.false_eq_true, or_self,
      if_false]
    simp
  have hbytes : entries.length * (ExtendedState.layout : Layout (ExtendedState S) D S _).bytes
      ≤ Layout.maxBytes := by
    rw [hstates]
    rw [hparts] at hfits
    omega
  rw [allocate, hone _ _ hfits (by rw [hparts]; decide), Result.ok_bind,
    hone _ _ hbytes (by rw [hstates]; decide), Result.ok_bind]
  simp [ofRows, ← List.map_const']

omit [Arithmetic S] in
theorem momenta_ofRows : (ofRows p s entries).momenta
    = .ok (entries.map fun a => Particle.narrowVec
        ((Particle.widenVec (p a).v : Vec3 D).map (Narrowing.widen (p a).conserved.mass * ·))) := by
  let velocity (a : α) : Vec3 D := Particle.widenVec (p a).v
  let mass (a : α) : D := Narrowing.widen (p a).conserved.mass
  have hparts : (ofRows p s entries).partTensor = (Tensor.vector entries).map p := by
    have hreshape := Tensor.reshape?_shape (Tensor.vector (entries.map p))
    rw [Tensor.shape_vector, List.length_map] at hreshape
    simp only [partTensor, ofRows, hreshape, Option.getD_some, Tensor.map_vector]
  have hmasses : ((Tensor.vector entries).map mass).reshape? [entries.length, 1]
      = some (.rows entries [1] (fun a => [mass a]) fun _ => rfl) := by
    have hcells : ((Tensor.vector entries).map mass).cells.length
        = cellCount [entries.length, 1] := by simp
    rw [Tensor.reshape?, dif_pos hcells]
    exact congrArg some (Tensor.ext rfl List.map_eq_flatMap)
  have hvelocities : ((Tensor.vector entries).map velocity).spreadOut [3] Vec3.toList
        Vec3.length_toList
      = .rows entries [3] (fun a => (velocity a).toList) fun a => (velocity a).length_cells := by
    rw [← Tensor.spreadOut_vector]
    exact Conversion.components_map velocity (.vector entries)
  have hproducts := Tensor.map₂?_column (· * ·) entries mass fun a => (velocity a).length_cells
  have hpieces : pieces (ofRows p s entries).parts.length 3
      (entries.flatMap fun a => (velocity a).toList.map (mass a * ·))
        = entries.map fun a => (velocity a).toList.map (mass a * ·) := by
    rw [ofRows, List.length_map]
    exact pieces_flatMap (fun a => (velocity a).toList.map (mass a * ·)) (fun _ => rfl) entries
  have hlength : ∀ a, ((velocity a).toList.map (mass a * ·)).length = cellCount [3] := by
    intro a
    rw [List.length_map]
    exact (velocity a).length_cells
  have hassign := Tensor.assignTo?_shape (.rows entries [3]
    (fun a => (velocity a).toList.map (mass a * ·)) hlength)
  rw [Tensor.shape_rows] at hassign
  have haxes : (ofRows p s entries).axes = [entries.length] := rfl
  simp only [momenta, haxes, hparts, Tensor.map_map]
  rw [hmasses, hvelocities]
  simp only [Failure.ofOption_some, Result.ok_bind, hproducts, Tensor.shape_rows, hassign,
    Tensor.cells_rows, hpieces, List.map_map]
  rfl

theorem initialise_ofRows (gamma : D) (conservedIsTotal : Bool) :
    (ofRows p s entries).initialise (.ok gamma) conservedIsTotal
      = (.ok (), (ofRows p s entries).firstInit gamma conservedIsTotal) := by
  rw [firstInit_ofRows]
  simp only [initialise, momenta_ofRows, firstInit_ofRows]
  simp only [ofRows, List.zipWith_map, List.zipWith_self]
  rfl
end OfRows

end Gas

/-! ## Looking a dataset up -/

namespace Archive

section Members

variable {f : Archive D S} {used : List String} {place name : String} {group : Group D S}

theorem dataset?_eq_none (hused : f.Within used) (hroot : "" ∉ used) :
    f.dataset? [place] = none := by
  show ((some ((f.groups.find? "").getD .empty)).bind fun g => g.datasets.find? place) = none
  rw [hused "" hroot]
  rfl

/-- The members of the group of particles are its datasets, as long as nothing else in the
archive has their names. -/
theorem member?_eq (hused : f.Within used) (hgroup : f.groups.find? place = some group)
    (hname : Path.IsName name) (hfree : Path.join [place, name] ∉ used) :
    f.member? [place] name = (group.datasets.find? name).map .dataset := by
  have hnone : f.group? [place, name] = none := hused _ hfree
  have hdataset : f.dataset? [place, name] = group.datasets.find? name := by
    show (f.groups.find? place).bind (fun g => g.datasets.find? name) = _
    rw [hgroup]
    rfl
  have hat : f.at? [place, name] = (group.datasets.find? name).map .dataset := by
    unfold at?
    rw [hnone, hdataset]
  simp only [member?, hname.beforeNull, hname.ne_empty, if_false, hname.resolve]
  exact hat

theorem lookup?_member (hused : f.Within used) (hroot : "" ∉ used)
    (hgroup : f.groups.find? place = some group) (hname : Path.IsName name)
    (hfree : Path.join [place, name] ∉ used) :
    f.lookup? [place] name = .ok ((group.datasets.find? name).map .dataset) := by
  simp only [lookup?, dataset?_eq_none hused hroot, member?_eq hused hgroup hname hfree]

end Members

end Archive

/-! ## Storing rows -/

namespace FieldDescriptor

variable [Transcendental D] [Arithmetic S] [Narrowing D S]

/-- A field that is read into a leaf of the particle records. -/
structure FillsLeaf (f : FieldDescriptor) (l : ParticleLeaf) : Prop where
  label : f.label = .text f.name
  hasLength : f.hasLength = true
  path : ∃ path, f.kind = .stored path .parts ∧ path.isEmpty = false ∧
    ParticleLeaf.tree.follow path = .ok (.leaf l) ∧
      ∃ around, ParticleLeaf.tree.follow path.dropLast = .ok around

theorem FillsLeaf.assignTo {f : FieldDescriptor} {l : ParticleLeaf} (hf : f.FillsLeaf l)
    (hshape : (l.lens : Lens (Particle D S) D S).shape = f.shape) {α : Type} {entries : List α}
    {p : α → Particle D S} {s : α → ExtendedState S} (t : ElementType)
    {cells : α → List (Cell D S)} (h : ∀ a, (cells a).length = cellCount f.shape.shape) :
    f.assignTo (Gas.ofRows p s entries) ⟨t, Tensor.rows entries f.shape.shape cells h⟩
      = .ok (Gas.ofRows (fun a => l.lens.put (cells a) (p a)) s entries) := by
  obtain ⟨path, hkind, hpath, hfollow, around, haround⟩ := hf.path
  have hassign : assignPath Particle.layout f path
      ⟨t, Tensor.rows entries f.shape.shape cells h⟩ (entries.map p)
        = .ok (entries.map fun a => l.lens.put (cells a) (p a)) :=
    assignPath_rows hf.hasLength hfollow haround hpath hshape t p entries h
  rw [FieldDescriptor.assignTo, Gas.isRow_ofRows, if_pos rfl]
  simp only [assign, hkind, Gas.ofRows, hassign, Result.ok_bind]
  rfl

end FieldDescriptor

/-! ## Reading one field after the other -/

namespace Filling

variable {α β : Type} {g g' : Gas D S}

theorem run_get_bind (k : Gas D S → Filling D S α) :
    (get >>= k).run.run g = (k g).run.run g := rfl

theorem run_set_bind (k : Unit → Filling D S α) :
    (set g' >>= k).run.run g = (k ()).run.run g' := rfl

theorem liftM_ok (a : α) : (liftM (Except.ok a : Except Failure α) : Filling D S α) = pure a :=
  rfl

theorem run_bind_ok {x : Filling D S α} {a : α} (h : x.run.run g = (.ok a, g'))
    (k : α → Filling D S β) : (x >>= k).run.run g = (k a).run.run g' := by
  rw [ExceptT.run_bind, StateT.run_bind, h]
  rfl

end Filling

namespace FieldDescriptor

variable [Transcendental D] [Arithmetic S] [Narrowing D S]

/-- Reading fields from a place succeeds and makes one gas of another. -/
structure Fills (file : Archive D S) (place : Place) (gamma : D) (fields : List FieldDescriptor)
    (g g' : Gas D S) : Prop where
  run : ∃ names, (readAll file place none gamma fields).run.run g = (.ok names, g')

variable {file : Archive D S} {place : Place} {gamma : D} {f : FieldDescriptor}
  {fields : List FieldDescriptor} {g g' : Gas D S}

theorem fills_nil : Fills file place gamma [] g g := ⟨[], rfl⟩

theorem nameText_of_label (hlabel : f.label = .text f.name) : f.nameText = .ok f.name := by
  rw [nameText, hlabel]
  rfl

theorem run_readAll_absent {change : Option (UnitChange D)} (hlabel : f.label = .text f.name)
    (hoptional : f.compulsory = false) (hfound : file.lookup? place f.name = .ok none) :
    (readAll file place change gamma (f :: fields)).run.run g
      = (readAll file place change gamma fields).run.run g := by
  have hstored : f.stored? (groupPath place) none g.rowCount change gamma
      = (.ok none : Except Failure (Option (NumericArray D S))) := by
    simp only [stored?, hoptional, Bool.false_eq_true, if_false]
  rw [readAll, Filling.run_get_bind]
  simp only [nameText_of_label hlabel, hfound, hstored, Filling.liftM_ok, pure_bind]

theorem fills_cons_none (hlabel : f.label = .text f.name) (hoptional : f.compulsory = false)
    (hfound : file.lookup? place f.name = .ok none) (hrest : Fills file place gamma fields g g') :
    Fills file place gamma (f :: fields) g g' := by
  obtain ⟨names, hrun⟩ := hrest.run
  exact ⟨names, (run_readAll_absent hlabel hoptional hfound).trans hrun⟩

theorem fills_cons_rows {l : ParticleLeaf} (hf : f.FillsLeaf l)
    (hshape : (l.lens : Lens (Particle D S) D S).shape = f.shape) {α : Type} {entries : List α}
    {p : α → Particle D S} {s : α → ExtendedState S} {d : Dataset D S} {t : ElementType}
    {cells : α → List (Cell D S)} (h : ∀ a, (cells a).length = cellCount f.shape.shape)
    (hfound : file.lookup? place f.name = .ok (some (.dataset d)))
    (hvalues : d.values = ⟨t, Tensor.rows entries f.shape.shape cells h⟩)
    (hrest : Fills file place gamma fields
      (Gas.ofRows (fun a => l.lens.put (cells a) (p a)) s entries) g') :
    Fills file place gamma (f :: fields) (Gas.ofRows p s entries) g' := by
  obtain ⟨names, hrun⟩ := hrest.run
  have hname := nameText_of_label hf.label
  have hstored : f.stored? (groupPath place) (some (.dataset d))
      (Gas.ofRows p s entries).rowCount none gamma = .ok (some d.values) := by
    have hcount : d.values.rowCount = .ok entries.length := by
      rw [hvalues]
      rfl
    simp only [stored?, hcount, Gas.rowCount_ofRows, Result.ok_bind, ne_eq, not_true_eq_false,
      if_false]
    rfl
  have hassign : f.assignTo (Gas.ofRows p s entries) d.values
      = .ok (Gas.ofRows (fun a => l.lens.put (cells a) (p a)) s entries) := by
    rw [hvalues]
    exact hf.assignTo hshape t h
  refine ⟨f.name :: names, ?_⟩
  rw [readAll, Filling.run_get_bind]
  simp only [hname, hfound, hstored, hassign, Filling.liftM_ok, pure_bind, Filling.run_set_bind]
  rw [Filling.run_bind_ok hrun]
  rfl

end FieldDescriptor

/-! ## Particles that were read -/

namespace Conversion

variable [Transcendental D] [Arithmetic S] [Narrowing D S]

/-- The particle that is read from the fields of a row: at rest but for what they hold.  Its
conserved energy is still specific. -/
def loadedOf (context : Context D S) (r : Row D S) : Particle D S :=
  { (Particle.zero : Particle D S) with
    id := r.1.id
    x := positionOf context r.1
    v := velocityOf context r
    h := r.1.h
    conserved :=
      ⟨r.1.conserved.mass, .replicate 0.0, r.1.internalEnergy context.scheme.gamma⟩
    primitives := ⟨r.1.primitives.rho, .replicate 0.0, 0.0⟩ }

theorem ofInt_wrap_id (n : UInt64) : UInt64.ofInt (IntegerType.uint64.wrap n.toNat) = n := by
  have hwrap : IntegerType.uint64.wrap n.toNat = n.toNat := by
    simpa [IntegerType.holds] using IntegerType.holds_uint64 n
  have hmod : (n.toNat : Int) % 2 ^ 64 = n.toNat :=
    Int.emod_eq_of_lt (Int.natCast_nonneg _) (by exact_mod_cast n.toNat_lt)
  rw [hwrap, UInt64.ofInt, hmod, Int.toNat_natCast, UInt64.ofNat_toNat]

end Conversion

namespace FieldDescriptor

variable [Transcendental D] [Arithmetic S] [Narrowing D S]

/-- A group holds a dataset with a row of a field for each entry. -/
def IsHeld (f : FieldDescriptor) (group : Group D S) (context : Context D S)
    (entries : List (Row D S)) : Prop :=
  ∃ (d : Dataset D S) (h : ∀ r, (f.cellsOf context r).length = cellCount f.shape.shape),
    group.datasets.find? f.name = some d ∧
      d.values = ⟨f.type, Tensor.rows entries f.shape.shape (f.cellsOf context) h⟩

variable {file : Archive D S} {place : Place} {group : Group D S} {context : Context D S}
  {entries : List (Row D S)} {gamma : D} {f f' : FieldDescriptor}
  {fields : List FieldDescriptor} {g : Gas D S}

/-- A field is read from what another field of its name and shape has written. -/
theorem fills_cons_written
    (hfound : file.lookup? place f.name = .ok ((group.datasets.find? f.name).map .dataset))
    (hheld : f'.IsHeld group context entries) {l : ParticleLeaf} (hf : f.FillsLeaf l)
    (hname : f'.name = f.name) (hshape : f'.shape = f.shape)
    (hleaf : (l.lens : Lens (Particle D S) D S).shape = f.shape)
    (cells : Row D S → List (Cell D S)) (hcells : f'.cellsOf context = cells)
    {p : Row D S → Particle D S} {s : Row D S → ExtendedState S}
    (hrest : Fills file place gamma fields
      (Gas.ofRows (fun r => l.lens.put (cells r) (p r)) s entries) g) :
    Fills file place gamma (f :: fields) (Gas.ofRows p s entries) g := by
  subst hcells
  obtain ⟨d, h, hd, hvalues⟩ := hheld
  have hlength : ∀ r, (f'.cellsOf context r).length = cellCount f.shape.shape := by
    rw [← hshape]
    exact h
  have hrows : d.values
      = ⟨f'.type, Tensor.rows entries f.shape.shape (f'.cellsOf context) hlength⟩ := by
    rw [hvalues]
    refine congrArg (NumericArray.mk _) (Tensor.ext ?_ rfl)
    rw [Tensor.shape_rows, Tensor.shape_rows, hshape]
  rw [← hname, hd] at hfound
  rw [hname] at hfound
  exact fills_cons_rows hf hleaf hlength hfound hrows hrest

theorem isName_readRegistry (hf : f ∈ readRegistry) : Path.IsName f.name := by
  simp only [readRegistry, List.mem_cons, List.not_mem_nil, or_false] at hf
  rcases hf with rfl | rfl | rfl | rfl | rfl | rfl | rfl | rfl
  all_goals exact ⟨by decide, by decide, by decide, by decide, by decide⟩

theorem fills_readRegistry (gamma : D) {used : List String} {name : String}
    (hused : file.Within used) (hroot : "" ∉ used)
    (hfree : ∀ f ∈ readRegistry, Path.join [name, f.name] ∉ used)
    (hgroup : file.groups.find? name = some group)
    (hheld : ∀ f ∈ writeRegistry, f.IsHeld group context entries)
    (hnone : group.datasets.find? "Accelerations" = none) :
    Fills file [name] gamma readRegistry
      (Gas.ofRows (fun _ => .zero) (fun _ => .zero) entries)
      (Gas.ofRows (Conversion.loadedOf context) (fun _ => .zero) entries) := by
  have hlookup : ∀ f ∈ readRegistry, file.lookup? [name] f.name
      = .ok ((group.datasets.find? f.name).map .dataset) := by
    intro f hf
    exact Archive.lookup?_member hused hroot hgroup (isName_readRegistry hf) (hfree f hf)
  have hloaded : ∀ r : Row D S, Conversion.loadedOf context r =
      { Conversion.loadedOf context r with
        id := UInt64.ofInt (IntegerType.uint64.wrap r.1.id.toNat) } := by
    intro r
    rw [Conversion.ofInt_wrap_id]
    rfl
  -- Storing an identifier wraps it, so that this is the particle that the steps lead to.
  rw [funext hloaded]
  simp only [readRegistry, List.forall_mem_cons] at hlookup
  obtain ⟨hx, hv, hmass, hh, henergy, hid, ha, hrho, -⟩ := hlookup
  simp only [writeRegistry, List.forall_mem_cons] at hheld
  obtain ⟨kx, kv, kmass, kh, kenergy, kid, krho, -⟩ := hheld
  have habsent : file.lookup? [name] "Accelerations"
      = .ok ((group.datasets.find? "Accelerations").map .dataset) := ha
  rw [hnone] at habsent
  -- One step for each field, in the order of the registry; accelerations were never written.
  refine fills_cons_written hx kx (l := .x) ⟨rfl, rfl, _, rfl, rfl, rfl, _, rfl⟩ rfl rfl rfl
    (fun r => (Conversion.positionOf context r.1).toList.map .double) rfl ?_
  refine fills_cons_written hv kv (l := .v) ⟨rfl, rfl, _, rfl, rfl, rfl, _, rfl⟩ rfl rfl rfl
    (fun r => (Conversion.velocityOf context r).toList.map .single) rfl ?_
  refine fills_cons_written hmass kmass (l := .mass) ⟨rfl, rfl, _, rfl, rfl, rfl, _, rfl⟩
    rfl rfl rfl (fun r => [.single r.1.conserved.mass]) rfl ?_
  refine fills_cons_written hh kh (l := .h) ⟨rfl, rfl, _, rfl, rfl, rfl, _, rfl⟩ rfl rfl rfl
    (fun r => [.single r.1.h]) rfl ?_
  refine fills_cons_written henergy kenergy (l := .energy) ⟨rfl, rfl, _, rfl, rfl, rfl, _, rfl⟩
    rfl rfl rfl (fun r => [.single (r.1.internalEnergy context.scheme.gamma)]) rfl ?_
  refine fills_cons_written hid kid (l := .id) ⟨rfl, rfl, _, rfl, rfl, rfl, _, rfl⟩
    rfl rfl rfl (fun r => [.whole r.1.id.toNat]) rfl ?_
  refine fills_cons_none rfl rfl habsent ?_
  refine fills_cons_written (f := readRegistry[7]) hrho krho (l := .rho)
    ⟨rfl, rfl, _, rfl, rfl, rfl, _, rfl⟩ rfl rfl rfl
    (fun r => [.single r.1.primitives.rho]) rfl ?_
  exact fills_nil

end FieldDescriptor

end MeshlessGas
