/-
Written snapshots — the archive that a successful write leaves.

Every part of a snapshot is one group below the root, made once and filled at once.  Each
part has a law that says when writing it succeeds and which group it leaves; together they
give the groups of the whole archive, and from the other side what is enough for writing to
succeed.
-/
import MeshlessGas.Proofs.Tensor
import MeshlessGas.Proofs.Writing
import MeshlessGas.Snapshot.Contents

namespace MeshlessGas

open Writing (Runs Storable storeAll)

variable {D S : Type} {f g : Archive D S}

/-! ## Groups that are not there yet -/

/-- An archive has no groups but those of some names. -/
def Archive.Within (used : List String) (f : Archive D S) : Prop :=
  ∀ name, name ∉ used → f.groups.find? name = none

theorem Archive.Within.put {used : List String} (h : f.Within used) (name : String)
    (group : Group D S) : (f.put name group).Within (name :: used) := by
  intro other hother
  rw [List.mem_cons, not_or] at hother
  rw [Archive.find?_put, if_neg hother.1]
  exact h other hother.2

namespace Writing

variable {used : List String} {name : String}

theorem at?_eq_none (h : f.Within used) (hroot : "" ∉ used) (hname : name ∉ used) :
    f.at? [name] = none := by
  have hdataset : f.dataset? [name] = none := by
    have hgroup : f.group? [] = some .empty := by
      show some ((f.groups.find? "").getD .empty) = _
      rw [h "" hroot]
      rfl
    show (f.group? []).bind (fun g => g.datasets.find? name) = none
    rw [hgroup]
    rfl
  unfold Archive.at?
  rw [Archive.group?_single, h name hname, hdataset]
  rfl

theorem runs_newGroup {α : Type} (h : f.Within used) (hroot : "" ∉ used) (hname : name ∉ used)
    {k : Unit → Writing D S α} {a : α} :
    Runs (createGroup [name] >>= k) f a g ↔ Runs (k ()) (f.put name .empty) a g := by
  have hat := at?_eq_none h hroot hname
  rw [runs_bind]
  constructor
  · rintro ⟨_, f', hcreate, hk⟩
    rw [(runs_createGroup.mp hcreate).2] at hk
    exact hk
  · intro hk
    exact ⟨(), _, runs_createGroup.mpr ⟨hat, rfl⟩, hk⟩

end Writing

/-! ## Datasets -/

namespace FieldDescriptor

variable [Transcendental D] [Arithmetic S] [Narrowing D S]
variable {context : Context D S} {gas : Gas D S} {units : UnitSystem D}

/-- The dataset of a field: its numbers in the element type of the field, and its
attributes. -/
def datasetOf (f : FieldDescriptor) (context : Context D S) (gas : Gas D S)
    (units : UnitSystem D) : Except Failure (Dataset D S) := do
  let values ← f.numbersOf (some context) gas
  let attributes ← f.attributes units context.a context.scheme.gamma
  return ⟨values.cast f.type, storeAll [] attributes, .plain⟩

/-- A field as the registries have them: it gives out plain numbers, and its name is one
component of a path. -/
structure IsPlain (f : FieldDescriptor) : Prop where
  format : f.format = .plain
  label : f.label = .text f.name
  isName : Path.IsName f.name
  described : ∃ s, f.description = .text s ∧ Writing.storable s = true

theorem isPlain_writeRegistry {f : FieldDescriptor} (hf : f ∈ writeRegistry) : f.IsPlain := by
  simp only [writeRegistry, List.mem_cons, List.not_mem_nil, or_false] at hf
  rcases hf with rfl | rfl | rfl | rfl | rfl | rfl | rfl | rfl | rfl | rfl | rfl
  all_goals
    exact ⟨rfl, rfl, ⟨by decide, by decide, by decide, by decide, by decide⟩,
      _, rfl, by decide⟩

theorem rows_plain [Numeral D] [Numeral S] (t : ElementType) (a : NumericArray D S) :
    FieldFormat.rows .plain t a
      = .ok ⟨t, .plain, a.cells.map fun c => .number t (c.cast t)⟩ := by
  have hgive : ∀ c ∈ a.cells.cells,
      FieldFormat.give .plain t a.type c = .ok (.number t (c.cast t)) := fun _ _ => rfl
  have hplain : ¬ ¬ FieldFormat.isGiven .plain = true := by decide
  have hlength : FieldFormat.withLength a.type .plain = .plain := rfl
  simp only [FieldFormat.rows, hplain, if_false, hlength, Tensor.mapM_of_forall_ok hgive,
    Result.ok_bind]
  rfl

omit [Arithmetic S] [Narrowing D S] in
theorem storable_attributes {f : FieldDescriptor} (hf : f.IsPlain) {scaleFactor gamma : D}
    {attributes : List (String × Attribute D S)}
    (h : f.attributes units scaleFactor gamma = .ok attributes) :
    ∀ x ∈ attributes, Storable x.1 x.2 := by
  obtain ⟨description, hdescription, hstorable⟩ := hf.described
  have hkey : ¬ ¬ f.label.isKey = true := by
    rw [hf.label]
    exact not_not_intro rfl
  simp only [FieldDescriptor.attributes, hkey, if_false, hdescription, Result.pure_eq,
    Result.ok_bind, Result.bind_eq_ok, Except.ok.injEq] at h
  obtain ⟨cgs, -, scale, -, rfl⟩ := h
  have hfactor : ∀ x : Factor D, Writing.textOf? (factorAttribute x : Attribute D S) = none := by
    intro x
    cases x <;> rfl
  have hexponent : ∀ x : Exponent D,
      Writing.textOf? (exponentAttribute x : Attribute D S) = none := by
    intro x
    cases x <;> rfl
  have hexponents : ∀ d : BaseDimension, Path.beforeNull (exponentName d) ≠ "" := by
    intro d
    cases d <;> decide
  have hnames : ∀ key ∈ [cgsFactorName, physicalFactorName, "Description", "a-scale exponent",
      "h-scale exponent"], Path.beforeNull key ≠ "" := by
    decide
  intro x hx
  simp only [List.mem_cons, List.not_mem_nil, or_false] at hx
  rcases hx with rfl | rfl | rfl | rfl | rfl | rfl | rfl | rfl | rfl | rfl
  · exact ⟨hnames _ (by simp), by simp [hfactor]⟩
  · exact ⟨hnames _ (by simp), by simp [hfactor]⟩
  · exact ⟨hnames _ (by simp), by simpa using hstorable⟩
  · exact ⟨hexponents _, by simp [hexponent]⟩
  · exact ⟨hexponents _, by simp [hexponent]⟩
  · exact ⟨hexponents _, by simp [hexponent]⟩
  · exact ⟨hexponents _, by simp [hexponent]⟩
  · exact ⟨hexponents _, by simp [hexponent]⟩
  · exact ⟨hnames _ (by simp), by simp [Attribute.reals]⟩
  · exact ⟨hnames _ (by simp), by simp [Attribute.reals]⟩

variable {name : String} {group : Group D S}

/-- Writing a field that is not there yet adds its dataset. -/
theorem runs_writeTo [Numeral D] [Numeral S] {field : FieldDescriptor} (hfield : field.IsPlain)
    (hfree : f.groups.find? (Path.join [name, field.name]) = none)
    (hnew : group.datasets.find? field.name = none) {u : Unit} :
    Runs (field.writeTo [name] (some context) gas units) (f.put name group) u g ↔
      ∃ d, field.datasetOf context gas units = .ok d ∧
        g = f.put name { group with datasets := group.datasets.insert field.name d } := by
  have hcreate : ∀ values : NumericArray D S, field.createDataset [name] values .plain
      = Writing.createDataset [name] field.name values >>= fun place => pure (some place) := by
    intro values
    simp only [FieldDescriptor.createDataset, hfield.label]
  have hat : (f.put name group).at? [name, field.name] = none :=
    Writing.at?_put_eq_none.mpr ⟨hfree, hnew⟩
  have hkept : ∀ values : NumericArray D S,
      FieldFormat.kept .plain field.type values = values.cast field.type := fun _ => rfl
  simp only [writeTo, hfield.format, rows_plain, Writing.runs_lift_bind, hkept, hcreate,
    bind_assoc, pure_bind, Failure.ofOption_some, Writing.liftM_ok]
  constructor
  · rintro ⟨values, hvalues, hrun⟩
    obtain ⟨place, h, hdataset, hrun⟩ := Writing.runs_bind.mp hrun
    obtain ⟨-, rfl, rfl⟩ := (Writing.runs_createDataset hfield.isName).mp hdataset
    obtain ⟨attributes, hattributes, hrun⟩ := Writing.runs_lift_bind.mp hrun
    obtain ⟨-, rfl⟩ := Writing.runs_writeDatasetAttributes.mp hrun
    refine ⟨_, ?_, rfl⟩
    rw [datasetOf, hvalues, Result.ok_bind, hattributes, Result.ok_bind]
    rfl
  · rintro ⟨d, hd, rfl⟩
    simp only [datasetOf, Result.bind_eq_ok, Result.pure_eq, Except.ok.injEq] at hd
    obtain ⟨values, hvalues, attributes, hattributes, rfl⟩ := hd
    refine ⟨values, hvalues, Writing.runs_bind.mpr ⟨_, _,
      (Writing.runs_createDataset hfield.isName).mpr ⟨hat, rfl, rfl⟩, ?_⟩⟩
    refine Writing.runs_lift_bind.mpr ⟨attributes, hattributes, ?_⟩
    exact Writing.runs_writeDatasetAttributes.mpr ⟨storable_attributes hfield hattributes, rfl⟩

/-- A group with the dataset of one more field. -/
def storeField (context : Context D S) (gas : Gas D S) (units : UnitSystem D)
    (group : Group D S) (f : FieldDescriptor) : Except Failure (Group D S) := do
  let d ← f.datasetOf context gas units
  return { group with datasets := group.datasets.insert f.name d }

theorem storeField_eq_ok {field : FieldDescriptor} {group' : Group D S} :
    storeField context gas units group field = .ok group' ↔
      ∃ d, field.datasetOf context gas units = .ok d ∧
        group' = { group with datasets := group.datasets.insert field.name d } := by
  rw [storeField, Result.bind_eq_ok]
  constructor
  · rintro ⟨d, hd, h⟩
    cases h
    exact ⟨d, hd, rfl⟩
  · rintro ⟨d, hd, rfl⟩
    exact ⟨d, hd, rfl⟩

/-- Writing fields of different names, none of which is there yet. -/
theorem runs_writeAll [Numeral D] [Numeral S] {fields : List FieldDescriptor}
    (hplain : ∀ x ∈ fields, x.IsPlain)
    (hfree : ∀ x ∈ fields, f.groups.find? (Path.join [name, x.name]) = none)
    (hnodup : (fields.map FieldDescriptor.name).Nodup)
    (hnew : ∀ x ∈ fields, group.datasets.find? x.name = none) {u : Unit} :
    Runs (writeAll fields [name] (some context) gas units) (f.put name group) u g ↔
      ∃ group', fields.foldlM (storeField context gas units) group = .ok group' ∧
        g = f.put name group' := by
  induction fields generalizing group with
  | nil =>
    rw [writeAll, Writing.runs_forM_nil]
    constructor
    · rintro rfl
      exact ⟨group, rfl, rfl⟩
    · rintro ⟨group', h, rfl⟩
      cases h
      rfl
  | cons x fields ih =>
    obtain ⟨hx, hfields⟩ := List.forall_mem_cons.mp hplain
    obtain ⟨hxfree, hfieldsfree⟩ := List.forall_mem_cons.mp hfree
    obtain ⟨hxnew, hfieldsnew⟩ := List.forall_mem_cons.mp hnew
    rw [List.map_cons, List.nodup_cons] at hnodup
    -- The dataset of the first field has none of the names of the others.
    have hnext : ∀ d : Dataset D S, ∀ y ∈ fields,
        (group.datasets.insert x.name d).find? y.name = none := by
      intro d y hy
      have hne : y.name ≠ x.name := fun heq => hnodup.1 (heq ▸ List.mem_map_of_mem hy)
      rw [Table.find?_insert_of_ne _ d hne]
      exact hfieldsnew y hy
    rw [writeAll, Writing.runs_forM_cons, List.foldlM_cons]
    simp only [Result.bind_eq_ok, storeField_eq_ok, runs_writeTo hx hxfree hxnew]
    constructor
    · rintro ⟨_, ⟨d, hd, rfl⟩, hrest⟩
      obtain ⟨group', hgroup, rfl⟩ := (ih hfields hfieldsfree hnodup.2 (hnext d)).mp hrest
      exact ⟨group', ⟨_, ⟨d, hd, rfl⟩, hgroup⟩, rfl⟩
    · rintro ⟨group', ⟨_, ⟨d, hd, rfl⟩, hgroup⟩, rfl⟩
      exact ⟨_, ⟨d, hd, rfl⟩,
        (ih hfields hfieldsfree hnodup.2 (hnext d)).mpr ⟨group', hgroup, rfl⟩⟩

theorem find?_storeAll {fields : List FieldDescriptor} {group' : Group D S}
    (hnodup : (fields.map FieldDescriptor.name).Nodup)
    (h : fields.foldlM (storeField context gas units) group = .ok group') :
    (∀ x ∈ fields, ∃ d, x.datasetOf context gas units = .ok d ∧
        group'.datasets.find? x.name = some d) ∧
      ∀ key, key ∉ fields.map FieldDescriptor.name →
        group'.datasets.find? key = group.datasets.find? key := by
  induction fields generalizing group with
  | nil =>
    cases h
    exact ⟨fun x hx => absurd hx List.not_mem_nil, fun _ _ => rfl⟩
  | cons x fields ih =>
    rw [List.map_cons, List.nodup_cons] at hnodup
    rw [List.foldlM_cons, Result.bind_eq_ok] at h
    obtain ⟨next, hnext, h⟩ := h
    obtain ⟨d, hd, rfl⟩ := storeField_eq_ok.mp hnext
    obtain ⟨hthere, hothers⟩ := ih hnodup.2 h
    refine ⟨List.forall_mem_cons.mpr ⟨⟨d, hd, ?_⟩, hthere⟩, ?_⟩
    · rw [hothers x.name hnodup.1]
      exact Table.find?_insert_self group.datasets x.name d
    · intro key hkey
      rw [List.map_cons, List.mem_cons, not_or] at hkey
      rw [hothers key hkey.2]
      exact Table.find?_insert_of_ne group.datasets d hkey.1

/-- The datasets of fields are all stored when each of them can be made. -/
theorem exists_storeAll {fields : List FieldDescriptor}
    (h : ∀ x ∈ fields, ∃ d, x.datasetOf context gas units = .ok d) :
    ∃ group', fields.foldlM (storeField context gas units) group = .ok group' := by
  induction fields generalizing group with
  | nil => exact ⟨group, rfl⟩
  | cons x fields ih =>
    obtain ⟨⟨d, hd⟩, hfields⟩ := List.forall_mem_cons.mp h
    obtain ⟨group', hgroup⟩ : ∃ group', fields.foldlM (storeField context gas units)
        { group with datasets := group.datasets.insert x.name d } = .ok group' := ih hfields
    refine ⟨group', ?_⟩
    rw [List.foldlM_cons, Result.bind_eq_ok]
    exact ⟨_, storeField_eq_ok.mpr ⟨d, hd, rfl⟩, hgroup⟩

end FieldDescriptor

/-! ## Attributes of the parts -/

namespace Snapshot.Contents

/-- The attributes of the group of units. -/
def unitAttributes [Arithmetic D] (u : UnitSystem D) : List (String × Attribute D S) :=
  BaseDimension.all.map fun d => (d.attributeName, .reals [u.sizeInCgs d])

def parameterAttributes [Arithmetic D] [Numeral D] (p : ParameterSet D) :
    List (String × Attribute D S) :=
  p.sorted.map fun x => (x.1, .text x.2.asText)

theorem writeTo_eq_forM [Arithmetic D] [Numeral D] (p : ParameterSet D) (path : List String) :
    (p.writeTo path : Writing D S Unit)
      = (parameterAttributes p).forM fun x => Writing.writeAttribute path x.1 x.2 :=
  (Writing.forM_map (fun x : String × Value D => (x.1, Attribute.text x.2.asText))
    (fun x => Writing.writeAttribute path x.1 x.2) p.sorted).symm

def flavourAttributes (s : Scheme D) : List (String × Attribute D S) :=
  s.flavour.map fun x => (x.1, .text x.2)

theorem storable_header [Transcendental D] {c : Contents D S}
    {header : List (String × Attribute D S)} (h : c.header = .ok header) :
    ∀ x ∈ header, Storable x.1 x.2 := by
  simp only [Contents.header, Result.bind_eq_ok, Result.pure_eq, Except.ok.injEq] at h
  obtain ⟨count, -, time, -, rfl⟩ := h
  have hnames : ∀ key ∈ ["BoxSize", "NumPart_Total", "NumPart_Total_HighWord", countName,
      "NumFilesPerSnapshot", "Flag_Entropy_ICs", "Dimension", "Time", scaleFactorName,
      "Redshift"], Path.beforeNull key ≠ "" := by
    decide
  intro x hx
  simp only [List.mem_cons, List.not_mem_nil, or_false] at hx
  rcases hx with rfl | rfl | rfl | rfl | rfl | rfl | rfl | rfl | rfl | rfl
  all_goals
    exact ⟨hnames _ (by simp), by simp [Attribute.integers, Attribute.reals]⟩

theorem storable_units [Arithmetic D] (u : UnitSystem D) :
    ∀ x ∈ (unitAttributes u : List (String × Attribute D S)), Storable x.1 x.2 := by
  have hnames : ∀ d : BaseDimension, Path.beforeNull d.attributeName ≠ "" := by
    intro d
    cases d <;> decide
  intro x hx
  obtain ⟨d, -, rfl⟩ := List.mem_map.mp hx
  exact ⟨hnames d, by simp [Attribute.reals]⟩

theorem storable_properties [Transcendental D] [Numeral D] [Arithmetic S] [Narrowing D S]
    {p : SchemeProperties D} {attributes : List (String × Attribute D S)}
    (h : p.attributes = .ok attributes) : ∀ x ∈ attributes, Storable x.1 x.2 := by
  have hsingle : ∀ {v : Value D} {a : Attribute D S}, SchemeProperties.storedSingle v = .ok a →
      Writing.textOf? a = none := by
    intro v a ha
    simp only [SchemeProperties.storedSingle, Result.bind_eq_ok, Result.pure_eq,
      Except.ok.injEq] at ha
    obtain ⟨values, -, rfl⟩ := ha
    rfl
  simp only [SchemeProperties.attributes, Result.bind_eq_ok, Result.pure_eq,
    Except.ok.injEq] at h
  obtain ⟨delta, hdelta, eta, heta, courant, hcourant, iterations, hiterations, rfl⟩ := h
  have hnames : ∀ key ∈ [SchemeProperties.gammaName, "Scheme", "Kernel function",
      "Kernel target N_ngb", "Kernel delta N_ngb", "Kernel eta", "CFL parameter",
      "Volume log(max(delta h))", "Volume max change time-step", "Max ghost iterations"],
      Path.beforeNull key ≠ "" := by
    decide
  have hkernel : ∀ k : Kernel, Writing.storable k.longName = true := by
    intro k
    cases k <;> decide
  have hmethod : Writing.storable Scheme.methodName = true := by decide
  intro x hx
  simp only [List.mem_cons, List.not_mem_nil, or_false] at hx
  rcases hx with rfl | rfl | rfl | rfl | rfl | rfl | rfl | rfl | rfl | rfl
  all_goals
    refine ⟨hnames _ (by simp), ?_⟩
    simp [Attribute.singles, hsingle hdelta, hsingle heta, hsingle hcourant,
      hsingle hiterations, hkernel, hmethod]

theorem storable_flavour (s : Scheme D) :
    ∀ x ∈ (flavourAttributes s : List (String × Attribute D S)), Storable x.1 x.2 := by
  have hflavour : ∀ y ∈ s.flavour,
      Path.beforeNull y.1 ≠ "" ∧ Writing.storable y.2 = true := by
    intro y hy
    simp only [Scheme.flavour, List.mem_cons, List.not_mem_nil, or_false] at hy
    rcases hy with rfl | rfl | rfl | rfl | rfl
    · cases s.gradients <;> decide
    · cases s.cellSlopeLimiter <;> decide
    · cases s.faceSlopeLimiter <;> decide
    · cases s.riemannSolver <;> decide
    · cases s.fixParticles <;> decide
  intro x hx
  obtain ⟨y, hy, rfl⟩ := List.mem_map.mp hx
  obtain ⟨hname, htext⟩ := hflavour y hy
  exact ⟨hname, by simpa using htext⟩

/-! ## Parts -/

section Parts

variable {used : List String}

theorem runs_writeHeader {header : List (String × Attribute D S)} (h : f.Within used)
    (hroot : "" ∉ used) (hname : headerGroup ∉ used) {u : Unit} :
    Runs (writeHeader header) f u g ↔
      (∀ x ∈ header, Storable x.1 x.2) ∧ g = f.put headerGroup ⟨storeAll [] header, []⟩ := by
  rw [writeHeader, Writing.runs_newGroup h hroot hname]
  exact Writing.runs_writeAttributes

theorem runs_writeUnits [Arithmetic D] {units : UnitSystem D} (h : f.Within used)
    (hroot : "" ∉ used) (hname : UnitSystem.groupName ∉ used) {u : Unit} :
    Runs units.writeTo f u g ↔
      g = f.put UnitSystem.groupName ⟨storeAll [] (unitAttributes units), []⟩ := by
  rw [UnitSystem.writeTo, Writing.runs_newGroup h hroot hname]
  exact Writing.runs_writeAttributes.trans (and_iff_right (storable_units units))

variable [Transcendental D] [Numeral D] {c : Contents D S}

theorem runs_writeScheme [Arithmetic S] [Narrowing D S] (h : f.Within used) (hroot : "" ∉ used)
    (hname : schemeGroup ∉ used) {u : Unit} :
    Runs c.writeScheme f u g ↔ ∃ properties, c.properties.attributes = .ok properties ∧
      g = f.put schemeGroup
        ⟨storeAll (storeAll [] properties) (flavourAttributes c.context.scheme), []⟩ := by
  rw [writeScheme, Writing.runs_newGroup h hroot hname, Writing.runs_lift_bind]
  constructor
  · rintro ⟨properties, hproperties, hrun⟩
    obtain ⟨_, f', hfirst, hlast⟩ := Writing.runs_bind.mp hrun
    obtain ⟨-, rfl⟩ := Writing.runs_writeAttributes.mp hfirst
    obtain ⟨-, rfl⟩ := Writing.runs_writeAttributes.mp hlast
    exact ⟨properties, hproperties, rfl⟩
  · rintro ⟨properties, hproperties, rfl⟩
    refine ⟨properties, hproperties, Writing.runs_bind.mpr
      ⟨(), f.put schemeGroup ⟨storeAll [] properties, []⟩, ?_, ?_⟩⟩
    · exact Writing.runs_writeAttributes.mpr ⟨storable_properties hproperties, rfl⟩
    · exact Writing.runs_writeAttributes.mpr ⟨storable_flavour c.context.scheme, rfl⟩

def putParameters (c : Contents D S) (f : Archive D S) : Archive D S :=
  match c.parameters with
  | none => f
  | some p => f.put ParameterSet.groupName ⟨storeAll [] (parameterAttributes p), []⟩

theorem within_putParameters (c : Contents D S) (h : f.Within used) :
    (c.putParameters f).Within (ParameterSet.groupName :: used) := by
  unfold putParameters
  split
  · intro name hname
    exact h name fun hmem => hname (List.mem_cons_of_mem _ hmem)
  · exact h.put ParameterSet.groupName _

/-- Parameters that can be stored as attributes. -/
def StorableParameters (c : Contents D S) : Prop :=
  ∀ p ∈ c.parameters, ∀ x ∈ (parameterAttributes p : List (String × Attribute D S)),
    Storable x.1 x.2

theorem runs_writeParameters (h : f.Within used) (hroot : "" ∉ used)
    (hname : ParameterSet.groupName ∉ used) {u : Unit} :
    Runs c.writeParameters f u g ↔ c.StorableParameters ∧ g = c.putParameters f := by
  cases hp : c.parameters with
  | none =>
    simp only [writeParameters, hp, StorableParameters, putParameters, Writing.runs_pure]
    constructor
    · rintro ⟨-, rfl⟩
      exact ⟨nofun, rfl⟩
    · rintro ⟨-, rfl⟩
      exact ⟨trivial, rfl⟩
  | some p =>
    simp only [writeParameters, hp, StorableParameters, putParameters,
      Writing.runs_newGroup h hroot hname, writeTo_eq_forM, Option.mem_some_iff, forall_eq']
    exact Writing.runs_writeAttributes

theorem runs_writeParticles [Arithmetic S] [Numeral S] [Narrowing D S] (h : f.Within used)
    (hroot : "" ∉ used) (hname : particleGroup ∉ used)
    (hfields : ∀ x ∈ FieldDescriptor.writeRegistry, Path.join [particleGroup, x.name] ∉ used)
    {u : Unit} :
    Runs c.writeParticles f u g ↔ ∃ particles, FieldDescriptor.writeRegistry.foldlM
        (FieldDescriptor.storeField c.context c.gas c.units) .empty = .ok particles ∧
      g = f.put particleGroup particles := by
  have hnodup : (FieldDescriptor.writeRegistry.map FieldDescriptor.name).Nodup := by decide
  have hfree : ∀ x ∈ FieldDescriptor.writeRegistry,
      f.groups.find? (Path.join [particleGroup, x.name]) = none :=
    fun x hx => h _ (hfields x hx)
  rw [writeParticles, Writing.runs_newGroup h hroot hname]
  exact FieldDescriptor.runs_writeAll (fun _ => FieldDescriptor.isPlain_writeRegistry) hfree
    hnodup fun _ _ => rfl

end Parts

/-! ## The whole archive -/

variable [Transcendental D] [Numeral D] {c : Contents D S}

/-- The archive of the parts of a snapshot before its parameters. -/
def describedBy (c : Contents D S) (header properties : List (String × Attribute D S)) :
    Archive D S :=
  ((Archive.empty.put headerGroup ⟨storeAll [] header, []⟩).put
    UnitSystem.groupName ⟨storeAll [] (unitAttributes c.units), []⟩).put schemeGroup
      ⟨storeAll (storeAll [] properties) (flavourAttributes c.context.scheme), []⟩

/-- The archive of a snapshot: its header, its properties and its particles beside what the
contents give themselves. -/
def archiveOf (c : Contents D S) (header properties : List (String × Attribute D S))
    (particles : Group D S) : Archive D S :=
  (c.putParameters (c.describedBy header properties)).put particleGroup particles

section Groups

variable (c : Contents D S) (header properties : List (String × Attribute D S))
  (particles : Group D S)

theorem within_archiveOf : (c.archiveOf header properties particles).Within
    [particleGroup, ParameterSet.groupName, schemeGroup, UnitSystem.groupName, headerGroup] := by
  have hempty : (Archive.empty : Archive D S).Within [] := fun _ _ => rfl
  exact (within_putParameters c (((hempty.put _ _).put _ _).put _ _)).put _ _

theorem find?_archiveOf_particles :
    (c.archiveOf header properties particles).groups.find? particleGroup = some particles :=
  Archive.find?_put_self _ particleGroup particles

theorem find?_archiveOf {name : String} (hparticles : name ≠ particleGroup)
    (hparameters : name ≠ ParameterSet.groupName) :
    (c.archiveOf header properties particles).groups.find? name
      = (c.describedBy header properties).groups.find? name := by
  rw [archiveOf, Archive.find?_put, if_neg hparticles, putParameters]
  split
  · rfl
  · rw [Archive.find?_put, if_neg hparameters]

theorem find?_archiveOf_header :
    (c.archiveOf header properties particles).groups.find? headerGroup
      = some ⟨storeAll [] header, []⟩ := by
  rw [find?_archiveOf c header properties particles (by decide) (by decide), describedBy,
    Archive.find?_put, if_neg (by decide), Archive.find?_put, if_neg (by decide),
    Archive.find?_put_self]

theorem find?_archiveOf_units :
    (c.archiveOf header properties particles).groups.find? UnitSystem.groupName
      = some ⟨storeAll [] (unitAttributes c.units), []⟩ := by
  rw [find?_archiveOf c header properties particles (by decide) (by decide), describedBy,
    Archive.find?_put, if_neg (by decide), Archive.find?_put_self]

theorem find?_archiveOf_scheme :
    (c.archiveOf header properties particles).groups.find? schemeGroup
      = some ⟨storeAll (storeAll [] properties) (flavourAttributes c.context.scheme), []⟩ := by
  rw [find?_archiveOf c header properties particles (by decide) (by decide), describedBy,
    Archive.find?_put_self]

end Groups

variable [Arithmetic S] [Numeral S] [Narrowing D S]

/-- Writing all parts succeeds when each of them can be made, and leaves the archive of
them. -/
theorem runs_writeTo {header : List (String × Attribute D S)} {u : Unit} :
    Runs (c.writeTo header) .empty u g ↔
      (∀ x ∈ header, Storable x.1 x.2) ∧ c.StorableParameters ∧
        ∃ properties particles, c.properties.attributes = .ok properties ∧
          FieldDescriptor.writeRegistry.foldlM
            (FieldDescriptor.storeField c.context c.gas c.units) .empty = .ok particles ∧
          g = c.archiveOf header properties particles := by
  have h₀ : (Archive.empty : Archive D S).Within [] := fun _ _ => rfl
  have h₁ := h₀.put headerGroup ⟨storeAll [] header, []⟩
  have h₂ := h₁.put UnitSystem.groupName ⟨storeAll [] (unitAttributes c.units), []⟩
  have h₃ := fun properties : List (String × Attribute D S) => h₂.put schemeGroup
    ⟨storeAll (storeAll [] properties) (flavourAttributes c.context.scheme), []⟩
  have h₄ := fun properties => within_putParameters c (h₃ properties)
  rw [writeTo, Writing.runs_bind]
  constructor
  · rintro ⟨_, f₁, hheader, hrun⟩
    obtain ⟨hstorable, rfl⟩ := (runs_writeHeader h₀ (by decide) (by decide)).mp hheader
    obtain ⟨_, f₂, hunits, hrun⟩ := Writing.runs_bind.mp hrun
    obtain rfl := (runs_writeUnits h₁ (by decide) (by decide)).mp hunits
    obtain ⟨_, f₃, hscheme, hrun⟩ := Writing.runs_bind.mp hrun
    obtain ⟨properties, hproperties, rfl⟩ :=
      (runs_writeScheme h₂ (by decide) (by decide)).mp hscheme
    obtain ⟨_, f₄, hparameters, hrun⟩ := Writing.runs_bind.mp hrun
    obtain ⟨hparametersStorable, rfl⟩ :=
      (runs_writeParameters (h₃ properties) (by decide) (by decide)).mp hparameters
    obtain ⟨particles, hparticles, rfl⟩ :=
      (runs_writeParticles (h₄ properties) (by decide) (by decide) (by decide)).mp hrun
    exact ⟨hstorable, hparametersStorable, properties, particles, hproperties, hparticles, rfl⟩
  · rintro ⟨hstorable, hparametersStorable, properties, particles, hproperties, hparticles, rfl⟩
    refine ⟨(), _, (runs_writeHeader h₀ (by decide) (by decide)).mpr ⟨hstorable, rfl⟩, ?_⟩
    refine Writing.runs_bind.mpr
      ⟨(), _, (runs_writeUnits h₁ (by decide) (by decide)).mpr rfl, ?_⟩
    refine Writing.runs_bind.mpr ⟨(), _, (runs_writeScheme h₂ (by decide) (by decide)).mpr
      ⟨properties, hproperties, rfl⟩, ?_⟩
    refine Writing.runs_bind.mpr ⟨(), _, (runs_writeParameters (h₃ properties) (by decide)
      (by decide)).mpr ⟨hparametersStorable, rfl⟩, ?_⟩
    exact (runs_writeParticles (h₄ properties) (by decide) (by decide) (by decide)).mpr
      ⟨particles, hparticles, rfl⟩

end Snapshot.Contents

end MeshlessGas
