/-
Reading fields — all of them, or those before the first one that fails.

Reading goes through a list of fields step by step, and each step concerns one leaf only.  Fields
with different leaves do not disturb each other: they are read exactly if each of them can be, and
otherwise the particles are those after the fields before the first one that cannot.
-/
import MeshlessGas.Proofs.FieldReading

namespace MeshlessGas

namespace FieldDescriptor

variable {D S : Type} [Transcendental D] [Arithmetic S] [Narrowing D S]

/-! ## Reading many fields -/

section Lists

variable {file : Archive D S} {place : Place} {change : Option (UnitChange D)} {gamma : D}
  {found : FieldDescriptor → Option (Dataset D S)} {target : FieldDescriptor → GasLeaf}
  {fields : List FieldDescriptor} {g g' : Gas D S}

theorem readAll_append (before after : List FieldDescriptor) :
    readAll file place change gamma (before ++ after) = (do
      let names ← readAll file place change gamma before
      let more ← readAll file place change gamma after
      return names ++ more : Filling D S (List String)) := by
  induction before with
  | nil => simp only [List.nil_append, readAll, pure_bind, bind_pure]
  | cons f before ih =>
    simp only [List.cons_append, readAll, bind_assoc]
    refine bind_congr fun gas => bind_congr fun name => bind_congr fun member =>
      bind_congr fun values => ?_
    cases values with
    | none => exact ih
    | some values => simp only [ih, bind_assoc, pure_bind, List.cons_append]

def offered (file : Archive D S) (place : Place) (f : FieldDescriptor) : Option (Dataset D S) :=
  match file.member? place f.name with
  | some (.dataset d) => some d
  | _ => none

/-- What can be asked of a group: fields with leaves of their own, for each of which there is a
dataset with axes or nothing. -/
structure IsRequest (file : Archive D S) (place : Place) (target : FieldDescriptor → GasLeaf)
    (fields : List FieldDescriptor) : Prop where
  group : file.dataset? place = none
  members : ∀ f ∈ fields, ∀ m, file.member? place f.name = some m →
    ∃ d : Dataset D S, m = .dataset d ∧ d.values.shape ≠ []
  leaf : ∀ f ∈ fields, f.IsFor D S (target f)
  distinct : (fields.map target).Nodup

namespace IsRequest

variable (h : IsRequest file place target fields) {f : FieldDescriptor}
include h

theorem lookup (hf : f ∈ fields) :
    file.lookup? place f.name = .ok ((offered file place f).map .dataset) := by
  unfold Archive.lookup? offered
  rw [h.group]
  cases hmember : file.member? place f.name with
  | none => rfl
  | some m =>
    obtain ⟨d, rfl, -⟩ := h.members f hf m hmember
    rfl

theorem axes (hf : f ∈ fields) : ∀ d ∈ offered file place f, d.values.shape ≠ [] := by
  intro d hd
  unfold offered at hd
  cases hmember : file.member? place f.name with
  | none =>
    rw [hmember] at hd
    cases hd
  | some m =>
    obtain ⟨d', rfl, haxes⟩ := h.members f hf m hmember
    rw [hmember] at hd
    cases hd
    exact haxes

theorem sublist {fewer : List FieldDescriptor} (hfewer : fewer.Sublist fields) :
    IsRequest file place target fewer where
  group := h.group
  members f hf := h.members f (hfewer.subset hf)
  leaf f hf := h.leaf f (hfewer.subset hf)
  distinct := h.distinct.sublist (hfewer.map target)

end IsRequest

/-- A gas into which fields were read: the leaf of each field that is there holds the numbers of
its dataset in the wanted units, in rows and cast to its element type, and all other leaves hold
what they held before. -/
structure IsFilled (change : Option (UnitChange D)) (gamma : D)
    (found : FieldDescriptor → Option (Dataset D S)) (target : FieldDescriptor → GasLeaf)
    (fields : List FieldDescriptor) (g g' : Gas D S) : Prop where
  isRows : g'.IsRows
  length : g'.parts.length = g.parts.length
  read : ∀ f ∈ fields, ∀ d ∈ found f, ∃ values rows,
    inUnits f.units change gamma d.values = .ok values ∧
    values.reshape? (g.parts.length :: f.shape.shape) = some rows ∧
    (target f).column g' = rows.cast ((target f).column g).type
  kept : ∀ l : GasLeaf, (∀ f ∈ fields, (found f).isSome = true → target f ≠ l) →
    l.column g' = l.column g

theorem IsFilled.nil (hg : g.IsRows) : IsFilled change gamma found target [] g g where
  isRows := hg
  length := rfl
  read _ hf := absurd hf List.not_mem_nil
  kept _ _ := rfl

theorem IsFilled.unique {g'' : Gas D S} (h : IsFilled change gamma found target fields g g')
    (h' : IsFilled change gamma found target fields g g'') : g' = g'' := by
  refine GasLeaf.eq_of_columns h.isRows h'.isRows (h.length.trans h'.length.symm) fun l => ?_
  by_cases hread : ∃ f ∈ fields, (found f).isSome = true ∧ target f = l
  · obtain ⟨f, hf, hfound, rfl⟩ := hread
    obtain ⟨d, hd⟩ := Option.isSome_iff_exists.mp hfound
    obtain ⟨values, rows, hunits, hrows, hcolumn⟩ := h.read f hf d hd
    obtain ⟨values', rows', hunits', hrows', hcolumn'⟩ := h'.read f hf d hd
    obtain rfl : values = values' := Except.ok.inj (hunits.symm.trans hunits')
    obtain rfl : rows = rows' := Option.some.inj (hrows.symm.trans hrows')
    rw [hcolumn, hcolumn']
  · have hne : ∀ f ∈ fields, (found f).isSome = true → target f ≠ l :=
      fun f hf hfound heq => hread ⟨f, hf, hfound, heq⟩
    rw [h.kept l hne, h'.kept l hne]

theorem IsFilled.cons_absent {f : FieldDescriptor} (hfound : found f = none)
    (h : IsFilled change gamma found target fields g g') :
    IsFilled change gamma found target (f :: fields) g g' where
  isRows := h.isRows
  length := h.length
  read := by
    refine List.forall_mem_cons.mpr ⟨?_, h.read⟩
    intro d hd
    rw [hfound] at hd
    cases hd
  kept l hl := h.kept l fun f' hf' => hl f' (List.mem_cons_of_mem f hf')

/-- Once the numbers of a field are stored in its leaf, fields with other leaves leave them
there. -/
theorem IsFilled.cons_stored {f : FieldDescriptor} (hf : f.IsFor D S (target f)) (hg : g.IsRows)
    {d : Dataset D S} (hfound : found f = some d) {values : NumericArray D S}
    (hunits : inUnits f.units change gamma d.values = .ok values)
    (hnumbers : values.cells.cells.length = g.parts.length * f.shape.dimension)
    (hapart : target f ∉ fields.map target)
    (h : IsFilled change gamma found target fields ((target f).store g values.cells.cells) g') :
    IsFilled change gamma found target (f :: fields) g g' := by
  have hlength := GasLeaf.length_parts_store (g := g) (target f) values.cells.cells
  have hcount : values.cells.cells.length = cellCount (g.parts.length :: f.shape.shape) := by
    rw [hnumbers, Tensor.cellCount_cons, FieldShape.cellCount_shape]
  let rows : NumericArray D S :=
    ⟨values.type, ⟨g.parts.length :: f.shape.shape, values.cells.cells, hcount⟩⟩
  have hrows : values.reshape? (g.parts.length :: f.shape.shape) = some rows := by
    simp only [NumericArray.reshape?, Tensor.reshape?, hcount, dite_true]
    rfl
  have hshape : rows.shape = g.parts.length :: ((target f).shape D S).shape := by
    rw [hf.shape]
    rfl
  have hstored : (target f).column ((target f).store g values.cells.cells)
      = rows.cast ((target f).column g).type := GasLeaf.column_store hg (target f) hshape
  have hothers : ∀ f' ∈ fields, target f' ≠ target f :=
    fun f' hf' heq => hapart (heq ▸ List.mem_map_of_mem hf')
  refine ⟨h.isRows, h.length.trans hlength, List.forall_mem_cons.mpr ⟨?_, ?_⟩, ?_⟩
  · intro d' hd'
    obtain rfl : d = d' := Option.some.inj (hfound.symm.trans hd')
    refine ⟨values, rows, hunits, hrows, ?_⟩
    rw [h.kept _ fun f' hf' _ => hothers f' hf', hstored]
  · intro f' hf' d' hd'
    have hread := h.read f' hf' d' hd'
    rwa [hlength, GasLeaf.type_column _ _ g] at hread
  · intro l hl
    obtain ⟨hne, hrest⟩ := List.forall_mem_cons.mp hl
    rw [h.kept l hrest]
    exact GasLeaf.column_store_of_ne (hne (by rw [hfound]; rfl)) _

def namesFound (found : FieldDescriptor → Option (Dataset D S)) (fields : List FieldDescriptor) :
    List String :=
  (fields.filter fun f => (found f).isSome).map (·.name)

omit [Transcendental D] [Arithmetic S] [Narrowing D S] in
theorem namesFound_of_none {f : FieldDescriptor} (hfound : found f = none) :
    namesFound found (f :: fields) = namesFound found fields :=
  congrArg (List.map _) (List.filter_cons_of_neg (by simp [hfound]))

omit [Transcendental D] [Arithmetic S] [Narrowing D S] in
theorem namesFound_of_some {f : FieldDescriptor} {d : Dataset D S} (hfound : found f = some d) :
    namesFound found (f :: fields) = f.name :: namesFound found fields :=
  congrArg (List.map _) (List.filter_cons_of_pos (by simp [hfound]))

theorem exists_readAll (h : IsRequest file place target fields) (hg : g.IsRows)
    (hall : ∀ f ∈ fields, IsReadable change gamma g.parts.length (offered file place f) f) :
    ∃ g', (readAll file place change gamma fields).run.run g
        = (.ok (namesFound (offered file place) fields), g') ∧
      IsFilled change gamma (offered file place) target fields g g' := by
  induction fields generalizing g with
  | nil => exact ⟨g, rfl, .nil hg⟩
  | cons f fields ih =>
    obtain ⟨hf, hrest⟩ := List.forall_mem_cons.mp hall
    have htail := h.sublist (List.sublist_cons_self f fields)
    have hlookup := h.lookup List.mem_cons_self
    have hleaf := h.leaf f List.mem_cons_self
    have hapart := (List.nodup_cons.mp h.distinct).1
    cases hfound : offered file place f with
    | none =>
      rw [hfound] at hlookup hf
      have hoptional : f.compulsory = false :=
        Bool.eq_false_iff.mpr fun hcompulsory => nomatch hf.given hcompulsory
      obtain ⟨g', hrun, hfilled⟩ := ih htail hg hrest
      refine ⟨g', ?_, hfilled.cons_absent hfound⟩
      rw [run_readAll_absent hleaf.label hoptional hlookup, namesFound_of_none hfound, hrun]
    | some d =>
      rw [hfound] at hlookup hf
      obtain ⟨values, hunits⟩ := hf.units d rfl
      have hnumbers := (length_inUnits hunits).trans (hf.numbers d rfl)
      have hreadable : ∀ f' ∈ fields, IsReadable change gamma
          ((target f).store g values.cells.cells).parts.length (offered file place f') f' := by
        rw [GasLeaf.length_parts_store]
        exact hrest
      obtain ⟨g', hrun, hfilled⟩ := ih htail (GasLeaf.isRows_store hg _ _) hreadable
      refine ⟨g', ?_, hfilled.cons_stored hleaf hg hfound hunits hnumbers hapart⟩
      rw [namesFound_of_some hfound]
      exact run_readAll_stored hleaf hg hlookup hf hunits hrun

theorem exists_readAll_before (h : IsRequest file place target fields) (hg : g.IsRows)
    (hnot : ¬ ∀ f ∈ fields, IsReadable change gamma g.parts.length (offered file place f) f) :
    ∃ before f after e g', fields = before ++ f :: after ∧
      (∀ b ∈ before, IsReadable change gamma g.parts.length (offered file place b) b) ∧
      FailsWith change gamma g.parts.length (offered file place f) f (groupPath place) e ∧
      (readAll file place change gamma before).run.run g
        = (.ok (namesFound (offered file place) before), g') ∧
      IsFilled change gamma (offered file place) target before g g' ∧
      (readAll file place change gamma fields).run.run g = (.error e, g') := by
  classical
  obtain ⟨f, hfirst⟩ : ∃ f, fields.find? (fun f =>
      decide ¬ IsReadable change gamma g.parts.length (offered file place f) f) = some f := by
    refine Option.isSome_iff_exists.mp (List.find?_isSome.mpr ?_)
    simpa using hnot
  obtain ⟨hf, before, after, rfl, hbefore⟩ := List.find?_eq_some_iff_append.mp hfirst
  have hbefore : ∀ b ∈ before, IsReadable change gamma g.parts.length (offered file place b) b := by
    simpa using hbefore
  have hmem : f ∈ before ++ f :: after := List.mem_append_right _ List.mem_cons_self
  obtain ⟨e, hfails⟩ :=
    (isReadable_or_failsWith change gamma g.parts.length f (groupPath place)
      (h.axes hmem)).resolve_left (of_decide_eq_true hf)
  obtain ⟨g', hrun, hfilled⟩ := exists_readAll (h.sublist (List.sublist_append_left _ _)) hg hbefore
  refine ⟨before, f, after, e, g', rfl, hbefore, hfails, hrun, hfilled, ?_⟩
  have hlast : (readAll file place change gamma (f :: after)).run.run g' = (.error e, g') := by
    rw [← hfilled.length] at hfails
    exact run_readAll_failed (h.leaf f hmem) hfilled.isRows (h.lookup hmem) hfails
  rw [readAll_append, Filling.run_bind_ok hrun, Filling.run_bind_error hlast]

/-- Fields of a group are read all or up to the first that cannot be read.  They are read exactly
if each of them can be; then the names are those of the fields that are there, and each leaf holds
the numbers of its dataset.  Otherwise the failure is that of the first field that cannot be read,
and the particles are those after reading the fields before it. -/
theorem readAll_up_to_failure (h : IsRequest file place target fields) (hg : g.IsRows) :
    ((∃ names g', (readAll file place change gamma fields).run.run g = (.ok names, g')) ↔
      ∀ f ∈ fields, IsReadable change gamma g.parts.length (offered file place f) f) ∧
    ((∀ f ∈ fields, IsReadable change gamma g.parts.length (offered file place f) f) →
      ∃ g', (readAll file place change gamma fields).run.run g
          = (.ok (namesFound (offered file place) fields), g') ∧
        IsFilled change gamma (offered file place) target fields g g') ∧
    ((¬ ∀ f ∈ fields, IsReadable change gamma g.parts.length (offered file place f) f) →
      ∃ before f after e g', fields = before ++ f :: after ∧
        (∀ b ∈ before, IsReadable change gamma g.parts.length (offered file place b) b) ∧
        FailsWith change gamma g.parts.length (offered file place f) f (groupPath place) e ∧
        (readAll file place change gamma before).run.run g
          = (.ok (namesFound (offered file place) before), g') ∧
        IsFilled change gamma (offered file place) target before g g' ∧
        (readAll file place change gamma fields).run.run g = (.error e, g')) := by
  refine ⟨⟨?_, ?_⟩, exists_readAll h hg, exists_readAll_before h hg⟩
  · rintro ⟨names, g', hrun⟩
    by_contra hnot
    obtain ⟨-, -, -, e, g'', -, -, -, -, -, herror⟩ := exists_readAll_before h hg hnot
    exact Result.error_ne_ok (congrArg Prod.fst (herror.symm.trans hrun))
  · intro hall
    obtain ⟨g', hrun, -⟩ := exists_readAll h hg hall
    exact ⟨_, g', hrun⟩

end Lists

/-! ## A group of masses -/

def singlesDataset (xs : List Float32) : Dataset Float Float32 :=
  { values := .singles (.vector xs), attributes := [] }

def archiveWith (name : String) (d : Dataset Float Float32) : Archive Float Float32 :=
  ⟨[("PartType0", ⟨[], [(name, d)]⟩)]⟩

def restingGas (n : ℕ) : Gas Float Float32 :=
  .ofRows (fun _ => .zero) (fun _ => .zero) (List.range n)

/-- Masses and densities are asked of a group that has masses: those are read, and the absent
densities are passed over. -/
theorem readAll_up_to_failure_masses :
    let file := archiveWith "Masses" (singlesDataset [2.0, 3.0])
    let target (f : FieldDescriptor) := GasLeaf.part (if f.name = "Masses" then .mass else .rho)
    let fields := [readRegistry[2], readRegistry[7]]
    IsRequest file ["PartType0"] target fields ∧ (restingGas 2).IsRows ∧
      (∀ f ∈ fields, IsReadable none 1.0 (restingGas 2).parts.length
        (offered file ["PartType0"] f) f) ∧
      ∃ g', (readAll file ["PartType0"] none 1.0 fields).run.run (restingGas 2)
          = (.ok ["Masses"], g') ∧
        IsFilled none 1.0 (offered file ["PartType0"]) target fields (restingGas 2) g' := by
  intro file target fields
  have hmasses : file.member? ["PartType0"] readRegistry[2].name
      = some (.dataset (singlesDataset [2.0, 3.0])) := rfl
  have hdensities : file.member? ["PartType0"] readRegistry[7].name = none := rfl
  have hrequest : IsRequest file ["PartType0"] target fields := by
    refine ⟨rfl, ?_, ?_, by decide⟩
    all_goals refine List.forall_mem_cons.mpr ⟨?_, List.forall_mem_singleton.mpr ?_⟩
    · intro m hm
      rw [hmasses] at hm
      cases hm
      exact ⟨_, rfl, List.cons_ne_nil _ _⟩
    · intro m hm
      rw [hdensities] at hm
      cases hm
    · exact ⟨⟨rfl, rfl, ["conserved", "mass"], rfl, rfl⟩, rfl⟩
    · exact ⟨⟨rfl, rfl, ["primitives", "rho"], rfl, rfl⟩, rfl⟩
  have hrows : (restingGas 2).IsRows := Gas.isRows_ofRows _ _ _
  have hreadable : ∀ f ∈ fields, IsReadable none 1.0 (restingGas 2).parts.length
      (offered file ["PartType0"] f) f := by
    refine List.forall_mem_cons.mpr ⟨?_, List.forall_mem_singleton.mpr ?_⟩
    · rw [offered, hmasses]
      refine ⟨fun _ => rfl, ?_, ?_, ?_⟩
      all_goals
        rintro _ ⟨⟩
      · rfl
      · exact ⟨_, rfl⟩
      · rfl
    · rw [offered, hdensities]
      refine ⟨fun h => ?_, ?_, ?_, ?_⟩
      · cases h
      all_goals
        rintro _ ⟨⟩
  exact ⟨hrequest, hrows, hreadable, (readAll_up_to_failure hrequest hrows).2.1 hreadable⟩

/-! ## Units too far apart -/

theorem power_zero_of_neg {x y : D} (hx : Arithmetic.agree x 0.0 = true) (hy : y < 0.0) :
    power x y = .error .divisionByZero := by
  simp only [power, hx, hy, and_self, if_true]

theorem exists_productOfPowers_eq_error {size : BaseDimension → Except Failure D}
    {xs : List (BaseDimension × Exponent D)} {x : BaseDimension × Exponent D} (hx : x ∈ xs) {y : D}
    (hsize : size x.1 = .ok y) {e : Failure} (hpower : Factor.power y x.2.toReal = .error e)
    (start : Factor D) : ∃ e, productOfPowers size start xs = .error e := by
  induction xs generalizing start with
  | nil => cases hx
  | cons x' xs ih =>
    obtain ⟨d, exponent⟩ := x'
    rw [productOfPowers]
    cases hfirst : size d with
    | error e => exact ⟨e, rfl⟩
    | ok base =>
      cases hfactor : Factor.power base exponent.toReal with
      | error e =>
        refine ⟨e, ?_⟩
        rw [Result.ok_bind, hfactor]
        rfl
      | ok factor =>
        rw [Result.ok_bind, hfactor, Result.ok_bind]
        rcases List.mem_cons.mp hx with rfl | hrest
        · rw [hsize] at hfirst
          cases hfirst
          exact absurd (hpower.symm.trans hfactor) Result.error_ne_ok
        · exact ih hrest (start.mul factor)

def unitsOfLength (length : Float) : UnitSystem Float :=
  .ofMechanical ⟨length, .centimetre⟩ (.named .gram) (.named .second)

/-- The quotient of two lengths may be too small for a double, so that there is no factor between
densities. -/
theorem conversionFactor_density (gamma : Float) :
    ∃ e, UnitTag.density.conversionFactor (unitsOfLength 1e-200) (unitsOfLength 1e200) gamma
      = .error e := by
  have hquotient : quotient ((unitsOfLength 1e-200).sizeInCgs .length)
      ((unitsOfLength 1e200).sizeInCgs .length) = .ok 0.0 := by
    have hsize : Arithmetic.agree ((unitsOfLength 1e200).sizeInCgs .length) 0.0 = false := by
      decide +kernel
    have hzero : (unitsOfLength 1e-200).sizeInCgs .length / (unitsOfLength 1e200).sizeInCgs .length
        = 0.0 := by
      decide +kernel
    simp only [quotient, hsize, hzero, Bool.false_eq_true, if_false]
  have hpower : Factor.power (0.0 : Float) (Exponent.whole (-3)).toReal
      = .error .divisionByZero := by
    have hsign : ¬ (0.0 : Float) < 0.0 := by decide +kernel
    have hnegative : (Exponent.whole (-3)).toReal < (0.0 : Float) := by decide +kernel
    rw [Factor.power, if_neg fun h => hsign h.1, power_zero_of_neg (by decide +kernel) hnegative]
    rfl
  have hmem : (BaseDimension.length, Exponent.whole (-3))
      ∈ (UnitTag.density.exponents gamma).filter fun x => !x.2.isZero := by
    simp [UnitTag.exponents, Exponent.isZero]
  rw [UnitTag.conversionFactor]
  refine exists_productOfPowers_eq_error hmem ?_ hpower _
  exact hquotient

/-- A dataset of densities has a row for each particle and the numbers of the rows, and still is
not read between unit systems that have no factor for densities. -/
theorem readAll_fails_between_units :
    let d := singlesDataset [1.0]
    let file := archiveWith "Density" d
    let change : UnitChange Float := ⟨unitsOfLength 1e-200, unitsOfLength 1e200⟩
    change.source.checked.isOk = true ∧ change.target.checked.isOk = true ∧
      IsRequest file ["PartType0"] (fun _ => .part .rho) [readRegistry[7]] ∧
      (restingGas 1).IsRows ∧ offered file ["PartType0"] readRegistry[7] = some d ∧
      d.values.shape.head? = some (restingGas 1).parts.length ∧
      d.values.cells.cells.length
        = (restingGas 1).parts.length * readRegistry[7].shape.dimension ∧
      ∃ e, (readAll file ["PartType0"] (some change) 1.0 [readRegistry[7]]).run.run
        (restingGas 1) = (.error e, restingGas 1) := by
  intro d file change
  have hmember : file.member? ["PartType0"] readRegistry[7].name = some (.dataset d) := rfl
  have hoffered : offered file ["PartType0"] readRegistry[7] = some d := by
    rw [offered, hmember]
  have hrequest : IsRequest file ["PartType0"] (fun _ => .part .rho) [readRegistry[7]] := by
    refine ⟨rfl, ?_, ?_, by decide⟩
    all_goals refine List.forall_mem_singleton.mpr ?_
    · intro m hm
      rw [hmember] at hm
      cases hm
      exact ⟨_, rfl, List.cons_ne_nil _ _⟩
    · exact ⟨⟨rfl, rfl, ["primitives", "rho"], rfl, rfl⟩, rfl⟩
  have hrows : (restingGas 1).IsRows := Gas.isRows_ofRows _ _ _
  obtain ⟨e, hfactor⟩ := conversionFactor_density 1.0
  have hcount : d.values.shape.head? = some (restingGas 1).parts.length := rfl
  have hunits : inUnits readRegistry[7].units (some change) 1.0 d.values = .error e := by
    show inUnits .density (some change) 1.0 d.values = .error e
    rw [inUnits, hfactor]
    rfl
  have hfails : FailsWith (some change) 1.0 (restingGas 1).parts.length
      (offered file ["PartType0"] readRegistry[7]) readRegistry[7] (groupPath ["PartType0"]) e :=
    .units hoffered hcount hunits
  refine ⟨by decide +kernel, by decide +kernel, hrequest, hrows, hoffered, hcount, rfl, e, ?_⟩
  exact run_readAll_failed (hrequest.leaf _ List.mem_cons_self) hrows
    (hrequest.lookup List.mem_cons_self) hfails

end FieldDescriptor

end MeshlessGas
