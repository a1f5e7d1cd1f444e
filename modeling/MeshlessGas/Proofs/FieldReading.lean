/-
Reading a field — what one step of reading makes of a gas.

A field is read into a leaf of the particles or of their extended states.  What a group has under
its name must have a row for each particle, a factor into the wanted units, and the numbers of the
rows.  Then the step stores the numbers in the leaf alone; otherwise it fails with the first of
these that is missing, and changes nothing.
-/
import MeshlessGas.Proofs.Leaves

namespace MeshlessGas

/-! ## Paths to leaves -/

namespace FieldTree

variable {L : Type} {t u : FieldTree L} {path : List String}

theorem follow_dropLast (h : t.follow path = .ok u) : ∃ v, t.follow path.dropLast = .ok v := by
  induction path generalizing t with
  | nil => exact ⟨u, h⟩
  | cons name path ih =>
    cases t with
    | leaf l => cases h
    | node fields =>
      cases path with
      | nil => exact ⟨_, rfl⟩
      | cons next path =>
        simp only [List.dropLast_cons_cons, follow] at h ⊢
        split at h
        next f hfound =>
          obtain ⟨v, hv⟩ := ih h
          exact ⟨v, hv⟩
        next => cases h

end FieldTree

theorem FieldShape.cellCount_shape (s : FieldShape) : cellCount s.shape = s.dimension := by
  cases s <;> rfl

/-! ## Runs that fail -/

namespace Filling

variable {D S α β : Type} {g g' : Gas D S} {e : Failure}

theorem run_error_bind (k : α → Filling D S β) :
    ((liftM (Except.error e : Except Failure α) : Filling D S α) >>= k).run.run g
      = (.error e, g) := rfl

theorem run_bind_error {x : Filling D S α} (h : x.run.run g = (.error e, g'))
    (k : α → Filling D S β) : (x >>= k).run.run g = (.error e, g') := by
  rw [ExceptT.run_bind, StateT.run_bind, h]
  rfl

end Filling

namespace FieldDescriptor

variable {D S : Type} [Transcendental D] [Arithmetic S] [Narrowing D S]

/-! ## Storing the numbers of a field -/

section Assign

variable {R L : Type} {f : FieldDescriptor} {path : List String} {l : L}

theorem cellCount_rowShape (f : FieldDescriptor) (n : ℕ) :
    cellCount (f.rowShape n) = n * f.shape.dimension := by
  rw [rowShape, Tensor.cellCount_cons, FieldShape.cellCount_shape]

omit [Transcendental D] [Arithmetic S] [Narrowing D S] in
/-- As many numbers as a column has are stored in it row by row, others are refused. -/
theorem assignPath_eq (layout : Layout R D S L) (hlength : f.hasLength = true)
    (hfollow : layout.tree.follow path = .ok (.leaf l)) (hpath : path ≠ [])
    (hshape : (layout.lens l).shape = f.shape) (values : NumericArray D S) (rs : List R) :
    assignPath layout f path values rs
      = if values.cells.cells.length = rs.length * f.shape.dimension
        then .ok (Layout.stored (layout.lens l) values.cells.cells rs) else .error .badValue := by
  obtain ⟨around, haround⟩ := FieldTree.follow_dropLast hfollow
  have hnames : path.isEmpty = false := List.isEmpty_eq_false_iff.mpr hpath
  rw [← f.cellCount_rowShape]
  split
  next hcells =>
    have hassign : layout.assignAt path ⟨f.rowShape rs.length, values.cells.cells, hcells⟩ rs
        = .ok (Layout.stored (layout.lens l) values.cells.cells rs) := by
      have hrows : f.rowShape rs.length = rs.length :: (layout.lens l).shape.shape := by
        rw [rowShape, hshape]
      rw [Layout.assignAt, hfollow, Result.ok_bind]
      show Layout.assignColumn (layout.lens l) _ _ = _
      rw [Layout.assignColumn, ← hrows, Tensor.assignTo?_shape]
      rfl
    simp only [assignPath, haround, reshaped_of_length hlength hcells, hnames, Result.ok_bind,
      Bool.false_eq_true, if_false]
    exact hassign
  next hcells =>
    simp only [assignPath, haround, reshaped_of_length_ne hlength hcells, Result.ok_bind]
    rfl

end Assign

variable (D S) in
/-- A field that is stored in a leaf of its shape. -/
structure LeadsTo (f : FieldDescriptor) (l : GasLeaf) : Prop where
  hasLength : f.hasLength = true
  shape : l.shape D S = f.shape
  path : ∃ path, match l with
    | .part l => f.kind = .stored path .parts ∧ ParticleLeaf.tree.follow path = .ok (.leaf l)
    | .state l => f.kind = .stored path .xparts ∧
        (ExtendedState.layout : Layout (ExtendedState S) D S _).tree.follow path = .ok (.leaf l)

variable (D S) in
/-- A field under a name of its own that is read into a leaf of its shape. -/
structure IsFor (f : FieldDescriptor) (l : GasLeaf) : Prop extends f.LeadsTo D S l where
  label : f.label = .text f.name

variable {f : FieldDescriptor} {l : GasLeaf} {g : Gas D S}

theorem LeadsTo.assignTo_eq (hf : f.LeadsTo D S l) (hg : g.IsRows) (values : NumericArray D S) :
    f.assignTo g values
      = if values.cells.cells.length = g.parts.length * f.shape.dimension
        then .ok (l.store g values.cells.cells) else .error .badValue := by
  obtain ⟨path, hpath⟩ := hf.path
  rw [assignTo, if_pos hg.isRow, assign]
  cases l with
  | part l =>
    obtain ⟨hkind, hfollow⟩ := hpath
    have hne : path ≠ [] := by
      rintro rfl
      cases hfollow
    rw [hkind]
    simp only [assignPath_eq Particle.layout hf.hasLength hfollow hne hf.shape]
    split <;> rfl
  | state l =>
    obtain ⟨hkind, hfollow⟩ := hpath
    have hne : path ≠ [] := by
      rintro rfl
      cases hfollow
    rw [hkind, ← hg.states]
    simp only [assignPath_eq ExtendedState.layout hf.hasLength hfollow hne hf.shape]
    split <;> rfl

/-! ## What is read, and what is not -/

section Outcome

variable (change : Option (UnitChange D)) (gamma : D) (n : ℕ) (found : Option (Dataset D S))
  (f : FieldDescriptor)

/-- A field can be read into a number of particles: only an optional one is absent, and a dataset
has a row for each particle, a factor into the wanted units, and all the numbers of the rows. -/
structure IsReadable : Prop where
  given : f.compulsory = true → found.isSome = true
  rows : ∀ d ∈ found, d.values.shape.head? = some n
  units : ∀ d ∈ found, ∃ values, inUnits f.units change gamma d.values = .ok values
  numbers : ∀ d ∈ found, d.values.cells.cells.length = n * f.shape.dimension

/-- The failure of a field that cannot be read from a group with a path in messages. -/
inductive FailsWith (path : String) : Failure → Prop where
  | absent (hfound : found = none) (hcompulsory : f.compulsory = true) :
    FailsWith path (.compulsoryFieldMissing f.name path)
  | rows {d : Dataset D S} {rows : ℕ} (hfound : found = some d)
    (hrows : d.values.shape.head? = some rows) (hne : rows ≠ n) :
    FailsWith path (.entryCount f.name rows n)
  | units {d : Dataset D S} {e : Failure} (hfound : found = some d)
    (hrows : d.values.shape.head? = some n)
    (hunits : inUnits f.units change gamma d.values = .error e) : FailsWith path e
  | numbers {d : Dataset D S} {values : NumericArray D S} (hfound : found = some d)
    (hrows : d.values.shape.head? = some n)
    (hunits : inUnits f.units change gamma d.values = .ok values)
    (hnumbers : d.values.cells.cells.length ≠ n * f.shape.dimension) : FailsWith path .badValue

end Outcome

section Outcome

variable {change : Option (UnitChange D)} {gamma : D} {n : ℕ} {found : Option (Dataset D S)}
  {path : String} {e : Failure}

theorem shape_scaled (values : NumericArray D S) (x : D) :
    (values.scaled x).shape = values.shape := by
  unfold NumericArray.scaled
  split <;> rfl

theorem shape_inUnits {tag : UnitTag} {values values' : NumericArray D S}
    (h : inUnits tag change gamma values = .ok values') : values'.shape = values.shape := by
  cases change with
  | none =>
    cases h
    rfl
  | some c =>
    simp only [inUnits, Result.bind_eq_ok, Result.pure_eq, Except.ok.injEq] at h
    obtain ⟨factor, -, rfl⟩ := h
    cases factor with
    | real x =>
      dsimp only
      split
      next => rfl
      next => exact shape_scaled values x
    | complex re im =>
      dsimp only
      split
      next => rfl
      next =>
        unfold NumericArray.scaledComplex
        split
        next => exact shape_scaled _ re
        next => exact shape_scaled values re

theorem length_inUnits {tag : UnitTag} {values values' : NumericArray D S}
    (h : inUnits tag change gamma values = .ok values') :
    values'.cells.cells.length = values.cells.cells.length := by
  rw [values.cells.length_cells, values'.cells.length_cells]
  exact congrArg cellCount (shape_inUnits h)

theorem FailsWith.not_isReadable (h : FailsWith change gamma n found f path e) :
    ¬ IsReadable change gamma n found f := by
  intro hreadable
  cases h with
  | absent hfound hcompulsory =>
    have hsome := hreadable.given hcompulsory
    rw [hfound] at hsome
    cases hsome
  | rows hfound hrows hne =>
    exact hne (Option.some.inj (hrows.symm.trans (hreadable.rows _ hfound)))
  | units hfound _ hunits =>
    obtain ⟨values, hvalues⟩ := hreadable.units _ hfound
    exact Result.error_ne_ok (hunits.symm.trans hvalues)
  | numbers hfound _ _ hnumbers => exact hnumbers (hreadable.numbers _ hfound)

/-- A field whose dataset has axes either can be read or has a failure. -/
theorem isReadable_or_failsWith (change : Option (UnitChange D)) (gamma : D) (n : ℕ)
    (f : FieldDescriptor) (path : String) (haxes : ∀ d ∈ found, d.values.shape ≠ []) :
    IsReadable change gamma n found f ∨ ∃ e, FailsWith change gamma n found f path e := by
  cases hfound : found with
  | none =>
    by_cases hcompulsory : f.compulsory = true
    · exact .inr ⟨_, .absent rfl hcompulsory⟩
    · exact .inl ⟨fun h => absurd h hcompulsory, nofun, nofun, nofun⟩
  | some d =>
    obtain ⟨rows, hrows⟩ : ∃ rows, d.values.shape.head? = some rows :=
      Option.isSome_iff_exists.mp (List.isSome_head?.mpr (haxes d hfound))
    by_cases hcount : rows = n
    · subst hcount
      cases hunits : inUnits f.units change gamma d.values with
      | error e => exact .inr ⟨e, .units rfl hrows hunits⟩
      | ok values =>
        by_cases hnumbers : d.values.cells.cells.length = rows * f.shape.dimension
        · refine .inl ⟨fun _ => rfl, ?_, ?_, ?_⟩
          all_goals
            rintro _ ⟨⟩
          · exact hrows
          · exact ⟨values, hunits⟩
          · exact hnumbers
        · exact .inr ⟨_, .numbers rfl hrows hunits hnumbers⟩
    · exact .inr ⟨_, .rows rfl hrows hcount⟩

end Outcome

/-! ## Reading one field -/

section Reading

variable {file : Archive D S} {place : Place} {change : Option (UnitChange D)} {gamma : D}
  {f : FieldDescriptor} {fields : List FieldDescriptor} {l : GasLeaf} {g g' : Gas D S}
  {found : Option (Dataset D S)} {names : List String} {e : Failure}

theorem stored?_dataset {d : Dataset D S} {path : String} {n : ℕ}
    (hrows : d.values.shape.head? = some n) :
    f.stored? path (some (.dataset d)) (.ok n) change gamma
      = (inUnits f.units change gamma d.values).map some := by
  have hcount : d.values.rowCount = .ok n := by
    rw [NumericArray.rowCount, hrows]
    rfl
  simp only [stored?, hcount, Result.ok_bind, ne_eq, not_true_eq_false, if_false]
  cases inUnits f.units change gamma d.values <;> rfl

theorem run_readAll_stored (hf : f.IsFor D S l) (hg : g.IsRows) {d : Dataset D S}
    (hlookup : file.lookup? place f.name = .ok (some (.dataset d)))
    (hreadable : IsReadable change gamma g.parts.length (some d) f) {values : NumericArray D S}
    (hunits : inUnits f.units change gamma d.values = .ok values)
    (hrun : (readAll file place change gamma fields).run.run (l.store g values.cells.cells)
      = (.ok names, g')) :
    (readAll file place change gamma (f :: fields)).run.run g = (.ok (f.name :: names), g') := by
  have hname := nameText_of_label hf.label
  have hcount := hg.rowCount
  have hstored : f.stored? (groupPath place) (some (.dataset d)) (.ok g.parts.length) change gamma
      = .ok (some values) := by
    rw [stored?_dataset (hreadable.rows d rfl), hunits]
    rfl
  have hassign : f.assignTo g values = .ok (l.store g values.cells.cells) := by
    rw [hf.assignTo_eq hg, length_inUnits hunits, if_pos (hreadable.numbers d rfl)]
  rw [readAll, Filling.run_get_bind]
  simp only [hname, hlookup, hcount, hstored, hassign, Filling.liftM_ok, pure_bind,
    Filling.run_set_bind]
  rw [Filling.run_bind_ok hrun]
  rfl

theorem run_readAll_failed (hf : f.IsFor D S l) (hg : g.IsRows)
    (hlookup : file.lookup? place f.name = .ok (found.map .dataset))
    (hfails : FailsWith change gamma g.parts.length found f (groupPath place) e) :
    (readAll file place change gamma (f :: fields)).run.run g = (.error e, g) := by
  have hname := nameText_of_label hf.label
  have hcount := hg.rowCount
  rw [readAll, Filling.run_get_bind]
  simp only [hname, hlookup, hcount, Filling.liftM_ok, pure_bind]
  cases hfails with
  | absent hfound hcompulsory =>
    have hstored : f.stored? (groupPath place) none (.ok g.parts.length) change gamma
        = (.error (.compulsoryFieldMissing f.name (groupPath place)) :
          Except Failure (Option (NumericArray D S))) := by
      simp only [stored?, hcompulsory, if_true]
    rw [hfound, Option.map_none, hstored]
    exact Filling.run_error_bind _
  | @rows d rows hfound hrows hne =>
    have hstored : f.stored? (groupPath place) (some (.dataset d)) (.ok g.parts.length) change gamma
        = .error (.entryCount f.name rows g.parts.length) := by
      have hcount : d.values.rowCount = .ok rows := by
        rw [NumericArray.rowCount, hrows]
        rfl
      simp only [stored?, hcount, Result.ok_bind, ne_eq, hne, not_false_eq_true, if_true]
      rfl
    rw [hfound, Option.map_some, hstored]
    exact Filling.run_error_bind _
  | @units d e hfound hrows hunits =>
    rw [hfound, Option.map_some, stored?_dataset hrows, hunits]
    exact Filling.run_error_bind _
  | @numbers d values hfound hrows hunits hnumbers =>
    have hassign : f.assignTo g values = .error .badValue := by
      rw [hf.assignTo_eq hg, length_inUnits hunits, if_neg hnumbers]
    rw [hfound, Option.map_some, stored?_dataset hrows, hunits]
    show ((liftM (f.assignTo g values) : Filling D S (Gas D S)) >>= _).run.run g = _
    rw [hassign]
    exact Filling.run_error_bind _

end Reading

end FieldDescriptor

end MeshlessGas
