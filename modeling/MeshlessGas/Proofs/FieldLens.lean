/-
Field lenses — storing through a field, and reading through it.

A field that leads to a leaf of the particles, or of their extended states, reads the column of
the leaf, and stores as many numbers as the column has.  From the laws of the leaves it follows
that the field is a lens: what was stored is read, in the element type of the leaf; of two arrays
that are stored the last one counts; storing what was read changes nothing, since a column only
holds numbers of its own type.  No other leaf is touched, and what does not fit is refused.
-/
import MeshlessGas.Proofs.FieldPrefix
import MeshlessGas.Workspace.Particles

namespace MeshlessGas

/-! ## Numbers of the type of their leaf -/

theorem IntegerType.holds_int64 (n : Int64) : int64.holds n.toInt = true := by
  have hwrap : int64.wrap n.toInt = n.toInt := by
    rw [← toInt_ofInt_int64, Int64.ofInt_toInt]
  simp [holds, hwrap]

theorem IntegerType.holds_int8 (n : Int8) : int8.holds n.toInt = true := by
  have hwrap : int8.wrap n.toInt = n.toInt := by
    rw [← toInt_ofInt_int8, Int8.ofInt_toInt]
  simp [holds, hwrap]

variable {D S : Type} [Arithmetic D] [Arithmetic S] [Narrowing D S]

open NumericArray (Keeps keeps_doubles keeps_singles keeps_whole)

theorem Particle.keeps_get (l : ParticleLeaf) (p : Particle D S) :
    Keeps (layout.lens l : Lens (Particle D S) D S).type ((layout.lens l).get p) := by
  cases l with
  | id => exact keeps_whole (IntegerType.holds_uint64 p.id)
  | gpart => exact keeps_whole (IntegerType.holds_int64 p.gpart)
  | timeBin => exact keeps_whole (IntegerType.holds_int8 p.timeBin)
  | x => exact keeps_doubles p.x.toList
  | v => exact keeps_singles p.v.toList
  | aHydro => exact keeps_singles p.aHydro.toList
  | momentum => exact keeps_singles p.conserved.momentum.toList
  | primitiveV => exact keeps_singles p.primitives.v.toList
  | h => exact keeps_singles [p.h]
  | mass => exact keeps_singles [p.conserved.mass]
  | energy => exact keeps_singles [p.conserved.energy]
  | rho => exact keeps_singles [p.primitives.rho]
  | pressure => exact keeps_singles [p.primitives.pressure]

theorem ExtendedState.keeps_get (l : ExtendedLeaf) (s : ExtendedState S) :
    Keeps (layout.lens l : Lens (ExtendedState S) D S).type
      ((layout.lens l : Lens (ExtendedState S) D S).get s) := by
  cases l with
  | xDiff => exact keeps_singles s.xDiff.toList
  | vFull => exact keeps_singles s.vFull.toList

namespace GasLeaf

variable {g : Gas D S}

theorem keeps_column (l : GasLeaf) (g : Gas D S) :
    Keeps (l.column g).type (l.column g).cells.cells := by
  intro c hc
  cases l with
  | part l =>
    obtain ⟨p, -, hc⟩ := List.mem_flatMap.mp hc
    exact Particle.keeps_get l p c hc
  | state l =>
    obtain ⟨s, -, hc⟩ := List.mem_flatMap.mp hc
    exact ExtendedState.keeps_get l s c hc

theorem cast_column (l : GasLeaf) (g : Gas D S) :
    (l.column g).cast (l.column g).type = l.column g := by
  refine congrArg (NumericArray.mk _) (Tensor.ext rfl ?_)
  exact (List.map_congr_left (l.keeps_column g)).trans (List.map_id _)

theorem shape_column (hg : g.IsRows) (l : GasLeaf) :
    (l.column g).shape = g.parts.length :: (l.shape D S).shape := by
  cases l with
  | part l => rfl
  | state l =>
    rw [← hg.states]
    rfl

theorem store_store (hg : g.IsRows) (l : GasLeaf) (cells : List (Cell D S))
    {a : NumericArray D S} (hshape : a.shape = g.parts.length :: (l.shape D S).shape) :
    l.store (l.store g cells) a.cells.cells = l.store g a.cells.cells := by
  have hstored := isRows_store hg l cells
  refine eq_of_columns (isRows_store hstored l _) (isRows_store hg l _) (by simp) fun l' => ?_
  by_cases hl : l = l'
  · subst hl
    rw [column_store hstored l (by rw [hshape, length_parts_store]), column_store hg l hshape,
      l.type_column _ g]
  · rw [column_store_of_ne hl, column_store_of_ne hl, column_store_of_ne hl]

theorem store_column (hg : g.IsRows) (l : GasLeaf) :
    l.store g (l.column g).cells.cells = g := by
  refine eq_of_columns (isRows_store hg l _) hg (by simp) fun l' => ?_
  by_cases hl : l = l'
  · subst hl
    rw [column_store hg l (l.shape_column hg), cast_column]
  · exact column_store_of_ne hl _

end GasLeaf

/-! ## Fields that lead to leaves -/

theorem NumericArray.exists_reshape? {D S : Type} {a : NumericArray D S} {shape : List Nat}
    (h : a.cells.cells.length = cellCount shape) :
    ∃ b, a.reshape? shape = some b ∧ b.shape = shape ∧ b.cells.cells = a.cells.cells := by
  refine ⟨⟨a.type, ⟨shape, a.cells.cells, h⟩⟩, ?_, rfl, rfl⟩
  simp only [reshape?, Tensor.reshape?, h, dite_true, Option.map_some]

namespace FieldDescriptor

variable {D S : Type} [Transcendental D] [Arithmetic S] [Narrowing D S] {f : FieldDescriptor}

omit [Transcendental D] [Arithmetic S] [Narrowing D S] in
theorem storedColumn_eq {R L : Type} {layout : Layout R D S L} {path : List String} {l : L}
    (hlength : f.hasLength = true) (hfollow : layout.tree.follow path = .ok (.leaf l))
    (hshape : (layout.lens l).shape = f.shape) (rs : List R) :
    storedColumn layout f path rs = .ok (Layout.column (layout.lens l) rs) := by
  have hcells : (Layout.column (layout.lens l) rs).cells.cells.length
      = cellCount (f.rowShape rs.length) := by
    rw [rowShape, ← hshape]
    exact (Layout.column (layout.lens l) rs).cells.length_cells
  have hrows : f.rowShape rs.length = rs.length :: (layout.lens l).shape.shape := by
    rw [rowShape, hshape]
  rw [storedColumn, hfollow, Result.ok_bind]
  refine (reshaped_of_length hlength hcells).trans ?_
  exact congrArg (fun t => Except.ok (NumericArray.mk _ t)) (Tensor.ext hrows rfl)

variable {l : GasLeaf} {g : Gas D S}

/-- Reading through a field gives the column of its leaf, whatever the context. -/
theorem LeadsTo.numbersOf_eq (hf : f.LeadsTo D S l) (hg : g.IsRows)
    (context : Option (Context D S)) : f.numbersOf context g = .ok (l.column g) := by
  obtain ⟨path, hpath⟩ := hf.path
  rw [numbersOf, if_pos hg.isRow, numbers]
  cases l with
  | part l =>
    obtain ⟨hkind, hfollow⟩ := hpath
    rw [hkind]
    exact storedColumn_eq hf.hasLength hfollow hf.shape g.parts
  | state l =>
    obtain ⟨hkind, hfollow⟩ := hpath
    rw [hkind]
    exact storedColumn_eq hf.hasLength hfollow hf.shape g.xparts

theorem LeadsTo.assignTo_column (hf : f.LeadsTo D S l) (hg : g.IsRows) :
    f.assignTo g (l.column g) = .ok g := by
  have hlength : (l.column g).cells.cells.length = cellCount (l.column g).shape :=
    (l.column g).cells.length_cells
  rw [l.shape_column hg, hf.shape, ← rowShape, cellCount_rowShape] at hlength
  rw [hf.assignTo_eq hg, if_pos hlength, GasLeaf.store_column hg]

theorem LeadsTo.assignTo_store (hf : f.LeadsTo D S l) (hg : g.IsRows) (cells : List (Cell D S))
    (values : NumericArray D S) : f.assignTo (l.store g cells) values = f.assignTo g values := by
  rw [hf.assignTo_eq (GasLeaf.isRows_store hg l cells), hf.assignTo_eq hg,
    GasLeaf.length_parts_store]
  split
  next hvalues =>
    obtain ⟨rows, -, hshape, hrows⟩ :=
      NumericArray.exists_reshape? (hvalues.trans (cellCount_rowShape f _).symm)
    rw [rowShape, ← hf.shape] at hshape
    rw [← hrows, GasLeaf.store_store hg l cells hshape]
  next => rfl

variable [Numeral D] [Numeral S]

theorem LeadsTo.rowsOf_eq (hf : f.LeadsTo D S l) (hg : g.IsRows)
    (context : Option (Context D S)) :
    f.rowsOf context g = f.format.rows f.type (l.column g) := by
  rw [rowsOf, hf.numbersOf_eq hg, Result.ok_bind]

theorem LeadsTo.rowsOf_of_plain (hf : f.LeadsTo D S l) (hplain : f.format = .plain)
    (hg : g.IsRows) (context : Option (Context D S)) :
    f.rowsOf context g = .ok (.plain ((l.column g).cast f.type)) := by
  rw [hf.rowsOf_eq hg, hplain, rows_plain]
  refine congrArg (fun t => Except.ok (FieldRows.mk f.type .plain t)) (Tensor.ext rfl ?_)
  exact List.map_map.symm

omit [Numeral S] in
/-- A step that stores values which do not fit leaves the workspace as it is. -/
theorem LeadsTo.run_assign_misfit (hf : f.LeadsTo D S l) (hg : g.IsRows) {w : Workspace D S}
    (hw : w.gas = some g) {v : Value D} {items : Tensor (Value D)}
    (hv : v.tensor maxRank = .ok items)
    (hcount : items.cells.length ≠ g.parts.length * f.shape.dimension) :
    (Workspace.assign f v).run.run w = (.error .badValue, w) := by
  have hmisfit : ∀ t : ElementType,
      f.assignTo g ⟨t, items.map fun _ => .whole 0⟩ = .error .badValue := by
    intro t
    rw [hf.assignTo_eq hg, if_neg]
    rwa [Tensor.cells_map, List.length_map]
  have hvalue : f.assignValue g v = .error .badValue := by
    rw [assignValue, hv, Result.ok_bind]
    simp only [hmisfit]
    rfl
  have hrun : (Workspace.assign f v).run.run w
      = ((liftM (f.assignValue g v) : Work D S (Gas D S)) >>= Workspace.setGas).run.run w := by
    unfold Workspace.assign Workspace.gasOr
    simp only [bind_assoc]
    show ((liftM (Failure.ofOption _ w.gas) : Work D S (Gas D S)) >>= fun g =>
      (liftM (f.assignValue g v) : Work D S (Gas D S)) >>= Workspace.setGas).run.run w = _
    rw [hw]
    rfl
  rw [hrun, hvalue]
  rfl

/-- A field that leads to a leaf is a lens.  Values that are stored are read in the element type of
the leaf and then of the field, in rows, and no other leaf is changed; of several values the last
ones count; and storing what was read changes nothing where the field has the type of the leaf.
Any other number of values is refused, and leaves a workspace as it is. -/
theorem LeadsTo.lens_laws (hf : f.LeadsTo D S l) (hg : g.IsRows) (context : Option (Context D S)) :
    (∀ values : NumericArray D S,
      values.cells.cells.length = g.parts.length * f.shape.dimension →
      ∃ g' rows, f.assignTo g values = .ok g' ∧
        values.reshape? (f.rowShape g.parts.length) = some rows ∧
        f.rowsOf context g' = f.format.rows f.type (rows.cast (l.column g).type) ∧
        (f.format = .plain → f.rowsOf context g'
          = .ok (.plain ((rows.cast (l.column g).type).cast f.type))) ∧
        g'.IsRows ∧ g'.parts.length = g.parts.length ∧
        (∀ l', l' ≠ l → l'.column g' = l'.column g) ∧
        ∀ values', f.assignTo g' values' = f.assignTo g values') ∧
    (f.format = .plain → f.type = (l.column g).type →
      ∃ values, f.rowsOf context g = .ok (.plain values) ∧ f.assignTo g values = .ok g) ∧
    (∀ values : NumericArray D S,
      values.cells.cells.length ≠ g.parts.length * f.shape.dimension →
      f.assignTo g values = .error .badValue) ∧
    ∀ (w : Workspace D S) (v : Value D) (items : Tensor (Value D)), w.gas = some g →
      v.tensor maxRank = .ok items →
      items.cells.length ≠ g.parts.length * f.shape.dimension →
      (Workspace.assign f v).run.run w = (.error .badValue, w) := by
  refine ⟨fun values hvalues => ?stored, fun hplain htype => ?same, fun values hvalues => ?misfit,
    fun w v items hw hv hitems => hf.run_assign_misfit hg hw hv hitems⟩
  case stored =>
    obtain ⟨rows, hreshape, hshape, hcells⟩ :=
      NumericArray.exists_reshape? (hvalues.trans (cellCount_rowShape f _).symm)
    rw [rowShape, ← hf.shape] at hshape
    have hg' := GasLeaf.isRows_store hg l values.cells.cells
    have hcolumn : l.column (l.store g values.cells.cells) = rows.cast (l.column g).type := by
      rw [← hcells, GasLeaf.column_store hg l hshape]
    refine ⟨l.store g values.cells.cells, rows, ?_, hreshape, ?_, fun hplain => ?_, hg',
      GasLeaf.length_parts_store l _, fun l' hl => GasLeaf.column_store_of_ne hl.symm _,
      hf.assignTo_store hg _⟩
    · rw [hf.assignTo_eq hg, if_pos hvalues]
    · rw [hf.rowsOf_eq hg', hcolumn]
    · rw [hf.rowsOf_of_plain hplain hg', hcolumn]
  case same =>
    refine ⟨l.column g, ?_, hf.assignTo_column hg⟩
    rw [hf.rowsOf_of_plain hplain hg, htype, GasLeaf.cast_column]
  case misfit => rw [hf.assignTo_eq hg, if_neg hvalues]

/-- Two masses are stored and read, and masses that were read are stored again; three do not fit. -/
theorem LeadsTo.lens_laws_masses :
    let f := readRegistry[2]
    let masses : NumericArray Float Float32 := .singles (.vector [2.0, 3.0])
    f.LeadsTo Float Float32 (.part .mass) ∧ (restingGas 2).IsRows ∧
      (∃ g', f.assignTo (restingGas 2) masses = .ok g' ∧
        f.rowsOf none g' = .ok (.plain masses) ∧
        ∀ l' : GasLeaf, l' ≠ .part .mass → l'.column g' = l'.column (restingGas 2)) ∧
      (∃ values, f.rowsOf none (restingGas 2) = .ok (.plain values) ∧
        f.assignTo (restingGas 2) values = .ok (restingGas 2)) ∧
      f.assignTo (restingGas 2) (.singles (.vector [2.0, 3.0, 4.0])) = .error .badValue ∧
      ∃ w : Workspace Float Float32, w.gas = some (restingGas 2) ∧
        (Workspace.assign f (.list [.real 2.0])).run.run w = (.error .badValue, w) := by
  intro f masses
  have hf : f.LeadsTo Float Float32 (.part .mass) :=
    ⟨rfl, rfl, ["conserved", "mass"], rfl, rfl⟩
  have hg : (restingGas 2).IsRows := Gas.isRows_ofRows _ _ _
  obtain ⟨hstored, hsame, hmisfit, hrefused⟩ := hf.lens_laws hg none
  refine ⟨hf, hg, ?_, hsame rfl rfl, hmisfit _ (by decide), { gas := some (restingGas 2) }, rfl, ?_⟩
  · obtain ⟨g', rows, hassign, hrows, -, hread, -, -, hothers, -⟩ := hstored masses rfl
    obtain rfl : masses = rows := Option.some.inj hrows
    exact ⟨g', hassign, hread rfl, hothers⟩
  · exact hrefused _ _ _ rfl rfl (by decide)

end FieldDescriptor

end MeshlessGas
