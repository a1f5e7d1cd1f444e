/-
Columns — the leaves of many records, taken out and put back row by row.

A column lists the cells of one leaf for every record, and storing an array of the same
shape puts the cells of each row into its record.  Records are given here as the images of
the entries of one list, so that taking out and putting back are maps over that list.
-/
import MeshlessGas.Field.Access
import MeshlessGas.Proofs.Tensor

namespace MeshlessGas

/-! ## Casting cells to the type that they have -/

namespace NumericArray

variable {D S : Type} [Arithmetic D] [Arithmetic S] [Narrowing D S]

/-- Cells that storing in an element type does not change. -/
def Keeps (t : ElementType) (cells : List (Cell D S)) : Prop := ∀ c ∈ cells, c.cast t = c

theorem keeps_doubles (xs : List D) : Keeps .float64 (xs.map (Cell.double : D → Cell D S)) := by
  intro c hc
  obtain ⟨x, -, rfl⟩ := List.mem_map.mp hc
  rfl

theorem keeps_singles (xs : List S) : Keeps .float32 (xs.map (Cell.single : S → Cell D S)) := by
  intro c hc
  obtain ⟨x, -, rfl⟩ := List.mem_map.mp hc
  rfl

theorem keeps_whole {k : IntegerType} {n : Int} (h : k.holds n = true) :
    Keeps (.integer k) [(Cell.whole n : Cell D S)] := by
  intro c hc
  have hwrap : k.wrap n = n := by simpa [IntegerType.holds] using h
  rw [List.mem_singleton] at hc
  subst hc
  exact congrArg Cell.whole hwrap

theorem cast_rows {α : Type} {t : ElementType} {xs : List α} {shape : List Nat}
    {cells : α → List (Cell D S)} (h : ∀ a, (cells a).length = cellCount shape)
    (hkeeps : ∀ a, Keeps t (cells a)) (s : ElementType) :
    cast t ⟨s, Tensor.rows xs shape cells h⟩ = ⟨t, Tensor.rows xs shape cells h⟩ := by
  have hcells : (xs.flatMap cells).map (Cell.cast t) = xs.flatMap cells := by
    refine (List.map_congr_left fun c hc => ?_).trans (List.map_id _)
    obtain ⟨a, -, hc⟩ := List.mem_flatMap.mp hc
    exact hkeeps a c hc
  exact congrArg (NumericArray.mk t) (Tensor.ext rfl hcells)

end NumericArray

theorem IntegerType.holds_uint64 (n : UInt64) : IntegerType.uint64.holds n.toNat = true := by
  have hlt : (n.toNat : Int) < 2 ^ 64 := by exact_mod_cast n.toNat_lt
  have hwrap : IntegerType.uint64.wrap n.toNat = n.toNat :=
    Int.emod_eq_of_lt (Int.natCast_nonneg _) hlt
  simp [IntegerType.holds, hwrap]

/-! ## Columns of records -/

namespace Layout

variable {R D S α : Type}

theorem column_map (l : Lens R D S) (g : α → R) (xs : List α) :
    column l (xs.map g) = ⟨l.type, Tensor.rows xs l.shape.shape (fun a => l.get (g a))
      fun a => l.length_get (g a)⟩ :=
  congrArg (NumericArray.mk l.type) (Tensor.rows_map l.length_get g xs)

theorem putPieces_map (l : Lens R D S) (cells : α → List (Cell D S)) (g : α → R) :
    ∀ xs : List α, putPieces l (xs.map cells) (xs.map g) = xs.map fun a => l.put (cells a) (g a)
  | [] => rfl
  | a :: xs => congrArg (l.put (cells a) (g a) :: ·) (putPieces_map l cells g xs)

theorem assignColumn_rows [Arithmetic D] [Arithmetic S] [Narrowing D S] (l : Lens R D S)
    (g : α → R) (xs : List α)
    {cells : α → List (Cell D S)} (h : ∀ a, (cells a).length = cellCount l.shape.shape) :
    assignColumn l (Tensor.rows xs l.shape.shape cells h) (xs.map g)
      = .ok (xs.map fun a => l.put (cells a) (g a)) := by
  have hassign : (Tensor.rows xs l.shape.shape cells h).assignTo?
      ((xs.map g).length :: l.shape.shape) = some (Tensor.rows xs l.shape.shape cells h) := by
    rw [List.length_map]
    exact Tensor.assignTo?_shape (Tensor.rows xs l.shape.shape cells h)
  rw [assignColumn, hassign, Failure.ofOption_some, Result.ok_bind, List.length_map,
    Tensor.cells_rows, pieces_flatMap cells h, putPieces_map]
  rfl

end Layout

/-! ## Fields that are columns -/

namespace FieldDescriptor

variable {R D S L α : Type} {f : FieldDescriptor} {layout : Layout R D S L}
  {path : List String} {l : L}

theorem reshaped_of_length (hlength : f.hasLength = true) {a : NumericArray D S}
    {shape : List Nat} (h : a.cells.cells.length = cellCount shape) :
    f.reshaped shape a = .ok ⟨a.type, ⟨shape, a.cells.cells, h⟩⟩ := by
  simp only [reshaped, hlength, if_true, NumericArray.reshape?, Tensor.reshape?, h, dite_true,
    Option.map_some, Failure.ofOption_some]

theorem reshaped_of_length_ne (hlength : f.hasLength = true) {a : NumericArray D S}
    {shape : List Nat} (h : a.cells.cells.length ≠ cellCount shape) :
    f.reshaped shape a = .error .badValue := by
  simp only [reshaped, hlength, if_true, NumericArray.reshape?, Tensor.reshape?, h, dite_false,
    Option.map_none, Failure.ofOption_none]

theorem reshaped_rows (hlength : f.hasLength = true) (t : ElementType) {n : Nat} {xs : List α}
    (hn : xs.length = n) {cells : α → List (Cell D S)}
    (h : ∀ a, (cells a).length = cellCount f.shape.shape) :
    f.reshaped (f.rowShape n) ⟨t, Tensor.rows xs f.shape.shape cells h⟩
      = .ok ⟨t, Tensor.rows xs f.shape.shape cells h⟩ := by
  simp only [reshaped, hlength, if_true, NumericArray.reshape?, rowShape,
    Tensor.reshape?_rows xs h hn, Option.map_some, Failure.ofOption_some]

theorem storedColumn_rows (hlength : f.hasLength = true)
    (hfollow : layout.tree.follow path = .ok (.leaf l))
    (hshape : (layout.lens l).shape = f.shape) (g : α → R) (xs : List α) :
    storedColumn layout f path (xs.map g)
      = .ok ⟨(layout.lens l).type,
          Tensor.rows xs f.shape.shape (fun a => (layout.lens l).get (g a))
            fun a => hshape ▸ (layout.lens l).length_get (g a)⟩ := by
  have hcolumn : Layout.column (layout.lens l) (xs.map g)
      = ⟨(layout.lens l).type, Tensor.rows xs f.shape.shape (fun a => (layout.lens l).get (g a))
          fun a => hshape ▸ (layout.lens l).length_get (g a)⟩ := by
    rw [Layout.column_map]
    refine congrArg (NumericArray.mk _) (Tensor.ext ?_ rfl)
    rw [Tensor.shape_rows, Tensor.shape_rows, hshape]
  rw [storedColumn, hfollow, Result.ok_bind]
  show f.reshaped _ (Layout.column (layout.lens l) (xs.map g)) = _
  rw [hcolumn]
  exact reshaped_rows hlength _ (List.length_map g).symm _

theorem assignPath_rows [Transcendental D] [Arithmetic S] [Narrowing D S]
    (hlength : f.hasLength = true)
    (hfollow : layout.tree.follow path = .ok (.leaf l)) {around : FieldTree L}
    (haround : layout.tree.follow path.dropLast = .ok around) (hpath : path.isEmpty = false)
    (hshape : (layout.lens l).shape = f.shape) (t : ElementType) (g : α → R) (xs : List α)
    {cells : α → List (Cell D S)} (h : ∀ a, (cells a).length = cellCount f.shape.shape) :
    assignPath layout f path ⟨t, Tensor.rows xs f.shape.shape cells h⟩ (xs.map g)
      = .ok (xs.map fun a => (layout.lens l).put (cells a) (g a)) := by
  have hcells : ∀ a, (cells a).length = cellCount (layout.lens l).shape.shape := by
    rw [hshape]
    exact h
  have hrows : Tensor.rows xs f.shape.shape cells h
      = Tensor.rows xs (layout.lens l).shape.shape cells hcells :=
    Tensor.ext (by rw [Tensor.shape_rows, Tensor.shape_rows, hshape]) rfl
  have hassign : layout.assignAt path (Tensor.rows xs f.shape.shape cells h) (xs.map g)
      = .ok (xs.map fun a => (layout.lens l).put (cells a) (g a)) := by
    rw [Layout.assignAt, hfollow, Result.ok_bind]
    show Layout.assignColumn (layout.lens l) _ _ = _
    rw [hrows]
    exact Layout.assignColumn_rows (layout.lens l) g xs hcells
  have hreshaped := reshaped_rows hlength t (List.length_map g).symm (n := (xs.map g).length) h
  simp only [assignPath, haround, hreshaped, hpath, Result.ok_bind, Bool.false_eq_true, if_false]
  exact hassign

end FieldDescriptor

end MeshlessGas
