/-
Tensors of rows — what repeating, combining and cutting do to arrays of particles.

An array of particles has one axis, and an array of their numbers has the axes of one
particle behind it.  Such arrays are lists of rows: `vector` for one number a particle, and
`rows` for several.  Combining goes row by row, a tensor that has the wanted shape already is
repeated without a change, and one that lacks the leading axes is repeated along them.  The
laws of maps and of repeated tensors hold for particles in any axes, so that they serve a
single particle, which has none, as well.
-/
import MeshlessGas.Proofs.Results
import MeshlessGas.Tensor.Broadcast

namespace MeshlessGas

/-! ## Pieces -/

theorem flatten_pieces {α : Type} :
    ∀ (n k : Nat) (xs : List α), xs.length = n * k → (pieces n k xs).flatten = xs
  | 0, _, xs, h => by
    have hxs : xs = [] := List.length_eq_zero_iff.mp (by simpa using h)
    simp [pieces, hxs]
  | n + 1, k, xs, h => by
    have hrest : (xs.drop k).length = n * k := by
      rw [List.length_drop, h, Nat.succ_mul]
      omega
    simp only [pieces, List.flatten_cons]
    rw [flatten_pieces n k (xs.drop k) hrest]
    exact List.take_append_drop k xs

theorem length_of_mem_pieces {α : Type} {k : Nat} :
    ∀ {n : Nat} {xs : List α}, xs.length = n * k → ∀ p ∈ pieces n k xs, p.length = k
  | 0, _, _, p, hp => by simp [pieces] at hp
  | n + 1, xs, h, p, hp => by
    rw [Nat.succ_mul] at h
    rcases List.mem_cons.mp hp with rfl | hp
    · rw [List.length_take]
      omega
    · exact length_of_mem_pieces (by rw [List.length_drop]; omega) p hp

theorem pieces_flatMap {α β : Type} (f : α → List β) {k : Nat} (hf : ∀ a, (f a).length = k) :
    ∀ xs : List α, pieces xs.length k (xs.flatMap f) = xs.map f
  | [] => rfl
  | a :: xs => by
    have htake : (f a ++ xs.flatMap f).take k = f a := by
      rw [← hf a]
      exact List.take_left
    have hdrop : (f a ++ xs.flatMap f).drop k = xs.flatMap f := by
      rw [← hf a]
      exact List.drop_left
    simp only [List.length_cons, List.flatMap_cons, pieces, List.map_cons, htake, hdrop]
    rw [pieces_flatMap f hf xs]

/-! ## Repeating -/

theorem fitsInto_self : ∀ s : List Nat, fitsInto s s = true
  | [] => rfl
  | _ :: s => by simp [fitsInto, fitsInto_self s]

theorem spreadCells_self {α : Type} :
    ∀ (s : List Nat) (xs : List α), xs.length = cellCount s → spreadCells s s xs = xs
  | [], _, _ => rfl
  | n :: s, xs, h => by
    have hlength : ∀ p ∈ pieces n (cellCount s) xs, p.length = cellCount s :=
      length_of_mem_pieces h
    have hmap : (pieces n (cellCount s) xs).map (spreadCells s s) = pieces n (cellCount s) xs := by
      refine (List.map_congr_left fun p hp => ?_).trans (List.map_id _)
      exact spreadCells_self s p (hlength p hp)
    simp only [spreadCells, if_true]
    rw [List.flatMap_def, hmap]
    exact flatten_pieces n (cellCount s) xs h

namespace Tensor

variable {α β γ : Type}

theorem fitsInto_padded (s : List Nat) :
    ∀ u : List Nat, fitsInto (List.replicate u.length 1 ++ s) (u ++ s) = true
  | [] => fitsInto_self s
  | _ :: u => by simp [List.replicate_succ, fitsInto, fitsInto_padded s u]

theorem spreadCells_padded (s : List Nat) {xs : List α} (h : xs.length = cellCount s) :
    ∀ u : List Nat, spreadCells (List.replicate u.length 1 ++ s) (u ++ s) xs
      = (List.replicate (cellCount u) xs).flatten
  | [] => by
    simpa using spreadCells_self s xs h
  | n :: u => by
    have hlength : xs.length = cellCount (List.replicate u.length 1 ++ s) := by
      rw [cellCount_append, cellCount_replicate_one, Nat.one_mul]
      exact h
    have hrest := spreadCells_padded s h u
    rw [List.length_cons, List.replicate_succ, List.cons_append, List.cons_append, spreadCells]
    -- An axis of length one is the same before and after, and nothing is repeated along it.
    split
    next hone =>
      have htake : xs.take (cellCount (List.replicate u.length 1 ++ s)) = xs := by
        rw [← hlength]
        exact List.take_length
      subst hone
      simp only [pieces, htake, List.flatMap_cons, List.flatMap_nil, List.append_nil, hrest,
        cellCount_cons, Nat.one_mul]
    next =>
      rw [hrest, cellCount_cons, ← List.flatten_replicate_replicate, List.flatten_flatten,
        List.map_replicate]

theorem joinAxes_append : ∀ s u : List Nat, joinAxes (s ++ u) s = some (s ++ u)
  | [], [] => rfl
  | [], _ :: _ => rfl
  | n :: s, u => by simp [joinAxes, joinAxis, joinAxes_append s u]

theorem joinShape_append (u s : List Nat) : joinShape (u ++ s) s = some (u ++ s) := by
  rw [joinShape, List.reverse_append, joinAxes_append, Option.map_some, ← List.reverse_append,
    List.reverse_reverse]

theorem padShape_length (s : List Nat) : padShape s.length s = s := by
  simp [padShape]

theorem padShape_append (u s : List Nat) :
    padShape (u ++ s).length s = List.replicate u.length 1 ++ s := by
  simp [padShape]

/-- A tensor that fits is repeated to the tensor of the repeated cells. -/
theorem spread?_eq {t u : Tensor α} {s : List Nat} (hpad : padShape u.shape.length t.shape = s)
    (hfits : fitsInto s u.shape = true) (hcells : spreadCells s u.shape t.cells = u.cells) :
    t.spread? u.shape = some u := by
  subst hpad
  simp only [spread?, hfits, dite_true]
  exact congrArg some (Tensor.ext rfl hcells)

theorem spread?_shape (t : Tensor α) : t.spread? t.shape = some t :=
  spread?_eq (padShape_length t.shape) (fitsInto_self t.shape)
    (spreadCells_self t.shape t.cells t.length_cells)

theorem stripLeadingOnes_length (s : List Nat) : stripLeadingOnes s.length s = s := by
  unfold stripLeadingOnes
  split
  · exact if_neg (Nat.not_succ_le_self _)
  · rfl

theorem assignTo?_shape (t : Tensor α) : t.assignTo? t.shape = some t := by
  have hstrip : (⟨stripLeadingOnes t.shape.length t.shape, t.cells, by
      rw [cellCount_stripLeadingOnes]; exact t.length_cells⟩ : Tensor α) = t :=
    Tensor.ext (stripLeadingOnes_length t.shape) rfl
  unfold assignTo?
  rw [hstrip]
  exact spread?_shape t

/-! ## One number a row -/

@[simp] theorem map_vector (f : α → β) (xs : List α) :
    (vector xs).map f = vector (xs.map f) :=
  Tensor.ext (by simp) rfl

theorem map_map (f : α → β) (g : β → γ) (t : Tensor α) :
    (t.map f).map g = t.map fun a => g (f a) :=
  Tensor.ext rfl (by simp)

theorem map_congr {f g : α → β} {t : Tensor α} (h : ∀ a ∈ t.cells, f a = g a) :
    t.map f = t.map g :=
  Tensor.ext rfl (List.map_congr_left h)

theorem map₂?_map {δ : Type} (f : α → β → γ) (g : δ → α) (h : δ → β) (t : Tensor δ) :
    map₂? f (t.map g) (t.map h) = some (t.map fun a => f (g a) (h a)) := by
  rw [map₂?_of_shape_eq f _ _ rfl]
  refine congrArg some (Tensor.ext rfl ?_)
  simp only [zipWith, cells_map, List.zipWith_map, List.zipWith_self]

theorem mapM_of_forall_ok {ε : Type} {f : α → Except ε β} {g : α → β} {t : Tensor α}
    (h : ∀ a ∈ t.cells, f a = .ok (g a)) : t.mapM f = .ok (t.map g) := by
  have hcells : t.cells.mapM f = .ok (t.cells.map g) := Result.mapM_of_forall_ok h
  unfold mapM
  split
  next e he => exact absurd (he.symm.trans hcells) (by simp)
  next cells hok =>
    have heq : cells = t.cells.map g := by simpa [hok] using hcells
    subst heq
    rfl

theorem mapM_eq_error {ε : Type} {f : α → Except ε β} {e : ε} {t : Tensor α}
    (honly : ∀ a ∈ t.cells, ∀ e', f a = .error e' → e' = e) {a : α} (ha : a ∈ t.cells)
    (hfail : f a = .error e) : t.mapM f = .error e := by
  have hcells : t.cells.mapM f = .error e := Result.mapM_eq_error honly ha hfail
  unfold mapM
  split
  next e' he => exact congrArg Except.error (by simpa [hcells] using he.symm)
  next cells hok => exact absurd (hok.symm.trans hcells) (by simp)

/-! ## Several numbers a row -/

/-- The numbers of rows, in an array with the axes of one row behind the axis of all
rows. -/
def rows (xs : List α) (shape : List Nat) (f : α → List β)
    (h : ∀ a, (f a).length = cellCount shape) : Tensor β :=
  ⟨xs.length :: shape, xs.flatMap f, by
    rw [List.length_flatMap, cellCount_cons]
    induction xs with
    | nil => simp
    | cons a xs ih =>
      rw [List.map_cons, List.sum_cons, ih, h a, List.length_cons, Nat.succ_mul]
      exact Nat.add_comm _ _⟩

section Rows

variable (xs : List α) {shape : List Nat} {f : α → List β}
  (h : ∀ a, (f a).length = cellCount shape)

@[simp] theorem shape_rows : (rows xs shape f h).shape = xs.length :: shape := rfl

@[simp] theorem cells_rows : (rows xs shape f h).cells = xs.flatMap f := rfl

theorem map_rows (g : β → γ) :
    (rows xs shape f h).map g
      = rows xs shape (fun a => (f a).map g) (fun a => by rw [List.length_map]; exact h a) :=
  Tensor.ext rfl (by simp [List.map_flatMap])

theorem rows_map {δ : Type} (g : δ → α) (ds : List δ) :
    rows (ds.map g) shape f h = rows ds shape (fun d => f (g d)) (fun d => h (g d)) :=
  Tensor.ext (by simp) (by simp [List.flatMap_map])

theorem rows_eq_vector (hshape : shape = []) {g : α → β} (hcells : ∀ a, f a = [g a]) :
    rows xs shape f h = vector (xs.map g) := by
  obtain rfl : f = fun a => [g a] := funext hcells
  obtain rfl := hshape
  exact Tensor.ext (by simp [vector]) List.map_eq_flatMap.symm

theorem spreadOut_vector : (vector xs).spreadOut shape f h = rows xs shape f h :=
  Tensor.ext rfl rfl

theorem map_spreadOut (t : Tensor α) (g : β → γ) :
    (t.spreadOut shape f h).map g
      = t.spreadOut shape (fun a => (f a).map g) fun a => by
          rw [List.length_map]
          exact h a :=
  Tensor.ext rfl (by simp [spreadOut, List.map_flatMap])

theorem map_eq_spreadOut (t : Tensor α) (g : α → β) :
    t.map g = t.spreadOut [] (fun a => [g a]) fun _ => rfl :=
  Tensor.ext (by simp [spreadOut]) List.map_eq_flatMap

theorem filled_eq_spreadOut (t : Tensor α) (shape : List Nat) (b : β) :
    filled (t.shape ++ shape) b
      = t.spreadOut shape (fun _ => List.replicate (cellCount shape) b)
          fun _ => List.length_replicate := by
  refine Tensor.ext rfl ?_
  show List.replicate (cellCount (t.shape ++ shape)) b = t.cells.flatMap _
  rw [List.flatMap_def, List.map_const', List.flatten_replicate_replicate, t.length_cells,
    cellCount_append]

theorem atLeastRow_of_shape_ne {t : Tensor α} (hshape : t.shape ≠ []) : t.atLeastRow = t :=
  dif_neg hshape

@[simp] theorem cells_atLeastRow (t : Tensor α) : t.atLeastRow.cells = t.cells := by
  unfold atLeastRow
  split <;> rfl

theorem map_atLeastRow (t : Tensor α) (g : α → β) :
    t.atLeastRow.map g = (t.map g).atLeastRow := by
  by_cases hshape : t.shape = []
  · simp only [atLeastRow, shape_map, hshape, dite_true]
    rfl
  · have hmapped : (t.map g).shape ≠ [] := hshape
    rw [atLeastRow_of_shape_ne hshape, atLeastRow_of_shape_ne hmapped]

@[simp] theorem atLeastRow_rows : (rows xs shape f h).atLeastRow = rows xs shape f h :=
  atLeastRow_of_shape_ne (List.cons_ne_nil _ _)

theorem atLeastRow_spreadOut_cons (t : Tensor α) {n : Nat} {f : α → List β}
    (h : ∀ a, (f a).length = cellCount (n :: shape)) :
    (t.spreadOut (n :: shape) f h).atLeastRow = t.spreadOut (n :: shape) f h :=
  atLeastRow_of_shape_ne (List.append_ne_nil_of_right_ne_nil _ (List.cons_ne_nil _ _))

theorem reshape?_rows {n : Nat} (hn : xs.length = n) :
    (rows xs shape f h).reshape? (n :: shape) = some (rows xs shape f h) := by
  subst hn
  exact reshape?_shape (rows xs shape f h)

end Rows

theorem zipWith_flatMap {δ : Type} (op : β → γ → δ) {f : α → List β} {g : α → List γ}
    (h : ∀ a, (f a).length = (g a).length) :
    ∀ xs : List α, List.zipWith op (xs.flatMap f) (xs.flatMap g)
      = xs.flatMap fun a => List.zipWith op (f a) (g a)
  | [] => rfl
  | a :: xs => by
    rw [List.flatMap_cons, List.flatMap_cons, List.zipWith_append (h a), zipWith_flatMap op h xs,
      List.flatMap_cons]

theorem map₂?_of_spread {δ : Type} (op : β → γ → δ) {a a' : Tensor β} {b b' : Tensor γ}
    {shape : List Nat} (hjoin : joinShape a.shape b.shape = some shape)
    (ha : a.spread? shape = some a') (hb : b.spread? shape = some b')
    (h : a'.shape = b'.shape) : map₂? op a b = some (zipWith op a' b' h) := by
  by_cases hsame : a.shape = b.shape
  · -- Tensors of one shape have nothing to be repeated.
    have hshape : shape = a.shape := by
      rw [hsame] at hjoin ⊢
      exact Option.some.inj (hjoin.symm.trans (joinShape_append [] b.shape))
    subst hshape
    obtain rfl := Option.some.inj ((spread?_shape a).symm.trans ha)
    rw [hsame, spread?_shape] at hb
    obtain rfl := Option.some.inj hb
    exact map₂?_of_shape_eq op a b hsame
  · rw [map₂?, dif_neg hsame, hjoin, Option.bind_some, ha, Option.bind_some, hb,
      Option.bind_some, dif_pos h]

/-- The numbers of all entries are combined with one tensor that is the same for every
entry. -/
theorem map₂?_spreadOut {δ : Type} (op : β → γ → δ) (t : Tensor α) {s : List Nat}
    {f : α → List β} (hf : ∀ a, (f a).length = cellCount s) {ds : Tensor γ}
    (hds : ds.shape = s) :
    map₂? op (t.spreadOut s f hf) ds
      = some (t.spreadOut s (fun a => List.zipWith op (f a) ds.cells) fun a => by
          rw [List.length_zipWith, hf a, ds.length_cells, hds, Nat.min_self]) := by
  have hlength : ∀ a : α, (f a).length = ds.cells.length := by
    intro a
    rw [hf a, ds.length_cells, hds]
  have hjoin : joinShape (t.spreadOut s f hf).shape ds.shape = some (t.shape ++ s) := by
    rw [hds]
    exact joinShape_append t.shape s
  have hself : (t.spreadOut s f hf).spread? (t.shape ++ s) = some (t.spreadOut s f hf) :=
    spread?_shape (t.spreadOut s f hf)
  have hspread : ds.spread? (t.shape ++ s)
      = some (t.spreadOut s (fun _ => ds.cells) fun _ => by rw [ds.length_cells, hds]) := by
    have hpad : padShape (t.shape ++ s).length ds.shape
        = List.replicate t.shape.length 1 ++ s := by
      rw [hds]
      exact padShape_append t.shape s
    have hcells : spreadCells (List.replicate t.shape.length 1 ++ s) (t.shape ++ s) ds.cells
        = t.cells.flatMap fun _ => ds.cells := by
      rw [spreadCells_padded s (by rw [ds.length_cells, hds]), ← t.length_cells,
        List.flatMap_def, List.map_const']
    exact spread?_eq (u := t.spreadOut s (fun _ => ds.cells) _) hpad
      (fitsInto_padded s t.shape) hcells
  rw [map₂?_of_spread op hjoin hself hspread rfl]
  exact congrArg some (Tensor.ext rfl (zipWith_flatMap op hlength t.cells))

theorem map₂?_column {δ : Type} (op : β → γ → δ) (xs : List α) (g : α → β) {k : Nat}
    {f : α → List γ} (hf : ∀ a, (f a).length = cellCount [k]) :
    map₂? op (rows xs [1] (fun a => [g a]) fun _ => rfl) (rows xs [k] f hf)
      = some (rows xs [k] (fun a => (f a).map (op (g a))) fun a => by
          rw [List.length_map]
          exact hf a) := by
  have hk : ∀ a, (f a).length = k := by simpa using hf
  have hjoin : joinShape [xs.length, 1] [xs.length, k] = some [xs.length, k] := by
    by_cases hone : 1 = k
    · subst hone
      simp [joinShape, joinAxes, joinAxis]
    · simp [joinShape, joinAxes, joinAxis, hone]
  have hrow : ∀ b : β, spreadCells [1] [k] [b] = List.replicate k b := by
    intro b
    unfold spreadCells
    split
    next heq =>
      subst heq
      rfl
    next => simp [spreadCells]
  have hcells : spreadCells [xs.length, 1] [xs.length, k] (xs.flatMap fun a => [g a])
      = xs.flatMap fun a => (f a).map fun _ => g a := by
    have hpieces : pieces xs.length (cellCount [1]) (xs.flatMap fun a => [g a])
        = xs.map fun a => [g a] := pieces_flatMap (fun a => [g a]) (fun _ => rfl) xs
    rw [spreadCells, if_pos rfl, hpieces, List.flatMap_map]
    simp only [hrow, List.map_const', hk]
  have hspread : (rows xs [1] (fun a => [g a]) fun _ => rfl).spread? [xs.length, k]
      = some (rows xs [k] (fun a => (f a).map fun _ => g a) fun a => by
          rw [List.length_map]
          exact hf a) :=
    spread?_eq (u := rows xs [k] (fun a => (f a).map fun _ => g a) _)
      (padShape_length [xs.length, 1]) (by simp [fitsInto]) hcells
  rw [map₂?_of_spread op hjoin hspread (spread?_shape _) rfl]
  refine congrArg some (Tensor.ext rfl ?_)
  show List.zipWith op (xs.flatMap fun a => (f a).map fun _ => g a) (xs.flatMap f) = _
  rw [zipWith_flatMap op (fun a => List.length_map _)]
  simp only [List.zipWith_map_left, List.zipWith_self, cells_rows]

theorem map₂?_scalar {δ : Type} (op : β → γ → δ) (t : Tensor β) (c : γ) :
    map₂? op t (scalar c) = some (t.map fun b => op b c) := by
  have hself : t = t.spreadOut [] (fun b => [b]) fun _ => rfl :=
    Tensor.ext (by simp [spreadOut]) (by simp [spreadOut])
  calc map₂? op t (scalar c)
      = map₂? op (t.spreadOut [] (fun b => [b]) fun _ => rfl) (scalar c) := by rw [← hself]
    _ = some (t.spreadOut [] (fun b => [op b c]) fun _ => rfl) :=
        map₂?_spreadOut op t (s := []) (f := fun b => [b]) (fun _ => rfl) rfl
    _ = some (t.map fun b => op b c) := by rw [map_eq_spreadOut]

end Tensor

end MeshlessGas
