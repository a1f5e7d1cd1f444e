/-
Tensors — rectangular arrays of any rank.

A tensor is a shape and its cells in row-major order; the type keeps the number
of cells equal to the product of the shape.  A tensor of shape `[]` is a single
cell, so that one definition serves a single particle and a whole array.
-/

namespace MeshlessGas

/-- Number of cells of a shape. -/
def cellCount : List Nat → Nat
  | [] => 1
  | n :: shape => n * cellCount shape

/-- A rectangular array. -/
@[ext]
structure Tensor (α : Type) where
  shape : List Nat
  cells : List α
  length_cells : cells.length = cellCount shape

namespace Tensor

variable {α β : Type}

instance [Repr α] : Repr (Tensor α) where
  reprPrec t _ := repr (t.shape, t.cells)

instance [DecidableEq α] : DecidableEq (Tensor α) := fun a b =>
  if h : a.shape = b.shape ∧ a.cells = b.cells then isTrue (Tensor.ext h.1 h.2)
  else isFalse fun e => h (e ▸ ⟨rfl, rfl⟩)

/-- A single cell. -/
def scalar (a : α) : Tensor α := ⟨[], [a], rfl⟩

/-- A row of cells. -/
def vector (xs : List α) : Tensor α := ⟨[xs.length], xs, by simp [cellCount]⟩

instance : Inhabited (Tensor α) := ⟨vector []⟩

def map (f : α → β) (t : Tensor α) : Tensor β :=
  ⟨t.shape, t.cells.map f, by simpa using t.length_cells⟩

/-- Converting the cells of a list one by one keeps their number. -/
theorem length_of_mapM_ok {ε : Type} {f : α → Except ε β} :
    ∀ {xs : List α} {ys : List β}, xs.mapM f = .ok ys → ys.length = xs.length
  | [], ys, h => by
    simp only [List.mapM_nil] at h
    cases h
    rfl
  | x :: xs, ys, h => by
    rw [List.mapM_cons] at h
    cases hx : f x with
    | error e => simp [hx, bind, Except.bind] at h
    | ok y =>
      cases hxs : xs.mapM f with
      | error e => simp [hx, hxs, bind, Except.bind] at h
      | ok zs =>
        simp only [hx, hxs, bind, Except.bind, pure, Except.pure, Except.ok.injEq] at h
        subst h
        simp [length_of_mapM_ok hxs]

/-- All cells converted, or the first failure in row-major order. -/
def mapM {ε : Type} (f : α → Except ε β) (t : Tensor α) : Except ε (Tensor β) :=
  match h : t.cells.mapM f with
  | .error e => .error e
  | .ok cells => .ok ⟨t.shape, cells, by rw [length_of_mapM_ok h, t.length_cells]⟩

/-- A tensor with one value everywhere. -/
def filled (shape : List Nat) (a : α) : Tensor α :=
  ⟨shape, List.replicate (cellCount shape) a, by simp⟩

/-- The same cells in another shape with as many cells. -/
def reshape? (t : Tensor α) (shape : List Nat) : Option (Tensor α) :=
  if h : t.cells.length = cellCount shape then some ⟨shape, t.cells, h⟩ else none

/-- A single cell becomes a row of one. -/
def atLeastRow (t : Tensor α) : Tensor α :=
  if h : t.shape = [] then ⟨[1], t.cells, by rw [t.length_cells, h]; rfl⟩ else t

/-- The first cell, if there is one. -/
def head? (t : Tensor α) : Option α := t.cells.head?

/-! ## Small laws -/

@[simp] theorem cellCount_nil : cellCount [] = 1 := rfl

@[simp] theorem cellCount_cons (n : Nat) (shape : List Nat) :
    cellCount (n :: shape) = n * cellCount shape := rfl

@[simp] theorem shape_map (f : α → β) (t : Tensor α) : (t.map f).shape = t.shape := rfl

@[simp] theorem cells_map (f : α → β) (t : Tensor α) : (t.map f).cells = t.cells.map f := rfl

@[simp] theorem shape_scalar (a : α) : (scalar a).shape = [] := rfl

@[simp] theorem cells_scalar (a : α) : (scalar a).cells = [a] := rfl

@[simp] theorem shape_vector (xs : List α) : (vector xs).shape = [xs.length] := rfl

@[simp] theorem cells_vector (xs : List α) : (vector xs).cells = xs := rfl

theorem reshape?_shape (t : Tensor α) : t.reshape? t.shape = some t := by
  simp [reshape?, t.length_cells]

end Tensor

/-! ## Nested lists -/

/-- A value given as nested lists, not yet known to be rectangular. -/
inductive Nested (α : Type) where
  | cell (a : α)
  | row (xs : List (Nested α))
deriving Inhabited

namespace Nested

variable {α β : Type}

mutual

/-- The shape, if all rows of a level agree in theirs. -/
def shape? : Nested α → Option (List Nat)
  | cell _ => some []
  | row xs => (rowShape? xs).map fun inner => xs.length :: inner

/-- The common shape of some rows; no rows have the empty shape. -/
def rowShape? : List (Nested α) → Option (List Nat)
  | [] => some []
  | [x] => shape? x
  | x :: y :: xs =>
    match shape? x, rowShape? (y :: xs) with
    | some s, some t => if s = t then some s else none
    | _, _ => none

end

mutual

/-- The cells from left to right. -/
def leaves : Nested α → List α
  | cell a => [a]
  | row xs => rowLeaves xs

def rowLeaves : List (Nested α) → List α
  | [] => []
  | x :: xs => leaves x ++ rowLeaves xs

end

/-- The rectangular array of a nested list; ragged lists have none. -/
def tensor? (n : Nested α) : Option (Tensor α) :=
  n.shape?.bind fun shape =>
    if h : n.leaves.length = cellCount shape then some ⟨shape, n.leaves, h⟩ else none

end Nested

end MeshlessGas
