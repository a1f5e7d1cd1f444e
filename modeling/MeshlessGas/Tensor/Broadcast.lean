/-
Broadcasting — combining tensors of different shapes.

Two shapes are compared from their last axes; an axis of length one, or a missing
leading axis, is repeated to the length of its partner.  `spread?` repeats one
tensor to a given shape and `map₂?` combines two of them cell by cell.  Tensors of
equal shape are combined without any repetition, which is the law
`map₂?_of_shape_eq`.
-/
import MeshlessGas.Tensor.Basic

namespace MeshlessGas

/-- The common length of two axes. -/
def joinAxis (m n : Nat) : Option Nat :=
  if m = n then some m
  else if m = 1 then some n
  else if n = 1 then some m
  else none

/-- The common shape of two shapes listed from their last axes. -/
def joinAxes : List Nat → List Nat → Option (List Nat)
  | [], t => some t
  | s, [] => some s
  | m :: s, n :: t => (joinAxis m n).bind fun axis => (joinAxes s t).map (axis :: ·)

/-- The common shape of two shapes. -/
def joinShape (s t : List Nat) : Option (List Nat) :=
  (joinAxes s.reverse t.reverse).map List.reverse

/-- Whether every axis of the first shape is that of the second or has length
one. -/
def fitsInto : List Nat → List Nat → Bool
  | [], [] => true
  | m :: s, n :: t => (m = n ∨ m = 1) ∧ fitsInto s t
  | _, _ => false

/-- A list cut into `n` pieces of length `k`. -/
def pieces {α : Type} (n k : Nat) (xs : List α) : List (List α) :=
  match n with
  | 0 => []
  | n + 1 => xs.take k :: pieces n k (xs.drop k)

/-- The cells of one shape repeated to those of another of the same rank. -/
def spreadCells {α : Type} : List Nat → List Nat → List α → List α
  | m :: s, n :: t, xs =>
    if m = n then (pieces n (cellCount s) xs).flatMap (spreadCells s t)
    else (List.replicate n (spreadCells s t xs)).flatten
  | _, _, xs => xs

theorem length_pieces_flatMap {α β : Type} (f : List α → List β) (k l : Nat)
    (hf : ∀ xs : List α, xs.length = k → (f xs).length = l) :
    ∀ (n : Nat) (xs : List α), xs.length = n * k → ((pieces n k xs).flatMap f).length = n * l
  | 0, _, _ => by simp [pieces]
  | n + 1, xs, h => by
    have hk : k ≤ xs.length := by rw [h, Nat.succ_mul]; omega
    have htake : (xs.take k).length = k := by simp [hk]
    have hdrop : (xs.drop k).length = n * k := by
      rw [List.length_drop, h, Nat.succ_mul]; omega
    simp only [pieces, List.flatMap_cons, List.length_append, hf _ htake,
      length_pieces_flatMap f k l hf n _ hdrop, Nat.succ_mul]
    omega

theorem length_spreadCells {α : Type} :
    ∀ (s t : List Nat) (xs : List α), fitsInto s t = true → xs.length = cellCount s →
      (spreadCells s t xs).length = cellCount t
  | [], [], _, _, h => by simpa [spreadCells] using h
  | m :: s, n :: t, xs, hfit, h => by
    simp only [fitsInto, Bool.decide_and, Bool.decide_or, Bool.and_eq_true, Bool.or_eq_true,
      decide_eq_true_eq] at hfit
    obtain ⟨haxis, hrest⟩ := hfit
    unfold spreadCells
    split
    next heq =>
      subst heq
      exact length_pieces_flatMap _ _ _ (fun ys hy => length_spreadCells s t ys hrest hy) _ _
        (by simpa using h)
    next hne =>
      have hone : m = 1 := haxis.resolve_left hne
      subst hone
      have hlen := length_spreadCells s t xs hrest (by simpa using h)
      simp [hlen]

namespace Tensor

variable {α β γ : Type}

/-- A shape with leading axes of length one up to a rank. -/
def padShape (rank : Nat) (s : List Nat) : List Nat :=
  List.replicate (rank - s.length) 1 ++ s

theorem cellCount_append (s t : List Nat) :
    cellCount (s ++ t) = cellCount s * cellCount t := by
  induction s with
  | nil => simp
  | cons n s ih => simp [ih, Nat.mul_assoc]

theorem cellCount_replicate_one (n : Nat) : cellCount (List.replicate n 1) = 1 := by
  induction n with
  | zero => rfl
  | succ n ih => simp [List.replicate_succ, ih]

theorem cellCount_padShape (rank : Nat) (s : List Nat) :
    cellCount (padShape rank s) = cellCount s := by
  simp [padShape, cellCount_append, cellCount_replicate_one]

/-- Cells of every entry of a tensor, laid out along further axes. -/
def spreadOut (t : Tensor α) (shape : List Nat) (f : α → List β)
    (h : ∀ a, (f a).length = cellCount shape) : Tensor β :=
  ⟨t.shape ++ shape, t.cells.flatMap f, by
    rw [cellCount_append, ← t.length_cells]
    induction t.cells with
    | nil => simp
    | cons a cells ih => simp [ih, h, Nat.succ_mul, Nat.add_comm]⟩

/-- A tensor repeated to a shape. -/
def spread? (t : Tensor α) (shape : List Nat) : Option (Tensor α) :=
  let padded := padShape shape.length t.shape
  if h : fitsInto padded shape = true then
    some ⟨shape, spreadCells padded shape t.cells,
      length_spreadCells _ _ _ h (by rw [cellCount_padShape]; exact t.length_cells)⟩
  else none

/-- Two tensors of one shape, cell by cell. -/
def zipWith (f : α → β → γ) (a : Tensor α) (b : Tensor β) (h : a.shape = b.shape) : Tensor γ :=
  ⟨a.shape, List.zipWith f a.cells b.cells, by
    simp [List.length_zipWith, a.length_cells, b.length_cells, h]⟩

/-- Two tensors combined cell by cell over their common shape. -/
def map₂? (f : α → β → γ) (a : Tensor α) (b : Tensor β) : Option (Tensor γ) :=
  if h : a.shape = b.shape then some (zipWith f a b h)
  else
    (joinShape a.shape b.shape).bind fun shape =>
      (a.spread? shape).bind fun a' =>
        (b.spread? shape).bind fun b' =>
          if h : a'.shape = b'.shape then some (zipWith f a' b' h) else none

/-- Three tensors combined cell by cell. -/
def map₃? {δ : Type} (f : α → β → γ → δ) (a : Tensor α) (b : Tensor β) (c : Tensor γ) :
    Option (Tensor δ) :=
  (map₂? Prod.mk a b).bind fun ab => map₂? (fun p => f p.1 p.2) ab c

/-- Tensors of one shape are combined without repetition. -/
theorem map₂?_of_shape_eq (f : α → β → γ) (a : Tensor α) (b : Tensor β)
    (h : a.shape = b.shape) : map₂? f a b = some (zipWith f a b h) := by
  simp [map₂?, h]

/-- The target of an assignment may lack leading axes of length one. -/
def stripLeadingOnes (rank : Nat) : List Nat → List Nat
  | 1 :: s => if rank ≤ s.length then stripLeadingOnes rank s else 1 :: s
  | s => s

theorem cellCount_stripLeadingOnes (rank : Nat) (s : List Nat) :
    cellCount (stripLeadingOnes rank s) = cellCount s := by
  fun_induction stripLeadingOnes rank s with
  | case1 s h ih => simpa using ih
  | case2 => rfl
  | case3 => rfl

/-- The cells that an assignment of `t` to a target of the given shape stores. -/
def assignTo? (t : Tensor α) (shape : List Nat) : Option (Tensor α) :=
  let stripped : Tensor α :=
    ⟨stripLeadingOnes shape.length t.shape, t.cells, by
      rw [cellCount_stripLeadingOnes]; exact t.length_cells⟩
  stripped.spread? shape

end Tensor

end MeshlessGas
