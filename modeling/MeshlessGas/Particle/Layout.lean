/-
Layouts — the named fields of a record, as trees of leaves.

A record is seen through its leaves: each holds one number or one vector of a fixed
element type, and can be read as cells and stored from cells.  A path of names leads
through the tree to a leaf or to a group of leaves.  A column is one leaf of many
records, as an array.
-/
import MeshlessGas.Element.Storing
import MeshlessGas.Field.Descriptor
import MeshlessGas.Vec3

namespace MeshlessGas

/-- A way to read and store one leaf of a record. -/
structure Lens (R D S : Type) where
  type : ElementType
  shape : FieldShape
  get : R → List (Cell D S)
  put : List (Cell D S) → R → R
  length_get : ∀ r, (get r).length = cellCount shape.shape

namespace Lens

variable {R D S : Type} [Arithmetic D] [Arithmetic S] [Narrowing D S]

/-- A leaf with one single-precision number. -/
def single (get : R → S) (put : S → R → R) : Lens R D S where
  type := .float32
  shape := .scalar
  get r := [.single (get r)]
  put cells r := match cells with
    | [c] => put c.toSingle r
    | _ => r
  length_get _ := rfl

/-- A leaf with a single-precision vector. -/
def singles (get : R → Vec3 S) (put : Vec3 S → R → R) : Lens R D S where
  type := .float32
  shape := .vector
  get r := (get r).toList.map .single
  put cells r := match cells with
    | [x, y, z] => put ⟨x.toSingle, y.toSingle, z.toSingle⟩ r
    | _ => r
  length_get _ := rfl

/-- A leaf with a double-precision vector. -/
def doubles (get : R → Vec3 D) (put : Vec3 D → R → R) : Lens R D S where
  type := .float64
  shape := .vector
  get r := (get r).toList.map .double
  put cells r := match cells with
    | [x, y, z] => put ⟨x.toDouble, y.toDouble, z.toDouble⟩ r
    | _ => r
  length_get _ := rfl

/-- A leaf with one integer. -/
def whole (k : IntegerType) (get : R → Int) (put : Int → R → R) : Lens R D S where
  type := .integer k
  shape := .scalar
  get r := [.whole (get r)]
  put cells r := match cells with
    | [c] => put (c.toWhole k) r
    | _ => r
  length_get _ := rfl

end Lens

/-- The names of a record: leaves, and groups of named fields. -/
inductive FieldTree (L : Type) where
  | leaf (l : L)
  | node (fields : List (String × FieldTree L))

namespace FieldTree

variable {L : Type}

/-- Follows a path of names.  A group without the name refuses it, and a leaf has no
named parts. -/
def follow : FieldTree L → List String → Except Failure (FieldTree L)
  | t, [] => .ok t
  | leaf _, _ :: _ => .error .indexOutOfRange
  | node fields, name :: path =>
    match fields.find? fun f => f.1 = name with
    | some f => follow f.2 path
    | none => .error .badValue

mutual

/-- All leaves from left to right. -/
def leaves : FieldTree L → List L
  | leaf l => [l]
  | node fields => fieldLeaves fields

def fieldLeaves : List (String × FieldTree L) → List L
  | [] => []
  | (_, t) :: rest => leaves t ++ fieldLeaves rest

end

end FieldTree

/-- A record type seen through its leaves. -/
structure Layout (R D S L : Type) where
  tree : FieldTree L
  lens : L → Lens R D S

namespace Layout

/-- Size of a record in bytes. -/
def bytes {R D S L : Type} (layout : Layout R D S L) : Nat :=
  (layout.tree.leaves.map layout.lens).foldl
    (fun n l => n + l.type.bytes * cellCount l.shape.shape) 0

section Column

variable {R D S : Type}

theorem length_flatMap_get (l : Lens R D S) (rs : List R) :
    (rs.flatMap l.get).length = cellCount (rs.length :: l.shape.shape) := by
  induction rs with
  | nil => simp
  | cons r rs ih =>
    rw [List.flatMap_cons, List.length_append, ih, l.length_get]
    simp [Nat.succ_mul, Nat.add_comm]

end Column

variable {R D S L : Type} [Arithmetic D] [Arithmetic S] [Narrowing D S]

/-- One leaf of many records. -/
def column (l : Lens R D S) (rs : List R) : NumericArray D S :=
  ⟨l.type, ⟨rs.length :: l.shape.shape, rs.flatMap l.get, length_flatMap_get l rs⟩⟩

/-- Stores pieces of cells into the leaf of many records. -/
def putPieces (l : Lens R D S) : List (List (Cell D S)) → List R → List R
  | cells :: rest, r :: rs => l.put cells r :: putPieces l rest rs
  | _, rs => rs

/-- Stores an array into the leaf of many records.  The array is repeated to the
shape of the column, or refused when it does not fit. -/
def assignColumn (l : Lens R D S) (values : Tensor (Cell D S)) (rs : List R) :
    Except Failure (List R) := do
  let shape := rs.length :: l.shape.shape
  let filled ← Failure.ofOption .badValue (values.assignTo? shape)
  return putPieces l (pieces rs.length (cellCount l.shape.shape) filled.cells) rs

/-- The array at the end of a path.  A group of fields is no array of numbers. -/
def columnAt (layout : Layout R D S L) (path : List String) (rs : List R) :
    Except Failure (NumericArray D S) := do
  match ← layout.tree.follow path with
  | .leaf l => return column (layout.lens l) rs
  | .node _ => .error .wrongType

/-- Stores one number into all leaves of a group of fields of a record. -/
def fill (lenses : List (Lens R D S)) (c : Cell D S) (r : R) : R :=
  lenses.foldl (fun r l => l.put (List.replicate (cellCount l.shape.shape) c) r) r

/-- Stores an array with one number for each record into a group of fields. -/
def assignGroup (lenses : List (Lens R D S)) (values : Tensor (Cell D S)) (rs : List R) :
    Except Failure (List R) := do
  let filled ← Failure.ofOption .badValue (values.assignTo? [rs.length])
  return List.zipWith (fill lenses) filled.cells rs

/-- Stores an array at the end of a path; into a group of fields every number is stored
in all of them. -/
def assignAt (layout : Layout R D S L) (path : List String) (values : Tensor (Cell D S))
    (rs : List R) : Except Failure (List R) := do
  match ← layout.tree.follow path with
  | .leaf l => assignColumn (layout.lens l) values rs
  | target => assignGroup (target.leaves.map layout.lens) values rs

/-- The index that a whole number stands for: negative ones count from the end. -/
def position (count : Nat) (index : Int) : Except Failure Nat :=
  if 0 ≤ index ∧ index < count then .ok index.toNat
  else if index < 0 ∧ 0 ≤ index + count then .ok (index + count).toNat
  else .error .indexOutOfRange

/-- Most bytes that an array may take. -/
def maxBytes : Nat := pow2 63 - 1

/-- An array of equal records with some axes, of which there are not too many.  No axis has a
negative length, and the records must fit into an array; axes of length zero do not count
for that. -/
def allocate (layout : Layout R D S L) (axes : List Int) (r : R) : Except Failure (List R) :=
  let lengths := axes.map Int.toNat
  if (axes.any fun n => n < 0) ∨ maxRank < axes.length ∨
      maxBytes < cellCount (lengths.filter (· ≠ 0)) * layout.bytes then .error .badValue
  else .ok (List.replicate (cellCount lengths) r)

end Layout

end MeshlessGas
