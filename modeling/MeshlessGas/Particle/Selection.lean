/-
Selections — parts of an array of records, found step by step.

A selection starts with all records of an array.  A name leads into a field, an index to a
row, and a mask or a list of indices to copies of some rows; nothing adds an axis.  What is
selected keeps the spots at which its entries lie in the records, so that reading and
storing go through the same selection.
-/
import MeshlessGas.Element.Storing
import MeshlessGas.Particle.Layout

namespace MeshlessGas

/-- A step of a selection. -/
inductive Selector where
  | name (s : String)
  | names (xs : List String)
  | index (n : Int)
  | axis
  /-- Copies of the rows at some indices. -/
  | rows (indices : Tensor Int)
  /-- Copies of the entries that are marked. -/
  | mask (marks : Tensor Bool)
  | refused (e : Failure)

namespace Selector

/-- Whether the step makes copies. -/
def isCopy : Selector → Bool
  | rows _ | mask _ => true
  | _ => false

variable {D : Type} [Arithmetic D] [Numeral D]

/-- The truth value of a value. -/
def boolOf? : Value D → Option Bool
  | .bool b => some b
  | _ => none

/-- The index of a value, where truth values count as zero and one. -/
def indexOf? : Value D → Option Int
  | .int n => some n
  | .bool b => some (if b then 1 else 0)
  | _ => none

/-- All cells of a tensor through a partial function. -/
def allOf? {α : Type} (f : Value D → Option α) (t : Tensor (Value D)) : Option (Tensor α) :=
  (t.mapM fun v => Failure.ofOption .indexOutOfRange (f v)).toOption

/-- The step that a list of values stands for: names, a mask, or indices.  Nothing stands for
no rows. -/
def ofTensor (t : Tensor (Value D)) : Selector :=
  if t.cells.isEmpty then rows (t.map fun _ => 0)
  else
    match allOf? Value.text? t with
    | some found =>
      if found.shape.length = 1 then names found.cells else refused .indexOutOfRange
    | none =>
      match allOf? boolOf? t, allOf? indexOf? t with
      | some marks, _ => mask marks
      | none, some indices => rows indices
      | none, none => refused .indexOutOfRange

/-- The step that a value stands for. -/
def ofValue (v : Value D) : Selector :=
  match v with
  | .none => axis
  | .bool b => mask (.scalar b)
  | .int n => index n
  | .text s => name s
  | .real _ | .dict _ => refused .indexOutOfRange
  | .list _ =>
    match v.tensor maxRank with
    | .error e => refused e
    | .ok t => ofTensor t

end Selector

/-- Where an entry lies: its record, and its component there. -/
structure Spot where
  record : Nat
  component : Nat := 0
deriving DecidableEq, Repr

/-- A part of an array of records. -/
structure Selection (L : Type) where
  /-- What every entry is. -/
  target : FieldTree L
  spots : Tensor Spot
  /-- Whether the records themselves are selected; otherwise it is copies of them. -/
  isView : Bool := true
  /-- Whether it is one record, or one number, that was taken out of its array. -/
  isSingle : Bool := false

namespace Selection

variable {L : Type}

/-- All records of an array with some axes. -/
def all? (tree : FieldTree L) (axes : List Nat) (count : Nat) : Option (Selection L) :=
  ((Tensor.vector ((List.range count).map fun i => ⟨i, 0⟩)).reshape? axes).map fun spots =>
    { target := tree, spots }

/-- The spots of the components of a leaf. -/
def components (shape : FieldShape) (s : Spot) : List Spot :=
  (List.range (cellCount shape.shape)).map fun i => ⟨s.record, i⟩

theorem length_components (shape : FieldShape) (s : Spot) :
    (components shape s).length = cellCount shape.shape := by
  simp [components]

/-- A field of every entry.  A number that is taken out of a single record is a copy. -/
def enter (shapeOf : L → FieldShape) (s : Selection L) (field : FieldTree L) : Selection L :=
  match field with
  | .node _ => { s with target := field }
  | .leaf l =>
    let shape := shapeOf l
    let spots := s.spots.spreadOut shape.shape (components shape) (length_components shape)
    let isSingle := s.isSingle && spots.shape.isEmpty
    { target := field, spots, isSingle, isView := s.isView && !isSingle }

/-- Some rows, laid out along axes of their own before those of a row. -/
def pick (s : Selection L) (count : Nat) (row : List Nat) (axes : List Nat) (kept : List Nat) :
    Except Failure (Selection L) := do
  let rows := (pieces count (cellCount row) s.spots.cells).toArray
  let cells := kept.flatMap fun i => (rows[i]?).getD []
  let spots ← Failure.ofOption .indexOutOfRange ((Tensor.vector cells).reshape? (axes ++ row))
  return { s with spots, isSingle := false }

/-- The row at an index.  A number that is taken out of its array is a copy. -/
def row (s : Selection L) (n : Int) : Except Failure (Selection L) := do
  match s.spots.shape with
  | [] => throw .indexOutOfRange
  | count :: inner =>
    let picked ← s.pick count inner [] [← Layout.position count n]
    let isLeaf : Bool := match s.target with
      | .leaf _ => true
      | .node _ => false
    let isSingle := inner.isEmpty
    return { picked with isSingle, isView := s.isView && !(isSingle && isLeaf) }

/-- The entries that a mask marks, which has the first axes of what it is laid on. -/
def masked (s : Selection L) (marks : Tensor Bool) : Except Failure (Selection L) := do
  let rank := marks.shape.length
  if s.spots.shape.take rank ≠ marks.shape then throw .indexOutOfRange
  let kept := (List.range marks.cells.length).filter fun i => marks.cells[i]?.getD false
  let picked ← s.pick marks.cells.length (s.spots.shape.drop rank) [kept.length] kept
  return { picked with isView := false }

/-- A step from a single record: to a field by its name or its position. -/
def selectWithin (shapeOf : L → FieldShape) (s : Selection L)
    (fields : List (String × FieldTree L)) : Selector → Except Failure (Selection L)
  | .name name => do return s.enter shapeOf (← s.target.follow [name])
  | .index n => do
    let i ← Layout.position fields.length n
    return s.enter shapeOf (← Failure.ofOption .indexOutOfRange fields[i]?).2
  | .axis | .names _ | .rows _ | .mask _ | .refused _ => .error .indexOutOfRange

/-- Fields of some names side by side; no name may come twice. -/
def among (s : Selection L) (names : List String) : Except Failure (Selection L) := do
  match s.target with
  | .leaf _ => throw .indexOutOfRange
  | .node fields =>
    let kept ← names.mapM fun name =>
      Failure.ofOption .noSuchKey (fields.find? fun f => f.1 = name)
    if names.Nodup then return { s with target := .node kept } else throw .badValue

/-- A step from an array, or from a single number. -/
def selectFrom (shapeOf : L → FieldShape) (s : Selection L) :
    Selector → Except Failure (Selection L)
  | .refused e => .error e
  | .axis => do return { ← s.pick 1 s.spots.shape [1] [0] with isView := s.isView }
  | .mask marks => s.masked marks
  | .rows indices => do
    match s.spots.shape with
    | [] => throw .indexOutOfRange
    | count :: inner =>
      let kept ← indices.mapM (Layout.position count)
      return { ← s.pick count inner indices.shape kept.cells with isView := false }
  | .index n => s.row n
  | .name name => do return s.enter shapeOf (← s.target.follow [name])
  | .names names => s.among names

/-- One more step. -/
def select (shapeOf : L → FieldShape) (s : Selection L) (step : Selector) :
    Except Failure (Selection L) :=
  match s.isSingle, s.target with
  | true, .node fields => s.selectWithin shapeOf fields step
  | _, _ => s.selectFrom shapeOf step

/-- Whether it is a number that was taken out of its array: nothing can be stored into it. -/
def isNumber (s : Selection L) : Bool :=
  match s.target with
  | .leaf _ => s.isSingle
  | .node _ => false

end Selection

namespace Layout

variable {R D S L : Type} [Arithmetic D] [Arithmetic S] [Narrowing D S]

/-- The shape of a leaf of a record. -/
def shapeOf (layout : Layout R D S L) (l : L) : FieldShape := (layout.lens l).shape

/-- What some steps lead to in an array of records with some axes. -/
def follow (layout : Layout R D S L) (axes : List Nat) (count : Nat) (steps : List Selector) :
    Except Failure (Selection L) := do
  let start ← Failure.ofOption .badValue (Selection.all? layout.tree axes count)
  steps.foldlM (Selection.select layout.shapeOf) start

/-- The number at a spot of a leaf. -/
def read? (l : Lens R D S) (records : Array R) (s : Spot) : Option (Cell D S) :=
  records[s.record]?.bind fun r => (l.get r)[s.component]?

/-- The numbers at some spots of a leaf. -/
def readAll (l : Lens R D S) (records : Array R) (spots : Tensor Spot) :
    Except Failure (NumericArray D S) := do
  return ⟨l.type, ← spots.mapM fun s => Failure.ofOption .indexOutOfRange (read? l records s)⟩

/-- Stores a number at a spot of a leaf. -/
def write (l : Lens R D S) (records : Array R) (s : Spot) (c : Cell D S) : Array R :=
  records.modify s.record fun r => l.put ((l.get r).set s.component c) r

/-- Stores numbers at some spots of a leaf, as many as there are. -/
def writeAll (l : Lens R D S) (spots : List Spot) (cells : List (Cell D S)) (rs : List R) :
    List R :=
  ((spots.zip cells).foldl (fun records x => write l records x.1 x.2) rs.toArray).toList

end Layout

end MeshlessGas
