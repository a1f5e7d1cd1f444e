/-
Storing values — options put into the fields of records.

A value is stored at the end of some steps through an array of records.  Lists must not be
nested deeper than the array that they are stored in.  A list of the same shape is stored
number by number, and what was stored before a failure stays; anything else is converted
as a whole first and then repeated to the shape of the array.  What is stored into copies
is lost, unless the last step makes them.
-/
import MeshlessGas.Particle.Selection

namespace MeshlessGas

/-- What came of storing, and the records afterwards. -/
abbrev Stored (R : Type) := Except Failure Unit × List R

namespace Layout

variable {R D S L : Type} [Arithmetic D] [Numeral D] [Arithmetic S] [Narrowing D S]

/-- The cells stored for values up to the first one that fails. -/
def storeUpTo (t : ElementType) : List (Value D) → Except Failure Unit × List (Cell D S)
  | [] => (.ok (), [])
  | v :: vs =>
    match v.store t with
    | .error e => (.error e, [])
    | .ok c =>
      let (result, cells) := storeUpTo t vs
      (result, c :: cells)

/-- Stores a value at spots of a leaf.  At once, lists may be nested deeper, and nothing is
stored when a number fails. -/
def setLeaf (l : Lens R D S) (atOnce : Bool) (spots : Tensor Spot) (v : Value D) (rs : List R) :
    Stored R :=
  match v.tensor (if atOnce then maxRank else spots.shape.length) with
  | .error e => (.error e, rs)
  | .ok t =>
    if t.shape = spots.shape ∧ ¬ atOnce then
      let (result, cells) := storeUpTo l.type t.cells
      (result, writeAll l spots.cells cells rs)
    else
      let repeated : Except Failure (Tensor (Cell D S)) := do
        Failure.ofOption .badValue ((← t.mapM (Value.store l.type)).assignTo? spots.shape)
      match repeated with
      | .error e => (.error e, rs)
      | .ok filled => (.ok (), writeAll l spots.cells filled.cells rs)

/-- Stores a value into leaves of a record, one after the other. -/
def setAll (v : Value D) : List (Lens R D S) → R → Except Failure Unit × R
  | [], r => (.ok (), r)
  | l :: lenses, r =>
    match (v.store l.type : Except Failure (Cell D S)) with
    | .error e => (.error e, r)
    | .ok c => setAll v lenses (l.put (List.replicate (cellCount l.shape.shape) c) r)

/-- Stores one value for each of some records into leaves of it. -/
def setEach (lenses : List (Lens R D S)) (records : Array R) :
    List (Spot × Value D) → Except Failure Unit × Array R
  | [] => (.ok (), records)
  | (s, v) :: rest =>
    match records[s.record]? with
    | none => setEach lenses records rest
    | some r =>
      match setAll v lenses r with
      | (.error e, r) => (.error e, records.setIfInBounds s.record r)
      | (.ok (), r) => setEach lenses (records.setIfInBounds s.record r) rest

/-- Stores a value into a group of leaves of records. -/
def setGroup (lenses : List (Lens R D S)) (atOnce : Bool) (spots : Tensor Spot) (v : Value D)
    (rs : List R) : Stored R :=
  let each (t : Tensor (Value D)) : Stored R :=
    let (result, records) := setEach lenses rs.toArray (spots.cells.zip t.cells)
    (result, records.toList)
  match v.tensor (if atOnce then maxRank else spots.shape.length) with
  | .error e => (.error e, rs)
  | .ok t =>
    if t.shape = spots.shape ∧ ¬ atOnce then each t
    else
      let repeated : Except Failure (Tensor (Value D)) := do
        t.cells.forM fun v => lenses.forM fun l => do
          let _ ← (v.store l.type : Except Failure (Cell D S))
        Failure.ofOption .badValue (t.assignTo? spots.shape)
      match repeated with
      | .error e => (.error e, rs)
      | .ok filled => each filled

/-- Stores a value into what is selected. -/
def setSelected (layout : Layout R D S L) (atOnce : Bool) (s : Selection L) (v : Value D)
    (rs : List R) : Stored R :=
  match s.target with
  | .leaf l => setLeaf (layout.lens l) atOnce s.spots v rs
  | target => setGroup (target.leaves.map layout.lens) atOnce s.spots v rs

/-- Stores a value into the records of an array with some axes: at the end of a path, which
must not be empty, behind some first steps. -/
def setWith (layout : Layout R D S L) (axes : List Nat) (first path : List Selector)
    (v : Value D) (rs : List R) : Stored R :=
  let found : Except Failure (Selection L × Selection L × Selector) := do
    let around ← layout.follow axes rs.length (first ++ path.dropLast)
    let last ← Failure.ofOption .indexOutOfRange path.getLast?
    if around.isNumber then throw .wrongType
    return (around, ← around.select layout.shapeOf last, last)
  match found with
  | .error e => (.error e, rs)
  | .ok (around, selected, last) =>
    let (result, changed) := layout.setSelected last.isCopy selected v rs
    (result, if around.isView then changed else rs)

end Layout

end MeshlessGas
