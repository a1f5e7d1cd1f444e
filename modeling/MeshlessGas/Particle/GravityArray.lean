/-
Arrays of gravity particles — coupling and looking through arrays with any axes.

Rows of gas particles are coupled to rows of gravity particles as far as their shapes fit
together, and what was stored before they do not stays.  Looking through an array asks for
a leaf, for the field at a position, or for several fields side by side.
-/
import MeshlessGas.Particle.Gas
import MeshlessGas.Particle.Gravity

namespace MeshlessGas

namespace Gravity

variable {D S : Type}

/-! ## Coupling -/

/-- Couples that are made step by step: what was stored before a failure stays. -/
abbrev Coupling (D S : Type) (α : Type) :=
  ExceptT Failure (StateM (List (Particle D S) × List (GravityParticle D S))) α

/-- The numbers that an assignment of a tensor to a shape stores. -/
def fitted {α : Type} (t : Tensor α) (shape : List Nat) : Except Failure (List α) := do
  return (← Failure.ofOption .badValue (t.assignTo? shape)).cells

/-- Stores one number for each of the first gravity particles. -/
def storeEach {α : Type} (values : List α)
    (put : GravityParticle D S → α → GravityParticle D S) : Coupling D S Unit :=
  modify fun (parts, gparts) =>
    (parts, List.zipWith put gparts values ++ gparts.drop values.length)

/-- Couples the rows of gravity particles to all rows of gas particles. -/
def linkRows (axes gravityAxes : List Nat) : Coupling D S Unit := do
  let count ← Failure.ofOption .indexOutOfRange axes.head?
  let found ← Failure.ofOption .indexOutOfRange gravityAxes.head?
  if found < count then throw (.tooFewGravityParticles count found)
  let rows : Tensor Int64 := .vector ((List.range count).map Int64.ofNat)
  let target := count :: gravityAxes.drop 1
  let indices ← fitted rows axes
  modify fun (parts, gparts) =>
    (List.zipWith (fun p gpart => { p with gpart }) parts indices, gparts)
  storeEach (← fitted (rows.map (- ·)) target) fun g idOrNegOffset => { g with idOrNegOffset }
  let parts := (← get).1
  let array ← Failure.ofOption .badValue ((Tensor.vector parts).reshape? axes)
  let positions := array.spreadOut [3] (fun p => p.x.toList) fun p => p.x.length_toList
  let positions ← fitted positions (target ++ [3])
  storeEach (pieces (cellCount target) 3 positions) fun g x =>
    { g with x := (Vec3.ofList? x).getD g.x }
  storeEach (← fitted (array.map fun p => p.conserved.mass) target) fun g mass => { g with mass }

/-- Couples an array of gravity particles to the particles of a gas. -/
def couple (g : Gas D S) (array : RecordArray (GravityParticle D S)) :
    Except Failure Unit × Gas D S × RecordArray (GravityParticle D S) :=
  let (result, parts, records) :=
    if g.isRow ∧ array.isRow then
      match link g.parts array.records with
      | .error e => (.error e, g.parts, array.records)
      | .ok (parts, records) => (.ok (), parts, records)
    else (linkRows g.axes array.axes).run.run (g.parts, array.records)
  (result, { g with parts }, { array with records })

/-! ## Looking through -/

variable [Arithmetic D] [Arithmetic S] [Narrowing D S]

/-- What is looked up: a leaf, the field at a position, or several fields side by side. -/
inductive Sought where
  | leaf (l : GravityLeaf)
  | position (n : Int)
  | names (tree : FieldTree GravityLeaf)

/-- What was found: numbers, or records of zeros with some fields. -/
inductive Found (D S : Type) where
  | numbers (a : NumericArray D S)
  | zeros (tree : FieldTree GravityLeaf) (shape : List Nat)

/-- The leaves of a gravity particle in their order. -/
def leaves : List GravityLeaf := GravityLeaf.tree.leaves

/-- The leaf at a position; negative ones count from the end. -/
def leafAt (n : Int) : Except Failure GravityLeaf := do
  let i ← Layout.position leaves.length n
  Failure.ofOption .indexOutOfRange leaves[i]?

/-- What a value asks for. -/
def Sought.ofValue {V : Type} : Value V → Except Failure Sought
  | .text name => do return .leaf (← GravityLeaf.ofName name)
  | .int n => do
    let _ ← leafAt n
    return .position n
  | .list xs => do
    let names ← xs.mapM fun v => Failure.ofOption .wrongType (Value.text? v)
    match GravityLeaf.tree with
    | .leaf _ => throw .noSuchKey
    | .node fields =>
      let kept ← names.mapM fun name =>
        Failure.ofOption .noSuchKey (fields.find? fun f => f.1 = name)
      if names.Nodup then return .names (.node kept) else throw .badValue
  | _ => .error .wrongType

/-- How a leaf is read. -/
def lensOf (l : GravityLeaf) : Lens (GravityParticle D S) D S :=
  (GravityParticle.layout : Layout (GravityParticle D S) D S GravityLeaf).lens l

/-- Numbers where a mask of leading axes marks them, and zeros elsewhere, in an element
type. -/
def whereMarked (t : ElementType) (marks : Tensor Bool) (subshape : List Nat)
    (values : Tensor (Cell D S)) : Except Failure (NumericArray D S) := do
  let marks ← Failure.ofOption .badValue
    (marks.reshape? (marks.shape ++ List.replicate subshape.length 1))
  let kept ← Failure.ofOption .badValue
    (Tensor.map₂? (fun marked c => if marked then c else .whole 0) marks values)
  return ⟨t, kept.map (Cell.cast t)⟩

/-- A leaf of the rows of an array behind many indices. -/
def lookupRows (array : RecordArray (GravityParticle D S)) (index : Tensor Tick)
    (leaf : GravityLeaf) : Except Failure (NumericArray D S) := do
  let lens := lensOf leaf
  let count ← array.rowCount
  let row := array.axes.drop 1
  let rows := (pieces count (cellCount row) array.records).toArray
  let found ← index.mapM fun i => do
    let i := if i < 0 then 0 else i.toInt
    Failure.ofOption .indexOutOfRange rows[← Layout.position count i]?
  let cells := found.cells.flatMap fun rs => rs.flatMap lens.get
  let values ← Failure.ofOption .badValue
    ((Tensor.vector cells).reshape? (index.shape ++ row ++ lens.shape.shape))
  whereMarked lens.type (index.map (0 ≤ ·)) lens.shape.shape values

/-- A field of the record at a position behind one index, which is a position among its
fields. -/
def lookupWithin (array : RecordArray (GravityParticle D S)) (index : Tensor Tick) (n : Int) :
    Except Failure (NumericArray D S) := do
  let target := lensOf (D := D) (S := S) (← leafAt n)
  if array.axes.length ≠ 1 then throw .badValue
  let r ← Failure.ofOption .indexOutOfRange
    array.records[← Layout.position array.records.length n]?
  let i ← match index.shape, index.cells with
    | [], [i] => pure i
    | _, _ => throw .indexOutOfRange
  let lens := lensOf (← leafAt (if i < 0 then 0 else i.toInt))
  let values ← Failure.ofOption .badValue ((Tensor.vector (lens.get r)).reshape? lens.shape.shape)
  whereMarked target.type (index.map (0 ≤ ·)) target.shape.shape values

/-- What is sought behind many indices.  Without gravity particles all is zero. -/
def lookupSought (array : Option (RecordArray (GravityParticle D S))) (index : Tensor Tick)
    (sought : Sought) : Except Failure (Found D S) := do
  let isEmpty ← match array with
    | none => pure true
    | some a => do pure ((← a.rowCount) = 0)
  let zeros (l : GravityLeaf) : Found D S :=
    let lens := lensOf (D := D) (S := S) l
    .numbers ⟨lens.type,
      (Tensor.filled (index.shape ++ lens.shape.shape) (.whole 0)).map (Cell.cast lens.type)⟩
  match sought, if isEmpty then none else array with
  | .leaf l, none => return zeros l
  | .position n, none => return zeros (← leafAt n)
  | .names tree, none => return .zeros tree index.shape
  | .leaf l, some a =>
    return .numbers (← if a.isRow then lookup a.records index l else lookupRows a index l)
  | .position n, some a => return .numbers (← lookupWithin a index n)
  | .names _, some _ => throw .noCommonType

end Gravity

end MeshlessGas
