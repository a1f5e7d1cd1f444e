/-
Field access — reading fields out of particles and storing them back.

A stored field is a column of the records; a computed one is the result of its converter.
`numbers` gives the rows of all particles, `extract` casts them to the element type of the
field, `rowsOf` and `rowsOne` give out those of a gas and of a single particle, and `assign`
stores rows into a stored field.  Fields to which indices lead, and arrays that are no rows,
go through selections.
-/
import MeshlessGas.Conversion
import MeshlessGas.Field.Rows
import MeshlessGas.Particle.Gas

namespace MeshlessGas

namespace FieldDescriptor

variable {D S : Type} [Transcendental D] [Numeral D] [Arithmetic S] [Numeral S] [Narrowing D S]

/-! ## Shapes -/

/-- The shape of the rows of a number of particles. -/
def rowShape (f : FieldDescriptor) (count : Nat) : List Nat := count :: f.shape.shape

/-- Whether the number of elements can be an axis: a real is no length. -/
def hasLength (f : FieldDescriptor) : Bool := f.shape = .scalar ∨ f.spelling ≠ .real

/-- An array in a shape. -/
def reshaped (f : FieldDescriptor) (shape : List Nat) (values : NumericArray D S) :
    Except Failure (NumericArray D S) :=
  if f.hasLength then Failure.ofOption .badValue (values.reshape? shape) else .error .wrongType

/-- The shape of the rows of an array of particles. -/
def rowShapeWithin (f : FieldDescriptor) (axes : List Nat) : Except Failure (List Nat) :=
  Failure.ofOption .indexOutOfRange (axes.head?.map f.rowShape)

/-- The records of a group of fields, brought into a shape, are no array of numbers. -/
def groupFailure (f : FieldDescriptor) (shape : List Nat) (count : Nat) : Failure :=
  if f.hasLength ∧ cellCount shape ≠ count then .badValue else .wrongType

/-! ## Reading -/

/-- The array at the end of a path. -/
def storedColumn {R L : Type} (layout : Layout R D S L) (f : FieldDescriptor)
    (path : List String) (rs : List R) : Except Failure (NumericArray D S) := do
  match ← layout.tree.follow path with
  | .leaf l => f.reshaped (f.rowShape rs.length) (Layout.column (layout.lens l) rs)
  | .node _ => .error (f.groupFailure (f.rowShape rs.length) rs.length)

/-- The array that some steps lead to.  A group with a single field of one number is an
array of that. -/
def selectedNumbers {R L : Type} (layout : Layout R D S L) (f : FieldDescriptor)
    (axes : List Nat) (rs : List R) : Except Failure (NumericArray D S) := do
  let s ← layout.follow axes rs.length (f.kind.steps.map Selector.ofValue)
  let shape ← f.rowShapeWithin axes
  let read (l : L) : Except Failure (NumericArray D S) := do
    f.reshaped shape (← Layout.readAll (layout.lens l) rs.toArray s.spots)
  match s.target with
  | .leaf l => read l
  | .node [(_, .leaf l)] =>
    if layout.shapeOf l = .scalar then read l
    else throw (f.groupFailure shape s.spots.cells.length)
  | .node _ => throw (f.groupFailure shape s.spots.cells.length)

/-- The rows of an array of particles with any axes. -/
def numbersWithin (f : FieldDescriptor) (context : Option (Context D S)) (g : Gas D S) :
    Except Failure (NumericArray D S) :=
  match f.kind, f.kind.source? with
  | .converted c, _ => do
    let values ← Conversion.convertWith c context g.partTensor g.stateTensor
    f.reshaped (← f.rowShapeWithin g.axes) values
  | _, some .parts => f.selectedNumbers Particle.layout g.axes g.parts
  | _, some .xparts => f.selectedNumbers ExtendedState.layout g.axes g.xparts
  | _, none => .error .notImplemented

/-- The rows of all particles, as they are kept or computed.  Computed fields need a
context. -/
def numbers (f : FieldDescriptor) (context : Option (Context D S)) (parts : List (Particle D S))
    (xparts : List (ExtendedState S)) : Except Failure (NumericArray D S) :=
  match f.kind with
  | .plain => .error .notImplemented
  | .stored path .parts => storedColumn Particle.layout f path parts
  | .stored path .xparts => storedColumn ExtendedState.layout f path xparts
  | .selected .. => f.numbersWithin context { parts, xparts }
  | .converted c => do
    f.reshaped (f.rowShape parts.length)
      (← Conversion.convertWith c context (.vector parts) (.vector xparts))

/-- The rows of all particles in the element type of the field. -/
def extract (f : FieldDescriptor) (context : Option (Context D S)) (parts : List (Particle D S))
    (xparts : List (ExtendedState S)) : Except Failure (NumericArray D S) := do
  return (← f.numbers context parts xparts).cast f.type

/-- The rows of a gas, as they are kept or computed. -/
def numbersOf (f : FieldDescriptor) (context : Option (Context D S)) (g : Gas D S) :
    Except Failure (NumericArray D S) :=
  if g.isRow then f.numbers context g.parts g.xparts else f.numbersWithin context g

/-- The rows of a gas in the format of the field. -/
def rowsOf (f : FieldDescriptor) (context : Option (Context D S)) (g : Gas D S) :
    Except Failure (FieldRows D S) := do
  f.format.rows f.type (← f.numbersOf context g)

/-- The numbers of particles that count as one, for a computed field. The number of elements
must be an integer. -/
def numbersOne (f : FieldDescriptor) (context : Option (Context D S)) (p : Tensor (Particle D S))
    (xp : Tensor (ExtendedState S)) : Except Failure (NumericArray D S) :=
  match f.kind with
  | .converted c => do
    let values ← Conversion.convertWith c context p xp
    if f.spelling ≠ .whole then throw .wrongType
    f.reshaped [f.shape.dimension] values
  | _ => .error .noSuchAttribute

/-- What a computed field gives out for particles that count as one. -/
def rowsOne (f : FieldDescriptor) (context : Option (Context D S)) (p : Tensor (Particle D S))
    (xp : Tensor (ExtendedState S)) : Except Failure (FieldRows D S) := do
  f.format.rows f.type (← f.numbersOne context p xp)

/-! ## Storing -/

/-- Stores rows at the end of a path.  The path up to its last name is followed before
the rows are brought into shape, and the last name after it. -/
def assignPath {R L : Type} (layout : Layout R D S L) (f : FieldDescriptor)
    (path : List String) (values : NumericArray D S) (rs : List R) :
    Except Failure (List R) := do
  let _ ← layout.tree.follow path.dropLast
  let rows ← f.reshaped (f.rowShape rs.length) values
  if path.isEmpty then throw .indexOutOfRange
  layout.assignAt path rows.cells rs

/-- Stores an array into what is selected. -/
def assignSelection {R L : Type} (layout : Layout R D S L) (s : Selection L)
    (values : Tensor (Cell D S)) (rs : List R) : Except Failure (List R) := do
  if s.spots.shape.isEmpty then throw .badValue
  let filled ← Failure.ofOption .badValue (values.assignTo? s.spots.shape)
  match s.target with
  | .leaf l => return Layout.writeAll (layout.lens l) s.spots.cells filled.cells rs
  | target =>
    let fill := Layout.fill (target.leaves.map layout.lens)
    return ((s.spots.cells.zip filled.cells).foldl
      (fun records x => records.modify x.1.record (fill x.2)) rs.toArray).toList

/-- Stores rows where some steps lead.  What is stored into copies is lost, unless the last
step makes them. -/
def assignSelected {R L : Type} (layout : Layout R D S L) (f : FieldDescriptor)
    (axes : List Nat) (values : NumericArray D S) (rs : List R) : Except Failure (List R) := do
  let steps := f.kind.steps.map Selector.ofValue
  let around ← layout.follow axes rs.length steps.dropLast
  let rows ← f.reshaped (← f.rowShapeWithin axes) values
  let last ← Failure.ofOption .indexOutOfRange steps.getLast?
  if around.isNumber then throw .wrongType
  let s ← around.select layout.shapeOf last
  let changed ← assignSelection layout s rows.cells rs
  return if around.isView then changed else rs

/-- Stores rows into an array of particles with any axes. -/
def assignWithin (f : FieldDescriptor) (g : Gas D S) (values : NumericArray D S) :
    Except Failure (Gas D S) := do
  match f.kind.source? with
  | some .parts =>
    return { g with parts := ← f.assignSelected Particle.layout g.axes values g.parts }
  | some .xparts =>
    return { g with xparts := ← f.assignSelected ExtendedState.layout g.axes values g.xparts }
  | none => throw (.fieldNotReadable f.name)

/-- Stores rows into the particles; computed fields cannot be stored. -/
def assign (f : FieldDescriptor) (parts : List (Particle D S)) (xparts : List (ExtendedState S))
    (values : NumericArray D S) :
    Except Failure (List (Particle D S) × List (ExtendedState S)) :=
  match f.kind with
  | .stored path .parts => do
    return (← assignPath Particle.layout f path values parts, xparts)
  | .stored path .xparts => do
    return (parts, ← assignPath ExtendedState.layout f path values xparts)
  | .selected .. => do
    let g ← f.assignWithin { parts, xparts } values
    return (g.parts, g.xparts)
  | _ => .error (.fieldNotReadable f.name)

/-- Stores rows into a gas. -/
def assignTo (f : FieldDescriptor) (g : Gas D S) (values : NumericArray D S) :
    Except Failure (Gas D S) := do
  if g.isRow then
    let (parts, xparts) ← f.assign g.parts g.xparts values
    return { g with parts, xparts }
  else f.assignWithin g values

/-- The element type of the records' field that the field is stored in, or doubles. -/
def targetType (f : FieldDescriptor) (g : Gas D S) : ElementType :=
  let leafType {R L : Type} (layout : Layout R D S L) (count : Nat) : ElementType :=
    match layout.follow g.axes count (f.kind.steps.map Selector.ofValue) with
    | .ok { target := .leaf l, .. } => (layout.lens l).type
    | _ => .float64
  match f.kind.source? with
  | some .parts => leafType (Particle.layout : Layout (Particle D S) D S _) g.parts.length
  | some .xparts =>
    leafType (ExtendedState.layout : Layout (ExtendedState S) D S _) g.xparts.length
  | none => .float64

/-- Stores an array that has no element type yet.  It must fit before its items are
looked at. -/
def assignValue (f : FieldDescriptor) (g : Gas D S) (v : Value D) : Except Failure (Gas D S) := do
  let items ← v.tensor maxRank
  let content := Content.ofItems items.cells
  let type := match content with
    | .numbers t => t
    | _ => f.targetType g
  let _ ← f.assignTo g ⟨type, items.map fun _ => .whole 0⟩
  f.assignTo g ⟨type, ← items.mapM (content.store type)⟩

end FieldDescriptor

end MeshlessGas
