/-
Particles of a workspace — the steps that work in memory.

Particles are allocated, set, looked at, coupled, initialised, and converted in a context.
What a step needs and does not find makes it fail as looking into nothing does.
-/
import MeshlessGas.Field.Registry
import MeshlessGas.Workspace.Basic

namespace MeshlessGas

/-- The arrays of records of a workspace. -/
inductive RecordKind where
  | parts
  | xparts
  | gparts
deriving DecidableEq, Repr

namespace RecordKind

def all : List RecordKind := [parts, xparts, gparts]

def name : RecordKind → String
  | parts => "parts"
  | xparts => "xparts"
  | gparts => "gparts"

/-- The array that a value names. -/
def ofValue {D : Type} (v : Value D) : Except Failure RecordKind :=
  if v.isKey then
    Failure.ofOption .noSuchKey (all.find? fun k => v.text? = some k.name)
  else .error .wrongType

end RecordKind

namespace Workspace

variable {D S : Type} [Transcendental D] [Numeral D] [Arithmetic S] [Numeral S] [Narrowing D S]

/-! ## Arrays of records -/

/-- Number of rows as a length: an array without axes has none. -/
def lengthOf (axes : List Nat) : Except Failure Nat := Failure.ofOption .wrongType axes.head?

/-- Puts particles at rest into the workspace; gives their number. -/
def allocate (axes : List Int) : Work D S Nat := do
  let gas : Gas D S ← Gas.allocate axes
  setGas gas
  lengthOf gas.axes

/-- Puts an array of gravity particles into the workspace; gives their number. -/
def allocateGravity (axes : List Int) : Work D S Nat := do
  let records ← (GravityParticle.layout : Layout _ D S _).allocate axes .zero
  let axes := axes.map Int.toNat
  modify fun w => { w with arrays := w.arrays ++ [{ records, axes }], gravity := w.arrays.length }
  lengthOf axes

/-- Stores a value at the end of a path behind some first steps. -/
def setValue (kind : RecordKind) (first path : List Selector) (v : Value D) : Work D S Unit := do
  match kind with
  | .parts =>
    let g ← theGas
    let (result, parts) := Particle.layout.setWith g.axes first path v g.parts
    setGas { g with parts }
    result
  | .xparts =>
    let g ← theGas
    let (result, xparts) := ExtendedState.layout.setWith g.axes first path v g.xparts
    setGas { g with xparts }
    result
  | .gparts =>
    let array ← gravityOr .wrongType
    let (result, records) := GravityParticle.layout.setWith array.axes first path v array.records
    setGravity { array with records }
    result

/-- What some steps lead to in an array of records. -/
def view (kind : RecordKind) (steps : List Selector) : Work D S (Tensor (RecordView D S)) := do
  match kind with
  | .parts => do
    let g ← theGas
    Particle.layout.view g.axes g.parts steps
  | .xparts => do
    let g ← theGas
    ExtendedState.layout.view g.axes g.xparts steps
  | .gparts => do
    let array ← gravityOr .wrongType
    GravityParticle.layout.view array.axes array.records steps

/-- What the fields on a path of names hold in all records. -/
def viewPath (kind : RecordKind) (path : List String) : Work D S (Tensor (RecordView D S)) :=
  view kind (path.map .name)

/-! ## Coupling and initialising -/

/-- Couples the gravity particles to the gas particles. -/
def link : Work D S Unit := do
  let g ← gasOr .noSuchAttribute
  let _ ← g.rowCount
  let array ← gravityOr .noSuchAttribute
  let (result, g, array) := Gravity.couple g array
  setGas g
  setGravity array
  result

/-- The first initialisation of the gas particles. -/
def firstInit (gamma : Except Failure D) (conservedIsTotal : Bool) : Work D S Unit := do
  let g ← theGas
  let (result, g) := g.initialise gamma conservedIsTotal
  setGas g
  result

/-! ## Contexts -/

/-- Makes a context, with the gravity particles or without them; gives it and the number of
its gravity particles. -/
def enter (make : Option (List (GravityParticle D S)) → Except Failure (Context D S))
    (withGravity : Bool) : Work D S (Context D S × Option Nat) := do
  let w ← get
  let i := if withGravity then w.gravity else none
  let array ← array? i
  let c ← make (array.map RecordArray.records)
  modify fun w => { w with context := some (c, i) }
  return (c, ← array.mapM fun a => lengthOf a.axes)

/-- What a field fails with while there are no particles. -/
def lacking (k : FieldKind) (context : Option (Context D S)) : Failure :=
  match k with
  | .plain => .notImplemented
  | .stored [] _ => .noSuchAttribute
  | .converted c =>
    if context.isNone ∧ c ∈ [.internalEnergy, .entropy, .potential] then .noSuchAttribute
    else .wrongType
  | _ => .wrongType

/-- What a field gives out. -/
def extract (f : FieldDescriptor) : Work D S (FieldRows D S) := do
  let context ← context?
  f.rowsOf context (← gasOr (lacking f.kind context))

/-- What the fields of a snapshot give out. -/
def extractAll : Work D S (List (String × FieldRows D S)) :=
  FieldDescriptor.writeRegistry.mapM fun f => do return (f.name, ← extract f)

/-- What a converter computes, for all particles or for some of them. -/
def convert (c : Converter) (index : Option Selector) : Work D S (NumericArray D S) := do
  let context ← context?
  match index with
  | none =>
    let g ← gasOr (lacking (.converted c) context)
    Conversion.convertWith c context g.partTensor g.stateTensor
  | some i =>
    let (p, xp) ← (← theGas).select [i]
    Conversion.convertWith c context p xp

/-- What a computed field gives out for particles that count as one. -/
def extractOne (f : FieldDescriptor) (index : Selector) : Work D S (FieldRows D S) := do
  match f.kind with
  | .converted _ =>
    let (p, xp) ← (← theGas).select [index]
    f.rowsOne (← context?) p xp
  | _ => throw .noSuchAttribute

/-- Stores a value through a field. -/
def assign (f : FieldDescriptor) (v : Value D) : Work D S Unit := do
  let missing : Failure := match f.kind.source? with
    | none => .fieldNotReadable f.name
    | some _ => if 1 < f.kind.steps.length then .wrongType else .noSuchAttribute
  setGas (← f.assignValue (← gasOr missing) v)

/-- Looks through the gravity particles. -/
def lookup (index : Tensor Tick) (name : Value D) : Work D S (Gravity.Found D S) := do
  let sought ← Gravity.Sought.ofValue name
  Gravity.lookupSought (← gravity?) index sought

/-- The velocities of all particles, drifted with kick factors. -/
def drifted (hydro gravity : Tensor D) : Work D S (NumericArray D S) := do
  let g ← theGas
  let array ← gravity?
  let v ← Conversion.driftedVelocities g.partTensor g.stateTensor hydro gravity
    (array.map RecordArray.records)
  return .singles (Conversion.components v)

end Workspace

end MeshlessGas
