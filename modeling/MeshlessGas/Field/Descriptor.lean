/-
Field descriptors — what a dataset of particles holds.

A descriptor names a dataset and gives its element type, its shape for one
particle, its unit tag, and where the numbers come from: a field of the particle
records, a converter, or nowhere.  Descriptors are made by `FieldDescriptor.ofOptions`,
which checks the options in a fixed order.
-/
import MeshlessGas.Field.Format
import MeshlessGas.Parameters.Options
import MeshlessGas.Text.Reserved
import MeshlessGas.Units.Tag

namespace MeshlessGas

/-- The numbers of one particle: one, or one for each axis. -/
inductive FieldShape where
  | scalar
  | vector
deriving DecidableEq, Repr

namespace FieldShape

/-- Numbers in a particle. -/
def dimension : FieldShape → Nat
  | scalar => 1
  | vector => 3

/-- The shape of one particle's numbers. -/
def shape : FieldShape → List Nat
  | scalar => []
  | vector => [3]

/-- The shape with a given number of numbers. -/
def ofDimension? (n : Int) : Option FieldShape :=
  if n = 1 then some scalar else if n = 3 then some vector else none

end FieldShape

/-- How a number of elements is spelled: as an integer, as a real, or as a truth value. -/
inductive Spelling where
  | whole
  | real
  | truth
deriving DecidableEq, Repr

namespace Spelling

/-- A number of elements in words. -/
def text (spelling : Spelling) (n : Nat) : String :=
  match spelling with
  | whole => toString n
  | real => toString n ++ ".0"
  | truth => if n = 0 then "False" else "True"

/-- A number of elements and its spelling. -/
def ofValue? {D : Type} [Arithmetic D] [Numeral D] (v : Value D) : Option (FieldShape × Spelling) :=
  match v with
  | .int n => (FieldShape.ofDimension? n).map (·, whole)
  | .bool b => if b then some (.scalar, truth) else none
  | .real x =>
    if Arithmetic.agree x 1.0 then some (.scalar, real)
    else if Arithmetic.agree x 3.0 then some (.vector, real)
    else none
  | _ => none

end Spelling

/-- Whether a field must be present when it is read. -/
inductive Importance where
  | compulsory
  | optional
deriving DecidableEq, Repr

namespace Importance

def name : Importance → String
  | compulsory => "compulsory"
  | optional => "optional"

def ofName? (s : String) : Option Importance :=
  [compulsory, optional].find? fun i => i.name = s

/-- The importance that a value names. -/
def ofValue? {D : Type} : Value D → Option Importance
  | .text s => ofName? s
  | _ => none

end Importance

/-- The array of records that a stored field belongs to. -/
inductive RecordSource where
  | parts
  | xparts
deriving DecidableEq, Repr

namespace RecordSource

def name : RecordSource → String
  | parts => "parts"
  | xparts => "xparts"

def ofName? (s : String) : Option RecordSource := [parts, xparts].find? fun r => r.name = s

/-- The array that a value names. -/
def ofValue? {D : Type} : Value D → Option RecordSource
  | .text s => ofName? s
  | _ => none

end RecordSource

/-- A quantity computed from the state of a particle. -/
inductive Converter where
  | internalEnergy
  | entropy
  | totalEnergy
  | position
  | velocity
  | potential
  /-- Another function: it does not take a particle. -/
  | other (name : String)
deriving DecidableEq, Repr

namespace Converter

/-- The converters of particles. -/
def all : List Converter := [internalEnergy, entropy, totalEnergy, position, velocity, potential]

def name : Converter → String
  | internalEnergy => "convert_u"
  | entropy => "convert_A"
  | totalEnergy => "convert_Etot"
  | position => "convert_part_pos"
  | velocity => "convert_part_vel"
  | potential => "convert_part_potential"
  | other name => name

/-- Names of functions that do not take a particle. -/
def otherNames : List String :=
  ["box_wrap", "kick_factors", "np", "SimulationContext", "hydro_get_comoving_internal_energy",
   "hydro_get_comoving_entropy", "hydro_get_drifted_velocities",
   "gravity_get_comoving_potential", "get_integer_time_begin", "get_integer_time_end"]

def ofName? (s : String) : Option Converter :=
  match all.find? fun c => c.name = s with
  | some c => some c
  | none => if s ∈ otherNames ∨ isOwnName s then some (other s) else none

/-- The function that a value names. -/
def ofValue {D : Type} : Value D → Except Failure Converter
  | .text s => Failure.ofOption .noSuchAttribute (ofName? s)
  | _ => .error .wrongType

end Converter

/-- A value of a description, as it was given. -/
abbrev Literal := Value Float

/-- Where the numbers of a field come from. -/
inductive FieldKind where
  /-- Described only. -/
  | plain
  /-- Copied from and into a field of the records. -/
  | stored (path : List String) (source : RecordSource)
  /-- Copied from and into a part of the records, to which names and indices lead. -/
  | selected (steps : List Literal) (source : RecordSource)
  /-- Computed from the state of the particle. -/
  | converted (converter : Converter)
deriving Repr

namespace FieldKind

/-- The name of the kind in messages. -/
def name : FieldKind → String
  | plain => "FieldDescriptor"
  | stored .. | selected .. => "OffsetField"
  | converted _ => "ConvertedField"

/-- The steps to a copied field. -/
def steps : FieldKind → List Literal
  | stored path _ => path.map .text
  | selected steps _ => steps
  | plain | converted _ => []

/-- The records that a field is copied from. -/
def source? : FieldKind → Option RecordSource
  | stored _ source | selected _ source => some source
  | plain | converted _ => none

/-- Whether numbers come from the same place. -/
def same (k l : FieldKind) : Bool :=
  match k, l with
  | plain, plain => true
  | converted c, converted d => c = d
  | k, l =>
    k.source?.isSome ∧ k.source? = l.source? ∧ k.steps.length = l.steps.length ∧
      (k.steps.zip l.steps).all fun s => Value.sameKey s.1 s.2

end FieldKind

/-- The description of a dataset. -/
structure FieldDescriptor where
  name : String
  /-- The name as it was given, which need not be a text. -/
  label : Literal := .text name
  /-- The element type in which numbers are taken. -/
  type : ElementType
  format : FieldFormat := .plain
  shape : FieldShape
  /-- How the number of elements was given. -/
  spelling : Spelling := .whole
  units : UnitTag
  importance : Importance := .compulsory
  description : Literal := .text ""
  kind : FieldKind
deriving Repr

namespace FieldDescriptor

/-- Whether two descriptors describe the same field; the description in words and the
spelling of numbers do not count. -/
def same (f g : FieldDescriptor) : Bool :=
  Value.sameKey f.label g.label ∧ f.type = g.type ∧ f.format = g.format ∧ f.shape = g.shape ∧
    f.units = g.units ∧ f.importance = g.importance ∧ f.kind.same g.kind

instance : BEq FieldDescriptor := ⟨same⟩

/-- Whether the field must be present when it is read. -/
def compulsory (f : FieldDescriptor) : Bool := f.importance = .compulsory

/-- Whether descriptors can be told apart by what describes them: lists and dictionaries
cannot. -/
def isDistinct (f : FieldDescriptor) : Bool := f.label.isKey && f.kind.steps.all Value.isKey

/-- The name of what the field gives out. -/
def typeName (f : FieldDescriptor) : String := f.format.name f.type

/-- What the field gives out as it is shown in messages. -/
def typeText (f : FieldDescriptor) : String := f.format.shown f.type

/-- The number of elements as it was given. -/
def dimensionText (f : FieldDescriptor) : String := f.spelling.text f.shape.dimension

/-- The descriptor as it is shown in messages. -/
def shown (f : FieldDescriptor) : String :=
  f.kind.name ++ "(" ++ f.label.itemText ++ ", " ++ f.typeText ++ ", " ++
    f.dimensionText ++ ", " ++ quoted f.units.name ++ ", " ++
    quoted f.importance.name ++ ")"

/-- The attributes that every descriptor has. -/
def commonKeys : List String := ["name", "dtype", "dimension", "units", "importance", "description"]

/-- The attributes of a descriptor: all of them are fixed once it is made. -/
def keys (f : FieldDescriptor) : List String :=
  match f.kind with
  | .plain => commonKeys
  | .stored .. | .selected .. => commonKeys ++ ["path", "source"]
  | .converted _ => commonKeys ++ ["converter"]

/-- Attributes that are computed from others. -/
def computedKeys : List String := ["compulsory", "shape"]

/-- The name of the dictionary of all attributes. -/
def dictionaryKey : String := reservedName "dict"

/-- The name of what nothing may be stored under. -/
def reservedKey : String := reservedName "weakref"

/-- The name of the kind of the descriptor, which cannot be changed. -/
def classKey : String := reservedName "class"

/-- Resets an attribute: fixed ones are refused with a message, computed ones without,
and the dictionary must be a dictionary; only a new attribute is accepted. -/
def reset {D : Type} (f : FieldDescriptor) (key : String) (v : Value D) : Except Failure Unit :=
  if key ∈ f.keys then .error (.fieldImmutable key)
  else if key ∈ computedKeys ∨ key = reservedKey then .error .noSuchAttribute
  else if key = classKey then .error .wrongType
  else if key = dictionaryKey then
    match v with
    | .dict _ => .ok ()
    | _ => .error .wrongType
  else .ok ()

/-- A list of values between parentheses; one value keeps a comma behind it. -/
def tupleText (xs : List Literal) : String :=
  match xs with
  | [x] => "(" ++ x.itemText ++ ",)"
  | xs => "(" ++ Value.itemsText xs ++ ")"

/-- The shape of one particle's numbers in words. -/
def shapeText : FieldShape → String
  | .scalar => "()"
  | .vector => "(3,)"

/-- The value of an attribute of the descriptor itself, as it is shown. -/
def ownText? (f : FieldDescriptor) (key : String) : Option String :=
  match key, f.kind with
  | "name", _ => some f.label.itemText
  | "dtype", _ => some ("dtype(" ++ f.format.made f.type ++ ")")
  | "dimension", _ => some f.dimensionText
  | "units", _ => some (quoted f.units.name)
  | "importance", _ => some (quoted f.importance.name)
  | "description", _ => some f.description.itemText
  | "path", .stored .. | "path", .selected .. => some (tupleText f.kind.steps)
  | "source", .stored _ source | "source", .selected _ source => some (quoted source.name)
  | "converter", .converted c => some c.name
  | _, _ => none

/-- All attributes in the order in which they were set. -/
def dictionaryText (f : FieldDescriptor) : String :=
  "\x7b" ++ ", ".intercalate (f.keys.filterMap fun key =>
    (f.ownText? key).map fun text => quoted key ++ ": " ++ text) ++ "\x7d"

/-- The value of an attribute as it is shown. -/
def valueText? (f : FieldDescriptor) (key : String) : Option String :=
  match key with
  | "compulsory" => some (if f.compulsory then "True" else "False")
  | "shape" => some (shapeText f.shape)
  | key =>
    if key = dictionaryKey then some f.dictionaryText
    else if key = reservedKey then some "None"
    else if key = classKey then some f.kind.name
    else f.ownText? key

end FieldDescriptor

/-- The kinds of descriptors that can be made from options. -/
inductive FieldClass where
  | plain
  | stored
  | converted
deriving DecidableEq, Repr

namespace FieldClass

/-- Names of the options that must be given. -/
def required : FieldClass → List String
  | plain => ["name", "dtype", "dimension", "units"]
  | stored => ["name", "dtype", "dimension", "units", "path"]
  | converted => ["name", "dtype", "dimension", "units", "converter"]

/-- Names of the options that may be left out. -/
def optional : FieldClass → List String
  | plain => ["importance", "description"]
  | stored => ["importance", "source", "description"]
  | converted => ["description"]

end FieldClass

namespace FieldDescriptor

/-- The unit tag that a value names. -/
def tagOf (name : String) (v : Literal) : Except Failure UnitTag :=
  let found := match v with
    | .text s => UnitTag.ofName? s
    | _ => none
  if v.isKey then Failure.ofOption (.fieldUnits name v.asText) found else .error .wrongType

/-- The names among some steps, if all of them are names. -/
def namesOf? (steps : List Literal) : Option (List String) :=
  steps.mapM fun
    | .text s => some s
    | _ => none

/-- The source of a field of some class. -/
def kindOf (name : String) (c : FieldClass) (o : Options Float) : Except Failure FieldKind :=
  match c with
  | .plain => .ok .plain
  | .converted => do return .converted (← Converter.ofValue (o.need "converter"))
  | .stored => do
    let source ← Failure.ofOption (.fieldSource name)
      (RecordSource.ofValue? (o.getD "source" (.text RecordSource.parts.name)))
    let steps ← (o.need "path").steps
    return match namesOf? steps with
      | some path => .stored path source
      | none => .selected steps source

/-- The descriptor of some options.  A converter must be known before anything else is
looked at; then the number of elements is checked first, and after it the importance, the
unit tag, the element type and the source. -/
def ofOptions (c : FieldClass) (o : Options Float) : Except Failure FieldDescriptor := do
  match o.get? "converter" with
  | some v => let _ ← Converter.ofValue v
  | none => pure ()
  o.check c.required c.optional
  let name := (o.need "name").asText
  let (shape, spelling) ←
    Failure.ofOption (.fieldDimension name) (Spelling.ofValue? (o.need "dimension"))
  let importance ← Failure.ofOption (.fieldImportance name)
    (Importance.ofValue? (o.getD "importance" (.text Importance.compulsory.name)))
  let units ← tagOf name (o.need "units")
  let (type, format) ← FieldFormat.ofValue (o.need "dtype")
  let kind ← kindOf name c o
  return {
    name, type, format, shape, spelling, units, importance, kind
    label := o.need "name"
    description := o.getD "description" (.text "") }

end FieldDescriptor

end MeshlessGas
