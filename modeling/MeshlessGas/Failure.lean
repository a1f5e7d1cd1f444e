/-
Failures — the ways in which an operation of the library can fail.

The first group are causes that the library recognises itself; each has a
message.  The second group are failures of the storage and number layer
underneath (shapes that do not fit, indices out of range, numbers out of range,
unreadable files); they have a kind and no message.
-/
import MeshlessGas.Text.Quoted

namespace MeshlessGas

/-- The cause of a failure. -/
inductive Failure where
  -- causes with a message
  | unknownKernel (name : String) (known : List String)
  | unknownGradients (name : String) (known : List String)
  | unknownRiemannSolver (name : String) (known : List String)
  | adiabaticIndexTooSmall (gamma : String)
  | missingDimensions
  | scaleFactorRange (aBegin aEnd : String)
  | tooFewGravityParticles (particles gravity : Nat)
  | fieldDimension (field : String)
  | fieldImportance (field : String)
  | fieldUnits (field units : String)
  | fieldSource (field : String)
  | fieldImmutable (key : String)
  | fieldNotReadable (field : String)
  | entryCount (field : String) (found expected : Nat)
  | unknownTag (tag : String)
  | unknownUnitAttribute (name : String)
  | unknownKick (kind : String) (known : List String)
  | noParameters (file : String)
  | missingParameter (name : String)
  | compulsoryFieldMissing (field group : String)
  | fieldNotInFile (field file : String)
  | noParticleGroup (group file : String)
  | notImplemented
  -- kinds of failure underneath
  | noSuchAttribute
  | noSuchKey
  | badValue
  | wrongType
  | indexOutOfRange
  | numberOutOfRange
  | divisionByZero
  | noQuantity
  | nameless
  | noUnitPower
  | wrongDimension
  | noProduct
  | unknownUnit
  | noCommonType
  | undecodableText
  | fileMissing
  | fileUnreadable
  | fileIsDirectory
  | noDirectory
deriving DecidableEq, Repr

namespace Failure

/-- The text of a cause; failures underneath have none. -/
def message : Failure → Option String
  | unknownKernel name known => some s!"Kernel {name} not known, choose one of {quotedList known}."
  | unknownGradients name known =>
    some s!"Gradient model {name} not known, choose one of {quotedList known}."
  | unknownRiemannSolver name known =>
    some s!"Riemann solver {name} not known, choose one of {quotedList known}."
  | adiabaticIndexTooSmall gamma => some s!"Adiabatic index must exceed 1, got {gamma}."
  | missingDimensions => some "A periodic domain needs its dimensions."
  | scaleFactorRange aBegin aEnd =>
    some s!"Need 0 < a_begin < a_end, got a_begin={aBegin}, a_end={aEnd}."
  | tooFewGravityParticles particles gravity =>
    some s!"Cannot link {particles} particles to {gravity} gravity particles."
  | fieldDimension field => some s!"Field {field} must have 1 or 3 elements."
  | fieldImportance field =>
    some s!"Importance of field {field} must be one of ('compulsory', 'optional')."
  | fieldUnits field units => some s!"Unknown unit conversion {units} for field {field}."
  | fieldSource field => some s!"Field {field} must come from parts or xparts."
  | fieldImmutable key =>
    some s!"Field descriptors are immutable, cannot reset {key}."
  | fieldNotReadable field => some s!"Field {field} cannot be read back into particles."
  | entryCount field found expected =>
    some s!"Dataset {field} has {found} entries, expected {expected}."
  | unknownTag tag => some s!"Unknown unit conversion tag {tag}."
  | unknownUnitAttribute name => some s!"Unknown unit attribute {name}."
  | unknownKick kind known =>
    some s!"Unknown kick factor {kind}, choose one of {quotedTuple known}."
  | noParameters file => some s!"{file} does not contain a Parameters group."
  | missingParameter name =>
    some s!"Cannot find compulsory parameter {name} in the parameter file."
  | compulsoryFieldMissing field group =>
    some s!"Compulsory field {field} not found in {group}."
  | fieldNotInFile field file => some s!"Field {field} not found in {file}."
  | noParticleGroup group file => some s!"No {group} group in {file}."
  | notImplemented => some ""
  | _ => none

/-- A missing value as a failure. -/
def ofOption {α : Type} (f : Failure) : Option α → Except Failure α
  | some a => .ok a
  | none => .error f

@[simp] theorem ofOption_some {α : Type} (f : Failure) (a : α) :
    ofOption f (some a) = .ok a := rfl

@[simp] theorem ofOption_none {α : Type} (f : Failure) :
    (ofOption f none : Except Failure α) = .error f := rfl

end Failure

end MeshlessGas
