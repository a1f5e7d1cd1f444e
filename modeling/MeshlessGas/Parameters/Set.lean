/-
Parameter sets — the run-time parameters of a run.

A set keeps one value for each full name.  Values are looked up as reals, integers
or texts; a compulsory parameter that is absent is a failure, an optional one has a
default.  A set is stored as text attributes, and read back as texts.
-/
import MeshlessGas.Archive.Shown
import MeshlessGas.Archive.Tree
import MeshlessGas.Parameters.Section

namespace MeshlessGas

/-- The parameters of a run. -/
structure ParameterSet (D : Type) where
  entries : Entries (Value D)

/-- What a parameter is read as. -/
inductive ReadAs where
  | real
  | int
  | text
deriving DecidableEq, Repr

namespace ParameterSet

variable {D S : Type} [Arithmetic D] [Numeral D] [Arithmetic S] [Numeral S] [Narrowing D S]

/-- The set of some nested parameters. -/
def ofSection (s : ParameterSection D) : ParameterSet D := ⟨s.flatten ""⟩

/-- The value under a name. -/
def get? (p : ParameterSet D) (name : String) : Option (Value D) := p.entries.get? name

def contains (p : ParameterSet D) (name : String) : Bool := (p.get? name).isSome

def size (p : ParameterSet D) : Nat := p.entries.length

/-- The entries in the order of their names. -/
def sorted (p : ParameterSet D) : Table (Value D) := Table.ofList p.entries

/-- A value read as a kind. -/
def convert (kind : ReadAs) (v : Value D) : Except Failure (Value D) :=
  match kind with
  | .real => do return .real (← v.toReal)
  | .int => do return .int (← v.toInt)
  | .text => .ok (.text v.asText)

/-- A compulsory parameter. -/
def read (p : ParameterSet D) (kind : ReadAs) (name : String) : Except Failure (Value D) :=
  match p.get? name with
  | none => .error (.missingParameter name)
  | some v => convert kind v

/-- An optional parameter; the default is returned as it is. -/
def readOr (p : ParameterSet D) (kind : ReadAs) (name : String) (default : Value D) :
    Except Failure (Value D) :=
  match p.get? name with
  | none => .ok default
  | some v => convert kind v

/-- What comes of a name that may be no text: only texts are names, and what cannot be a key
cannot be looked for. -/
def withName {α : Type} (name : Value D) (found : String → Except Failure α)
    (unknown : Except Failure α) : Except Failure α :=
  match name with
  | .text name => found name
  | v => if v.isKey then unknown else .error .wrongType

/-- Whether there is a parameter under what may be no name. -/
def containsNamed (p : ParameterSet D) (name : Value D) : Except Failure Bool :=
  withName name (fun name => .ok (p.contains name)) (.ok false)

/-- A compulsory parameter under what may be no name. -/
def readNamed (p : ParameterSet D) (kind : ReadAs) (name : Value D) : Except Failure (Value D) :=
  withName name (p.read kind) (.error (.missingParameter name.asText))

/-- An optional parameter under what may be no name. -/
def readNamedOr (p : ParameterSet D) (kind : ReadAs) (name default : Value D) :
    Except Failure (Value D) :=
  withName name (p.readOr kind · default) (.ok default)

/-- A compulsory real. -/
def real (p : ParameterSet D) (name : String) : Except Failure D :=
  match p.get? name with
  | none => .error (.missingParameter name)
  | some v => v.toReal

/-- An optional real. -/
def realOr (p : ParameterSet D) (name : String) (default : D) : Except Failure D :=
  match p.get? name with
  | none => .ok default
  | some v => v.toReal

/-- An optional integer. -/
def intOr (p : ParameterSet D) (name : String) (default : Int) : Except Failure Int :=
  match p.get? name with
  | none => .ok default
  | some v => v.toInt

/-- A line for each parameter, in the order of the names. -/
def asText (p : ParameterSet D) : String :=
  "\n".intercalate (p.sorted.map fun x => x.1 ++ ": " ++ x.2.asText)

/-- The set as it is shown in messages. -/
def shown (p : ParameterSet D) : String :=
  "SWIFTParameters with " ++ toString p.size ++ " entries"

/-- Stores the parameters as texts under their names. -/
def writeTo (p : ParameterSet D) (group : Place) : Writing D S Unit :=
  p.sorted.forM fun x => Writing.writeAttribute group x.1 (.text x.2.asText)

/-- The set stored in some attributes. -/
def ofAttributes (attributes : Table (Attribute D S)) : ParameterSet D :=
  ⟨Entries.putAll [] (attributes.map fun x => (x.1, .text x.2.asText))⟩

/-- Name of the group that holds the parameters. -/
def groupName : String := "Parameters"

/-- The set stored in a group, or in its member that is named as the group of
parameters is. -/
def ofGroup (g : Group D S) : ParameterSet D :=
  match g.datasets.find? groupName with
  | some d => ofAttributes d.attributes
  | none => ofAttributes g.attributes

/-- The set stored in a file: in its member that is named as the group of parameters is, or at its
root. -/
def ofArchive (f : Archive D S) : ParameterSet D :=
  match f.attributes? [groupName] with
  | some attributes => ofAttributes attributes
  | none => ofAttributes ((f.attributes? []).getD [])

end ParameterSet

end MeshlessGas
