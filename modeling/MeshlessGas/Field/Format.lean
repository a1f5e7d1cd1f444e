/-
Field formats — how the elements of a field are given out.

A field takes its numbers in an element type.  Most fields give them out as they are; some
give them as complex numbers, in extended precision, as texts, as loose values, or several
times side by side.  A format that stands for no numbers is known by its name only.
`FieldFormat.ofValue` finds the element type and the format that a value asks for.
-/
import MeshlessGas.Element
import MeshlessGas.Parameters.Value

namespace MeshlessGas

/-- One of the numbers of a record. -/
structure RecordMember where
  name : String
  type : ElementType
  isReversed : Bool := false
deriving DecidableEq, Repr

namespace RecordMember

/-- Size in bytes of several members. -/
def bytesOf (members : List RecordMember) : Nat := members.foldl (fun n m => n + m.type.bytes) 0

/-- The element type among others in a record. -/
def typeText (m : RecordMember) : String :=
  match m.type with
  | .truth => "?"
  | t => (if t.bytes = 1 then "" else if m.isReversed then ">" else "<") ++ t.code

/-- Several members in words. -/
def textOf (members : List RecordMember) : String :=
  "[" ++ ", ".intercalate (members.map fun m =>
    "(" ++ quoted m.name ++ ", " ++ quoted m.typeText ++ ")") ++ "]"

end RecordMember

/-- How elements are given out. -/
inductive FieldFormat where
  | plain
  | complex
  | extended
  | extendedComplex
  /-- As texts of at most so many characters; zero sets no bound. -/
  | texts (length : Nat)
  /-- As texts in bytes. -/
  | bytes (length : Nat)
  /-- As values without a type in common. -/
  | values
  /-- As records, which repeat the number in every member. -/
  | records (members : List RecordMember)
  /-- As points in time or as durations, with a unit between brackets or without one. -/
  | moments (isPoint : Bool) (unit : String)
  /-- As bytes without a meaning. -/
  | raw (length : Nat)
  /-- As records without members. -/
  | nothing
  /-- With the bytes in the order that the machine does not have. -/
  | reversed (format : FieldFormat)
deriving DecidableEq, Repr

namespace FieldFormat

/-- A number of bits behind a word; without bits the word stands alone. -/
def sized (word : String) (bits : Nat) : String := if bits = 0 then word else word ++ toString bits

/-- The word for points in time or for durations, and their letter. -/
def momentWords (isPoint : Bool) : String × String :=
  if isPoint then ("datetime64", "M8") else ("timedelta64", "m8")

/-- The full name of what is given out. -/
def name (t : ElementType) : FieldFormat → String
  | plain => t.name
  | complex => "complex" ++ toString (16 * t.bytes)
  | extended => "float128"
  | extendedComplex => "complex256"
  | texts n => sized "str" (32 * n)
  | bytes n => sized "bytes" (8 * n)
  | values => "object"
  | records members => sized "void" (8 * RecordMember.bytesOf members)
  | moments isPoint unit => (momentWords isPoint).1 ++ unit
  | raw n => sized "void" (8 * n)
  | nothing => "void"
  | reversed f => f.name t

/-- The code of what is given out: kind and size in bytes. -/
def code (t : ElementType) : FieldFormat → String
  | plain => t.code
  | complex => "c" ++ toString (2 * t.bytes)
  | extended => "f16"
  | extendedComplex => "c32"
  | texts n => "U" ++ toString n
  | bytes n => "S" ++ toString n
  | values => "O"
  | records members => "V" ++ toString (RecordMember.bytesOf members)
  | moments isPoint unit => (momentWords isPoint).2 ++ unit
  | raw n => "V" ++ toString n
  | nothing => "V0"
  | reversed f => f.code t

/-- What is given out as it is shown in messages. -/
def shown (t : ElementType) : FieldFormat → String
  | texts n => "<U" ++ toString n
  | bytes n => "|S" ++ toString n
  | records members => RecordMember.textOf members
  | raw n => "|V" ++ toString n
  | nothing => RecordMember.textOf []
  | reversed f => ">" ++ f.code t
  | f => f.name t

/-- What asks for the format, as it is shown in messages. -/
def made (t : ElementType) : FieldFormat → String
  | values => quoted "O"
  | texts n => quoted (sized "<U" n)
  | bytes n => quoted (sized "S" n)
  | records members => RecordMember.textOf members
  | moments isPoint unit => quoted ("<" ++ (momentWords isPoint).2 ++ unit)
  | raw n => quoted (sized "V" n)
  | nothing => RecordMember.textOf []
  | reversed (texts n) => quoted (sized ">U" n)
  | f => quoted (f.shown t)

/-- Whether a number can be given out in the format. -/
def isGiven : FieldFormat → Bool
  | moments .. | raw _ | nothing => false
  | reversed f => f.isGiven
  | _ => true

/-- Whether a dataset can hold what is given out. -/
def isStored : FieldFormat → Bool
  | texts _ | values => false
  | reversed f => f.isStored
  | f => f.isGiven

/-- Whether what is given out are numbers, of which products can be taken. -/
def isNumeric : FieldFormat → Bool
  | plain | complex | extended | extendedComplex => true
  | reversed f => f.isNumeric
  | _ => false

/-- The numbers that a dataset in the format keeps: those of the element type, and where it
keeps texts or records, the ones that they are made of. -/
def kept {D S : Type} [Arithmetic D] [Arithmetic S] [Narrowing D S] (format : FieldFormat)
    (t : ElementType) (a : NumericArray D S) : NumericArray D S :=
  if format.isNumeric then a.cast t else a

/-! ## Formats by name -/

/-- Codes and letters of formats that give out numbers. -/
def codes : List (String × ElementType × FieldFormat) :=
  [("c8", .float32, complex), ("F", .float32, complex), ("c16", .float64, complex),
   ("D", .float64, complex), ("c32", .float64, extendedComplex),
   ("G", .float64, extendedComplex), ("f16", .float64, extended), ("g", .float64, extended),
   ("O", .float64, values), ("O8", .float64, values), ("c", .float64, bytes 1)]

/-- Full names of formats that give out numbers. -/
def names : List (String × ElementType × FieldFormat) :=
  [("complex64", .float32, complex), ("csingle", .float32, complex),
   ("complex128", .float64, complex), ("cdouble", .float64, complex),
   ("complex", .float64, complex), ("complex256", .float64, extendedComplex),
   ("clongdouble", .float64, extendedComplex), ("float128", .float64, extended),
   ("longdouble", .float64, extended), ("object", .float64, values),
   ("object_", .float64, values), ("str", .float64, texts 0), ("str_", .float64, texts 0),
   ("unicode", .float64, texts 0), ("bytes", .float64, bytes 0), ("bytes_", .float64, bytes 0)]

/-- Units of points in time and of durations. -/
def timeUnits : List String :=
  ["Y", "M", "W", "D", "h", "m", "s", "ms", "us", "ns", "ps", "fs", "as"]

/-- Words for points in time, and for durations. -/
def timeWords : List (String × Bool) :=
  [("datetime64", true), ("M8", true), ("M", true), ("timedelta64", false), ("m8", false),
   ("m", false)]

/-- A unit of time between brackets, of which there may be several. -/
def timeUnit? (s : String) : Option String :=
  match s.toList with
  | [] => some ""
  | '[' :: cs =>
    let digits := cs.takeWhile Char.isDigit
    let count := ((String.ofList digits).toNat?).getD 1
    let unit := String.ofList ((cs.drop digits.length).dropLast)
    if cs.getLast? = some ']' ∧ unit ∈ timeUnits ∧ count ≠ 0 then
      some ("[" ++ (if count = 1 then "" else toString count) ++ unit ++ "]")
    else none
  | _ => none

/-- Points in time and durations, with a unit or without; single letters have none. -/
def ofTime? (s : String) : Option (ElementType × FieldFormat) :=
  timeWords.findSome? fun (word, isPoint) =>
    if s = word ∨ (1 < word.length ∧ s.startsWith word) then
      (timeUnit? (s.drop word.length).toString).map fun unit => (.float64, moments isPoint unit)
    else none

/-- A letter and a number of elements. -/
def ofLetter? (s : String) : Option (ElementType × FieldFormat) :=
  match s.toList with
  | letter :: digits =>
    if digits.all Char.isDigit then
      let n := ((String.ofList digits).toNat?).getD 0
      if letter = 'U' then some (.float64, texts n)
      else if letter = 'S' then some (.float64, bytes n)
      else if letter = 'V' then some (.float64, raw n)
      else none
    else none
  | [] => none

/-- Whether the order of the bytes of a format can be asked for. -/
def hasOrder : FieldFormat → Bool
  | complex | extended | extendedComplex | texts _ | moments .. => true
  | _ => false

/-- The format of a code without a mark. -/
def ofPlainCode? (code : String) : Option (ElementType × FieldFormat) :=
  match codes.find? fun x => x.1 = code with
  | some x => some x.2
  | none => (ofTime? code).orElse fun _ => ofLetter? code

/-- The format of a code, before which a mark may ask for a byte order. -/
def ofCode? (s : String) : Option (ElementType × FieldFormat) :=
  match s.toList with
  | '>' :: cs => (ofPlainCode? (String.ofList cs)).map fun (t, f) =>
      (t, if f.hasOrder then reversed f else f)
  | '<' :: cs | '=' :: cs | '|' :: cs => ofPlainCode? (String.ofList cs)
  | _ => ofPlainCode? s

/-- The member of a record with a name and the name of its element type. -/
def member? (name type : String) : Option RecordMember :=
  (ElementType.ofName? type).map fun t => ⟨name, t, ElementType.isReversed type⟩

/-- The format of some element types between commas; the last one may have a comma behind
it.  They are named by their numbers. -/
def ofMembers? (s : String) : Option (ElementType × FieldFormat) :=
  match (s.splitOn ",").map String.trimAscii with
  | [_] => none
  | parts =>
    let parts := parts.map toString
    let parts := if parts.getLast? = some "" then parts.dropLast else parts
    (parts.zipIdx.mapM fun x => member? ("f" ++ toString x.2) x.1).map fun members =>
      (.float64, records members)

/-- A record without members. -/
def emptyRecord : ElementType × FieldFormat := (.float64, nothing)

/-- The element type and the format that a name asks for. -/
def ofName? (s : String) : Option (ElementType × FieldFormat) :=
  match ElementType.ofName? s with
  | some t => some (t, if ElementType.isReversed s then reversed plain else plain)
  | none =>
    match names.find? fun x => x.1 = s with
    | some x => some x.2
    | none => if s = "void" then some (.float64, raw 0)
      else (ofMembers? s).orElse fun _ => ofCode? s

/-- Keys of the names and of the element types of the members of a record. -/
def memberKeys : String × String := ("names", "formats")

/-- The record of some names and element types, which must be as many. -/
def ofMemberLists {D : Type} (names types : List (Value D)) :
    Except Failure (ElementType × FieldFormat) := do
  if names.length ≠ types.length then throw .badValue
  let members ← (names.zip types).mapM fun (n, t) => do
    let name ← Failure.ofOption .wrongType n.text?
    Failure.ofOption .wrongType (member? name (← Failure.ofOption .wrongType t.text?))
  if members.isEmpty then return emptyRecord
  else if (members.map RecordMember.name).Nodup then return (.float64, records members)
  else throw .badValue

/-- The failure of an entry that is no member of a record: it must have a length at least. -/
def entryFailure {D : Type} : Value D → Failure
  | .text _ | .list _ | .dict _ => .badValue
  | _ => .wrongType

/-- The format that a dictionary asks for. -/
def ofEntries {D : Type} (entries : List (Value D × Value D)) :
    Except Failure (ElementType × FieldFormat) :=
  let find (key : String) : Option (Value D) :=
    (entries.find? fun e => e.1.text? = some key).map Prod.snd
  match find memberKeys.1, find memberKeys.2, entries with
  | some (.list names), some (.list types), _ => ofMemberLists names types
  | _, _, [] => .ok emptyRecord
  | _, _, (_, v) :: _ => .error (entryFailure v)

/-- The element type and the format that a value asks for; nothing stands for doubles. -/
def ofValue {D : Type} : Value D → Except Failure (ElementType × FieldFormat)
  | .none => .ok (.float64, plain)
  | .text s => Failure.ofOption .wrongType (ofName? s)
  | .list [] => .ok emptyRecord
  | .dict entries => ofEntries entries
  | _ => .error .wrongType

end FieldFormat

end MeshlessGas
