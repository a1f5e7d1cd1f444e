/-
Values — what a run-time parameter, or an option, may hold.

A value is nothing, a truth value, an integer of any size, a real, a text, a list, or
a dictionary.  `asText` is how it is stored and shown; `toReal`, `toInt` and `truthy`
are its readings as a number, an integer and a flag.
-/
import MeshlessGas.Number
import MeshlessGas.Numeral.Reading

namespace MeshlessGas

/-- The text that some bytes encode in UTF-8. -/
def decodeText (bytes : List UInt8) : Except Failure String :=
  Failure.ofOption .undecodableText (String.fromUTF8? ⟨bytes.toArray⟩)

/-- The value of a parameter or an option. -/
inductive Value (D : Type) where
  | none
  | bool (b : Bool)
  | int (n : Int)
  | real (x : D)
  | text (s : String)
  | list (xs : List (Value D))
  /-- Values under keys, in the order of their first appearance. -/
  | dict (entries : List (Value D × Value D))
deriving Inhabited, Repr

namespace Value

/-- The text that a value is. -/
def text? {D : Type} : Value D → Option String
  | text s => some s
  | _ => Option.none

/-- What a value gives one after the other: the items of a list, the keys of a dictionary,
or the letters of a text. -/
def steps {D : Type} : Value D → Except Failure (List (Value D))
  | list xs => .ok xs
  | dict entries => .ok (entries.map Prod.fst)
  | text s => .ok (s.toList.map fun c => text (String.singleton c))
  | _ => .error .wrongType

/-- Whether some characters stand somewhere among others. -/
def occurs (cs : List Char) : List Char → Bool
  | [] => cs.isEmpty
  | d :: ds => cs.isPrefixOf (d :: ds) || occurs cs ds

/-- Whether a value holds a text: as a part, as an item, or as a key. -/
def holdsText {D : Type} (v : Value D) (s : String) : Except Failure Bool :=
  match v with
  | text t => .ok (occurs s.toList t.toList)
  | v => do return (← v.steps).any fun w => w.text? = some s

variable {D : Type} [Arithmetic D] [Numeral D]

mutual

/-- The text of a value inside a list, where texts are quoted. -/
def itemText : Value D → String
  | none => "None"
  | bool true => "True"
  | bool false => "False"
  | int n => toString n
  | real x => Numeral.shortest x
  | text s => quoted s
  | list xs => "[" ++ itemsText xs ++ "]"
  | dict entries => "\x7b" ++ entriesText entries ++ "\x7d"

/-- The items of a list, separated by commas. -/
def itemsText : List (Value D) → String
  | [] => ""
  | [x] => itemText x
  | x :: y :: xs => itemText x ++ ", " ++ itemsText (y :: xs)

/-- The entries of a dictionary, separated by commas. -/
def entriesText : List (Value D × Value D) → String
  | [] => ""
  | [(k, v)] => itemText k ++ ": " ++ itemText v
  | (k, v) :: e :: rest => itemText k ++ ": " ++ itemText v ++ ", " ++ entriesText (e :: rest)

end

/-- The text of a value. -/
def asText : Value D → String
  | text s => s
  | v => itemText v

/-- The real that a value is read as; texts are parsed. -/
def toReal : Value D → Except Failure D
  | none => .error .wrongType
  | bool b => .ok (Arithmetic.ofBool b)
  | int n => Number.realOfInt n
  | real x => .ok x
  | text s => Failure.ofOption .badValue ((readReal? s).map RealText.number)
  | list _ | dict _ => .error .wrongType

/-- The integer part of a real: a NaN has none, and infinity is out of range. -/
def intOfReal (x : D) : Except Failure Int :=
  if ¬ x ≤ x then .error .badValue
  else if Arithmetic.isFinite x then .ok (Arithmetic.truncate x)
  else .error .numberOutOfRange

/-- The integer that a value is read as; reals lose their fraction and texts are
parsed. -/
def toInt : Value D → Except Failure Int
  | none => .error .wrongType
  | bool b => .ok (if b then 1 else 0)
  | int n => .ok n
  | real x => intOfReal x
  | text s => Failure.ofOption .badValue (readInt? s)
  | list _ | dict _ => .error .wrongType

/-- The byte that a value stands for. -/
def byte : Value D → Except Failure UInt8
  | bool b => .ok (if b then 1 else 0)
  | int n => if 0 ≤ n ∧ n < 256 then .ok (UInt8.ofInt n) else .error .badValue
  | _ => .error .wrongType

/-- The bytes that a value stands for: those of a list, or a number of zeros. -/
def bytes : Value D → Except Failure (List UInt8)
  | bool b => .ok (if b then [0] else [])
  | int n => if 0 ≤ n then .ok (List.replicate n.toNat 0) else .error .badValue
  | list xs => xs.mapM byte
  | _ => .error .wrongType

/-- Whether a value counts as true: zero, nothing and the empty do not. -/
def truthy : Value D → Bool
  | none => false
  | bool b => b
  | int n => n ≠ 0
  | real x => !Arithmetic.agree x 0.0
  | text s => s ≠ ""
  | list xs => !xs.isEmpty
  | dict entries => !entries.isEmpty

/-- The value as a number of a formula: nothing, texts, lists and dictionaries are no
numbers there. -/
def operand : Value D → Except Failure (Number D)
  | bool b => .ok (.whole (if b then 1 else 0))
  | int n => .ok (.whole n)
  | real x => .ok (.real x)
  | _ => .error .wrongType

/-- The value as a real in a formula. -/
def number (v : Value D) : Except Failure D := do (← v.operand).toReal

/-- Whether the first of two values lies below the second; only numbers can be
compared. -/
def less (v w : Value D) : Except Failure Bool := do return (← v.operand).less (← w.operand)

/-! ## Dictionaries -/

/-- Whether two values are one key: equal numbers and truth values are. -/
def sameKey : Value D → Value D → Bool
  | none, none => true
  | text s, text t => s = t
  | v, w =>
    match v.operand, w.operand with
    | .ok x, .ok y => x.same y
    | _, _ => false

/-- Whether a value can be a key. -/
def isKey : Value D → Bool
  | list _ | dict _ => false
  | _ => true

/-- Stores a value under a key: a known key keeps its place and its spelling. -/
def put : List (Value D × Value D) → Value D → Value D → List (Value D × Value D)
  | [], k, v => [(k, v)]
  | (l, w) :: rest, k, v => if sameKey l k then (l, v) :: rest else (l, w) :: put rest k v

/-- The dictionary of some entries. -/
def ofEntries (entries : List (Value D × Value D)) : Except Failure (Value D) :=
  if entries.all fun e => e.1.isKey then
    .ok (dict (entries.foldl (fun d e => put d e.1 e.2) []))
  else .error .wrongType

end Value

end MeshlessGas
