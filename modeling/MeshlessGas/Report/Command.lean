/-
Commands — what the arguments of the command line ask for.

The arguments name files, in one unbroken row, and may ask for the parameters or for
help.  Long options may be shortened as long as they stay unique, and short ones may
be joined behind one dash.  After a double dash every argument names a file.
-/
import MeshlessGas.Text.Character

namespace MeshlessGas

/-- An option of the command line. -/
inductive ReportFlag where
  | parameters
  | help
deriving DecidableEq, Repr

namespace ReportFlag

def all : List ReportFlag := [help, parameters]

/-- The letter of an option behind one dash. -/
def letter : ReportFlag → Char
  | parameters => 'p'
  | help => 'h'

/-- The name of an option behind two dashes. -/
def name : ReportFlag → String
  | parameters => "parameters"
  | help => "help"

/-- The option with a letter. -/
def ofLetter? (c : Char) : Option ReportFlag := all.find? fun f => f.letter = c

/-- The options with some letters. -/
def ofLetters? (cs : List Char) : Option (List ReportFlag) := cs.mapM ofLetter?

/-- The options whose names start with some letters. -/
def startingWith (cs : List Char) : List ReportFlag :=
  all.filter fun f => cs.isPrefixOf f.name.toList

end ReportFlag

/-- The meaning of one argument. -/
inductive Argument where
  | file (name : String)
  /-- After it every argument names a file. -/
  | separator
  | flags (fs : List ReportFlag)
  /-- An option that is not known. -/
  | unknown
  /-- A known option with a value, which none takes. -/
  | misused
  /-- The beginning of more than one option. -/
  | ambiguous
deriving Repr

namespace Argument

/-- Whether some characters are a number without an exponent; a line may end behind
it. -/
def isNumber (cs : List Char) : Bool :=
  let isDigit (c : Char) : Bool := (digitValue? c).isSome
  let cs := if cs.getLast? = some '\n' then cs.dropLast else cs
  match cs.dropWhile isDigit with
  | [] => !cs.isEmpty
  | '.' :: rest => !rest.isEmpty && rest.all isDigit
  | _ => false

/-- An argument that starts with a dash and is no known option: negative numbers and
phrases are files. -/
def unmatched (s : String) : Argument :=
  if isNumber (s.toList.drop 1) ∨ ' ' ∈ s.toList then file s else unknown

/-- An argument behind two dashes. -/
def long (s : String) (cs : List Char) : Argument :=
  match ReportFlag.startingWith (cs.takeWhile (· ≠ '=')) with
  | [] => unmatched s
  | [f] => if '=' ∈ cs then misused else flags [f]
  | _ => ambiguous

/-- Joined letters behind one dash, the first of which is an option.  An equals sign
directly behind it is skipped, as long as letters follow. -/
def joined (first : ReportFlag) (rest : List Char) : Argument :=
  let letters := match rest with
    | '=' :: letters => if letters.isEmpty then none else ReportFlag.ofLetters? letters
    | letters => ReportFlag.ofLetters? letters
  match letters with
  | some fs => flags (first :: fs)
  | none => misused

/-- The meaning of an argument. -/
def ofString (s : String) : Argument :=
  match s.toList with
  | ['-', '-'] => separator
  | '-' :: '-' :: cs => long s cs
  | '-' :: c :: rest =>
    match ReportFlag.ofLetter? c with
    | some f => joined f rest
    | none => unmatched s
  | _ => file s

/-- The meanings of some arguments. -/
def ofStrings : List String → List Argument
  | [] => []
  | s :: rest =>
    match ofString s with
    | separator => separator :: rest.map file
    | a => a :: ofStrings rest

end Argument

/-- What a command line asks for. -/
inductive Command where
  | report (files : List String) (withParameters : Bool)
  | help
  /-- The arguments make no sense. -/
  | refused
deriving Repr

namespace Command

/-- The files that some arguments name: a row from the first file to the first option
behind it.  Files elsewhere are not accepted, and neither are unknown options. -/
def gather (files : List String) (rowOpen withParameters accepted : Bool) :
    List Argument → Command
  | [] => if accepted ∧ ¬ files.isEmpty then report files withParameters else refused
  | .file name :: rest =>
    if rowOpen then gather (files ++ [name]) true withParameters accepted rest
    else gather files false withParameters false rest
  | .separator :: rest => gather files rowOpen withParameters (accepted && rowOpen) rest
  | .flags fs :: rest =>
    if ReportFlag.help ∈ fs then help
    else gather files files.isEmpty true accepted rest
  | .unknown :: rest => gather files files.isEmpty withParameters false rest
  | .misused :: _ => refused
  | .ambiguous :: _ => refused

/-- Whether an argument is the beginning of more than one option. -/
def isAmbiguous : Argument → Bool
  | .ambiguous => true
  | _ => false

/-- What arguments of some meanings ask for.  An ambiguous one is refused before anything
else. -/
def ofMeanings (arguments : List Argument) : Command :=
  if arguments.any isAmbiguous then refused else gather [] true false true arguments

/-- What some arguments ask for. -/
def ofArguments (args : List String) : Command := ofMeanings (Argument.ofStrings args)

end Command

end MeshlessGas
