/-
Quoted texts — the quoted form of a text inside messages and lists.

A text stands between single quotes, or between double quotes when it holds a
single quote and no double one.  The quote in use, the backslash and characters
that cannot be printed are written as escapes.
-/
import MeshlessGas.Text.Printable

namespace MeshlessGas

/-- The lower-case hexadecimal digits of a number, padded to `width`. -/
def hexDigits (width n : Nat) : List Char :=
  let digits := Nat.toDigits 16 n
  List.replicate (width - digits.length) '0' ++ digits

/-- The escape of a character that cannot be printed: by its number, in the
shortest of the three widths that holds it. -/
def escapeByNumber (c : Char) : List Char :=
  let n := c.toNat
  if n < 0x100 then '\\' :: 'x' :: hexDigits 2 n
  else if n < 0x10000 then '\\' :: 'u' :: hexDigits 4 n
  else '\\' :: 'U' :: hexDigits 8 n

/-- One character of a quoted text. -/
def quoteChar (quote c : Char) : List Char :=
  if c = quote ∨ c = '\\' then ['\\', c]
  else if c = '\n' then ['\\', 'n']
  else if c = '\r' then ['\\', 'r']
  else if c = '\t' then ['\\', 't']
  else if isPrintable c then [c]
  else escapeByNumber c

/-- The quote that encloses a text. -/
def quoteFor (cs : List Char) : Char :=
  if '\'' ∈ cs ∧ '"' ∉ cs then '"' else '\''

/-- A text in quotes. -/
def quoted (s : String) : String :=
  let quote := quoteFor s.toList
  String.ofList (quote :: s.toList.flatMap (quoteChar quote) ++ [quote])

/-- A list of texts, quoted, between square brackets. -/
def quotedList (xs : List String) : String :=
  "[" ++ ", ".intercalate (xs.map quoted) ++ "]"

/-- A list of texts, quoted, between parentheses. -/
def quotedTuple (xs : List String) : String :=
  "(" ++ ", ".intercalate (xs.map quoted) ++ ")"

end MeshlessGas
