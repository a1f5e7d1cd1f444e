/-
Words — texts without blanks and line ends.

A text becomes a word by writing its blanks, line ends and backslashes as escapes; the
empty text has an escape of its own.  Reading a word gives the text back, which is
`ofWord?_toWord`.
-/

namespace MeshlessGas

namespace Word

/-- A character of a word. -/
def escape (c : Char) : List Char :=
  if c = ' ' then ['\\', 's']
  else if c = '\n' then ['\\', 'n']
  else if c = '\\' then ['\\', '\\']
  else [c]

/-- The text of a word, which holds no other escapes. -/
def unescape : List Char → Option (List Char)
  | [] => some []
  | '\\' :: 's' :: cs => (unescape cs).map (' ' :: ·)
  | '\\' :: 'n' :: cs => (unescape cs).map ('\n' :: ·)
  | '\\' :: '\\' :: cs => (unescape cs).map ('\\' :: ·)
  | c :: cs => if c = '\\' then none else (unescape cs).map (c :: ·)

/-- The word of the empty text. -/
def empty : List Char := ['\\', 'e']

/-- The word of a text. -/
def ofText (cs : List Char) : List Char := if cs = [] then empty else cs.flatMap escape

/-- The text of a word. -/
def toText? (word : List Char) : Option (List Char) :=
  if word = empty then some [] else unescape word

theorem unescape_escape (cs : List Char) : unescape (cs.flatMap escape) = some cs := by
  induction cs with
  | nil => rfl
  | cons c cs ih =>
    rw [List.flatMap_cons]
    by_cases hb : c = ' '
    · subst hb; simp [escape, unescape, ih]
    by_cases hn : c = '\n'
    · subst hn; simp [escape, unescape, ih]
    by_cases hs : c = '\\'
    · subst hs; simp [escape, unescape, ih]
    · simp [escape, unescape, hb, hn, hs, ih]

/-- No text but the empty one has its word. -/
theorem escape_ne_empty (cs : List Char) : cs.flatMap escape ≠ empty := by
  intro h
  have hc := unescape_escape cs
  rw [h] at hc
  simp [empty, unescape] at hc

/-- Reading a word gives the text that it was made from. -/
theorem toText?_ofText (cs : List Char) : toText? (ofText cs) = some cs := by
  unfold ofText toText?
  by_cases h : cs = []
  · simp [h]
  · simp [h, escape_ne_empty, unescape_escape]

end Word

/-- The word of a text. -/
def toWord (s : String) : String := String.ofList (Word.ofText s.toList)

/-- The text of a word. -/
def ofWord? (s : String) : Option String := (Word.toText? s.toList).map String.ofList

/-- Reading a word gives the text that it was made from. -/
theorem ofWord?_toWord (s : String) : ofWord? (toWord s) = some s := by
  simp [ofWord?, toWord, Word.toText?_ofText]

end MeshlessGas
