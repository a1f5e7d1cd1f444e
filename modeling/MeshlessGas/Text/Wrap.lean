/-
Wrapped lines — a text laid out in lines of limited width.

A text is cut into chunks: runs of blanks, words, and dashes between words; a
hyphenated word is cut behind its hyphens.  A line takes chunks as long as they fit.
A chunk that is longer than a whole line is cut where the line ends, behind a hyphen
if there is one.  Blanks at the end of a line, and at the start of every line but the
first, are dropped.
-/
import MeshlessGas.Text.WordCharacter

namespace MeshlessGas

namespace Wrap

/-- Part of a line. -/
abbrev Chunk := List Char

/-! ## Chunks -/

/-- The blanks at which a text may be cut. -/
def isGap (c : Char) : Bool := c ∈ ['\t', '\n', '\x0b', '\x0c', '\r', ' ']

/-- Characters that end a word: word characters and some punctuation. -/
def isWordEnd (c : Char) : Bool := isWordCharacter c || c ∈ ['!', '"', '\'', '&', '.', ',', '?']

/-- Number of dashes in front of a text, if there are at least two and a word follows;
zero otherwise. -/
def dashes (rest : List Char) : Nat :=
  let count := (rest.takeWhile (· = '-')).length
  let wordFollows := (rest.drop count).head?.any isWordCharacter
  if 2 ≤ count ∧ wordFollows then count else 0

/-- Whether the text so far, read backwards, ends with a word. -/
def endsWord (past : List Char) : Bool := past.head?.any isWordEnd

/-- Whether a text starts with two letters, perhaps with a hyphen between them. -/
def startsWithLetters : List Char → Bool
  | a :: '-' :: b :: _ => isWordLetter a && isWordLetter b
  | a :: b :: _ => isWordLetter a && isWordLetter b
  | _ => false

/-- Whether a text starts with a hyphen at which its word may be cut: two letters stand
on both sides.  The text so far is read backwards. -/
def isHyphen (past : List Char) : List Char → Bool
  | '-' :: rest => startsWithLetters past && startsWithLetters rest
  | _ => false

/-- Number of characters that still belong to the word that the text so far ends
with. -/
def wordRest (past : List Char) : List Char → Nat
  | [] => 0
  | c :: rest =>
    if isHyphen past (c :: rest) then 1
    else if isGap c then 0
    else if endsWord past ∧ 0 < dashes (c :: rest) then 0
    else 1 + wordRest (c :: past) rest

/-- Number of characters after the first that belong to its chunk. -/
def chunkRest (past : List Char) (c : Char) (rest : List Char) : Nat :=
  if isGap c then (rest.takeWhile isGap).length
  else if endsWord past ∧ 0 < dashes (c :: rest) then dashes (c :: rest) - 1
  else wordRest (c :: past) rest

/-- The chunks of a text, after a text that is read backwards. -/
def chunks (past : List Char) : List Char → List Chunk
  | [] => []
  | c :: rest =>
    let n := chunkRest past c rest
    let chunk := c :: rest.take n
    chunk :: chunks (chunk.reverse ++ past) (rest.drop n)
termination_by text => text.length
decreasing_by simp only [List.length_drop, List.length_cons]; omega

/-- The chunks of a text are the text. -/
theorem flatten_chunks (past text : List Char) : (chunks past text).flatten = text := by
  fun_induction chunks past text with
  | case1 => rfl
  | case2 past c rest n chunk ih =>
    rw [List.flatten_cons, ih]
    simp [chunk]

/-! ## Lines -/

/-- Number of characters. -/
def charCount : List Chunk → Nat
  | [] => 0
  | c :: cs => c.length + charCount cs

/-- Whether a chunk holds nothing but blanks. -/
def isBlankChunk (chunk : Chunk) : Bool := chunk.all isBlank

/-- The chunks that fit into some room, and the others. -/
def fitting (room : Nat) : List Chunk → List Chunk × List Chunk
  | [] => ([], [])
  | c :: cs =>
    if c.length ≤ room then
      let (line, rest) := fitting (room - c.length) cs
      (c :: line, rest)
    else ([], c :: cs)

/-- Where a chunk that is too long is cut: behind the last hyphen that fits, if
anything but hyphens comes before it, and otherwise at the end of the room. -/
def cutAt (room : Nat) (chunk : Chunk) : Nat :=
  let tail := (chunk.take room).reverse.dropWhile (· ≠ '-')
  let before := tail.drop 1
  if before.any (· ≠ '-') then tail.length else room

/-- The chunks of a line, and those that are left. -/
def takeLine (width : Nat) (chunks : List Chunk) : List Chunk × List Chunk :=
  let (line, rest) := fitting width chunks
  match rest with
  | [] => (line, [])
  | c :: cs =>
    if width < c.length then
      let n := cutAt (width - charCount line) c
      (line ++ [c.take n], c.drop n :: cs)
    else (line, c :: cs)

/-- A line without a blank chunk at its end. -/
def withoutBlankEnd (line : List Chunk) : List Chunk :=
  if line.getLast?.any isBlankChunk then line.dropLast else line

/-- Chunks without a blank one at their start, unless they are the first of the
text. -/
def withoutBlankStart (first : Bool) : List Chunk → List Chunk
  | c :: cs => if !first && isBlankChunk c then cs else c :: cs
  | [] => []

/-- The lines of some chunks.  A line takes at least one character; with no room for
any there are no lines. -/
def lines (width : Nat) (first : Bool) (chunks : List Chunk) : List (List Char) :=
  let (line, rest) := takeLine width (withoutBlankStart first chunks)
  let kept := withoutBlankEnd line
  let others :=
    if charCount rest < charCount chunks then lines width (first && kept.isEmpty) rest else []
  if kept.isEmpty then others else kept.flatten :: others
termination_by charCount chunks

/-- Tabs as blanks up to the next multiple of eight columns, and every other gap as one
blank. -/
def plainGaps (column : Nat) : List Char → List Char
  | [] => []
  | c :: rest =>
    if c = '\t' then
      let n := 8 - column % 8
      List.replicate n ' ' ++ plainGaps (column + n) rest
    else if c = '\n' ∨ c = '\r' then ' ' :: plainGaps 0 rest
    else (if isGap c then ' ' else c) :: plainGaps (column + 1) rest

end Wrap

/-- The lines of a text that is wrapped at a width. -/
def wrapLines (width : Nat) (text : String) : List String :=
  (Wrap.lines width true (Wrap.chunks [] (Wrap.plainGaps 0 text.toList))).map String.ofList

end MeshlessGas
