/-
Paths — places named by components between slashes.

Nothing and a single dot between two slashes lead nowhere, so that a place has many
paths and one normal path.  A path within an archive ends at the null character and
starts either at a group or, behind a slash, at the root.
-/

namespace MeshlessGas

/-- A place: the names of what is around it, outermost first, and its own. -/
abbrev Place := List String

namespace Path

/-- The characters before the first null character. -/
def beforeNull (s : String) : String := String.ofList (s.toList.takeWhile (· ≠ '\x00'))

/-- What stands between the slashes of a text. -/
def cut : List Char → List (List Char)
  | [] => [[]]
  | c :: cs =>
    if c = '/' then [] :: cut cs
    else
      match cut cs with
      | [] => [[c]]
      | piece :: rest => (c :: piece) :: rest

/-- The components of a path that lead somewhere. -/
def components (s : String) : Place :=
  ((cut s.toList).filter fun cs => cs ≠ [] ∧ cs ≠ ['.']).map String.ofList

/-- Whether a path starts at the root. -/
def isAbsolute (s : String) : Bool := s.toList.head? = some '/'

/-- Whether a path asks for something within what it names. -/
def endsWithSlash (s : String) : Bool := s.toList.getLast? = some '/'

/-- The normal path of a place. -/
def join (place : Place) : String := "/".intercalate place

/-- The place that a path leads to from another. -/
def resolve (start : Place) (path : String) : Place :=
  let path := beforeNull path
  if isAbsolute path then components path else start ++ components path

/-- A path cut at its last slash, unless that is among its first characters: the way to
a place, and the name there. -/
def split (path : String) : Option String × String :=
  let cs := path.toList.reverse
  let name := cs.takeWhile (· ≠ '/')
  let way := (cs.dropWhile (· ≠ '/')).drop 1
  if way.all (· = '/') then (none, path)
  else (some (String.ofList way.reverse), String.ofList name.reverse)

theorem cut_ne_nil (cs : List Char) : cut cs ≠ [] := by
  cases cs with
  | nil => simp [cut]
  | cons c cs =>
    unfold cut
    split
    · simp
    · split <;> simp

/-- Cutting a text loses nothing but the slashes. -/
theorem intercalate_cut (cs : List Char) : ['/'].intercalate (cut cs) = cs := by
  induction cs with
  | nil => rfl
  | cons c cs ih =>
    obtain ⟨piece, rest, hc⟩ := List.exists_cons_of_ne_nil (cut_ne_nil cs)
    rw [hc] at ih
    by_cases h : c = '/'
    · simp_all [cut, List.intercalate]
    · cases rest <;> simp_all [cut, List.intercalate, List.intersperse]

end Path

end MeshlessGas
