/-
Tables — entries under names, kept in the byte order of the names.

This is the order in which an archive lists its members and attributes.  The view
of a table is `find?`: inserting changes it at one name and nowhere else.
-/

namespace MeshlessGas

/-- Entries under names, in the order of the names. -/
abbrev Table (α : Type) := List (String × α)

namespace Table

variable {α : Type}

/-- The entry under a name. -/
def find? (t : Table α) (name : String) : Option α :=
  match t with
  | [] => none
  | (k, a) :: rest => if k = name then some a else find? rest name

/-- Puts an entry under a name, in place of an entry that is there already. -/
def insert (t : Table α) (name : String) (a : α) : Table α :=
  match t with
  | [] => [(name, a)]
  | (k, b) :: rest =>
    if k = name then (name, a) :: rest
    else if name < k then (name, a) :: (k, b) :: rest
    else (k, b) :: insert rest name a

/-- The names in order. -/
def names (t : Table α) : List String := t.map Prod.fst

/-- The table of some entries; the last entry under a name counts. -/
def ofList (xs : List (String × α)) : Table α :=
  xs.foldl (fun t x => insert t x.1 x.2) []

@[simp] theorem find?_nil (name : String) : find? ([] : Table α) name = none := rfl

theorem find?_insert_self (t : Table α) (name : String) (a : α) :
    (t.insert name a).find? name = some a := by
  induction t with
  | nil => simp [insert, find?]
  | cons x t ih =>
    obtain ⟨k, b⟩ := x
    unfold insert
    split
    · simp [find?]
    · split
      · simp [find?]
      · next h _ => simp [find?, h, ih]

theorem find?_insert_of_ne (t : Table α) {name other : String} (a : α) (h : other ≠ name) :
    (t.insert name a).find? other = t.find? other := by
  induction t with
  | nil => simp [insert, find?, Ne.symm h]
  | cons x t ih =>
    obtain ⟨k, b⟩ := x
    unfold insert
    split
    next hk => subst hk; simp [find?, Ne.symm h]
    next hk =>
      split
      · simp [find?, Ne.symm h]
      · simp [find?, ih]

end Table

end MeshlessGas
