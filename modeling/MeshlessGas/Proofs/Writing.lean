/-
Runs of writing actions — what an action that succeeds leaves behind.

`Runs action f a g` says that the action succeeds on the archive `f` with the result `a` and
leaves `g`.  Every action has one law of the form `Runs … ↔ …`: read from left to right it
tells what a success has stored, read from right to left which checks are enough for one.
All parts of a file are groups below the root, so the laws of the actions are stated for an
archive of which one such group was put last.
-/
import MeshlessGas.Archive.Tree

namespace MeshlessGas

/-! ## Tables -/

namespace Table

variable {α : Type}

theorem insert_insert (t : Table α) (name : String) (a b : α) :
    (t.insert name a).insert name b = t.insert name b := by
  induction t with
  | nil => simp [insert]
  | cons x t ih =>
    obtain ⟨k, c⟩ := x
    by_cases hk : k = name
    · simp [insert, hk]
    · by_cases hlt : name < k
      · simp [insert, hk, hlt]
      · simp [insert, hk, hlt, ih]

theorem find?_insert (t : Table α) (name other : String) (a : α) :
    (t.insert name a).find? other = if other = name then some a else t.find? other := by
  by_cases h : other = name
  · subst h
    rw [find?_insert_self, if_pos rfl]
  · rw [find?_insert_of_ne t a h, if_neg h]

end Table

/-! ## Names of one component -/

/-- A text that is a path of one component, and its name. -/
structure Path.IsName (name : String) : Prop where
  ne_empty : name ≠ ""
  beforeNull : Path.beforeNull name = name
  components : Path.components name = [name]
  not_absolute : Path.isAbsolute name = false
  split : Path.split name = (none, name)

namespace Path.IsName

theorem resolve {name : String} (h : IsName name) (start : Place) :
    Path.resolve start name = start ++ [name] := by
  simp only [Path.resolve, h.beforeNull, h.not_absolute, h.components]
  rfl

end Path.IsName

/-! ## Groups below the root -/

namespace Archive

variable {D S : Type}

/-- The archive with a group below the root in place of what is there. -/
def put (f : Archive D S) (name : String) (g : Group D S) : Archive D S :=
  ⟨f.groups.insert name g⟩

@[simp] theorem group?_single (f : Archive D S) (name : String) :
    f.group? [name] = f.groups.find? name := rfl

theorem find?_put (f : Archive D S) (name other : String) (g : Group D S) :
    (f.put name g).groups.find? other
      = if other = name then some g else f.groups.find? other :=
  Table.find?_insert f.groups name other g

@[simp] theorem find?_put_self (f : Archive D S) (name : String) (g : Group D S) :
    (f.put name g).groups.find? name = some g :=
  Table.find?_insert_self f.groups name g

@[simp] theorem put_put (f : Archive D S) (name : String) (g h : Group D S) :
    (f.put name g).put name h = f.put name h :=
  congrArg Archive.mk (Table.insert_insert f.groups name g h)

theorem updateGroup_put (f : Archive D S) (name : String) (g : Group D S)
    (change : Group D S → Group D S) :
    (f.put name g).updateGroup [name] change = f.put name (change g) := by
  have hself : (f.put name g).groups.find? (Path.join [name]) = some g := find?_put_self f name g
  simp only [updateGroup, hself, Option.getD_some]
  exact put_put f name g (change g)

theorem dataset?_put (f : Archive D S) (name field : String) (g : Group D S) :
    (f.put name g).dataset? [name, field] = g.datasets.find? field := by
  show ((f.put name g).groups.find? name).bind (fun g => g.datasets.find? field) = _
  rw [find?_put_self]
  rfl

end Archive

namespace Writing

variable {D S α β : Type} {f g : Archive D S}

/-- The action succeeds on an archive with a result, and leaves another archive. -/
def Runs (action : Writing D S α) (f : Archive D S) (a : α) (g : Archive D S) : Prop :=
  action.run.run f = (.ok a, g)

/-! ## Combining actions -/

theorem runs_pure {a b : α} : Runs (pure b : Writing D S α) f a g ↔ a = b ∧ g = f := by
  show ((Except.ok b, f) : Except Failure α × Archive D S) = (.ok a, g) ↔ _
  rw [Prod.mk.injEq, Except.ok.injEq]
  exact and_congr eq_comm eq_comm

theorem runs_throw {a : α} {e : Failure} : Runs (throw e : Writing D S α) f a g ↔ False := by
  show ((Except.error e, f) : Except Failure α × Archive D S) = (.ok a, g) ↔ _
  simp

theorem runs_get {a : Archive D S} : Runs get f a g ↔ a = f ∧ g = f := by
  show ((Except.ok f, f) : Except Failure (Archive D S) × Archive D S) = (.ok a, g) ↔ _
  rw [Prod.mk.injEq, Except.ok.injEq]
  exact and_congr eq_comm eq_comm

theorem runs_modify {u : Unit} {change : Archive D S → Archive D S} :
    Runs (modify change) f u g ↔ g = change f := by
  show ((Except.ok (), change f) : Except Failure Unit × Archive D S) = (.ok u, g) ↔ _
  rw [Prod.mk.injEq, Except.ok.injEq]
  exact ⟨fun h => h.2.symm, fun h => ⟨rfl, h.symm⟩⟩

theorem runs_lift {a : α} {x : Except Failure α} :
    Runs (liftM x : Writing D S α) f a g ↔ x = .ok a ∧ g = f := by
  show ((x, f) : Except Failure α × Archive D S) = (.ok a, g) ↔ _
  rw [Prod.mk.injEq]
  exact and_congr Iff.rfl eq_comm

theorem liftM_ok (a : α) : (liftM (Except.ok a : Except Failure α) : Writing D S α) = pure a :=
  rfl

theorem runs_bind {x : Writing D S α} {k : α → Writing D S β} {b : β} :
    Runs (x >>= k) f b g ↔ ∃ a h, Runs x f a h ∧ Runs (k a) h b g := by
  have hrun : (x >>= k).run.run f = match x.run.run f with
      | (.ok a, h) => (k a).run.run h
      | (.error e, h) => (.error e, h) := by
    rw [ExceptT.run_bind, StateT.run_bind]
    rcases x.run.run f with ⟨_ | _, _⟩ <;> rfl
  unfold Runs
  rw [hrun]
  rcases x.run.run f with ⟨e | a, h⟩
  · constructor
    · intro hk
      cases hk
    · rintro ⟨_, _, heq, _⟩
      cases heq
  · constructor
    · intro hk
      exact ⟨a, h, rfl, hk⟩
    · rintro ⟨a', h', heq, hk⟩
      cases heq
      exact hk

theorem runs_pure_bind {a : α} {k : α → Writing D S β} {b : β} :
    Runs (pure a >>= k) f b g ↔ Runs (k a) f b g := by
  rw [pure_bind]

theorem runs_throw_bind {e : Failure} {k : α → Writing D S β} {b : β} :
    Runs (throw e >>= k) f b g ↔ False := by
  rw [runs_bind]
  constructor
  · rintro ⟨_, _, hthrow, _⟩
    exact runs_throw.mp hthrow
  · exact False.elim

theorem runs_get_bind {k : Archive D S → Writing D S β} {b : β} :
    Runs (get >>= k) f b g ↔ Runs (k f) f b g := by
  rw [runs_bind]
  constructor
  · rintro ⟨a, h, hget, hk⟩
    obtain ⟨ha, hh⟩ := runs_get.mp hget
    rwa [ha, hh] at hk
  · intro hk
    exact ⟨f, f, runs_get.mpr ⟨rfl, rfl⟩, hk⟩

theorem runs_modify_bind {change : Archive D S → Archive D S} {k : Unit → Writing D S β} {b : β} :
    Runs (modify change >>= k) f b g ↔ Runs (k ()) (change f) b g := by
  rw [runs_bind]
  constructor
  · rintro ⟨_, h, hmodify, hk⟩
    rwa [runs_modify.mp hmodify] at hk
  · intro hk
    exact ⟨(), _, runs_modify.mpr rfl, hk⟩

theorem runs_lift_bind {x : Except Failure α} {k : α → Writing D S β} {b : β} :
    Runs (liftM x >>= k) f b g ↔ ∃ a, x = .ok a ∧ Runs (k a) f b g := by
  rw [runs_bind]
  constructor
  · rintro ⟨a, h, hlift, hk⟩
    obtain ⟨hx, hh⟩ := runs_lift.mp hlift
    rw [hh] at hk
    exact ⟨a, hx, hk⟩
  · rintro ⟨a, hx, hk⟩
    exact ⟨a, f, runs_lift.mpr ⟨hx, rfl⟩, hk⟩

theorem runs_ite {p : Prop} [Decidable p] {x y : Writing D S α} {a : α} :
    Runs (if p then x else y) f a g ↔ if p then Runs x f a g else Runs y f a g := by
  split <;> exact Iff.rfl

/-- A check that fails with a failure of its own. -/
theorem runs_unless {p : Prop} [Decidable p] {e : Failure} {k : α → Writing D S β}
    {y : Writing D S β} {b : β} :
    Runs (if p then throw e >>= k else y) f b g ↔ ¬ p ∧ Runs y f b g := by
  rw [runs_ite, runs_throw_bind]
  by_cases hp : p
  · simp [hp]
  · simp [hp]

theorem runs_forM_nil {k : α → Writing D S Unit} {u : Unit} :
    Runs (([] : List α).forM k) f u g ↔ g = f := by
  show Runs (pure ()) f u g ↔ _
  rw [runs_pure]
  exact ⟨fun h => h.2, fun h => ⟨rfl, h⟩⟩

theorem runs_forM_cons {k : α → Writing D S Unit} {a : α} {as : List α} {u : Unit} :
    Runs ((a :: as).forM k) f u g ↔ ∃ h, Runs (k a) f () h ∧ Runs (as.forM k) h () g := by
  show Runs (k a >>= fun _ => as.forM k) f u g ↔ _
  rw [runs_bind]
  exact ⟨fun ⟨_, h, hk⟩ => ⟨h, hk⟩, fun ⟨h, hk⟩ => ⟨(), h, hk⟩⟩

theorem forM_map {γ : Type} (h : γ → α) (k : α → Writing D S Unit) :
    ∀ xs : List γ, (xs.map h).forM k = xs.forM fun x => k (h x)
  | [] => rfl
  | x :: xs => congrArg (k (h x) >>= fun _ => ·) (forM_map h k xs)

/-! ## Attributes -/

/-- The text of an attribute, which numbers do not have. -/
def textOf? : Attribute D S → Option String
  | .text s | .encoded s => some s
  | _ => none

@[simp] theorem textOf?_text (s : String) : textOf? (.text s : Attribute D S) = some s := rfl

@[simp] theorem textOf?_encoded (s : String) : textOf? (.encoded s : Attribute D S) = some s := rfl

@[simp] theorem textOf?_numbers (a : NumericArray D S) : textOf? (.numbers a) = none := rfl

@[simp] theorem textOf?_complex (re im : D) : textOf? (.complex re im : Attribute D S) = none := rfl

/-- An attribute that can be stored: its name does not vanish, and no null character stands
in its text. -/
def Storable (name : String) (a : Attribute D S) : Prop :=
  Path.beforeNull name ≠ "" ∧ ∀ s ∈ textOf? a, storable s = true

theorem insertAttribute_eq_ok {name : String} {a : Attribute D S}
    {t t' : Table (Attribute D S)} :
    insertAttribute name a t = .ok t' ↔
      Storable name a ∧ t' = t.insert (Path.beforeNull name) a := by
  have htext : ∀ s : String, (if Path.beforeNull name = "" then .error .nameless
      else if ¬ storable s = true then .error .badValue
      else (.ok (t.insert (Path.beforeNull name) a) : Except Failure _)) = .ok t' ↔
        (Path.beforeNull name ≠ "" ∧ storable s = true) ∧
          t' = t.insert (Path.beforeNull name) a := by
    intro s
    by_cases hname : Path.beforeNull name = ""
    · simp [hname]
    · by_cases hs : storable s = true
      · simp only [hname, hs, if_false, not_true_eq_false, Except.ok.injEq]
        exact ⟨fun h => ⟨⟨hname, trivial⟩, h.symm⟩, fun h => h.2.symm⟩
      · simp [hname, hs]
  have hplain : (if Path.beforeNull name = "" then .error .nameless
      else (.ok (t.insert (Path.beforeNull name) a) : Except Failure _)) = .ok t' ↔
        Path.beforeNull name ≠ "" ∧ t' = t.insert (Path.beforeNull name) a := by
    by_cases hname : Path.beforeNull name = ""
    · simp [hname]
    · simp only [hname, if_false, Except.ok.injEq]
      exact ⟨fun h => ⟨hname, h.symm⟩, fun h => h.2.symm⟩
  cases a with
  | text s => simpa [insertAttribute, Storable] using htext s
  | encoded s => simpa [insertAttribute, Storable] using htext s
  | numbers values => simpa [insertAttribute, Storable] using hplain
  | complex re im => simpa [insertAttribute, Storable] using hplain

/-- Attributes stored one after the other among others. -/
def storeAll (t : Table (Attribute D S)) (attributes : List (String × Attribute D S)) :
    Table (Attribute D S) :=
  attributes.foldl (fun t x => t.insert (Path.beforeNull x.1) x.2) t

variable {name field : String} {group : Group D S}

theorem runs_createGroup {u : Unit} :
    Runs (createGroup [name]) f u g ↔ f.at? [name] = none ∧ g = f.put name .empty := by
  have hput : f.at? [name] = none → f.updateGroup [name] id = f.put name .empty := by
    intro hnone
    have hgroup : f.groups.find? (Path.join [name]) = none := by
      cases h : f.groups.find? (Path.join [name]) with
      | none => rfl
      | some x =>
        have hx : f.group? [name] = some x := h
        simp [Archive.at?, hx] at hnone
    simp only [Archive.updateGroup, hgroup, Option.getD_none, id]
    rfl
  have hdataset : f.at? [name] = none → f.dataset? [name] = none := by
    intro hnone
    unfold Archive.at? at hnone
    split at hnone
    · cases hnone
    · simpa using hnone
  simp only [createGroup, makeGroups, runs_get_bind, runs_unless, runs_modify_bind, runs_pure,
    List.nil_append, Option.not_isSome_iff_eq_none]
  constructor
  · rintro ⟨hat, -, -, rfl⟩
    exact ⟨hat, hput hat⟩
  · rintro ⟨hat, rfl⟩
    exact ⟨hat, hdataset hat, trivial, (hput hat).symm⟩

theorem runs_writeAttribute {key : String} {a : Attribute D S} {u : Unit} :
    Runs (writeAttribute [name] key a) (f.put name group) u g ↔
      Storable key a ∧ g = f.put name
        { group with attributes := group.attributes.insert (Path.beforeNull key) a } := by
  simp only [writeAttribute, runs_get_bind, runs_lift_bind, runs_modify, Archive.group?_single,
    Archive.find?_put_self, Option.getD_some, insertAttribute_eq_ok, Archive.updateGroup_put]
  constructor
  · rintro ⟨t, ⟨hstorable, rfl⟩, rfl⟩
    exact ⟨hstorable, rfl⟩
  · rintro ⟨hstorable, rfl⟩
    exact ⟨_, ⟨hstorable, rfl⟩, rfl⟩

/-- Many attributes of a group: all of them must be storable. -/
theorem runs_writeAttributes {attributes : List (String × Attribute D S)} {u : Unit} :
    Runs (attributes.forM fun x => writeAttribute [name] x.1 x.2) (f.put name group) u g ↔
      (∀ x ∈ attributes, Storable x.1 x.2) ∧
        g = f.put name { group with attributes := storeAll group.attributes attributes } := by
  induction attributes generalizing group with
  | nil =>
    rw [runs_forM_nil]
    simp [storeAll]
  | cons x attributes ih =>
    rw [runs_forM_cons]
    constructor
    · rintro ⟨_, hx, hrest⟩
      obtain ⟨hstorable, rfl⟩ := runs_writeAttribute.mp hx
      obtain ⟨hall, rfl⟩ := ih.mp hrest
      exact ⟨List.forall_mem_cons.mpr ⟨hstorable, hall⟩, rfl⟩
    · rintro ⟨hall, rfl⟩
      obtain ⟨hstorable, hrest⟩ := List.forall_mem_cons.mp hall
      exact ⟨_, runs_writeAttribute.mpr ⟨hstorable, rfl⟩, ih.mpr ⟨hrest, rfl⟩⟩

/-! ## Datasets -/

theorem at?_put_eq_none :
    (f.put name group).at? [name, field] = none ↔
      f.groups.find? (Path.join [name, field]) = none ∧ group.datasets.find? field = none := by
  have hne : Path.join [name, field] ≠ name := by
    intro heq
    have hlength := congrArg String.length heq
    have hjoin : Path.join [name, field] = name ++ "/" ++ field := rfl
    rw [hjoin, String.length_append, String.length_append] at hlength
    have hslash : ("/" : String).length = 1 := rfl
    omega
  have hgroup : (f.put name group).group? [name, field]
      = f.groups.find? (Path.join [name, field]) := by
    show (f.put name group).groups.find? (Path.join [name, field]) = _
    rw [Archive.find?_put, if_neg hne]
  unfold Archive.at?
  rw [hgroup, Archive.dataset?_put]
  cases f.groups.find? (Path.join [name, field]) <;> simp

theorem runs_createDataset (hfield : Path.IsName field) {values : NumericArray D S}
    {place : Place} :
    Runs (createDataset [name] field values) (f.put name group) place g ↔
      (f.put name group).at? [name, field] = none ∧ place = [name, field] ∧
        g = f.put name
          { group with datasets := group.datasets.insert field ⟨values, [], .plain⟩ } := by
  have hrequire : (requireGroup [name] : Writing D S Unit).run.run (f.put name group)
      = (.ok (), f.put name group) := by
    have hat : (f.put name group).at? [name] = some (.group group) := by
      simp [Archive.at?]
    have hrun : Runs (requireGroup [name]) (f.put name group) () (f.put name group) := by
      rw [requireGroup, runs_get_bind, hat]
      exact runs_pure.mpr ⟨rfl, rfl⟩
    exact hrun
  have hplace : (placeOf [name] field : Writing D S Place) = pure [name, field] := by
    simp only [placeOf, hfield.beforeNull, hfield.ne_empty, if_false, hfield.resolve]
    rfl
  have hrequire_bind : ∀ {k : Unit → Writing D S Place},
      Runs (requireGroup [name] >>= k) (f.put name group) place g ↔
        Runs (k ()) (f.put name group) place g := by
    intro k
    rw [runs_bind]
    constructor
    · rintro ⟨_, h, hrun, hk⟩
      cases hrequire.symm.trans hrun
      exact hk
    · intro hk
      exact ⟨(), _, hrequire, hk⟩
  have hformat : FieldFormat.isStored .plain = true := rfl
  have hdrop : [name, field].dropLast = [name] := rfl
  have hlast : [name, field].getLast?.getD "" = field := rfl
  simp only [createDataset, hfield.split, hplace, hformat, runs_unless, runs_pure_bind,
    hrequire_bind, runs_get_bind, runs_modify_bind, runs_pure, not_true_eq_false,
    not_false_eq_true, true_and, Option.not_isSome_iff_eq_none, hdrop, hlast,
    Archive.updateGroup_put, hfield.ne_empty]

theorem runs_writeDatasetAttribute {key : String} {a : Attribute D S} {u : Unit}
    {datasets : Table (Dataset D S)} {d : Dataset D S} :
    Runs (writeDatasetAttribute [name, field] key a)
        (f.put name { group with datasets := datasets.insert field d }) u g ↔
      Storable key a ∧ g = f.put name { group with
        datasets := datasets.insert field
          { d with attributes := d.attributes.insert (Path.beforeNull key) a } } := by
  have hfound : (f.put name { group with datasets := datasets.insert field d }).dataset?
      [name, field] = some d := by
    rw [Archive.dataset?_put]
    exact Table.find?_insert_self datasets field d
  have hdrop : [name, field].dropLast = [name] := rfl
  have hlast : [name, field].getLast?.getD "" = field := rfl
  simp only [writeDatasetAttribute, runs_get_bind, hfound, runs_lift_bind, runs_modify, hdrop,
    hlast, insertAttribute_eq_ok, Archive.updateGroup_put, Table.insert_insert]
  constructor
  · rintro ⟨t, ⟨hstorable, rfl⟩, rfl⟩
    exact ⟨hstorable, rfl⟩
  · rintro ⟨hstorable, rfl⟩
    exact ⟨_, ⟨hstorable, rfl⟩, rfl⟩

theorem runs_writeDatasetAttributes {attributes : List (String × Attribute D S)} {u : Unit}
    {datasets : Table (Dataset D S)} {d : Dataset D S} :
    Runs (attributes.forM fun x => writeDatasetAttribute [name, field] x.1 x.2)
        (f.put name { group with datasets := datasets.insert field d }) u g ↔
      (∀ x ∈ attributes, Storable x.1 x.2) ∧ g = f.put name { group with
        datasets := datasets.insert field
          { d with attributes := storeAll d.attributes attributes } } := by
  induction attributes generalizing d with
  | nil =>
    rw [runs_forM_nil]
    simp [storeAll]
  | cons x attributes ih =>
    rw [runs_forM_cons]
    constructor
    · rintro ⟨_, hx, hrest⟩
      obtain ⟨hstorable, rfl⟩ := runs_writeDatasetAttribute.mp hx
      obtain ⟨hall, rfl⟩ := ih.mp hrest
      exact ⟨List.forall_mem_cons.mpr ⟨hstorable, hall⟩, rfl⟩
    · rintro ⟨hall, rfl⟩
      obtain ⟨hstorable, hrest⟩ := List.forall_mem_cons.mp hall
      exact ⟨_, runs_writeDatasetAttribute.mpr ⟨hstorable, rfl⟩, ih.mpr ⟨hrest, rfl⟩⟩

end Writing

end MeshlessGas
