/-
Flattening — one entry for every leaf of nested parameters.

An inner section is flattened on its own and merged into what came before it, so names that are
met again are put again.  Merging what was put one by one is putting one by one
(`putAll_putAll_empty`), and so all of flattening is: a name keeps the place of its first leaf and
the value of its last one.  Names without colons can be read back off a full name, part by part,
and then no two leaves meet.  What is flat stays as it is.
-/
import Mathlib.Data.List.Induction
import Mathlib.Data.List.TakeWhile
import MeshlessGas.Parameters.Set
import MeshlessGas.Proofs.DistinctNames

namespace MeshlessGas

/-! ## Storing one by one -/

namespace Entries

variable {α : Type}

theorem put_put_self (xs : Entries α) (name : String) (a b : α) :
    (xs.put name b).put name a = xs.put name a := by
  induction xs with
  | nil => exact if_pos rfl
  | cons x xs ih =>
    obtain ⟨k, c⟩ := x
    by_cases hk : k = name
    · rw [put, if_pos hk, put, if_pos hk, put, if_pos hk]
    · rw [put, if_neg hk, put, if_neg hk, put, if_neg hk, ih]

theorem mem_map_fst_put_self (xs : Entries α) (name : String) (a : α) :
    name ∈ (xs.put name a).map Prod.fst := by
  by_cases h : name ∈ xs.map Prod.fst
  · rw [map_fst_put_of_mem h]
    exact h
  · rw [put_of_notMem h, List.map_append]
    exact List.mem_append_right _ List.mem_cons_self

theorem mem_map_fst_put {xs : Entries α} {name : String} (h : name ∈ xs.map Prod.fst)
    (other : String) (b : α) : name ∈ (xs.put other b).map Prod.fst := by
  by_cases hother : other ∈ xs.map Prod.fst
  · rw [map_fst_put_of_mem hother]
    exact h
  · rw [put_of_notMem hother, List.map_append]
    exact List.mem_append_left _ h

/-- A name that has its place already can be stored before another one. -/
theorem put_comm_of_mem {xs : Entries α} {name other : String} (h : name ∈ xs.map Prod.fst)
    (hne : other ≠ name) (a b : α) :
    (xs.put other b).put name a = (xs.put name a).put other b := by
  induction xs with
  | nil => cases h
  | cons x xs ih =>
    obtain ⟨k, c⟩ := x
    by_cases hk : k = name
    · subst hk
      rw [put, if_neg (Ne.symm hne), put, if_pos rfl, put, if_pos rfl, put, if_neg (Ne.symm hne)]
    · have hlater : name ∈ xs.map Prod.fst := (List.mem_cons.mp h).resolve_left (Ne.symm hk)
      by_cases hother : k = other
      · rw [put, if_pos hother, put, if_neg hk, put, if_neg hk, put, if_pos hother]
      · rw [put, if_neg hother, put, if_neg hk, put, if_neg hk, put, if_neg hother, ih hlater]

theorem put_putAll_of_mem {xs : Entries α} {ys : List (String × α)} {name : String}
    (h : name ∈ xs.map Prod.fst) (hys : name ∉ ys.map Prod.fst) (a : α) :
    (xs.putAll ys).put name a = (xs.put name a).putAll ys := by
  induction ys generalizing xs with
  | nil => rfl
  | cons y ys ih =>
    rw [List.map_cons, List.mem_cons, not_or] at hys
    rw [putAll_cons, putAll_cons, ih (mem_map_fst_put h y.1 y.2) hys.2,
      put_comm_of_mem h (Ne.symm hys.1)]

theorem putAll_put {ys : Entries α} (h : (ys.map Prod.fst).Nodup) (xs : Entries α) (name : String)
    (a : α) : xs.putAll (ys.put name a) = (xs.putAll ys).put name a := by
  induction ys generalizing xs with
  | nil => rfl
  | cons y ys ih =>
    obtain ⟨k, b⟩ := y
    obtain ⟨hnew, hrest⟩ := List.nodup_cons.mp (List.map_cons ▸ h)
    by_cases hk : k = name
    · subst hk
      have hmem : k ∈ (xs.put k b).map Prod.fst := mem_map_fst_put_self xs k b
      rw [put, if_pos rfl, putAll_cons, putAll_cons, put_putAll_of_mem hmem hnew, put_put_self]
    · rw [put, if_neg hk, putAll_cons, putAll_cons, ih hrest]

theorem nodup_putAll_empty (ys : List (String × α)) : ((putAll [] ys).map Prod.fst).Nodup :=
  nodup_putAll (show (([] : Entries α).map Prod.fst).Nodup from .nil) ys

theorem putAll_putAll_empty (xs : Entries α) (ys : List (String × α)) :
    xs.putAll (putAll [] ys) = xs.putAll ys := by
  induction ys using List.reverseRecOn with
  | nil => rfl
  | append_singleton ys y ih =>
    rw [putAll_append, putAll_append, putAll_cons, putAll_nil, putAll_cons, putAll_nil,
      putAll_put (nodup_putAll_empty ys), ih]

/-- A name stands where it was met first. -/
theorem map_fst_putAll_empty (ys : List (String × α)) :
    (putAll [] ys).map Prod.fst = (ys.map Prod.fst).eraseDups := by
  induction ys using List.reverseRecOn with
  | nil => rfl
  | append_singleton ys y ih =>
    have hmem : y.1 ∈ (putAll [] ys).map Prod.fst ↔ y.1 ∈ ys.map Prod.fst := by
      rw [ih, List.mem_eraseDups]
    rw [putAll_append, putAll_cons, putAll_nil, List.map_append, List.eraseDups_append, ← ih]
    by_cases h : y.1 ∈ ys.map Prod.fst
    · rw [map_fst_put_of_mem (hmem.mpr h)]
      simp [List.removeAll, h]
    · rw [put_of_notMem (mt hmem.mp h), List.map_append]
      simp [List.removeAll, h, List.eraseDups_cons]

theorem get?_putAll_empty (ys : List (String × α)) (name : String) :
    (putAll [] ys).get? name = (ys.filter (·.1 = name)).getLast?.map Prod.snd := by
  induction ys using List.reverseRecOn with
  | nil => rfl
  | append_singleton ys y ih =>
    rw [putAll_append, putAll_cons, putAll_nil, List.filter_append]
    by_cases h : y.1 = name
    · have hlast : [y].filter (·.1 = name) = [y] := by simp [h]
      rw [hlast, ← h, get?_put_self, List.getLast?_concat]
      rfl
    · have hlast : [y].filter (·.1 = name) = [] := by simp [h]
      rw [hlast, List.append_nil, get?_put_of_ne _ _ (Ne.symm h), ih]

theorem mem_of_mem_put {xs : Entries α} {name : String} {a : α} {x : String × α}
    (h : x ∈ xs.put name a) : x ∈ xs ∨ x = (name, a) := by
  induction xs with
  | nil => exact .inr (List.mem_singleton.mp h)
  | cons y xs ih =>
    obtain ⟨k, b⟩ := y
    by_cases hk : k = name
    · rw [put, if_pos hk] at h
      obtain rfl | h := List.mem_cons.mp h
      · exact .inr (by rw [hk])
      · exact .inl (List.mem_cons_of_mem _ h)
    · rw [put, if_neg hk] at h
      obtain rfl | h := List.mem_cons.mp h
      · exact .inl List.mem_cons_self
      · exact (ih h).imp_left (List.mem_cons_of_mem _)

theorem mem_of_mem_putAll_empty {ys : List (String × α)} {x : String × α}
    (h : x ∈ putAll [] ys) : x ∈ ys := by
  induction ys using List.reverseRecOn with
  | nil => cases h
  | append_singleton ys y ih =>
    rw [putAll_append, putAll_cons, putAll_nil] at h
    obtain h | rfl := mem_of_mem_put h
    · exact List.mem_append_left _ (ih h)
    · exact List.mem_append_right _ List.mem_cons_self

/-- Entries as the dictionary that has the names as keys. -/
def asDictionary {D : Type} (xs : Entries (Value D)) : List (Value D × Value D) :=
  xs.map fun x => (.text x.1, x.2)

end Entries

/-! ## Names and the parts of full names -/

/-- A name that can be told from the colons around it. -/
def IsPlainName (name : String) : Prop := name ≠ "" ∧ ':' ∉ name.toList

namespace ParameterSection

/-- A full name is another one, or goes on behind it with a colon. -/
def IsWithin (full within : String) : Prop :=
  full = within ∨ ∃ rest, full = within ++ ":" ++ rest

theorem IsWithin.trans {a b c : String} (hab : IsWithin a b) (hbc : IsWithin b c) :
    IsWithin a c := by
  obtain rfl | ⟨s, rfl⟩ := hab
  · exact hbc
  · obtain rfl | ⟨t, rfl⟩ := hbc
    · exact .inr ⟨s, rfl⟩
    · exact .inr ⟨t ++ ":" ++ s, by simp only [String.append_assoc]⟩

theorem fullName_empty (name : String) : fullName "" name = name := if_pos rfl

theorem fullName_ne_empty {name : String} (h : name ≠ "") (within : String) :
    fullName within name ≠ "" := by
  unfold fullName
  split
  · exact h
  · intro heq
    have hlength := congrArg String.length heq
    rw [String.length_append, String.length_append] at hlength
    have hcolon : (":" : String).length = 1 := rfl
    have hempty : ("" : String).length = 0 := rfl
    omega

theorem isWithin_fullName {within : String} (h : within ≠ "") (name : String) :
    IsWithin (fullName within name) within :=
  .inr ⟨name, if_neg h⟩

def lead (within : String) : List Char := if within = "" then [] else within.toList ++ [':']

theorem toList_fullName (within name : String) :
    (fullName within name).toList = lead within ++ name.toList := by
  unfold fullName lead
  split
  · rfl
  · rw [String.toList_append, String.toList_append]
    rfl

theorem takeWhile_of_isWithin {full within name : String} (h : IsWithin full (fullName within name))
    (hname : ':' ∉ name.toList) :
    (full.toList.drop (lead within).length).takeWhile (· ≠ ':') = name.toList := by
  have hkeep : ∀ c ∈ name.toList, decide (c ≠ ':') = true := fun c hc =>
    decide_eq_true fun heq => hname (heq ▸ hc)
  obtain rfl | ⟨rest, rfl⟩ := h
  · rw [toList_fullName, List.drop_left, List.takeWhile_eq_self_iff]
    exact hkeep
  · have hcolon : (":" : String).toList = [':'] := rfl
    rw [String.toList_append, String.toList_append, toList_fullName, hcolon, List.append_assoc,
      List.append_assoc, List.drop_left, List.takeWhile_append_of_pos hkeep,
      List.singleton_append, List.takeWhile_cons_of_neg (by decide), List.append_nil]

/-- Names of one section with the same full name behind them are the same. -/
theorem eq_of_isWithin {full within a b : String} (ha : IsPlainName a) (hb : IsPlainName b)
    (hfa : IsWithin full (fullName within a)) (hfb : IsWithin full (fullName within b)) : a = b :=
  String.toList_injective
    ((takeWhile_of_isWithin hfa ha.2).symm.trans (takeWhile_of_isWithin hfb hb.2))

/-! ## Flattening a section -/

variable {D : Type} {s : ParameterSection D}

theorem flattenInto_eq_putAll (within : String) (flat : Entries (Value D)) :
    s.flattenInto within flat = flat.putAll (s.leaves within) := by
  induction s generalizing within flat with
  | nil => rfl
  | value name v rest ih => rw [flattenInto, ih, leaves, Entries.putAll_cons]
  | inner name entries rest ihEntries ihRest =>
    rw [flattenInto, ihEntries, ihRest, Entries.putAll_putAll_empty, leaves, Entries.putAll_append]

theorem flatten_eq_putAll_leaves (s : ParameterSection D) (within : String) :
    s.flatten within = Entries.putAll [] (s.leaves within) :=
  flattenInto_eq_putAll within []

def names : ParameterSection D → List String
  | nil => []
  | value name _ rest => name :: rest.names
  | inner name _ rest => name :: rest.names

/-- Plain names at every level, on each of them distinct. -/
inductive HasPlainNames : ParameterSection D → Prop
  | nil : HasPlainNames nil
  | value {name : String} {v : Value D} {rest : ParameterSection D} :
      IsPlainName name → name ∉ rest.names → rest.HasPlainNames →
      HasPlainNames (value name v rest)
  | inner {name : String} {entries rest : ParameterSection D} :
      IsPlainName name → name ∉ rest.names → entries.HasPlainNames → rest.HasPlainNames →
      HasPlainNames (inner name entries rest)

namespace HasPlainNames

theorem isPlainName (h : s.HasPlainNames) : ∀ name ∈ s.names, IsPlainName name := by
  induction h with
  | nil => exact nofun
  | value hname _ _ ih => exact List.forall_mem_cons.mpr ⟨hname, ih⟩
  | inner hname _ _ _ _ ih => exact List.forall_mem_cons.mpr ⟨hname, ih⟩

theorem exists_isWithin (h : s.HasPlainNames) {within : String} {x : String × Value D}
    (hx : x ∈ s.leaves within) : ∃ name ∈ s.names, IsWithin x.1 (fullName within name) := by
  induction h generalizing within with
  | nil => cases hx
  | @value name v rest _ _ _ ih =>
    obtain rfl | hx := List.mem_cons.mp hx
    · exact ⟨name, List.mem_cons_self, .inl rfl⟩
    · obtain ⟨other, hother, hwithin⟩ := ih hx
      exact ⟨other, List.mem_cons_of_mem _ hother, hwithin⟩
  | @inner name entries rest hname _ _ _ ihEntries ihRest =>
    obtain hx | hx := List.mem_append.mp hx
    · obtain ⟨part, -, hwithin⟩ := ihEntries hx
      have hne : fullName within name ≠ "" := fullName_ne_empty hname.1 within
      exact ⟨name, List.mem_cons_self, hwithin.trans (isWithin_fullName hne part)⟩
    · obtain ⟨other, hother, hwithin⟩ := ihRest hx
      exact ⟨other, List.mem_cons_of_mem _ hother, hwithin⟩

theorem notMem_leaves_rest {rest : ParameterSection D} (hrest : rest.HasPlainNames)
    {name within full : String} (hname : IsPlainName name) (hnew : name ∉ rest.names)
    (hfull : IsWithin full (fullName within name)) :
    full ∉ (rest.leaves within).map Prod.fst := by
  intro hmem
  obtain ⟨x, hx, rfl⟩ := List.mem_map.mp hmem
  obtain ⟨other, hother, hwithin⟩ := hrest.exists_isWithin hx
  have heq : name = other := eq_of_isWithin hname (hrest.isPlainName other hother) hfull hwithin
  exact hnew (heq ▸ hother)

theorem nodup_leaves (h : s.HasPlainNames) (within : String) :
    ((s.leaves within).map Prod.fst).Nodup := by
  induction h generalizing within with
  | nil => exact List.nodup_nil
  | value hname hnew hrest ih =>
    rw [leaves, List.map_cons, List.nodup_cons]
    exact ⟨hrest.notMem_leaves_rest hname hnew (.inl rfl), ih within⟩
  | @inner name entries rest hname hnew hentries hrest ihEntries ihRest =>
    rw [leaves, List.map_append, List.nodup_append]
    refine ⟨ihEntries _, ihRest within, ?_⟩
    rintro full hfull other hother rfl
    obtain ⟨x, hx, rfl⟩ := List.mem_map.mp hfull
    obtain ⟨part, -, hwithin⟩ := hentries.exists_isWithin hx
    have hne : fullName within name ≠ "" := fullName_ne_empty hname.1 within
    exact hrest.notMem_leaves_rest hname hnew (hwithin.trans (isWithin_fullName hne part)) hother

end HasPlainNames

/-! ## Sections of dictionaries -/

/-- The dictionaries that are met in one, itself among them. -/
inductive IsLevel : List (Value D × Value D) → List (Value D × Value D) → Prop
  | here (entries : List (Value D × Value D)) : IsLevel entries entries
  | inner {entries inside level : List (Value D × Value D)} {key : Value D} :
      (key, .dict inside) ∈ entries → IsLevel inside level → IsLevel entries level

/-- Plain names as keys at every level. -/
def HasPlainKeys (entries : List (Value D × Value D)) : Prop :=
  ∀ level, IsLevel entries level → ∀ e ∈ level, ∃ name, e.1 = .text name ∧ IsPlainName name

/-- Different keys at every level, as dictionaries have them. -/
def IsDictionary [Arithmetic D] (entries : List (Value D × Value D)) : Prop :=
  ∀ level, IsLevel entries level → level.Pairwise fun e e' => Value.sameKey e.1 e'.1 = false

variable {entries : List (Value D × Value D)}

theorem HasPlainKeys.tail {e : Value D × Value D} (h : HasPlainKeys (e :: entries)) :
    HasPlainKeys entries := by
  intro level hlevel
  cases hlevel with
  | here => exact fun e' he' => h _ (.here _) e' (List.mem_cons_of_mem _ he')
  | inner hmem hinside => exact h level (.inner (List.mem_cons_of_mem _ hmem) hinside)

theorem HasPlainKeys.inside {k : Value D} {inside : List (Value D × Value D)}
    (h : HasPlainKeys ((k, .dict inside) :: entries)) : HasPlainKeys inside :=
  fun level hlevel => h level (.inner List.mem_cons_self hlevel)

theorem IsDictionary.tail [Arithmetic D] {e : Value D × Value D} (h : IsDictionary (e :: entries)) :
    IsDictionary entries := by
  intro level hlevel
  cases hlevel with
  | here => exact (List.pairwise_cons.mp (h _ (.here _))).2
  | inner hmem hinside => exact h level (.inner (List.mem_cons_of_mem _ hmem) hinside)

theorem IsDictionary.inside [Arithmetic D] {k : Value D} {inside : List (Value D × Value D)}
    (h : IsDictionary ((k, .dict inside) :: entries)) : IsDictionary inside :=
  fun level hlevel => h level (.inner List.mem_cons_self hlevel)

variable [Numeral D]

/-- Nested dictionaries are looked at entry by entry, at all depths. -/
@[elab_as_elim]
theorem entries_induction {motive : List (Value D × Value D) → Prop} (nil : motive [])
    (value : ∀ k v rest, (∀ inside, v ≠ .dict inside) → motive rest → motive ((k, v) :: rest))
    (inner : ∀ k inside rest, motive inside → motive rest → motive ((k, .dict inside) :: rest))
    (entries : List (Value D × Value D)) : motive entries := by
  refine ofEntries.induct
    (fun _ _ v => ∀ k rest, motive rest → motive ((k, v) :: rest)) motive ?_ ?_ nil ?_ entries
  · exact fun _ _ inside hinside k rest hrest => inner k inside rest hinside hrest
  · exact fun _ _ v hv k rest hrest => value k v rest (fun inside heq => hv inside heq) hrest
  · exact fun k v rest hrest hentry => hentry k rest hrest

theorem ofEntries_value {k v : Value D} (hv : ∀ inside, v ≠ .dict inside)
    (rest : List (Value D × Value D)) :
    ofEntries ((k, v) :: rest) = .value k.asText v (ofEntries rest) := by
  rw [ofEntries, entry]
  exact hv

theorem ofEntries_inner (k : Value D) (inside rest : List (Value D × Value D)) :
    ofEntries ((k, .dict inside) :: rest) = .inner k.asText (ofEntries inside) (ofEntries rest) := by
  rw [ofEntries, entry]

theorem names_ofEntries (entries : List (Value D × Value D)) :
    (ofEntries entries).names = entries.map fun e => e.1.asText := by
  induction entries using entries_induction with
  | nil => rw [ofEntries, names, List.map_nil]
  | value k v rest hv ih => rw [ofEntries_value hv, names, ih, List.map_cons]
  | inner k inside rest _ ih => rw [ofEntries_inner, names, ih, List.map_cons]

theorem ne_dict_of_mem_leaves {within : String} {x : String × Value D}
    (hx : x ∈ (ofEntries entries).leaves within) : ∀ inside, x.2 ≠ .dict inside := by
  induction entries using entries_induction generalizing within with
  | nil => cases hx
  | value k v rest hv ih =>
    rw [ofEntries_value hv, leaves] at hx
    obtain rfl | hx := List.mem_cons.mp hx
    · exact hv
    · exact ih hx
  | inner k inside rest ihInside ihRest =>
    rw [ofEntries_inner, leaves] at hx
    obtain hx | hx := List.mem_append.mp hx
    · exact ihInside hx
    · exact ihRest hx

theorem leaves_asDictionary {xs : Entries (Value D)} (h : ∀ x ∈ xs, ∀ inside, x.2 ≠ .dict inside) :
    (ofEntries xs.asDictionary).leaves "" = xs := by
  induction xs with
  | nil => rfl
  | cons x xs ih =>
    obtain ⟨hx, hxs⟩ := List.forall_mem_cons.mp h
    have hcons : Entries.asDictionary (x :: xs) = (.text x.1, x.2) :: Entries.asDictionary xs := rfl
    rw [hcons, ofEntries_value hx, leaves, fullName_empty, ih hxs]
    rfl

theorem flatten_asDictionary_flatten (entries : List (Value D × Value D)) (within : String) :
    (ofEntries ((ofEntries entries).flatten within).asDictionary).flatten ""
      = (ofEntries entries).flatten within := by
  set xs : List (String × Value D) := (ofEntries entries).leaves within with hxs
  have hflat : ∀ x ∈ Entries.putAll [] xs, ∀ inside, x.2 ≠ .dict inside := fun x hx =>
    ne_dict_of_mem_leaves (Entries.mem_of_mem_putAll_empty hx)
  rw [flatten_eq_putAll_leaves, flatten_eq_putAll_leaves, ← hxs, leaves_asDictionary hflat,
    Entries.putAll_empty (Entries.nodup_putAll_empty xs)]

section Dictionaries

variable [Arithmetic D]

theorem IsDictionary.isPlainName_head {e : Value D × Value D} (h : IsDictionary (e :: entries))
    (hkeys : HasPlainKeys (e :: entries)) :
    IsPlainName e.1.asText ∧ e.1.asText ∉ (ofEntries entries).names := by
  obtain ⟨name, hname, hplain⟩ := hkeys _ (.here _) e List.mem_cons_self
  rw [hname, names_ofEntries]
  refine ⟨hplain, fun hmem => ?_⟩
  obtain ⟨e', he', heq⟩ := List.mem_map.mp hmem
  obtain ⟨other, hother, -⟩ := hkeys _ (.here _) e' (List.mem_cons_of_mem _ he')
  have hdiffer : Value.sameKey e.1 e'.1 = false := (List.pairwise_cons.mp (h _ (.here _))).1 e' he'
  rw [hname, hother] at hdiffer
  rw [hother] at heq
  exact of_decide_eq_false hdiffer heq.symm

theorem IsDictionary.hasPlainNames (h : IsDictionary entries) (hkeys : HasPlainKeys entries) :
    (ofEntries entries).HasPlainNames := by
  induction entries using entries_induction with
  | nil => exact .nil
  | value k v rest hv ih =>
    obtain ⟨hplain, hnew⟩ := h.isPlainName_head hkeys
    rw [ofEntries_value hv]
    exact .value hplain hnew (ih h.tail hkeys.tail)
  | inner k inside rest ihInside ihRest =>
    obtain ⟨hplain, hnew⟩ := h.isPlainName_head hkeys
    rw [ofEntries_inner]
    exact .inner hplain hnew (ihInside h.inside hkeys.inside) (ihRest h.tail hkeys.tail)

/-- Flattening keeps the right leaf for every name: it stores the leaves one by one in depth-first
order, so a name keeps its first place and its last leaf.  In dictionaries of plain names no two
leaves meet, and all of them are kept.  Flattening what is flat changes nothing, and the parameters
of a nested dictionary are those of the flat one. -/
theorem flatten_ofEntries (entries : List (Value D × Value D)) (within : String) :
    let leaves := (ofEntries entries).leaves within
    let flat := (ofEntries entries).flatten within
    flat = Entries.putAll [] leaves ∧
      flat.map Prod.fst = (leaves.map Prod.fst).eraseDups ∧
      (∀ name, flat.get? name = (leaves.filter (·.1 = name)).getLast?.map Prod.snd) ∧
      (IsDictionary entries → HasPlainKeys entries →
        (leaves.map Prod.fst).Nodup ∧ flat = leaves ∧ flat.length = leaves.length) ∧
      (ofEntries flat.asDictionary).flatten "" = flat ∧
      (within = "" → ParameterSet.ofSection (ofEntries flat.asDictionary)
        = ParameterSet.ofSection (ofEntries entries)) := by
  intro leaves flat
  have hflat : flat = Entries.putAll [] leaves := flatten_eq_putAll_leaves _ within
  have hagain : (ofEntries flat.asDictionary).flatten "" = flat :=
    flatten_asDictionary_flatten entries within
  refine ⟨hflat, ?_, ?_, ?_, hagain, ?_⟩
  · rw [hflat]
    exact Entries.map_fst_putAll_empty leaves
  · intro name
    rw [hflat]
    exact Entries.get?_putAll_empty leaves name
  · intro hdictionary hkeys
    have hnodup : (leaves.map Prod.fst).Nodup :=
      (hdictionary.hasPlainNames hkeys).nodup_leaves within
    have hall : flat = leaves := hflat.trans (Entries.putAll_empty hnodup)
    exact ⟨hnodup, hall, congrArg List.length hall⟩
  · rintro rfl
    exact congrArg ParameterSet.mk hagain

end Dictionaries

def sampleSections : List (Value Float × Value Float) :=
  [(.text "SPH", .dict [(.text "CFL_condition", .real 0.1), (.text "resolution_eta", .real 1.2)]),
    (.text "Snapshots", .dict [])]

theorem isLevel_sampleSections {level : List (Value Float × Value Float)}
    (h : IsLevel sampleSections level) :
    level = sampleSections ∨
      level = [(.text "CFL_condition", .real 0.1), (.text "resolution_eta", .real 1.2)] ∨
      level = [] := by
  cases h with
  | here => exact .inl rfl
  | inner hmem hlevel =>
    simp only [sampleSections, List.mem_cons, Prod.mk.injEq, Value.dict.injEq, List.not_mem_nil,
      or_false] at hmem
    obtain ⟨-, rfl⟩ | ⟨-, rfl⟩ := hmem
    · cases hlevel with
      | here => exact .inr (.inl rfl)
      | inner hmem _ => simp at hmem
    · cases hlevel with
      | here => exact .inr (.inr rfl)
      | inner hmem _ => cases hmem

/-- Sections of plain names keep all their leaves. -/
theorem flatten_ofEntries_sampleSections :
    IsDictionary sampleSections ∧ HasPlainKeys sampleSections ∧
      (ofEntries sampleSections).flatten ""
        = [("SPH:CFL_condition", .real 0.1), ("SPH:resolution_eta", .real 1.2)] := by
  have hdictionary : IsDictionary sampleSections := by
    intro level hlevel
    obtain rfl | rfl | rfl := isLevel_sampleSections hlevel
    all_goals decide
  have hkeys : HasPlainKeys sampleSections := by
    intro level hlevel
    have hplain : ∀ name : String, name ≠ "" → ':' ∉ name.toList →
        ∃ s, Value.text name = (Value.text s : Value Float) ∧ IsPlainName s :=
      fun name hne hcolon => ⟨name, rfl, hne, hcolon⟩
    obtain rfl | rfl | rfl := isLevel_sampleSections hlevel
    · exact List.forall_mem_cons.mpr ⟨hplain _ (by decide) (by decide),
        List.forall_mem_singleton.mpr (hplain _ (by decide) (by decide))⟩
    · exact List.forall_mem_cons.mpr ⟨hplain _ (by decide) (by decide),
        List.forall_mem_singleton.mpr (hplain _ (by decide) (by decide))⟩
    · exact nofun
  obtain ⟨-, -, -, hplain, -⟩ := flatten_ofEntries sampleSections ""
  exact ⟨hdictionary, hkeys, (hplain hdictionary hkeys).2.1.trans rfl⟩

/-- A leaf and a name with a colon that meet: the name stands first, the last value counts. -/
example : (ofEntries [((.text "a" : Value Float), .dict [(.text "b", .int 1)]),
    (.text "c", .int 3), (.text "a:b", .int 2)]).flatten "" = [("a:b", .int 2), ("c", .int 3)] := rfl

end ParameterSection

end MeshlessGas
