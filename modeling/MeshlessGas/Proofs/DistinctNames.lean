/-
Distinct names — tables and entries in which no name stands twice.

Where names are distinct, the order in which values were put under them does not matter: a
sorted table holds the same pairs as the list it is made of, entries only grow at their end, and
what is found under a name depends on the pairs alone.  A table keeps its names in order, and is
the only one with its pairs.
-/
import Mathlib.Data.List.Basic
import Mathlib.Data.String.Basic
import MeshlessGas.Archive.Table
import MeshlessGas.Parameters.Section

namespace MeshlessGas

namespace Table

variable {α : Type}

theorem insert_perm {t : Table α} {name : String} (h : name ∉ t.map Prod.fst) (a : α) :
    (t.insert name a).Perm ((name, a) :: t) := by
  induction t with
  | nil => exact List.Perm.refl _
  | cons x t ih =>
    obtain ⟨k, b⟩ := x
    rw [List.map_cons, List.mem_cons, not_or] at h
    rw [insert, if_neg (Ne.symm h.1)]
    split
    next => exact List.Perm.refl _
    next => exact ((ih h.2).cons _).trans (List.Perm.swap _ _ _)

/-- Entries of distinct names are all in the table that is made of them. -/
theorem foldl_insert_perm {xs : List (String × α)} {t : Table α}
    (h : ((t ++ xs).map Prod.fst).Nodup) :
    (xs.foldl (fun t x => t.insert x.1 x.2) t).Perm (t ++ xs) := by
  induction xs generalizing t with
  | nil => rw [List.foldl_nil, List.append_nil]
  | cons x xs ih =>
    have hmiddle : (t ++ x :: xs).Perm (x :: t ++ xs) := List.perm_middle
    have hnodup : ((x :: t ++ xs).map Prod.fst).Nodup := (hmiddle.map Prod.fst).nodup_iff.mp h
    have hnew : x.1 ∉ t.map Prod.fst := by
      rw [List.cons_append, List.map_cons, List.nodup_cons, List.map_append, List.mem_append,
        not_or] at hnodup
      exact hnodup.1.1
    have hinsert : (t.insert x.1 x.2 ++ xs).Perm (x :: t ++ xs) :=
      (insert_perm hnew x.2).append_right xs
    rw [List.foldl_cons]
    exact (ih ((hinsert.map Prod.fst).nodup_iff.mpr hnodup)).trans (hinsert.trans hmiddle.symm)

theorem ofList_perm {xs : List (String × α)} (h : (xs.map Prod.fst).Nodup) :
    (ofList xs).Perm xs :=
  foldl_insert_perm (t := []) h

/-- The names stand in order, and none of them twice. -/
def IsSorted (t : Table α) : Prop := t.Pairwise fun x y => x.1 < y.1

theorem IsSorted.nodup {t : Table α} (h : t.IsSorted) : (t.map Prod.fst).Nodup := by
  refine List.pairwise_map.mpr (h.imp fun hlt heq => ?_)
  exact String.lt_irrefl _ (heq ▸ hlt)

theorem mem_of_mem_insert {t : Table α} {name : String} {a : α} {x : String × α}
    (h : x ∈ t.insert name a) : x = (name, a) ∨ x ∈ t := by
  induction t with
  | nil => exact .inl (List.mem_singleton.mp h)
  | cons y t ih =>
    obtain ⟨k, b⟩ := y
    rw [insert] at h
    split at h
    · exact (List.mem_cons.mp h).imp_right (List.mem_cons_of_mem _)
    · split at h
      · exact List.mem_cons.mp h
      · obtain rfl | h := List.mem_cons.mp h
        · exact .inr List.mem_cons_self
        · exact (ih h).imp_right (List.mem_cons_of_mem _)

theorem IsSorted.insert {t : Table α} (h : t.IsSorted) (name : String) (a : α) :
    (t.insert name a).IsSorted := by
  induction t with
  | nil => exact List.pairwise_singleton _ _
  | cons y t ih =>
    obtain ⟨k, b⟩ := y
    obtain ⟨hfirst, hrest⟩ := List.pairwise_cons.mp h
    rw [Table.insert]
    split
    next hk =>
      subst hk
      exact List.pairwise_cons.mpr ⟨hfirst, hrest⟩
    next hk =>
      split
      next hbefore =>
        refine List.pairwise_cons.mpr ⟨List.forall_mem_cons.mpr ⟨hbefore, ?_⟩, h⟩
        exact fun x hx => String.lt_trans hbefore (hfirst x hx)
      next hbehind =>
        have hlt : k < name := lt_of_le_of_ne (not_lt.mp hbehind) hk
        refine List.pairwise_cons.mpr ⟨fun x hx => ?_, ih hrest⟩
        obtain rfl | hx := mem_of_mem_insert hx
        · exact hlt
        · exact hfirst x hx

theorem isSorted_ofList (xs : List (String × α)) : (ofList xs).IsSorted := by
  have hfold : ∀ {t : Table α}, t.IsSorted →
      (xs.foldl (fun t x => t.insert x.1 x.2) t).IsSorted := by
    induction xs with
    | nil => exact id
    | cons x xs ih => exact fun h => ih (h.insert x.1 x.2)
  exact hfold .nil

theorem ofList_of_isSorted {t : Table α} (h : t.IsSorted) : ofList t = t := by
  refine List.Perm.eq_of_pairwise ?_ (isSorted_ofList t) h (ofList_perm h.nodup)
  exact fun x y _ _ hlt hgt => absurd hgt (String.lt_asymm hlt)

end Table

namespace Entries

variable {α : Type}

theorem get?_eq_some_iff {xs : Entries α} (h : (xs.map Prod.fst).Nodup) {name : String} {a : α} :
    xs.get? name = some a ↔ (name, a) ∈ xs := by
  induction xs with
  | nil => exact ⟨nofun, nofun⟩
  | cons x xs ih =>
    obtain ⟨k, b⟩ := x
    rw [List.map_cons, List.nodup_cons] at h
    rw [get?, List.mem_cons, Prod.mk.injEq]
    by_cases hk : k = name
    · subst hk
      have hnew : (k, a) ∉ xs := fun hmem => h.1 (List.mem_map.mpr ⟨(k, a), hmem, rfl⟩)
      rw [if_pos rfl, Option.some.injEq, eq_comm]
      exact ⟨fun hab => .inl ⟨rfl, hab⟩, fun hmem => (hmem.resolve_right hnew).2⟩
    · rw [if_neg hk, ih h.2]
      exact ⟨.inr, fun hmem => hmem.resolve_left fun heq => hk heq.1.symm⟩

theorem get?_of_perm {xs ys : Entries α} (hperm : xs.Perm ys) (h : (xs.map Prod.fst).Nodup)
    (name : String) : xs.get? name = ys.get? name := by
  have hys : (ys.map Prod.fst).Nodup := (hperm.map Prod.fst).nodup_iff.mp h
  refine Option.ext fun a => ?_
  rw [get?_eq_some_iff h, get?_eq_some_iff hys, hperm.mem_iff]

theorem get?_map {β : Type} (g : α → β) (xs : Entries α) (name : String) :
    Entries.get? (xs.map fun x => (x.1, g x.2)) name = (xs.get? name).map g := by
  induction xs with
  | nil => rfl
  | cons x xs ih =>
    obtain ⟨k, b⟩ := x
    rw [List.map_cons, get?, get?, ih]
    split <;> rfl

theorem put_of_notMem {xs : Entries α} {name : String} (h : name ∉ xs.map Prod.fst) (a : α) :
    xs.put name a = xs ++ [(name, a)] := by
  induction xs with
  | nil => rfl
  | cons x xs ih =>
    obtain ⟨k, b⟩ := x
    rw [List.map_cons, List.mem_cons, not_or] at h
    rw [put, if_neg (Ne.symm h.1), ih h.2, List.cons_append]

theorem map_fst_put_of_mem {xs : Entries α} {name : String} (h : name ∈ xs.map Prod.fst) (a : α) :
    (xs.put name a).map Prod.fst = xs.map Prod.fst := by
  induction xs with
  | nil => cases h
  | cons x xs ih =>
    obtain ⟨k, b⟩ := x
    rw [put]
    split
    next => rfl
    next hk =>
      have hlater : name ∈ xs.map Prod.fst := (List.mem_cons.mp h).resolve_left (Ne.symm hk)
      rw [List.map_cons, List.map_cons, ih hlater]

theorem nodup_put {xs : Entries α} (h : (xs.map Prod.fst).Nodup) (name : String) (a : α) :
    ((xs.put name a).map Prod.fst).Nodup := by
  by_cases hmem : name ∈ xs.map Prod.fst
  · rw [map_fst_put_of_mem hmem]
    exact h
  · have hlast : (name :: xs.map Prod.fst).Nodup := List.nodup_cons.mpr ⟨hmem, h⟩
    rw [put_of_notMem hmem, List.map_append]
    exact (List.perm_append_singleton name _).nodup_iff.mpr hlast

theorem nodup_putAll {xs : Entries α} (h : (xs.map Prod.fst).Nodup) (ys : List (String × α)) :
    ((xs.putAll ys).map Prod.fst).Nodup := by
  induction ys generalizing xs with
  | nil => exact h
  | cons y ys ih =>
    rw [putAll_cons]
    exact ih (nodup_put h y.1 y.2)

theorem putAll_of_nodup {xs ys : Entries α} (h : ((xs ++ ys).map Prod.fst).Nodup) :
    xs.putAll ys = xs ++ ys := by
  induction ys generalizing xs with
  | nil => rw [putAll_nil, List.append_nil]
  | cons y ys ih =>
    have happend : xs ++ y :: ys = xs ++ [y] ++ ys := by simp
    have hnew : y.1 ∉ xs.map Prod.fst := by
      rw [List.map_append, List.nodup_append] at h
      exact fun hmem => h.2.2 _ hmem _ (List.mem_map_of_mem List.mem_cons_self) rfl
    rw [putAll_cons, put_of_notMem hnew, happend, ih (happend ▸ h)]

theorem putAll_empty {ys : List (String × α)} (h : (ys.map Prod.fst).Nodup) :
    Entries.putAll [] ys = ys := by
  rw [putAll_of_nodup (show (([] ++ ys).map Prod.fst).Nodup from h), List.nil_append]

end Entries

end MeshlessGas
