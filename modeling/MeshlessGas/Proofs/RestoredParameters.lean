/-
Restored parameters — what is left of a set after a trip through a file.

A stored set is the texts of its values in the order of the names, wherever it is stored and in
whatever order it was.  Texts are their own texts and their order is kept, so they come back from
every further trip as they are.
-/
import MeshlessGas.Proofs.StoredParameters

namespace MeshlessGas

open Writing (Runs Storable storeAll)

namespace Writing

variable {D S : Type} {f : Archive D S} {name : String} {group : Group D S}

theorem runs_writeAttribute_of_find? (hgroup : f.groups.find? name = some group) {key : String}
    {a : Attribute D S} (h : Storable key a) :
    Runs (writeAttribute [name] key a) f ()
      (f.put name { group with attributes := group.attributes.insert (Path.beforeNull key) a }) := by
  have hfound : f.groups.find? (Path.join [name]) = some group := hgroup
  simp only [writeAttribute, runs_get_bind, runs_lift_bind, runs_modify, Archive.group?_single,
    hgroup, Option.getD_some, insertAttribute_eq_ok, Archive.updateGroup, hfound]
  exact ⟨_, ⟨h, rfl⟩, rfl⟩

/-- Attributes that can be stored are stored in a group that is there. -/
theorem exists_runs_writeAttributes (hgroup : f.groups.find? name = some group)
    {attributes : List (String × Attribute D S)} (h : ∀ x ∈ attributes, Storable x.1 x.2) :
    ∃ g, Runs (attributes.forM fun x => writeAttribute [name] x.1 x.2) f () g ∧
      g.groups.find? name
        = some { group with attributes := storeAll group.attributes attributes } := by
  cases attributes with
  | nil => exact ⟨f, runs_forM_nil.mpr rfl, hgroup⟩
  | cons x attributes =>
    obtain ⟨hx, hrest⟩ := List.forall_mem_cons.mp h
    have hfirst := runs_writeAttribute_of_find? hgroup hx
    exact ⟨_, runs_forM_cons.mpr ⟨_, hfirst, runs_writeAttributes.mpr ⟨hrest, rfl⟩⟩,
      Archive.find?_put_self _ _ _⟩

end Writing

namespace ParameterSet

open Snapshot.Contents (writeTo_eq_forM)

section Texts

variable {D : Type} [Numeral D] {p : ParameterSet D}

theorem sorted_texts (p : ParameterSet D) : p.texts.sorted = p.texts.entries :=
  Table.ofList_of_isSorted (isSorted_texts p)

theorem texts_texts (p : ParameterSet D) : p.texts.texts = p.texts := by
  rw [texts, sorted_texts, texts, List.map_map]
  rfl

theorem asText_texts (p : ParameterSet D) : p.texts.asText = p.asText := by
  rw [asText, sorted_texts, texts, List.map_map, asText]
  rfl

namespace IsWritable

theorem map_fst_texts_perm (h : p.IsWritable) :
    (p.texts.entries.map Prod.fst).Perm (p.entries.map Prod.fst) := by
  rw [texts, List.map_map]
  exact h.sorted_perm.map Prod.fst

theorem size_texts (h : p.IsWritable) : p.texts.size = p.size := by
  rw [size, texts, List.length_map]
  exact h.sorted_perm.length_eq

theorem contains_texts (h : p.IsWritable) (name : String) :
    p.texts.contains name = p.contains name := by
  rw [contains, contains, h.get?_texts, Option.isSome_map]

theorem texts (h : p.IsWritable) : p.texts.IsWritable where
  distinct := (isSorted_texts p).nodup
  named := by
    intro x hx
    obtain ⟨y, hy, rfl⟩ := List.mem_map.mp hx
    exact h.named y (h.sorted_perm.mem_iff.mp hy)
  storable := by
    intro x hx
    obtain ⟨y, hy, rfl⟩ := List.mem_map.mp hx
    exact h.storable y (h.sorted_perm.mem_iff.mp hy)

end IsWritable

end Texts

variable {D S : Type} [Arithmetic D] [Numeral D] [Numeral S] {p q : ParameterSet D}

/-- A set is what is read of a group that has no member named as the group of parameters is, and
of the file if the group itself is named so. -/
structure IsHeldIn (q : ParameterSet D) (f : Archive D S) (place : String) : Prop where
  ofArchive : place = groupName → ParameterSet.ofArchive f = q
  ofGroup : f.at? [place, groupName] = none →
    ∃ group, f.group? [place] = some group ∧ ParameterSet.ofGroup group = q

omit [Arithmetic D] in
theorem isHeldIn_ofAttributes {f : Archive D S} {place : String} {group : Group D S}
    (hgroup : f.groups.find? place = some group) :
    (ofAttributes group.attributes).IsHeldIn f place where
  ofArchive := by
    rintro rfl
    have hfound : f.group? [groupName] = some group := hgroup
    have hstored : f.attributes? [groupName] = some group.attributes := by
      rw [Archive.attributes?, Archive.at?, hfound]
      rfl
    rw [ofArchive, hstored]
  ofGroup := by
    intro hnone
    have hmember : group.datasets.find? groupName = none := by
      have hdataset : f.dataset? [place, groupName] = group.datasets.find? groupName := by
        show (f.groups.find? place).bind (fun g => g.datasets.find? groupName) = _
        rw [hgroup]
        rfl
      unfold Archive.at? at hnone
      split at hnone
      · cases hnone
      · rw [← hdataset]
        exact Option.map_eq_none_iff.mp hnone
    refine ⟨group, hgroup, ?_⟩
    rw [ParameterSet.ofGroup, hmember]

/-- One set leaves another one in every group without attributes that it is stored in, whatever
else is in the group and around it. -/
def IsStoredAs (S : Type) [Numeral S] (p q : ParameterSet D) : Prop :=
  ∀ (f : Archive D S) (place : String) (datasets : Table (Dataset D S)),
    f.group? [place] = some ⟨[], datasets⟩ →
    ∃ f', Runs (p.writeTo [place]) f () f' ∧ q.IsHeldIn f' place

theorem IsWritable.isStoredAs (h : p.IsWritable) : IsStoredAs S p p.texts := by
  intro f place datasets hgroup
  obtain ⟨f', hruns, hfound⟩ :=
    Writing.exists_runs_writeAttributes hgroup (h.storable_attributes (S := S))
  rw [← writeTo_eq_forM] at hruns
  have hheld := isHeldIn_ofAttributes hfound
  rw [h.ofAttributes_storeAll] at hheld
  exact ⟨f', hruns, hheld⟩

/-- Storing parameters loses none of them.  What is read back from the file or from the group has
the same names, under each of them the text of the value, and it stands in the order of the names;
it is as long as the set and looks like it, and comes back from a further trip as it is. -/
theorem isStoredAs_texts (S : Type) [Numeral S] (h : p.IsWritable) :
    IsStoredAs S p p.texts ∧ IsStoredAs S p.texts p.texts ∧
      (p.texts.entries.map Prod.fst).Perm (p.entries.map Prod.fst) ∧
      (∀ name, p.texts.contains name = p.contains name) ∧
      (∀ name, p.texts.get? name = (p.get? name).map fun v => Value.text v.asText) ∧
      p.texts.sorted = (p.sorted.map fun x => (x.1, .text x.2.asText)) ∧
      Table.IsSorted p.texts.sorted ∧
      p.texts.size = p.size ∧ p.texts.asText = p.asText := by
  have hagain : IsStoredAs S p.texts p.texts.texts := h.texts.isStoredAs
  rw [texts_texts] at hagain
  exact ⟨h.isStoredAs, hagain, h.map_fst_texts_perm, h.contains_texts, h.get?_texts,
    sorted_texts p, isSorted_sorted _, h.size_texts, asText_texts p⟩

/-- A truth value and a list, stored in the group of parameters of a new file: they come back as
their texts, in the order of the names. -/
theorem isStoredAs_texts_sample :
    let p : ParameterSet Float :=
      ⟨[("SPH:with_gravity", .bool true), ("Output:axes", .list [.int 3, .text "x"])]⟩
    p.IsWritable ∧ ∃ f f' : Archive Float Float32,
      Runs (Writing.createGroup [groupName]) .empty () f ∧ Runs (p.writeTo [groupName]) f () f' ∧
      (ofArchive f').entries
        = [("Output:axes", .text "[3, 'x']"), ("SPH:with_gravity", .text "True")] := by
  intro p
  have haxes : (Value.list [.int 3, .text "x"] : Value Float).asText = "[3, 'x']" := by
    decide +kernel
  have hstorable : ∀ x ∈ p.entries, Writing.storable x.2.asText = true := by
    refine List.forall_mem_cons.mpr ⟨by decide, List.forall_mem_singleton.mpr ?_⟩
    rw [haxes]
    decide
  have hwritable : p.IsWritable := ⟨by decide, by decide, hstorable⟩
  have hcreate : Runs (Writing.createGroup [groupName]) (.empty : Archive Float Float32) ()
      (Archive.empty.put groupName .empty) := Writing.runs_createGroup.mpr ⟨rfl, rfl⟩
  obtain ⟨hstored, -⟩ := isStoredAs_texts Float32 hwritable
  obtain ⟨f', hruns, hheld⟩ := hstored (Archive.empty.put groupName .empty) groupName [] rfl
  refine ⟨hwritable, _, f', hcreate, hruns, ?_⟩
  rw [hheld.ofArchive rfl, ← haxes]
  rfl

end ParameterSet

end MeshlessGas
