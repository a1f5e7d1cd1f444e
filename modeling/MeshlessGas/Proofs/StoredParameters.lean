/-
Stored parameters — what a reader makes of the texts that were stored.

A parameter set is stored as a text for each value, and a reader finds texts.  The text of a
value is read as a real, an integer or a text just as the value itself is, but for two kinds of
value: truth values are written as words, which are no numbers, and reals with a point, which
makes them no integers.  So a set means the same after a trip through a file, except where a
number is asked of a truth value or an integer of a real.
-/
import MeshlessGas.Cosmology.Basic
import MeshlessGas.Proofs.DistinctNames
import MeshlessGas.Proofs.FileName
import MeshlessGas.Proofs.NumberTexts
import MeshlessGas.Proofs.Written
import MeshlessGas.Scheme.Properties

namespace MeshlessGas

open Writing (storeAll)

/-! ## Values and their texts -/

namespace Value

section Text

variable {D : Type} [Numeral D]

theorem asText_none : (none : Value D).asText = "None" := rfl

theorem asText_bool (b : Bool) : (bool b : Value D).asText = if b then "True" else "False" := by
  cases b <;> rfl

theorem asText_int (n : Int) : (int n : Value D).asText = toString n := rfl

theorem asText_real (x : D) : (real x).asText = Numeral.shortest x := rfl

end Text

variable {D : Type} [Numeral D]

/-- Nothing, a truth value, an integer that is short enough to be read, a real whose text is
read as the real, or a text without the null character. -/
def IsPlain : Value D → Prop
  | none | bool _ => True
  | int n => decimalLength n.natAbs ≤ maxIntegerDigits
  | real x => (readReal? (Numeral.shortest x)).map RealText.number = some x
  | text s => Writing.storable s = true
  | list _ | dict _ => False

/-- Whether the text of a value is read as a kind in the way the value is: truth values are
written as words, which are no numbers, and reals with a point, which are no integers. -/
def Keeps (kind : ReadAs) : Value D → Prop
  | bool _ => kind = .text
  | real _ => kind ≠ .int
  | _ => True

omit [Numeral D] in
theorem keeps_text (v : Value D) : v.Keeps .text := by
  cases v with
  | bool b => exact rfl
  | real x => exact nofun
  | none | int n | text s | list xs | dict entries => exact trivial

theorem IsPlain.storable_asText {v : Value D} (h : v.IsPlain) :
    Writing.storable v.asText = true := by
  have hforall : ∀ s : String, (∀ c ∈ s.toList, c ≠ '\x00') → Writing.storable s = true :=
    fun s hs => List.all_eq_true.mpr fun c hc => decide_eq_true (hs c hc)
  cases v with
  | none =>
    rw [asText_none]
    decide
  | bool b =>
    rw [asText_bool]
    cases b <;> decide
  | int n => exact hforall _ (ne_null_of_mem_toString n)
  | real x => exact hforall _ (Numeral.ne_null_of_mem_shortest x)
  | text s => exact h
  | list xs => exact absurd h id
  | dict entries => exact absurd h id

end Value

namespace ParameterSet

open Snapshot.Contents (parameterAttributes)
open Value (asText_none asText_bool asText_int asText_real)

variable {D : Type} [Arithmetic D] [Numeral D] {v w : Value D} {kind : ReadAs}

theorem read_word (b : Bool) :
    readReal? (if b then "True" else "False") = none ∧
      readInt? (if b then "True" else "False") = none := by
  cases b <;> decide

/-- Where a value keeps a kind, its text is read as the value is. -/
theorem convert_asText [ReadsIntegers D] (hv : v.IsPlain) (hkeeps : v.Keeps kind)
    (h : convert kind v = .ok w) : convert kind (.text v.asText) = .ok w := by
  cases kind with
  | text => exact h
  | real =>
    cases v with
    | none => cases h
    | bool b => cases hkeeps
    | int n =>
      simp only [convert, Value.toReal, Result.bind_eq_ok, Result.pure_eq] at h
      obtain ⟨x, hx, h⟩ := h
      rw [asText_int, ← h]
      simp only [convert, Value.toReal, readReal?_toString, Option.map_some, RealText.number,
        ReadsIntegers.ofDecimal_eq hx, Failure.ofOption_some, Result.ok_bind, Result.pure_eq]
    | real x =>
      have hx : (readReal? (Numeral.shortest x)).map RealText.number = some x := hv
      rw [asText_real, ← h]
      simp only [convert, Value.toReal, hx, Failure.ofOption_some]
    | text s => exact h
    | list xs => cases h
    | dict entries => cases h
  | int =>
    cases v with
    | none => cases h
    | bool b => cases hkeeps
    | int n =>
      rw [asText_int, ← h]
      simp only [convert, Value.toInt, readInt?_toString hv, Failure.ofOption_some]
    | real x => exact absurd rfl hkeeps
    | text s => exact h
    | list xs => cases h
    | dict entries => cases h

theorem convert_asText_of_not_keeps (hkeeps : ¬ v.Keeps kind) :
    convert kind (.text v.asText : Value D) = .error .badValue := by
  cases v with
  | bool b =>
    rw [asText_bool]
    cases kind with
    | text => exact absurd rfl hkeeps
    | real => simp only [convert, Value.toReal, (read_word b).1]; rfl
    | int => simp only [convert, Value.toInt, (read_word b).2]; rfl
  | real x =>
    rw [asText_real]
    cases kind with
    | text => exact absurd nofun hkeeps
    | real => exact absurd nofun hkeeps
    | int => simp only [convert, Value.toInt, Numeral.readInt?_shortest]; rfl
  | none => exact absurd trivial hkeeps
  | int n => exact absurd trivial hkeeps
  | text s => exact absurd trivial hkeeps
  | list xs => exact absurd trivial hkeeps
  | dict entries => exact absurd trivial hkeeps

/-! ## Storable sets -/

section Storable

variable {D S : Type}

/-- The flattened names of nested parameters are distinct. -/
theorem distinct_ofSection (s : ParameterSection D) :
    ((ofSection s).entries.map Prod.fst).Nodup := by
  have hflatten : ∀ (s : ParameterSection D) (within : String) {flat : Entries (Value D)},
      (flat.map Prod.fst).Nodup → ((s.flattenInto within flat).map Prod.fst).Nodup := by
    intro s
    induction s with
    | nil => exact fun _ _ h => h
    | value name v rest ih => exact fun within _ h => ih within (Entries.nodup_put h _ _)
    | inner name entries rest _ ih => exact fun within _ h => ih within (Entries.nodup_putAll h _)
  exact hflatten s "" List.nodup_nil

variable [Numeral D] {p : ParameterSet D}

/-- A set of plain values under distinct names, none of which is empty or holds the null
character. -/
structure IsStorable (p : ParameterSet D) : Prop where
  distinct : (p.entries.map Prod.fst).Nodup
  named : ∀ x ∈ p.entries, x.1 ≠ "" ∧ Writing.storable x.1 = true
  plain : ∀ x ∈ p.entries, x.2.IsPlain

/-- Distinct names, as a dictionary has them, that can be stored, and values whose texts can be
stored. -/
structure IsWritable (p : ParameterSet D) : Prop where
  distinct : (p.entries.map Prod.fst).Nodup
  named : ∀ x ∈ p.entries, x.1 ≠ "" ∧ Writing.storable x.1 = true
  storable : ∀ x ∈ p.entries, Writing.storable x.2.asText = true

theorem IsStorable.isWritable (h : p.IsStorable) : p.IsWritable :=
  ⟨h.distinct, h.named, fun x hx => (h.plain x hx).storable_asText⟩

theorem beforeNull_of_storable {name : String} (h : Writing.storable name = true) :
    Path.beforeNull name = name := by
  have hkeep : ∀ cs : List Char, (∀ c ∈ cs, c ≠ '\x00') → cs.takeWhile (· ≠ '\x00') = cs := by
    intro cs hcs
    induction cs with
    | nil => rfl
    | cons c cs ih =>
      obtain ⟨hc, hrest⟩ := List.forall_mem_cons.mp hcs
      have hkept : decide (c ≠ '\x00') = true := decide_eq_true hc
      rw [List.takeWhile_cons, hkept, if_pos rfl, ih hrest]
  refine String.toList_injective ?_
  rw [Path.toList_beforeNull]
  exact hkeep _ fun c hc => of_decide_eq_true (List.all_eq_true.mp h c hc)

/-- The texts of the values in the order of the names. -/
def texts (p : ParameterSet D) : ParameterSet D :=
  ⟨p.sorted.map fun x => (x.1, .text x.2.asText)⟩

omit [Numeral D] in
theorem isSorted_sorted (p : ParameterSet D) : p.sorted.IsSorted := Table.isSorted_ofList p.entries

theorem isSorted_texts (p : ParameterSet D) : Table.IsSorted p.texts.entries :=
  List.pairwise_map.mpr (isSorted_sorted p)

theorem isSorted_parameterAttributes [Arithmetic D] (p : ParameterSet D) :
    Table.IsSorted (parameterAttributes p : List (String × Attribute D S)) :=
  List.pairwise_map.mpr (isSorted_sorted p)

namespace IsWritable

theorem sorted_perm (h : p.IsWritable) : p.sorted.Perm p.entries := Table.ofList_perm h.distinct

theorem get?_texts (h : p.IsWritable) (name : String) :
    p.texts.get? name = (p.get? name).map fun v => Value.text v.asText := by
  have hdistinct : (p.sorted.map Prod.fst).Nodup := (isSorted_sorted p).nodup
  rw [get?, texts, Entries.get?_map (fun v : Value D => Value.text v.asText),
    Entries.get?_of_perm h.sorted_perm hdistinct]
  rfl

variable [Arithmetic D]

theorem exists_of_mem_attributes (h : p.IsWritable) {x : String × Attribute D S}
    (hx : x ∈ parameterAttributes p) :
    ∃ v, (x.1, v) ∈ p.entries ∧ x.2 = .text v.asText := by
  obtain ⟨y, hy, rfl⟩ := List.mem_map.mp hx
  exact ⟨y.2, h.sorted_perm.mem_iff.mp hy, rfl⟩

theorem storable_attributes (h : p.IsWritable) :
    ∀ x ∈ (parameterAttributes p : List (String × Attribute D S)), Writing.Storable x.1 x.2 := by
  intro x hx
  obtain ⟨v, hmem, hvalue⟩ := h.exists_of_mem_attributes hx
  obtain ⟨hname, hnull⟩ := h.named _ hmem
  rw [hvalue]
  refine ⟨?_, ?_⟩
  · rw [beforeNull_of_storable hnull]
    exact hname
  · intro s hs
    obtain rfl := Option.some.inj hs
    exact h.storable _ hmem

/-- The attributes of the group are the texts of the values, in the order of the names. -/
theorem storeAll_attributes (h : p.IsWritable) :
    (storeAll [] (parameterAttributes p) : Table (Attribute D S)) = parameterAttributes p := by
  have hnull : ∀ x ∈ (parameterAttributes p : List (String × Attribute D S)),
      Path.beforeNull x.1 = x.1 := by
    intro x hx
    obtain ⟨v, hmem, -⟩ := h.exists_of_mem_attributes hx
    exact beforeNull_of_storable (h.named _ hmem).2
  have hstore : (storeAll [] (parameterAttributes p) : Table (Attribute D S))
      = Table.ofList (parameterAttributes p) :=
    List.foldl_ext _ _ _ fun t x hx => by rw [hnull x hx]
  rw [hstore]
  exact Table.ofList_of_isSorted (isSorted_parameterAttributes p)

variable [Numeral S]

theorem ofAttributes_storeAll (h : p.IsWritable) :
    ofAttributes (storeAll [] (parameterAttributes p) : Table (Attribute D S)) = p.texts := by
  have hread : (parameterAttributes p : Table (Attribute D S)).map
      (fun x => (x.1, (Value.text x.2.asText : Value D))) = p.texts.entries := by
    rw [parameterAttributes, texts, List.map_map]
    rfl
  rw [h.storeAll_attributes, ofAttributes, hread,
    Entries.putAll_empty (isSorted_texts p).nodup]

theorem get?_ofAttributes (h : p.IsWritable) (name : String) :
    (ofAttributes (storeAll [] (parameterAttributes p) : Table (Attribute D S))).get? name
      = (p.get? name).map fun v => Value.text v.asText := by
  rw [h.ofAttributes_storeAll, h.get?_texts]

end IsWritable

theorem IsStorable.storable_attributes [Arithmetic D] (h : p.IsStorable) :
    ∀ x ∈ (parameterAttributes p : List (String × Attribute D S)), Writing.Storable x.1 x.2 :=
  h.isWritable.storable_attributes

end Storable

/-! ## Reading one set as another -/

section Reading

variable {D : Type} [Arithmetic D] [Numeral D] {p p' : ParameterSet D} {kind : ReadAs}
  {name : String}

/-- Whether the value under a name, if there is one, keeps a kind. -/
def Keeps (p : ParameterSet D) (kind : ReadAs) (name : String) : Prop :=
  ∀ v, p.get? name = some v → v.Keeps kind

theorem convert_real_eq_ok {v : Value D} {x : D} :
    convert .real v = .ok (.real x) ↔ v.toReal = .ok x := by
  simp only [convert, Result.bind_eq_ok, Result.pure_eq, Except.ok.injEq, Value.real.injEq,
    exists_eq_right]

theorem convert_int_eq_ok {v : Value D} {n : Int} :
    convert .int v = .ok (.int n) ↔ v.toInt = .ok n := by
  simp only [convert, Result.bind_eq_ok, Result.pure_eq, Except.ok.injEq, Value.int.injEq,
    exists_eq_right]

/-- Another set has nothing under a name where one has nothing, and for a value one that gives
what the first one gives. -/
structure IsReadAs (p p' : ParameterSet D) (kind : ReadAs) (name : String) : Prop where
  absent : p.get? name = none → p'.get? name = none
  present : ∀ {v}, p.get? name = some v →
    ∃ v', p'.get? name = some v' ∧ ∀ {w}, convert kind v = .ok w → convert kind v' = .ok w

namespace IsReadAs

theorem contains (h : p.IsReadAs p' kind name) : p'.contains name = p.contains name := by
  rw [ParameterSet.contains, ParameterSet.contains]
  cases hfound : p.get? name with
  | none => rw [h.absent hfound]
  | some v =>
    obtain ⟨v', hfound', -⟩ := h.present hfound
    rw [hfound']
    rfl

theorem read (h : p.IsReadAs p' kind name) {w : Value D} (hw : p.read kind name = .ok w) :
    p'.read kind name = .ok w := by
  rw [ParameterSet.read] at hw ⊢
  cases hfound : p.get? name with
  | none =>
    rw [hfound] at hw
    cases hw
  | some v =>
    obtain ⟨v', hfound', hconvert⟩ := h.present hfound
    rw [hfound] at hw
    rw [hfound']
    exact hconvert hw

theorem real (h : p.IsReadAs p' .real name) {x : D} (hx : p.real name = .ok x) :
    p'.real name = .ok x := by
  rw [ParameterSet.real] at hx ⊢
  cases hfound : p.get? name with
  | none =>
    rw [hfound] at hx
    cases hx
  | some v =>
    obtain ⟨v', hfound', hconvert⟩ := h.present hfound
    rw [hfound] at hx
    rw [hfound']
    exact convert_real_eq_ok.mp (hconvert (convert_real_eq_ok.mpr hx))

theorem realOr (h : p.IsReadAs p' .real name) {default x : D}
    (hx : p.realOr name default = .ok x) : p'.realOr name default = .ok x := by
  rw [ParameterSet.realOr] at hx ⊢
  cases hfound : p.get? name with
  | none =>
    rw [hfound] at hx
    rw [h.absent hfound]
    exact hx
  | some v =>
    obtain ⟨v', hfound', hconvert⟩ := h.present hfound
    rw [hfound] at hx
    rw [hfound']
    exact convert_real_eq_ok.mp (hconvert (convert_real_eq_ok.mpr hx))

theorem intOr (h : p.IsReadAs p' .int name) {default n : Int}
    (hn : p.intOr name default = .ok n) : p'.intOr name default = .ok n := by
  rw [ParameterSet.intOr] at hn ⊢
  cases hfound : p.get? name with
  | none =>
    rw [hfound] at hn
    rw [h.absent hfound]
    exact hn
  | some v =>
    obtain ⟨v', hfound', hconvert⟩ := h.present hfound
    rw [hfound] at hn
    rw [hfound']
    exact convert_int_eq_ok.mp (hconvert (convert_int_eq_ok.mpr hn))

end IsReadAs

end Reading

end ParameterSet

/-! ## Properties from parameters -/

/-- The parameters of which the properties of a scheme are made. -/
def SchemeProperties.parameters : List (ReadAs × String) :=
  [(.real, "SPH:resolution_eta"), (.real, "SPH:delta_neighbours"),
    (.int, "SPH:max_ghost_iterations"), (.real, "SPH:CFL_condition"),
    (.real, "SPH:max_volume_change")]

/-- The parameters of which a cosmology is made. -/
def Cosmology.parameters : List (ReadAs × String) :=
  ["Omega_b", "Omega_cdm", "Omega_m", "h", "a_begin", "a_end", "Omega_lambda", "Omega_r", "w_0",
    "w_a"].map fun name => (.real, "Cosmology:" ++ name)

section Properties

variable {D : Type} [Transcendental D] [Numeral D] {p p' : ParameterSet D}

theorem SchemeProperties.ofParameters_of_isReadAs {S : Type} [Arithmetic S] [Narrowing D S]
    (h : ∀ x ∈ SchemeProperties.parameters, p.IsReadAs p' x.1 x.2) {scheme : Scheme D}
    {properties : SchemeProperties D}
    (hproperties : SchemeProperties.ofParameters p scheme = .ok properties) :
    SchemeProperties.ofParameters p' scheme = .ok properties := by
  simp only [SchemeProperties.ofParameters, Result.bind_eq_ok] at hproperties ⊢
  obtain ⟨eta, heta, delta, hdelta, iterations, hiterations, courant, hcourant, change, hchange,
    hproperties⟩ := hproperties
  exact ⟨eta, (h (.real, _) (by decide)).real heta, delta, (h (.real, _) (by decide)).real hdelta,
    iterations, (h (.int, _) (by decide)).intOr hiterations, courant,
    (h (.real, _) (by decide)).real hcourant, change, (h (.real, _) (by decide)).realOr hchange,
    hproperties⟩

theorem Cosmology.ofParameters_of_isReadAs
    (h : ∀ x ∈ Cosmology.parameters, p.IsReadAs p' x.1 x.2) {gamma : Value D}
    {units : UnitSystem D} {cosmology : Cosmology D}
    (hcosmology : Cosmology.ofParameters p gamma units = .ok cosmology) :
    Cosmology.ofParameters p' gamma units = .ok cosmology := by
  have hread : ∀ {name}, (ReadAs.real, name) ∈ Cosmology.parameters → p.IsReadAs p' .real name :=
    fun hname => h _ hname
  have hcdm : p.IsReadAs p' .real "Cosmology:Omega_cdm" := hread (by decide)
  rw [Cosmology.ofParameters] at hcosmology ⊢
  rw [hcdm.contains]
  cases hcontains : p.contains "Cosmology:Omega_cdm" with
  | true =>
    simp only [hcontains, if_true, Result.bind_eq_ok] at hcosmology ⊢
    obtain ⟨_, hB, _, hC, _, hM, _, hh, _, hbegin, _, hend, _, hL, _, hR, _, h0, _, ha, hrest⟩ :=
      hcosmology
    exact ⟨_, (hread (by decide)).real hB, _, hcdm.real hC, _, hM, _, (hread (by decide)).real hh,
      _, (hread (by decide)).real hbegin, _, (hread (by decide)).real hend,
      _, (hread (by decide)).real hL, _, (hread (by decide)).realOr hR,
      _, (hread (by decide)).realOr h0, _, (hread (by decide)).realOr ha, hrest⟩
  | false =>
    simp only [hcontains, Bool.false_eq_true, if_false, Result.bind_eq_ok] at hcosmology ⊢
    obtain ⟨_, hB, _, hM, _, hh, _, hbegin, _, hend, _, hL, _, hR, _, h0, _, ha, hrest⟩ :=
      hcosmology
    exact ⟨_, (hread (by decide)).real hB, _, (hread (by decide)).real hM,
      _, (hread (by decide)).real hh, _, (hread (by decide)).real hbegin,
      _, (hread (by decide)).real hend, _, (hread (by decide)).real hL,
      _, (hread (by decide)).realOr hR, _, (hread (by decide)).realOr h0,
      _, (hread (by decide)).realOr ha, hrest⟩

end Properties

/-! ## A trip through a file -/

namespace ParameterSet

open Writing (Runs)
open Snapshot.Contents (parameterAttributes writeTo_eq_forM)

section Trip

variable {D S : Type} [Arithmetic D] [Numeral D] {p : ParameterSet D}

theorem runs_writeTo {f : Archive D S} {name : String} (hnew : f.at? [name] = none)
    (h : ∀ x ∈ (parameterAttributes p : List (String × Attribute D S)), Writing.Storable x.1 x.2) :
    Runs (Writing.createGroup [name] >>= fun _ => p.writeTo [name]) f ()
      (f.put name ⟨storeAll [] (parameterAttributes p), []⟩) := by
  refine Writing.runs_bind.mpr ⟨(), f.put name .empty, ?_, ?_⟩
  · exact Writing.runs_createGroup.mpr ⟨hnew, rfl⟩
  · rw [writeTo_eq_forM]
    exact Writing.runs_writeAttributes.mpr ⟨h, rfl⟩

variable [Numeral S]

omit [Arithmetic D] in
theorem ofArchive_put (f : Archive D S) (attributes : Table (Attribute D S)) :
    ofArchive (f.put groupName ⟨attributes, []⟩) = ofAttributes attributes := by
  have hgroup : (f.put groupName ⟨attributes, []⟩).group? [groupName] = some ⟨attributes, []⟩ := by
    simp
  have hstored : (f.put groupName ⟨attributes, []⟩).attributes? [groupName] = some attributes := by
    rw [Archive.attributes?, Archive.at?, hgroup]
    rfl
  rw [ofArchive, hstored]

/-- Where the values of a storable set keep a kind, the stored set is read as the set is. -/
theorem IsStorable.isReadAs [ReadsIntegers D] (h : p.IsStorable) {kind : ReadAs} {name : String}
    (hkeeps : p.Keeps kind name) :
    p.IsReadAs (ofAttributes (storeAll [] (parameterAttributes p) : Table (Attribute D S)))
      kind name where
  absent hfound := by rw [h.isWritable.get?_ofAttributes, hfound]; rfl
  present {v} hfound := by
    refine ⟨.text v.asText, by rw [h.isWritable.get?_ofAttributes, hfound]; rfl, ?_⟩
    have hplain : v.IsPlain := h.plain _ ((Entries.get?_eq_some_iff h.distinct).mp hfound)
    exact fun {_} hw => convert_asText hplain (hkeeps v hfound) hw

theorem IsStorable.read_of_not_keeps (h : p.IsStorable) {kind : ReadAs} {name : String}
    (hkeeps : ¬ p.Keeps kind name) :
    (ofAttributes (storeAll [] (parameterAttributes p) : Table (Attribute D S))).read kind name
      = .error .badValue := by
  obtain ⟨v, hfound, hlost⟩ : ∃ v, p.get? name = some v ∧ ¬ v.Keeps kind := by
    simpa [Keeps] using hkeeps
  rw [read, h.isWritable.get?_ofAttributes, hfound]
  exact convert_asText_of_not_keeps hlost

end Trip

/-- Parameters mean the same after a trip through a file, whatever else the file holds: a
storable set is stored in a new group, and what is found there has the same names and gives the
same values, where the values keep the kind that is asked for; else nothing of the kind is read.
A scheme and a cosmology of parameters that keep their kinds are the same. -/
theorem read_of_writeTo {D S : Type} [Transcendental D] [Numeral D] [ReadsIntegers D]
    [Arithmetic S] [Numeral S] [Narrowing D S] {p : ParameterSet D} (h : p.IsStorable)
    {f : Archive D S} {place : String} (hnew : f.at? [place] = none) :
    ∃ f' group,
      Runs (Writing.createGroup [place] >>= fun _ => p.writeTo [place]) f () f' ∧
      f'.group? [place] = some group ∧
      (place = groupName → ofArchive f' = ofGroup group) ∧
      (∀ name, (ofGroup group).contains name = p.contains name) ∧
      (∀ kind name v, p.Keeps kind name → p.read kind name = .ok v →
        (ofGroup group).read kind name = .ok v) ∧
      (∀ kind name, ¬ p.Keeps kind name → (ofGroup group).read kind name = .error .badValue) ∧
      ((∀ x ∈ SchemeProperties.parameters, p.Keeps x.1 x.2) → ∀ scheme properties,
        SchemeProperties.ofParameters p scheme = .ok properties →
        SchemeProperties.ofParameters (ofGroup group) scheme = .ok properties) ∧
      ((∀ x ∈ Cosmology.parameters, p.Keeps x.1 x.2) → ∀ gamma units cosmology,
        Cosmology.ofParameters p gamma units = .ok cosmology →
        Cosmology.ofParameters (ofGroup group) gamma units = .ok cosmology) := by
  set attributes : Table (Attribute D S) := storeAll [] (parameterAttributes p) with hattributes
  have hruns := runs_writeTo hnew (h.storable_attributes (S := S))
  have hgroup : (f.put place ⟨attributes, []⟩).group? [place] = some ⟨attributes, []⟩ := by simp
  have harchive : place = groupName →
      ofArchive (f.put place ⟨attributes, []⟩) = ofGroup ⟨attributes, []⟩ := by
    rintro rfl
    exact ofArchive_put f attributes
  have hread : ∀ {kind name}, p.Keeps kind name → p.IsReadAs (ofAttributes attributes) kind name :=
    h.isReadAs
  refine ⟨_, ⟨attributes, []⟩, hruns, hgroup, harchive, ?_, ?_, ?_, ?_, ?_⟩
  · exact fun name => (hread fun v _ => v.keeps_text).contains
  · exact fun kind name v hkeeps => (hread hkeeps).read
  · exact fun kind name => h.read_of_not_keeps
  · exact fun hkeeps scheme properties =>
      SchemeProperties.ofParameters_of_isReadAs fun x hx => hread (hkeeps x hx)
  · exact fun hkeeps gamma units cosmology =>
      Cosmology.ofParameters_of_isReadAs fun x hx => hread (hkeeps x hx)

open Writing in
/-- A set with a value of each kind, read as those kinds after it was stored in an empty file. -/
theorem read_of_writeTo_sample :
    let p : ParameterSet Float := ⟨[("SPH:resolution_eta", .real 1.2348),
      ("SPH:max_ghost_iterations", .int 30), ("MetaData:run_name", .text "Sod shock")]⟩
    p.IsStorable ∧ ∃ (f' : Archive Float Float32) (group : Group Float Float32),
      Runs (createGroup [groupName] >>= fun _ => p.writeTo [groupName]) .empty () f' ∧
      f'.group? [groupName] = some group ∧ ofArchive f' = ofGroup group ∧
      (ofGroup group).read .real "SPH:resolution_eta" = .ok (.real 1.2348) ∧
      (ofGroup group).read .int "SPH:max_ghost_iterations" = .ok (.int 30) ∧
      (ofGroup group).read .text "MetaData:run_name" = .ok (.text "Sod shock") := by
  intro p
  have hstorable : p.IsStorable := by
    refine ⟨by decide, by decide, ?_⟩
    refine List.forall_mem_cons.mpr ⟨?_, List.forall_mem_cons.mpr ⟨?_, List.forall_mem_cons.mpr
      ⟨?_, nofun⟩⟩⟩
    · show (readReal? (Numeral.shortest (1.2348 : Float))).map RealText.number = some 1.2348
      decide +kernel
    · show decimalLength 30 ≤ maxIntegerDigits
      decide
    · show Writing.storable "Sod shock" = true
      decide
  have hkeeps : ∀ kind name v, p.get? name = some v → v.Keeps kind → p.Keeps kind name := by
    intro kind name v hfound hv w hw
    obtain rfl := Option.some.inj (hfound.symm.trans hw)
    exact hv
  have hnew : (.empty : Archive Float Float32).at? [groupName] = none := rfl
  obtain ⟨f', group, hruns, hgroup, hsame, -, hread, -⟩ := read_of_writeTo hstorable hnew
  refine ⟨hstorable, f', group, hruns, hgroup, hsame rfl, ?_, ?_, ?_⟩
  · exact hread _ _ _ (hkeeps _ _ (.real 1.2348) rfl nofun) rfl
  · exact hread _ _ _ (hkeeps _ _ (.int 30) rfl trivial) rfl
  · exact hread _ _ _ (hkeeps _ _ (.text "Sod shock") rfl trivial) rfl

/-- Parameters that mean something else once they are stored: a real that is an integer, and a
truth value. -/
def unkeptParameters : ParameterSet Float :=
  ⟨[("SPH:max_ghost_iterations", .real 30.0), ("SPH:resolution_eta", .bool true)]⟩

theorem isStorable_unkeptParameters : unkeptParameters.IsStorable := by
  have hreal : (Value.real (30.0 : Float)).IsPlain := by
    show (readReal? (Numeral.shortest (30.0 : Float))).map RealText.number = some 30.0
    decide +kernel
  refine ⟨by decide, by decide, ?_⟩
  exact List.forall_mem_cons.mpr ⟨hreal, List.forall_mem_cons.mpr ⟨trivial, nofun⟩⟩

/-- A parameter with a name that is cut when it is stored. -/
def cutParameters : ParameterSet Float := ⟨[("SPH:a\x00b", .int 1)]⟩

/-- Thirty as a real is an integer, and truth is one, but not after they were stored; and what is
stored under a name with a null character is not found again. -/
theorem read_differs_of_writeTo :
    (∃ f' : Archive Float Float32,
      Runs (Writing.createGroup [groupName] >>= fun _ => unkeptParameters.writeTo [groupName])
        .empty () f' ∧
      unkeptParameters.read .int "SPH:max_ghost_iterations" = .ok (.int 30) ∧
      (ofArchive f').read .int "SPH:max_ghost_iterations" = .error .badValue ∧
      unkeptParameters.read .real "SPH:resolution_eta" = .ok (.real 1.0) ∧
      (ofArchive f').read .real "SPH:resolution_eta" = .error .badValue) ∧
    ∃ f' : Archive Float Float32,
      Runs (Writing.createGroup [groupName] >>= fun _ => cutParameters.writeTo [groupName])
        .empty () f' ∧
      cutParameters.read .int "SPH:a\x00b" = .ok (.int 1) ∧
      (ofArchive f').read .int "SPH:a\x00b" = .error (.missingParameter "SPH:a\x00b") := by
  have hempty : (.empty : Archive Float Float32).at? [groupName] = none := rfl
  constructor
  · refine ⟨_, runs_writeTo hempty isStorable_unkeptParameters.storable_attributes, ?_, ?_, ?_, ?_⟩
    · have hthirty : (Value.real (30.0 : Float)).toInt = .ok 30 := by decide +kernel
      exact convert_int_eq_ok.mpr hthirty
    · rw [ofArchive_put]
      refine isStorable_unkeptParameters.read_of_not_keeps fun hkeeps => ?_
      exact hkeeps (.real 30.0) rfl rfl
    · have hone : (Value.bool true : Value Float).toReal = .ok 1.0 := rfl
      exact convert_real_eq_ok.mpr hone
    · rw [ofArchive_put]
      refine isStorable_unkeptParameters.read_of_not_keeps fun hkeeps => ?_
      cases hkeeps (.bool true) rfl
  · refine ⟨_, runs_writeTo hempty ?_, rfl, ?_⟩
    · rw [show parameterAttributes cutParameters = [("SPH:a\x00b", .text "1")] from rfl]
      refine List.forall_mem_singleton.mpr ⟨by decide, ?_⟩
      intro s hs
      obtain rfl := Option.some.inj hs
      decide
    · rw [ofArchive_put]
      rfl

end ParameterSet

end MeshlessGas
