/-
Stored units read back — the unit system that a reader makes of a written one.

A file keeps the size of each base unit in cgs.  Reading names the closest unit and keeps
five significant digits, for every base dimension on its own; the group that was written
holds all dimensions and nothing else, so that no notice is made.  What units and scale factor
are to a single field stands beside its dataset, and is found there again.
-/
import MeshlessGas.Proofs.Written
import MeshlessGas.Snapshot.Particles

namespace MeshlessGas

open Writing (storeAll)

/-! ## Attributes under their names -/

namespace Writing

variable {D S : Type}

theorem find?_storeAll {attributes : List (String × Attribute D S)}
    (hnodup : (attributes.map fun x => Path.beforeNull x.1).Nodup) (t : Table (Attribute D S)) :
    (∀ x ∈ attributes, (storeAll t attributes).find? (Path.beforeNull x.1) = some x.2) ∧
      ∀ name, name ∉ attributes.map (fun x => Path.beforeNull x.1) →
        (storeAll t attributes).find? name = t.find? name := by
  induction attributes generalizing t with
  | nil => exact ⟨fun x hx => absurd hx List.not_mem_nil, fun _ _ => rfl⟩
  | cons x attributes ih =>
    rw [List.map_cons, List.nodup_cons] at hnodup
    obtain ⟨hthere, hothers⟩ := ih hnodup.2 (t.insert (Path.beforeNull x.1) x.2)
    refine ⟨List.forall_mem_cons.mpr ⟨?_, hthere⟩, ?_⟩
    · exact (hothers _ hnodup.1).trans (Table.find?_insert_self t _ x.2)
    · intro name hname
      rw [List.map_cons, List.mem_cons, not_or] at hname
      exact (hothers name hname.2).trans (Table.find?_insert_of_ne t x.2 hname.1)

/-- An attribute whose name ends nowhere before its end is found under its name. -/
theorem find?_storeAll_of_mem {attributes : List (String × Attribute D S)}
    (hnodup : (attributes.map fun x => Path.beforeNull x.1).Nodup) {name : String}
    {a : Attribute D S} (hmem : (name, a) ∈ attributes) (hname : Path.beforeNull name = name)
    (t : Table (Attribute D S)) : (storeAll t attributes).find? name = some a := by
  have hfound := (find?_storeAll hnodup t).1 _ hmem
  rwa [hname] at hfound

end Writing

/-! ## Powers of sizes -/

section Powers

variable {D : Type} [Transcendental D]

/-- A number all of whose powers are real. -/
def Factor.HasPowers (x : D) : Prop := ∀ y, ∃ z, Factor.power x y = .ok (.real z)

/-- A number that is not finite has all powers, as long as it lies above zero. -/
theorem Factor.hasPowers_of_not_isFinite {x : D} (hneg : ¬ x < 0.0)
    (hzero : Arithmetic.agree x 0.0 = false) (hfinite : Arithmetic.isFinite x = false) :
    HasPowers x := by
  intro y
  have hpower : MeshlessGas.power x y = .ok (Transcendental.pow x y) := by
    simp only [MeshlessGas.power, hzero, hfinite, Bool.false_eq_true, false_and, if_false]
  simp only [Factor.power, hneg, false_and, if_false, hpower, Result.ok_bind]
  exact ⟨_, rfl⟩

theorem Factor.hasPowers_one : HasPowers (1.0 : Float) := by
  intro y
  have hpow : Transcendental.pow (1.0 : Float) y = 1.0 := powDouble_one y
  have hpower : MeshlessGas.power (1.0 : Float) y = .ok 1.0 := by
    have hzero : Arithmetic.agree (1.0 : Float) 0.0 = false := by decide +kernel
    have hfinite : Arithmetic.isFinite (1.0 : Float) = true := by decide +kernel
    simp only [MeshlessGas.power, hpow, hzero, hfinite, Bool.false_eq_true, false_and, if_false,
      not_true_eq_false, and_false]
  have hsign : ¬ (1.0 : Float) < 0.0 := by decide +kernel
  simp only [Factor.power, hsign, false_and, if_false, hpower, Result.ok_bind]
  exact ⟨_, rfl⟩

theorem exists_productOfPowers {size : BaseDimension → D} (start : D)
    {exponents : List (BaseDimension × Exponent D)}
    (hsize : ∀ x ∈ exponents, Factor.HasPowers (size x.1)) :
    ∃ x, productOfPowers (fun d => .ok (size d)) (.real start) exponents = .ok (.real x) := by
  induction exponents generalizing start with
  | nil => exact ⟨start, rfl⟩
  | cons x exponents ih =>
    rw [List.forall_mem_cons] at hsize
    obtain ⟨z, hpower⟩ := hsize.1 x.2.toReal
    simp only [productOfPowers, Result.ok_bind, hpower, Factor.mul]
    exact ih _ hsize.2

theorem UnitTag.ne_current_of_mem {tag : UnitTag} {gamma : D} {x : BaseDimension × Exponent D}
    (h : x ∈ tag.exponents gamma) : x.1 ≠ .current := by
  obtain ⟨d, e⟩ := x
  rintro rfl
  cases tag <;> simp [exponents] at h

end Powers

/-! ## Attributes of fields -/

namespace FieldDescriptor

variable {D S : Type} [Transcendental D]

/-- The attributes of a dataset by what they state. -/
def statements (toCgs toPhysical scaleExponent : D) (description : String)
    (exponent : BaseDimension → Exponent D) : List (String × Attribute D S) :=
  [(cgsFactorName, .reals [toCgs]), (physicalFactorName, .reals [toPhysical]),
    ("Description", .text description),
    (exponentName .current, exponentAttribute (exponent .current)),
    (exponentName .length, exponentAttribute (exponent .length)),
    (exponentName .mass, exponentAttribute (exponent .mass)),
    (exponentName .temperature, exponentAttribute (exponent .temperature)),
    (exponentName .time, exponentAttribute (exponent .time)),
    ("a-scale exponent", .reals [scaleExponent]), ("h-scale exponent", .reals [0.0])]

def statedNames : List String :=
  [cgsFactorName, physicalFactorName, "Description", exponentName .current,
    exponentName .length, exponentName .mass, exponentName .temperature, exponentName .time,
    "a-scale exponent", "h-scale exponent"]

theorem nodup_statedNames : (statedNames.map Path.beforeNull).Nodup := by
  decide

section Statements

variable (toCgs toPhysical scaleExponent : D) (description : String)
  (exponent : BaseDimension → Exponent D)

theorem nodup_statements :
    ((statements toCgs toPhysical scaleExponent description exponent
      : List (String × Attribute D S)).map fun x => Path.beforeNull x.1).Nodup :=
  nodup_statedNames

theorem find?_statements {name : String} {a : Attribute D S}
    (hmem : (name, a) ∈ statements toCgs toPhysical scaleExponent description exponent)
    (hname : Path.beforeNull name = name) :
    (storeAll [] (statements toCgs toPhysical scaleExponent description exponent)
      : Table (Attribute D S)).find? name = some a :=
  Writing.find?_storeAll_of_mem
    (nodup_statements toCgs toPhysical scaleExponent description exponent) hmem hname []

end Statements

variable {f : FieldDescriptor} {u : UnitSystem D} {a gamma toCgs scale : D}

theorem attributes_of_factors (hf : f.IsPlain)
    (hcgs : f.units.cgsFactor u gamma = .ok (.real toCgs))
    (hscale : Factor.power a (scaleExponent f.name gamma) = .ok (.real scale)) :
    ∃ description, f.attributes u a gamma
      = .ok (statements toCgs (toCgs * scale) (scaleExponent f.name gamma) description
          (f.units.exponent gamma) : List (String × Attribute D S)) := by
  obtain ⟨description, hdescription, -⟩ := hf.described
  have hkey : ¬ ¬ f.label.isKey = true := by
    rw [hf.label]
    exact not_not_intro rfl
  refine ⟨description, ?_⟩
  simp only [attributes, hcgs, hkey, if_false, hdescription, hscale, Result.ok_bind,
    Result.pure_eq]
  rfl

/-- A field has its attributes where the scale factor and the sizes of the units have real powers,
that of the current apart, on which no tag depends. -/
theorem exists_attributes_of_powers (hf : f.IsPlain)
    (hu : ∀ d ≠ .current, Factor.HasPowers (u.sizeInCgs d)) (ha : Factor.HasPowers a) :
    ∃ attributes : List (String × Attribute D S), f.attributes u a gamma = .ok attributes := by
  obtain ⟨toCgs, hcgs⟩ : ∃ x, f.units.cgsFactor u gamma = .ok (.real x) :=
    exists_productOfPowers 1.0 fun x hx => hu x.1 (UnitTag.ne_current_of_mem hx)
  obtain ⟨scale, hscale⟩ := ha (scaleExponent f.name gamma)
  obtain ⟨description, hattributes⟩ := attributes_of_factors (S := S) hf hcgs hscale
  exact ⟨_, hattributes⟩

theorem exists_of_attributes {attributes : List (String × Attribute D S)}
    (h : f.attributes u a gamma = .ok attributes) :
    ∃ cgs scale description, f.units.cgsFactor u gamma = .ok cgs ∧ attributes =
      [(cgsFactorName, factorAttribute cgs), (physicalFactorName, factorAttribute (cgs.mul scale)),
        ("Description", .text description),
        (exponentName .current, exponentAttribute (f.units.exponent gamma .current)),
        (exponentName .length, exponentAttribute (f.units.exponent gamma .length)),
        (exponentName .mass, exponentAttribute (f.units.exponent gamma .mass)),
        (exponentName .temperature, exponentAttribute (f.units.exponent gamma .temperature)),
        (exponentName .time, exponentAttribute (f.units.exponent gamma .time)),
        ("a-scale exponent", .reals [scaleExponent f.name gamma]),
        ("h-scale exponent", .reals [0.0])] := by
  rw [FieldDescriptor.attributes, Result.bind_eq_ok] at h
  obtain ⟨cgs, hcgs, h⟩ := h
  cases hkey : f.label.isKey with
  | false =>
    simp only [hkey] at h
    cases h
  | true =>
    simp only [hkey, not_true_eq_false, if_false, Result.pure_eq, Result.ok_bind,
      Result.bind_eq_ok] at h
    obtain ⟨scale, -, h⟩ := h
    split at h
    next description _ => exact ⟨cgs, scale, description, hcgs, (Except.ok.inj h).symm⟩
    next => cases h

theorem find?_exponentName {attributes : List (String × Attribute D S)}
    (h : f.attributes u a gamma = .ok attributes) (d : BaseDimension) :
    (storeAll [] attributes : Table (Attribute D S)).find? (exponentName d)
      = some (exponentAttribute (f.units.exponent gamma d)) := by
  obtain ⟨cgs, scale, description, -, rfl⟩ := exists_of_attributes h
  refine Writing.find?_storeAll_of_mem ?nodup ?mem (by cases d <;> decide) []
  case nodup => exact nodup_statedNames
  case mem => cases d <;> simp

theorem physicalFactor_datasetOf [Arithmetic S] [Narrowing D S] (hf : f.IsPlain)
    {context : Context D S} {gas : Gas D S}
    (hcgs : f.units.cgsFactor u context.scheme.gamma = .ok (.real toCgs))
    (hscale : Factor.power context.a (scaleExponent f.name context.scheme.gamma)
      = .ok (.real scale))
    {d : Dataset D S} (hd : f.datasetOf context gas u = .ok d) :
    d.format = .plain ∧
      d.attributes.find? physicalFactorName = some (.reals [toCgs * scale]) := by
  obtain ⟨description, hattributes⟩ := attributes_of_factors (S := S) hf hcgs hscale
  rw [datasetOf, hattributes, Result.bind_eq_ok] at hd
  obtain ⟨values, -, hd⟩ := hd
  have hd := Except.ok.inj hd
  have hstored : d.attributes = storeAll [] (statements toCgs (toCgs * scale)
      (scaleExponent f.name context.scheme.gamma) description
      (f.units.exponent context.scheme.gamma)) := by
    rw [← hd]
  have hformat : d.format = .plain := by
    rw [← hd]
  rw [hstored]
  exact ⟨hformat, find?_statements _ _ _ _ _ (List.mem_cons_of_mem _ List.mem_cons_self)
    (by decide)⟩

end FieldDescriptor

/-! ## Units -/

namespace UnitSystem

section Checked

variable {D : Type} [Arithmetic D] {u w : UnitSystem D}

theorem all_hasSize_iff : (BaseDimension.all.filterMap u.unit?).all BaseUnit.hasSize = true ↔
    ∀ d b, u.unit? d = some b → b.hasSize = true := by
  rw [List.all_eq_true]
  constructor
  · intro h d b hunit
    exact h b (List.mem_filterMap.mpr ⟨d, by cases d <;> decide, hunit⟩)
  · intro h b hb
    obtain ⟨d, -, hunit⟩ := List.mem_filterMap.mp hb
    exact h d b hunit

theorem checked_eq_ok_iff :
    u.checked = .ok w ↔ w = u ∧ ∀ d b, u.unit? d = some b → b.hasSize = true := by
  rw [checked, ← all_hasSize_iff]
  split
  next hall =>
    rw [Except.ok.injEq, eq_comm]
    exact (and_iff_left hall).symm
  next hnot =>
    constructor
    · intro h
      cases h
    · rintro ⟨-, hall⟩
      exact absurd hall hnot

theorem checked_eq_error_iff {e : Failure} :
    u.checked = .error e ↔ e = .noSuchKey ∧ ∃ d b, u.unit? d = some b ∧ b.hasSize = false := by
  by_cases hall : ∀ d b, u.unit? d = some b → b.hasSize = true
  · rw [checked_eq_ok_iff.mpr ⟨rfl, hall⟩]
    constructor
    · intro h
      cases h
    · rintro ⟨-, d, b, hunit, hsize⟩
      rw [hall d b hunit] at hsize
      cases hsize
  · have hsome : ∃ d b, u.unit? d = some b ∧ b.hasSize = false := by simpa using hall
    rw [← all_hasSize_iff] at hall
    rw [checked, if_neg hall, Except.error.injEq, eq_comm]
    exact (and_iff_left hsome).symm

end Checked

variable {D S : Type} [Transcendental D]

theorem storeAll_unitAttributes (u : UnitSystem D) :
    (storeAll [] (Snapshot.Contents.unitAttributes u) : Table (Attribute D S))
      = [BaseDimension.current, .length, .mass, .temperature, .time].map fun d =>
          (d.attributeName, .reals [u.sizeInCgs d]) := by
  have hnull : ∀ d : BaseDimension, Path.beforeNull d.attributeName = d.attributeName := by
    intro d
    cases d <;> decide
  simp +decide only [storeAll, Snapshot.Contents.unitAttributes, BaseDimension.all,
    List.map_cons, List.map_nil, List.foldl_cons, List.foldl_nil, hnull, Table.insert, if_true,
    if_false]

variable [Narrowing D S]

def storedBytes : Nat := 8

def recoveredUnit (u : UnitSystem D) (d : BaseDimension) : BaseUnit D :=
  .ofStored storedBytes (u.sizeInCgs d) d

/-- The unit system that is read from the stored sizes of another. -/
def recovered (u : UnitSystem D) : UnitSystem D where
  length := u.recoveredUnit .length
  mass := u.recoveredUnit .mass
  time := u.recoveredUnit .time
  temperature := u.recoveredUnit .temperature
  current := some (u.recoveredUnit .current)

theorem unit?_recovered (u : UnitSystem D) (d : BaseDimension) :
    u.recovered.unit? d = some (u.recoveredUnit d) := by
  cases d <;> rfl

/-- Stored sizes are read as a system exactly if each of them is read as a unit with a size. -/
theorem checked_recovered_eq_ok_iff {u w : UnitSystem D} :
    u.recovered.checked = .ok w ↔
      w = u.recovered ∧ ∀ d, (u.recoveredUnit d).hasSize = true := by
  simp only [checked_eq_ok_iff, unit?_recovered, Option.some.injEq, forall_eq']

theorem checked_recovered_eq_error_iff {u : UnitSystem D} {e : Failure} :
    u.recovered.checked = .error e ↔
      e = .noSuchKey ∧ ∃ d, (u.recoveredUnit d).hasSize = false := by
  simp only [checked_eq_error_iff, unit?_recovered, Option.some.injEq, exists_eq_left']

theorem storedUnits_map (u : UnitSystem D) : ∀ ds : List BaseDimension,
    storedUnits (ds.map fun d => (d.attributeName, (.reals [u.sizeInCgs d] : Attribute D S)))
      = pure (ds.map fun d => (d, u.recoveredUnit d))
  | [] => rfl
  | d :: ds => by
    have hunit : storedUnit d (.reals [u.sizeInCgs d] : Attribute D S)
        = .ok (u.recoveredUnit d) := rfl
    rw [List.map_cons, storedUnits, BaseDimension.ofAttribute?_attributeName]
    show (do
      let unit ← liftM (storedUnit d (.reals [u.sizeInCgs d] : Attribute D S))
      let others ← storedUnits (ds.map fun d : BaseDimension =>
        (d.attributeName, (.reals [u.sizeInCgs d] : Attribute D S)))
      return (d, unit) :: others) = _
    rw [hunit, storedUnits_map u ds]
    rfl

/-- Reading what was written gives the recovered system, without any notice; all its units
must have sizes. -/
theorem ofAttributes_unitAttributes (u : UnitSystem D) :
    ofAttributes (storeAll [] (Snapshot.Contents.unitAttributes u) : Table (Attribute D S))
      = (liftM (checked u.recovered) : Reading (UnitSystem D)) := by
  rw [storeAll_unitAttributes, ofAttributes, storedUnits_map, pure_bind]
  rfl

end UnitSystem

end MeshlessGas
