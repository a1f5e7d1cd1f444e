/-
Stated units — the unit system that a reader makes of the attributes of a file.

Five attributes are known, one for each base dimension.  Reading goes through all attributes in the
order of the file: it makes a base unit of each known one and a notice of each other one, and only
then looks for the dimensions that must be there.  So the units come from the known attributes
alone, and the notices are made of the other ones alone, also where a unit is missing afterwards.
-/
import MeshlessGas.Proofs.ClosestUnits
import MeshlessGas.Proofs.Readable

namespace MeshlessGas

/-! ## Lists of numbers -/

/-- An attribute starts with a cell: it is a list of numbers, and this is the first of them. -/
inductive Attribute.StartsWith {D S : Type} (t : ElementType) (c : Cell D S) :
    Attribute D S → Prop
  | list (ht : t ≠ .truth) (cells : List (Cell D S)) :
      StartsWith t c (.numbers ⟨t, .vector (c :: cells)⟩)

namespace Attribute

theorem startsWith_reals {D S : Type} (x : D) :
    (reals [x] : Attribute D S).StartsWith .float64 (.double x) :=
  .list (by decide) []

theorem StartsWith.first_eq {D S : Type} {a : Attribute D S} {t : ElementType} {c : Cell D S}
    (h : a.StartsWith t c) : a.first = .ok (.cell t c) := by
  cases h
  rfl

theorem StartsWith.unique {D S : Type} {a : Attribute D S} {t t' : ElementType} {c c' : Cell D S}
    (h : a.StartsWith t c) (h' : a.StartsWith t' c') : t = t' ∧ c = c' := by
  have hsame := Except.ok.inj (h.first_eq.symm.trans h'.first_eq)
  exact Entry.cell.inj hsame

end Attribute

theorem Table.mem_of_find? {α : Type} {t : Table α} {name : String} {a : α}
    (h : t.find? name = some a) : (name, a) ∈ t := by
  induction t with
  | nil => cases h
  | cons x t ih =>
    obtain ⟨name', a'⟩ := x
    rw [find?] at h
    split at h
    next hname =>
      subst hname
      cases h
      exact List.mem_cons_self
    next => exact List.mem_cons_of_mem _ (ih h)

theorem BaseUnit.hasSize_ofStored (bytes : Nat) {size : ℝ} (h : 0 < size) (d : BaseDimension) :
    (ofStored bytes size d).hasSize = true := by
  have hmultiple : 0 < (ofStored bytes size d).multiple := by
    rw [multiple_ofStored]
    exact roundDigits_pos (div_pos h (sizeIn_named_pos _ d))
  rw [← Exact.zero_eq] at hmultiple
  exact hasSize_of_pos hmultiple

/-- The dimensions whose units must be there. -/
def BaseDimension.mechanical : List BaseDimension := [length, mass, time]

namespace UnitSystem

variable {D S : Type}

/-! ## Known and unknown attributes -/

section Known

variable {name : String} {a : Attribute D S} {t : Table (Attribute D S)} {d : BaseDimension}

/-- Whether an attribute is known to store a base unit. -/
def isKnown (x : String × Attribute D S) : Bool := (BaseDimension.ofAttribute? x.1).isSome

/-- The notices of the attributes that are not known, in their order. -/
def unknownNotices (t : Table (Attribute D S)) : List Notice :=
  (t.filter fun x => !isKnown x).map fun x => .unknownUnitAttribute x.1

theorem eq_attributeName (h : BaseDimension.ofAttribute? name = some d) :
    name = d.attributeName := by
  have hfound := List.find?_some h
  exact (of_decide_eq_true hfound).symm

theorem filter_isKnown_cons_unknown (h : BaseDimension.ofAttribute? name = none) :
    ((name, a) :: t).filter isKnown = t.filter isKnown ∧
      unknownNotices ((name, a) :: t) = .unknownUnitAttribute name :: unknownNotices t := by
  have hunknown : isKnown (name, a) = false := by
    rw [isKnown, h]
    rfl
  constructor
  · exact List.filter_cons_of_neg (by rw [hunknown]; decide)
  · rw [unknownNotices, List.filter_cons_of_pos (by rw [hunknown]; decide), List.map_cons]
    rfl

theorem filter_isKnown_cons_known :
    ((d.attributeName, a) :: t).filter isKnown = (d.attributeName, a) :: t.filter isKnown ∧
      unknownNotices ((d.attributeName, a) :: t) = unknownNotices t := by
  have hknown : isKnown (d.attributeName, a) = true := by
    rw [isKnown, BaseDimension.ofAttribute?_attributeName]
    rfl
  constructor
  · exact List.filter_cons_of_pos hknown
  · rw [unknownNotices, List.filter_cons_of_neg (by rw [hknown]; decide)]
    rfl

end Known

variable [Transcendental D] [Narrowing D S]

/-! ## The base units of attributes -/

section Attributes

variable {name : String} {a : Attribute D S} {t : Table (Attribute D S)} {d : BaseDimension}
  {notices : List Notice}

/-- The base units of the known attributes, in their order. -/
def knownUnits (t : Table (Attribute D S)) : Except Failure (List (BaseDimension × BaseUnit D)) :=
  (t.filter isKnown).mapM fun x => do
    let d ← BaseDimension.ofAttribute x.1
    return (d, ← storedUnit d x.2)

theorem knownUnits_cons_unknown (h : BaseDimension.ofAttribute? name = none) :
    knownUnits ((name, a) :: t) = knownUnits t := by
  rw [knownUnits, (filter_isKnown_cons_unknown h).1, ← knownUnits]

theorem knownUnits_cons_known :
    knownUnits ((d.attributeName, a) :: t)
      = storedUnit d a >>= fun unit => knownUnits t >>= fun units => .ok ((d, unit) :: units) := by
  rw [knownUnits, filter_isKnown_cons_known.1, List.mapM_cons, BaseDimension.ofAttribute,
    BaseDimension.ofAttribute?_attributeName, Failure.ofOption_some, Result.ok_bind]
  cases storedUnit d a with
  | error e => rfl
  | ok unit => rfl

theorem run_storedUnits_unknown (h : BaseDimension.ofAttribute? name = none) :
    (storedUnits ((name, a) :: t)).run.run notices
      = (storedUnits t).run.run (notices ++ [.unknownUnitAttribute name]) := by
  rw [storedUnits, h]
  rfl

theorem run_storedUnits_known :
    (storedUnits ((d.attributeName, a) :: t)).run.run notices =
      match storedUnit d a with
      | .error e => (.error e, notices)
      | .ok unit =>
        let others := (storedUnits t).run.run notices
        (others.1 >>= fun units => .ok ((d, unit) :: units), others.2) := by
  rw [storedUnits, BaseDimension.ofAttribute?_attributeName]
  cases hunit : storedUnit d a with
  | error e =>
    simp only [hunit]
    rfl
  | ok unit =>
    simp only [hunit]
    show (storedUnits t >>= fun units => pure ((d, unit) :: units) : Reading _).run.run notices = _
    rw [ExceptT.run_bind, StateT.run_bind]
    rcases (storedUnits t).run.run notices with ⟨units | units, noted⟩
    · rfl
    · rfl

/-- Reading makes the base units of the known attributes, and notices of the others: of all of them,
unless it fails on the way. -/
theorem run_storedUnits (t : Table (Attribute D S)) (notices : List Notice) :
    ∃ noted, (storedUnits t).run.run notices = (knownUnits t, notices ++ noted) ∧
      noted <+: unknownNotices t ∧
      ∀ units, knownUnits t = .ok units → noted = unknownNotices t := by
  induction t generalizing notices with
  | nil =>
    refine ⟨[], ?_, List.prefix_rfl, fun _ _ => rfl⟩
    rw [List.append_nil]
    rfl
  | cons x t ih =>
    obtain ⟨name, a⟩ := x
    rcases hname : BaseDimension.ofAttribute? name with _ | d
    · -- the notice is made before the rest is read
      obtain ⟨noted, hrun, hprefix, hall⟩ := ih (notices ++ [.unknownUnitAttribute name])
      rw [knownUnits_cons_unknown hname, (filter_isKnown_cons_unknown hname).2,
        run_storedUnits_unknown hname, hrun, List.append_assoc]
      refine ⟨.unknownUnitAttribute name :: noted, rfl, ?_, ?_⟩
      · exact (List.prefix_cons_inj _).mpr hprefix
      · intro units hunits
        rw [hall units hunits]
    · obtain rfl := eq_attributeName hname
      obtain ⟨noted, hrun, hprefix, hall⟩ := ih notices
      rw [run_storedUnits_known, knownUnits_cons_known, filter_isKnown_cons_known.2, hrun]
      cases storedUnit d a with
      | error e =>
        refine ⟨[], ?_, List.nil_prefix, ?_⟩
        · rw [List.append_nil]
          rfl
        · intro units hunits
          cases hunits
      | ok unit =>
        refine ⟨noted, rfl, hprefix, ?_⟩
        intro units hunits
        rw [Result.ok_bind, Result.bind_eq_ok] at hunits
        obtain ⟨others, hothers, -⟩ := hunits
        exact hall others hothers

theorem unitOf?_of_knownUnits {units : List (BaseDimension × BaseUnit D)}
    (h : knownUnits t = .ok units) (d : BaseDimension) :
    (unitOf? units d).map Except.ok = (t.find? d.attributeName).map (storedUnit d) := by
  induction t generalizing units with
  | nil =>
    cases h
    rfl
  | cons x t ih =>
    obtain ⟨name, a⟩ := x
    rcases hname : BaseDimension.ofAttribute? name with _ | d'
    · rw [knownUnits_cons_unknown hname] at h
      have hother : name ≠ d.attributeName := by
        rintro rfl
        rw [BaseDimension.ofAttribute?_attributeName] at hname
        cases hname
      rw [ih h, Table.find?, if_neg hother]
    · obtain rfl := eq_attributeName hname
      rw [knownUnits_cons_known, Result.bind_eq_ok] at h
      obtain ⟨unit, hunit, h⟩ := h
      obtain ⟨others, hothers, h⟩ := Result.bind_eq_ok.mp h
      obtain rfl := Except.ok.inj h
      by_cases hd : d' = d
      · subst hd
        rw [unitOf?, Table.find?, if_pos rfl, List.find?_cons_of_pos (by simp)]
        exact congrArg some hunit.symm
      · have hother : d'.attributeName ≠ d.attributeName := by
          intro hsame
          rw [hsame, BaseDimension.ofAttribute?_attributeName] at hname
          exact hd (Option.some.inj hname).symm
        rw [unitOf?, Table.find?, if_neg hother, List.find?_cons_of_neg (by simpa using hd),
          ← unitOf?, ih hothers]

theorem exists_knownUnits
    (h : ∀ d a, (BaseDimension.attributeName d, a) ∈ t → ∃ b, storedUnit d a = .ok b) :
    ∃ units, knownUnits t = .ok units := by
  refine Result.exists_mapM_eq_ok ?_
  rintro ⟨name, a⟩ hx
  obtain ⟨hmem, hknown⟩ := List.mem_filter.mp hx
  obtain ⟨d, hd⟩ := Option.isSome_iff_exists.mp hknown
  obtain rfl := eq_attributeName hd
  obtain ⟨b, hb⟩ := h d a hmem
  refine ⟨(d, b), ?_⟩
  rw [BaseDimension.ofAttribute, hd, Failure.ofOption_some, Result.ok_bind, hb]
  rfl

end Attributes

/-! ## The system of some base units -/

section System

variable {units : List (BaseDimension × BaseUnit D)} {u : UnitSystem D}

/-- The base unit of a dimension among some; that of cgs stands in where there is none. -/
def unitOrCgs (units : List (BaseDimension × BaseUnit D)) (d : BaseDimension) : BaseUnit D :=
  (unitOf? units d).getD (.named d.cgsUnit)

/-- The system of some base units and those of cgs. -/
def completed (units : List (BaseDimension × BaseUnit D)) : UnitSystem D where
  length := unitOrCgs units .length
  mass := unitOrCgs units .mass
  time := unitOrCgs units .time
  temperature := unitOrCgs units .temperature
  current := some (unitOrCgs units .current)

theorem unit?_completed (d : BaseDimension) :
    (completed units).unit? d = some (unitOrCgs units d) := by
  cases d with
  | mass => rfl
  | length => rfl
  | time => rfl
  | current => rfl
  | temperature => rfl

/-- What is made of base units is their system, completed, if its units have sizes and those of
length, mass and time are among them. -/
theorem ofStoredUnits_eq (units : List (BaseDimension × BaseUnit D)) :
    ofStoredUnits units =
      if ∀ d ∈ BaseDimension.mechanical, unitOf? units d ≠ none then checked (completed units)
      else .error .noSuchKey := by
  simp only [BaseDimension.mechanical, List.forall_mem_cons, List.not_mem_nil, false_implies,
    implies_true, and_true]
  rw [ofStoredUnits, completed]
  simp only [unitOrCgs]
  rcases unitOf? units .length with _ | length
  · rfl
  rcases unitOf? units .mass with _ | mass
  · rfl
  rcases unitOf? units .time with _ | time
  · rfl
  rfl

theorem ofStoredUnits_eq_ok_iff :
    ofStoredUnits units = .ok u ↔ (∀ d ∈ BaseDimension.mechanical, unitOf? units d ≠ none) ∧
      (∀ d, (unitOrCgs units d).hasSize = true) ∧ u = completed units := by
  have hsizes : (∀ d b, (completed units).unit? d = some b → b.hasSize = true) ↔
      ∀ d, (unitOrCgs units d).hasSize = true := by
    simp only [unit?_completed, Option.some.injEq, forall_eq']
  rw [ofStoredUnits_eq]
  split
  next hthere => rw [checked_eq_ok_iff, hsizes, and_iff_right hthere, and_comm]
  next hmissing =>
    constructor
    · intro h
      cases h
    · rintro ⟨hthere, -⟩
      exact absurd hthere hmissing

/-- There is one failure, and no other way to it. -/
theorem ofStoredUnits_eq_error_iff {e : Failure} :
    ofStoredUnits units = .error e ↔ e = .noSuchKey ∧
      ((∃ d ∈ BaseDimension.mechanical, unitOf? units d = none) ∨
        ∃ d, (unitOrCgs units d).hasSize = false) := by
  have honly : ∀ e, ofStoredUnits units = .error e → e = .noSuchKey := by
    intro e h
    rw [ofStoredUnits_eq, checked] at h
    split_ifs at h
    · exact (Except.error.inj h).symm
    · exact (Except.error.inj h).symm
  constructor
  · intro h
    refine ⟨honly e h, ?_⟩
    by_contra hno
    rw [not_or] at hno
    obtain ⟨hthere, hsizes⟩ := hno
    have hok : ofStoredUnits units = .ok (completed units) := by
      refine ofStoredUnits_eq_ok_iff.mpr ⟨?_, ?_, rfl⟩
      · intro d hd hnone
        exact hthere ⟨d, hd, hnone⟩
      · intro d
        exact Bool.eq_true_of_not_eq_false fun hsize => hsizes ⟨d, hsize⟩
    rw [h] at hok
    cases hok
  · rintro ⟨rfl, hbad⟩
    cases hresult : ofStoredUnits units with
    | error e => rw [honly e hresult]
    | ok u =>
      obtain ⟨hthere, hsizes, -⟩ := ofStoredUnits_eq_ok_iff.mp hresult
      rcases hbad with ⟨d, hd, hnone⟩ | ⟨d, hsize⟩
      · exact absurd hnone (hthere d hd)
      · exact absurd hsize (by rw [hsizes d]; decide)

end System

/-! ## Reading a group of lists -/

section Reading

variable {f f' : Archive D S} {t t' : Table (Attribute D S)}

/-- What some attributes state as the base unit of a dimension: the one of the first number in the
attribute of its name, and that of cgs where there is no such attribute. -/
inductive States (t : Table (Attribute D S)) (d : BaseDimension) : BaseUnit D → Prop
  | stored {a : Attribute D S} {e : ElementType} {c : Cell D S} :
      t.find? d.attributeName = some a → a.StartsWith e c →
      States t d (.ofStored e.bytes c.toDouble d)
  | missing : t.find? d.attributeName = none → States t d (.named d.cgsUnit)

/-- What is read from the attributes of a group of units.  All unknown attributes are noted.  The
group is refused exactly if the unit of length, mass or time is missing, or a unit without a size is
stated; the units are those that are stated otherwise. -/
structure IsReadFrom (t : Table (Attribute D S))
    (result : Except Failure (UnitSystem D) × List Notice) : Prop where
  notices : result.2 = unknownNotices t
  refused : result.1 = .error .noSuchKey ↔
    (∃ d ∈ BaseDimension.mechanical, t.find? d.attributeName = none) ∨
      ∃ d b, States t d b ∧ b.hasSize = false
  units : result.1 ≠ .error .noSuchKey →
    ∃ u, result.1 = .ok u ∧ ∀ d, ∃ b, States t d b ∧ u.unit? d = some b

theorem storedUnit_of_startsWith {a : Attribute D S} {e : ElementType} {c : Cell D S}
    (h : a.StartsWith e c) (d : BaseDimension) :
    storedUnit d a = .ok (.ofStored e.bytes c.toDouble d) := by
  obtain ⟨htruth, cells⟩ := h
  cases e with
  | truth => exact absurd rfl htruth
  | float16 => rfl
  | float32 => rfl
  | float64 => rfl
  | integer k => rfl

/-- The units come from the known attributes alone; all others are noted, unless a known one ends
the reading. -/
theorem result_ofAttributes (t : Table (Attribute D S)) :
    ∃ noted, (ofAttributes t).result = (knownUnits t >>= ofStoredUnits, noted) ∧
      noted <+: unknownNotices t ∧
      ∀ units, knownUnits t = .ok units → noted = unknownNotices t := by
  obtain ⟨noted, hrun, hprefix, hall⟩ := run_storedUnits t []
  refine ⟨noted, ?_, hprefix, hall⟩
  rw [List.nil_append] at hrun
  rw [Reading.result, ofAttributes, ExceptT.run_bind, StateT.run_bind, hrun]
  cases knownUnits t with
  | error e => rfl
  | ok units => rfl

theorem result_ofArchive (h : f.attributes? [groupName] = some t) :
    (ofArchive f).result = (ofAttributes t).result := by
  rw [ofArchive, h]
  rfl

theorem result_ofArchive_congr (h : f.attributes? [groupName] = some t)
    (h' : f'.attributes? [groupName] = some t') (hknown : t.filter isKnown = t'.filter isKnown) :
    (ofArchive f).result.1 = (ofArchive f').result.1 := by
  obtain ⟨_, hresult, -⟩ := result_ofAttributes t
  obtain ⟨_, hresult', -⟩ := result_ofAttributes t'
  rw [result_ofArchive h, result_ofArchive h', hresult, hresult', knownUnits, hknown, ← knownUnits]

/-- The base unit that is stated for a dimension is the one that is found for it, or that of cgs. -/
theorem States.eq_unitOrCgs {units : List (BaseDimension × BaseUnit D)}
    (hunits : knownUnits t = .ok units) {d : BaseDimension} {b : BaseUnit D} (h : States t d b) :
    b = unitOrCgs units d := by
  have hunit := unitOf?_of_knownUnits hunits d
  cases h with
  | stored hfound hstarts =>
    rw [hfound, Option.map_some, storedUnit_of_startsWith hstarts, Option.map_eq_some_iff] at hunit
    obtain ⟨b, hb, hsame⟩ := hunit
    obtain rfl := Except.ok.inj hsame
    rw [unitOrCgs, hb, Option.getD_some]
  | missing hfound =>
    rw [hfound, Option.map_none, Option.map_eq_none_iff] at hunit
    rw [unitOrCgs, hunit, Option.getD_none]

theorem exists_states
    (hlists : ∀ d a, (BaseDimension.attributeName d, a) ∈ t → ∃ e c, a.StartsWith e c)
    (d : BaseDimension) : ∃ b, States t d b := by
  cases hfound : t.find? d.attributeName with
  | none => exact ⟨_, .missing hfound⟩
  | some a =>
    obtain ⟨e, c, hstarts⟩ := hlists d a (Table.mem_of_find? hfound)
    exact ⟨_, .stored hfound hstarts⟩

theorem isReadFrom_of_lists (h : f.attributes? [groupName] = some t)
    (hlists : ∀ d a, (BaseDimension.attributeName d, a) ∈ t → ∃ e c, a.StartsWith e c) :
    IsReadFrom t (ofArchive f).result := by
  obtain ⟨units, hunits⟩ : ∃ units, knownUnits t = .ok units := by
    refine exists_knownUnits fun d a hmem => ?_
    obtain ⟨e, c, hstarts⟩ := hlists d a hmem
    exact ⟨_, storedUnit_of_startsWith hstarts d⟩
  obtain ⟨noted, hresult, -, hall⟩ := result_ofAttributes t
  rw [hunits, Result.ok_bind, hall units hunits] at hresult
  rw [result_ofArchive h, hresult]
  have hthere : ∀ d, unitOf? units d = none ↔ t.find? d.attributeName = none := by
    intro d
    have hunit := congrArg Option.isNone (unitOf?_of_knownUnits hunits d)
    rw [Option.isNone_map, Option.isNone_map] at hunit
    rw [← Option.isNone_iff_eq_none, hunit, Option.isNone_iff_eq_none]
  have hstates : ∀ d, States t d (unitOrCgs units d) := by
    intro d
    obtain ⟨b, hb⟩ := exists_states hlists d
    exact hb.eq_unitOrCgs hunits ▸ hb
  have hsizeless : (∃ d, (unitOrCgs units d).hasSize = false) ↔
      ∃ d b, States t d b ∧ b.hasSize = false := by
    constructor
    · rintro ⟨d, hsize⟩
      exact ⟨d, _, hstates d, hsize⟩
    · rintro ⟨d, b, hb, hsize⟩
      exact ⟨d, hb.eq_unitOrCgs hunits ▸ hsize⟩
  constructor
  case notices => rfl
  case refused =>
    simp only [ofStoredUnits_eq_error_iff, hthere, hsizeless, true_and]
  case units =>
    intro hread
    cases hsystem : ofStoredUnits units with
    | error e =>
      obtain ⟨rfl, -⟩ := ofStoredUnits_eq_error_iff.mp hsystem
      exact absurd hsystem hread
    | ok u =>
      obtain ⟨-, -, rfl⟩ := ofStoredUnits_eq_ok_iff.mp hsystem
      exact ⟨_, rfl, fun d => ⟨_, hstates d, unit?_completed d⟩⟩

end Reading

/-! ## Positive sizes -/

theorem hasSize_of_states {t : Table (Attribute ℝ ℝ)}
    (hpos : ∀ d a, (BaseDimension.attributeName d, a) ∈ t →
      ∃ e c, a.StartsWith e c ∧ 0 < c.toDouble)
    {d : BaseDimension} {b : BaseUnit ℝ} (h : States t d b) : b.hasSize = true := by
  cases h with
  | stored hfound hstarts =>
    obtain ⟨e, c, hstarts', hsize⟩ := hpos d _ (Table.mem_of_find? hfound)
    obtain ⟨rfl, rfl⟩ := hstarts.unique hstarts'
    exact BaseUnit.hasSize_ofStored _ hsize d
  | missing =>
    have hone : (0.0 : ℝ) < (BaseUnit.named d.cgsUnit : BaseUnit ℝ).multiple := by
      rw [BaseUnit.named, Exact.zero_eq, Exact.one_eq]
      exact zero_lt_one
    exact BaseUnit.hasSize_of_pos hone

/-- Reading a group of units depends on its known attributes alone.  In every number system, a group
whose known attributes are lists of numbers is read from these, and all others are noted; if the
numbers are positive reals, a group is refused exactly if the unit of length, mass or time is
missing.  Whatever the known attributes are, to add, remove or reorder others changes no unit. -/
theorem ofArchive_of_lists :
    (∀ {D S : Type} [Transcendental D] [Narrowing D S]
      {f : Archive D S} {t : Table (Attribute D S)}, f.attributes? [groupName] = some t →
      (∀ d a, (BaseDimension.attributeName d, a) ∈ t → ∃ e c, a.StartsWith e c) →
      IsReadFrom t (ofArchive f).result) ∧
    (∀ {f : Archive ℝ ℝ} {t : Table (Attribute ℝ ℝ)}, f.attributes? [groupName] = some t →
      (∀ d a, (BaseDimension.attributeName d, a) ∈ t →
        ∃ e c, a.StartsWith e c ∧ 0 < c.toDouble) →
      ((ofArchive f).result.1 = .error .noSuchKey ↔
        ∃ d ∈ BaseDimension.mechanical, t.find? d.attributeName = none)) ∧
    ∀ {D S : Type} [Transcendental D] [Narrowing D S]
      {f f' : Archive D S} {t t' : Table (Attribute D S)}, f.attributes? [groupName] = some t →
      f'.attributes? [groupName] = some t' → t.filter isKnown = t'.filter isKnown →
      (ofArchive f).result.1 = (ofArchive f').result.1 := by
  refine ⟨isReadFrom_of_lists, ?_, result_ofArchive_congr⟩
  intro f t h hpos
  have hlists : ∀ d a, (BaseDimension.attributeName d, a) ∈ t → ∃ e c, a.StartsWith e c := by
    intro d a hmem
    obtain ⟨e, c, hstarts, -⟩ := hpos d a hmem
    exact ⟨e, c, hstarts⟩
  rw [(isReadFrom_of_lists h hlists).refused, or_iff_left]
  rintro ⟨d, b, hb, hsize⟩
  rw [hasSize_of_states hpos hb] at hsize
  cases hsize

/-! ### Groups of sizes -/

/-- A file with nothing but a group of units. -/
def unitsFile {D S : Type} (t : Table (Attribute D S)) : Archive D S := ⟨[(groupName, ⟨t, []⟩)]⟩

def sizes {D S : Type} (xs : List (String × D)) : Table (Attribute D S) :=
  xs.map fun x => (x.1, .reals [x.2])

theorem startsWith_of_mem_sizes {D S : Type} {xs : List (String × D)} {name : String}
    {a : Attribute D S} (h : (name, a) ∈ sizes xs) :
    ∃ x, (name, x) ∈ xs ∧ a.StartsWith .float64 (.double x) := by
  obtain ⟨⟨name', x⟩, hmem, hsame⟩ := List.mem_map.mp h
  obtain ⟨rfl, rfl⟩ := Prod.mk.inj hsame
  exact ⟨x, hmem, Attribute.startsWith_reals x⟩

noncomputable def ones (names : List String) : Table (Attribute ℝ ℝ) :=
  sizes (names.map fun name => (name, 1))

theorem startsWith_of_mem_ones {names : List String} {name : String} {a : Attribute ℝ ℝ}
    (h : (name, a) ∈ ones names) : a.StartsWith .float64 (.double 1) := by
  obtain ⟨x, hmem, hstarts⟩ := startsWith_of_mem_sizes h
  obtain ⟨_, -, hsame⟩ := List.mem_map.mp hmem
  obtain ⟨-, rfl⟩ := Prod.mk.inj hsame
  exact hstarts

theorem States.eq_cgsUnit {names : List String} {d : BaseDimension} {b : BaseUnit ℝ}
    (h : States (ones names) d b) : b = .named d.cgsUnit := by
  cases h with
  | stored hfound hstarts =>
    obtain ⟨-, rfl⟩ := hstarts.unique (startsWith_of_mem_ones (Table.mem_of_find? hfound))
    exact BaseUnit.ofStored_of_sizeIn_eq _ (BaseUnit.cgsUnit_mem d) (BaseUnit.sizeIn_cgsUnit d).symm
  | missing => rfl

/-- The units of cgs are read of ones, with a notice of a luminosity, which changes nothing; where
the mass is missing the group is refused, after the notice. -/
theorem ofArchive_of_lists_ones :
    let luminosity := "Unit luminosity in cgs (U_Lum)"
    let notice := Notice.unknownUnitAttribute luminosity
    let stated := ["Unit length in cgs (U_L)", "Unit mass in cgs (U_M)", "Unit time in cgs (U_t)"]
    ∃ u, (ofArchive (unitsFile (ones (luminosity :: stated)))).result = (.ok u, [notice]) ∧
      (∀ d, u.unit? d = some (.named d.cgsUnit)) ∧
      (ofArchive (unitsFile (ones (stated ++ [luminosity, "Comment"])))).result.1 = .ok u ∧
      (ofArchive (unitsFile (ones [luminosity, "Unit length in cgs (U_L)"]))).result
        = (.error .noSuchKey, [notice]) := by
  intro luminosity notice stated
  obtain ⟨hlists, hpositive, hothers⟩ := ofArchive_of_lists
  have hpos : ∀ names d a, (BaseDimension.attributeName d, a) ∈ ones names →
      ∃ e c, a.StartsWith e c ∧ 0 < c.toDouble :=
    fun names d a hmem => ⟨_, _, startsWith_of_mem_ones hmem, zero_lt_one⟩
  have hread : ∀ names, IsReadFrom (ones names) (ofArchive (unitsFile (ones names))).result := by
    intro names
    refine hlists rfl fun d a hmem => ?_
    obtain ⟨e, c, hstarts, -⟩ := hpos names d a hmem
    exact ⟨e, c, hstarts⟩
  have hthere : (ofArchive (unitsFile (ones (luminosity :: stated)))).result.1
      ≠ .error .noSuchKey := by
    rw [Ne, hpositive rfl (hpos _)]
    rintro ⟨d, hd, hmissing⟩
    simp only [BaseDimension.mechanical, List.mem_cons, List.not_mem_nil, or_false] at hd
    rcases hd with rfl | rfl | rfl
    · cases hmissing
    · cases hmissing
    · cases hmissing
  obtain ⟨u, hu, hunits⟩ := (hread _).units hthere
  refine ⟨u, Prod.ext hu (hread _).notices, ?_, ?_, ?_⟩
  · intro d
    obtain ⟨b, hb, hunit⟩ := hunits d
    rw [hunit, hb.eq_cgsUnit]
  · rw [← hu]
    exact hothers rfl rfl rfl
  · refine Prod.ext ((hpositive rfl (hpos _)).mpr ⟨.mass, ?_, rfl⟩) (hread _).notices
    decide

/-- Positive numbers are not enough: a column in place of a list is of the wrong type, and a current
that five digits carry beyond all doubles is refused like a missing unit. -/
theorem positive_units_refused :
    let one : Attribute Float Float32 := .reals [1.0]
    let column : Attribute Float Float32 := .numbers (.doubles ⟨[1, 1], [1.0], rfl⟩)
    let large : Float := 1.7976931348623157e308
    let beyond : Table (Attribute Float Float32) := sizes [("Unit current in cgs (U_I)", large),
      ("Unit length in cgs (U_L)", 1.0), ("Unit mass in cgs (U_M)", 1.0),
      ("Unit time in cgs (U_t)", 1.0)]
    0.0 < large ∧
      (ofArchive (unitsFile [("Unit length in cgs (U_L)", column), ("Unit mass in cgs (U_M)", one),
        ("Unit time in cgs (U_t)", one)])).result = (.error .wrongType, []) ∧
      (ofArchive (unitsFile beyond)).result = (.error .noSuchKey, []) := by
  intro one column large beyond
  refine ⟨by decide +kernel, rfl, ?_⟩
  have hread : IsReadFrom beyond (ofArchive (unitsFile beyond)).result := by
    refine isReadFrom_of_lists rfl fun d a hmem => ?_
    obtain ⟨x, -, hstarts⟩ := startsWith_of_mem_sizes hmem
    exact ⟨_, _, hstarts⟩
  have hstates : States beyond .current (.ofStored ElementType.float64.bytes
      (Cell.double large : Cell Float Float32).toDouble .current) :=
    .stored rfl (Attribute.startsWith_reals large)
  have hsize : (BaseUnit.ofStored ElementType.float64.bytes
      (Cell.double large : Cell Float Float32).toDouble .current).hasSize = false := by
    rw [BaseUnit.ofStored, BaseUnit.closestCommon_of_commonUnits _ _ rfl]
    decide +kernel
  exact Prod.ext (hread.refused.mpr (.inr ⟨_, _, hstates, hsize⟩)) hread.notices

end UnitSystem

end MeshlessGas
