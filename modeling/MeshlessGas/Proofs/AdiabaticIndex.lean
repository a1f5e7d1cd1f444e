/-
The adiabatic index of a written snapshot — a double that is kept as a single.

The index reaches a reader by two ways.  Beside every dataset stand the exponents of its units,
which are those of the index that the particles were written with; and the properties of the
scheme hold the index itself, in single precision.  A reader that composes units again uses the
second one.  Only the exponents of the entropic function depend on the index, so that all other
units agree, and those of the entropic function do if the index is a single.
-/
import MeshlessGas.Proofs.Identifiers

namespace MeshlessGas

/-! ## Units of known fields -/

namespace ComposedUnit

variable {D : Type} [Transcendental D] [Numeral D] {units : BaseDimension → NamedUnit} {gamma : D}

theorem find?_mapM_ofTag {tag : UnitTag} :
    ∀ {tags : List UnitTag} {composed : List (UnitTag × ComposedUnit D)},
      (tags.mapM fun t => do return (t, ← ofTag units gamma t)) = .ok composed → tag ∈ tags →
      ∃ unit, (composed.find? fun x => x.1 = tag) = some (tag, unit) ∧
        ofTag units gamma tag = .ok unit
  | [], _, _, hmem => absurd hmem List.not_mem_nil
  | t :: tags, composed, h, hmem => by
    rw [List.mapM_cons, Result.bind_eq_ok] at h
    obtain ⟨first, hfirst, h⟩ := h
    rw [Result.bind_eq_ok] at hfirst h
    obtain ⟨unit, hunit, hfirst⟩ := hfirst
    obtain ⟨rest, hrest, h⟩ := h
    obtain rfl := Except.ok.inj hfirst
    obtain rfl := Except.ok.inj h
    by_cases htag : t = tag
    · subst htag
      exact ⟨unit, List.find?_cons_of_pos (decide_eq_true rfl), hunit⟩
    · have hlater : tag ∈ tags := (List.mem_cons.mp hmem).resolve_left (Ne.symm htag)
      obtain ⟨found, hfound, hcomposed⟩ := find?_mapM_ofTag hrest hlater
      exact ⟨found, by rw [List.find?_cons_of_neg (by simpa using htag), hfound], hcomposed⟩

end ComposedUnit

namespace Quantity

variable {D : Type} [Transcendental D] [Numeral D] {name : String} {gamma : D}

theorem ofTag_of_unitOf {tag : UnitTag} {unit : ComposedUnit D} (htag : tagOf? name = some tag)
    (h : unitOf name gamma = .ok unit) :
    ComposedUnit.ofTag BaseDimension.cgsUnit gamma tag = .ok unit := by
  rw [unitOf, Result.bind_eq_ok] at h
  obtain ⟨composed, hcomposed, h⟩ := h
  have hmem : tag ∈ UnitTag.all := by
    cases tag <;> decide
  obtain ⟨found, hfound, hunit⟩ := ComposedUnit.find?_mapM_ofTag hcomposed hmem
  have hfound : found = unit := by
    simpa [htag, hfound] using h
  rw [hunit, hfound]

end Quantity

/-! ## Exponents -/

theorem FieldDescriptor.exponentAttribute_injective {D S : Type} :
    Function.Injective (exponentAttribute : Exponent D → Attribute D S) := by
  have hcell : ∀ {c c' : Cell D S} {t t' : ElementType},
      Attribute.numbers ⟨t, .vector [c]⟩ = Attribute.numbers ⟨t', .vector [c']⟩ → c = c' := by
    intro c c' t t' hequal
    exact List.head_eq_of_cons_eq (congrArg (·.cells.cells) (Attribute.numbers.inj hequal))
  intro x y h
  cases x with
  | whole n =>
    cases y with
    | whole m => exact congrArg Exponent.whole (Cell.whole.inj (hcell h))
    | real y => cases hcell h
  | real x =>
    cases y with
    | whole m => cases hcell h
    | real y => exact congrArg Exponent.real (Cell.double.inj (hcell h))

/-- Only the exponents of the entropic function depend on the adiabatic index. -/
theorem UnitTag.exponent_eq_of_ne_entropy {D : Type} [Arithmetic D] {tag : UnitTag}
    (htag : tag ≠ .entropy) (gamma gamma' : D) (d : BaseDimension) :
    tag.exponent gamma d = tag.exponent gamma' d := by
  cases tag with
  | entropy => exact absurd rfl htag
  | _ => rfl

/-! ## The entropic function in double precision -/

namespace Exact

variable {base count : ℕ}

theorem HasPlaces.one_sub (hbase : 1 < base) {x : ℝ} (h : HasPlaces base count x) (hlow : 1 ≤ x)
    (hhigh : x ≤ (base : ℝ) ^ count) : HasPlaces base count (1 - x) := by
  obtain ⟨digits, exponent, hdigits, rfl⟩ := h
  cases exponent with
  | ofNat zeros =>
    -- An integer: its distance from one is below its bound.
    rw [Int.ofNat_eq_natCast, zpow_natCast] at *
    have hlow : 1 ≤ digits * (base : ℤ) ^ zeros := by exact_mod_cast hlow
    have hhigh : digits * (base : ℤ) ^ zeros ≤ (base : ℤ) ^ count := by exact_mod_cast hhigh
    refine ⟨1 - digits * (base : ℤ) ^ zeros, 0, ?_, ?_⟩
    · rw [abs_of_nonpos (by linarith)]
      linarith
    · push_cast
      rw [zpow_zero, mul_one]
  | negSucc places =>
    -- With places behind the point, one is the integer that is cut off the digits.
    have hpower : (0 : ℝ) < (base : ℝ) ^ (places + 1) := pow_pos (base_pos hbase) _
    rw [zpow_negSucc, ← div_eq_mul_inv] at *
    rw [one_le_div hpower] at hlow
    have hlow : (base : ℤ) ^ (places + 1) ≤ digits := by exact_mod_cast hlow
    have hpos : 0 < (base : ℤ) ^ (places + 1) := by exact_mod_cast hpower
    have hbound := (abs_lt.mp hdigits).2
    refine ⟨(base : ℤ) ^ (places + 1) - digits, .negSucc places, ?_, ?_⟩
    · rw [abs_of_nonpos (by linarith)]
      linarith
    · rw [zpow_negSucc, ← div_eq_mul_inv, Int.cast_sub, Int.cast_pow, Int.cast_natCast, sub_div,
        div_self hpower.ne']

end Exact

namespace Rounded

variable {f : BinaryFormat} {x : ℝ} {y : Rounded f}

theorem le_toReal_round (h : y.toReal ≤ x) : y.toReal ≤ (round f x).toReal := by
  have hnearest := abs_toReal_round_sub_le x y
  rw [abs_sub_comm y.toReal, abs_of_nonneg (sub_nonneg.mpr h)] at hnearest
  have hbelow := (abs_le.mp hnearest).1
  linarith

theorem toReal_round_le (h : x ≤ y.toReal) : (round f x).toReal ≤ y.toReal := by
  have hnearest := abs_toReal_round_sub_le x y
  rw [abs_of_nonneg (sub_nonneg.mpr h)] at hnearest
  have habove := (abs_le.mp hnearest).2
  linarith

end Rounded

namespace Double

variable {gamma : Double}

theorem toReal_widen_narrow (x : Double) :
    (Narrowing.widen (Narrowing.narrow x : Single) : Double).toReal
      = (Rounded.round binary32 x.toReal).toReal :=
  Single.toReal_widen (.round binary32 x.toReal)

theorem toReal_one_sub (hlow : 1 ≤ gamma.toReal) (hhigh : gamma.toReal ≤ 2 ^ 53) :
    (1.0 - gamma : Double).toReal = 1 - gamma.toReal := by
  have hplaces : Exact.HasPlaces 2 binary64.bits (1 - gamma.toReal) :=
    gamma.hasPlaces.one_sub Nat.one_lt_two hlow (by exact_mod_cast hhigh)
  show (Rounded.round binary64 ((1.0 : Double).toReal - gamma.toReal)).toReal = _
  rw [Rounded.toReal_one, Rounded.toReal_round_of_hasPlaces hplaces]

/-- The powers of mass in the unit of the entropic function agree for an index and for what is
kept of it exactly if the index is a single. -/
theorem exponent_entropy_eq_iff (hlow : 1 ≤ gamma.toReal) (hhigh : gamma.toReal ≤ 2 ^ 53) :
    UnitTag.entropy.exponent (Narrowing.widen (Narrowing.narrow gamma : Single) : Double) .mass
        = UnitTag.entropy.exponent gamma .mass
      ↔ Exact.HasPlaces 2 binary32.bits gamma.toReal := by
  set kept : Double := Narrowing.widen (Narrowing.narrow gamma : Single) with hkept
  have hreal : kept.toReal = (Rounded.round binary32 gamma.toReal).toReal :=
    toReal_widen_narrow gamma
  rw [← Rounded.toReal_round_eq_iff, ← hreal]
  constructor
  · intro h
    have hsub : (1.0 - kept : Double) = 1.0 - gamma := Exponent.real.inj h
    have hkeptLow : 1 ≤ kept.toReal := by
      have hone := Rounded.le_toReal_round (y := .round binary32 1)
        (Rounded.toReal_round_one.trans_le hlow)
      rwa [Rounded.toReal_round_one, ← hreal] at hone
    have hkeptHigh : kept.toReal ≤ 2 ^ 53 := by
      have hpower : (Rounded.round binary32 (2 ^ 53)).toReal = 2 ^ 53 :=
        Rounded.toReal_round_of_hasPlaces ⟨1, 53, by decide, by norm_num⟩
      have hle := Rounded.toReal_round_le (hhigh.trans_eq hpower.symm)
      rwa [hpower, ← hreal] at hle
    have hequal := congrArg Rounded.toReal hsub
    rw [toReal_one_sub hkeptLow hkeptHigh, toReal_one_sub hlow hhigh] at hequal
    linarith
  · intro h
    rw [Rounded.ext h]

end Double

/-! ## Written snapshots -/

namespace Snapshot

open FieldDescriptor (exponentName exponentAttribute)

variable {D S : Type} [Transcendental D] [Numeral D] [Arithmetic S] [Numeral S] [Narrowing D S]
  {c : Contents D S} {files files' : Directory D S} {file : String} {s : Snapshot D S}

omit [Numeral S] in
theorem IsOpenOn.exists_exponents (h : s.IsOpenOn files c) :
    ∃ f, files.read s.file = .ok f ∧ ∀ field ∈ FieldDescriptor.writeRegistry,
      ∃ d, f.member? [particleGroup] field.name = some (.dataset d) ∧
        ∀ dim, d.attributes.find? (exponentName dim)
          = some (exponentAttribute (field.units.exponent c.context.scheme.gamma dim)) := by
  obtain ⟨header, properties, particles, -, hparticles, hread, -⟩ := h
  refine ⟨_, hread, fun field hfield => ?_⟩
  obtain ⟨d, hd, hfound⟩ := (FieldDescriptor.find?_storeAll (by decide) hparticles).1 field hfield
  refine ⟨d, member?_archiveOf hfield hfound, fun dim => ?_⟩
  simp only [FieldDescriptor.datasetOf, Result.bind_eq_ok, Result.pure_eq] at hd
  obtain ⟨values, -, attributes, hattributes, hd⟩ := hd
  rw [← Except.ok.inj hd]
  exact FieldDescriptor.find?_exponentName hattributes dim

omit [Numeral S] in
theorem ofTag_of_readField {field : FieldDescriptor}
    (hfield : field ∈ FieldDescriptor.writeRegistry) {gamma : D} (hgamma : s.gamma = .ok gamma)
    {q : Quantity D S} (hq : s.readField files field.name = .ok q) :
    ComposedUnit.ofTag BaseDimension.cgsUnit gamma field.units = .ok q.unit := by
  refine Quantity.ofTag_of_unitOf (FieldDescriptor.tagOf?_name hfield) ?_
  rw [readField, Result.bind_eq_ok] at hq
  obtain ⟨f, -, hq⟩ := hq
  cases hgroup : (f.dataset? [particleGroup]).isSome with
  | true =>
    simp only [hgroup, if_true] at hq
    cases hq
  | false =>
    simp only [hgroup, Bool.false_eq_true, if_false] at hq
    split at hq
    next => cases hq
    next => cases hq
    next d _ =>
      simp only [hgamma, Result.ok_bind, Result.bind_eq_ok, Result.pure_eq,
        Except.ok.injEq] at hq
      obtain ⟨values, -, unit, hunit, rfl⟩ := hq
      exact hunit

def Contents.withGamma {D S : Type} (c : Contents D S) (gamma : D) : Contents D S :=
  let scheme := { c.context.scheme with gamma }
  { c with context := { c.context with scheme }, properties := { c.properties with scheme } }

theorem exists_write_withGamma (ids : List UInt64) (gamma : Double) :
    ∃ files', write {} "a.hdf5" ((restingContents ids).withGamma gamma) = (.ok (), files') := by
  have hresting : (restingContext : Context Double Single).Regular := regular_restingContext
  have hregular : ((restingContents ids).withGamma gamma).context.Regular :=
    ⟨hresting.tick_nonneg, hresting.tick_le, nofun, nofun⟩
  refine exists_write ⟨"a.hdf5", rfl, nofun⟩ (isRows_restingContents ids) hregular
    (fun p _ gparts h => absurd h nofun) nofun ⟨_, rfl⟩ ⟨_, rfl⟩ fun f hf => ?_
  exact f.exists_attributes_of_pos (FieldDescriptor.isPlain_writeRegistry hf)
    (hasPositiveSizes_restingContents ids) (FiniteNumbers.size_pos .second) _

/-- A ratio of specific heats that is a single. -/
noncomputable def keptGamma : Double := .round binary64 (2 : ℕ)

theorem toReal_keptGamma : keptGamma.toReal = 2 :=
  Rounded.toReal_round_of_hasPlaces ⟨1, 1, by decide, by norm_num⟩

/-- An adiabatic index next to sixteen, which has one bit more than a single. -/
noncomputable def unkeptGamma : Double := .round binary64 ((2 ^ 24 + 1 : ℕ) / (2 ^ 20 : ℕ))

theorem toReal_unkeptGamma :
    unkeptGamma.toReal = (2 ^ 24 + 1 : ℕ) * (2 : ℝ) ^ (-20 : ℤ) := by
  have hplaces : Exact.HasPlaces 2 binary64.bits ((2 ^ 24 + 1 : ℕ) / (2 ^ 20 : ℕ)) :=
    ⟨2 ^ 24 + 1, -20, by decide, by norm_num⟩
  rw [unkeptGamma, Rounded.toReal_round_of_hasPlaces hplaces]
  norm_num

theorem not_hasPlaces_unkeptGamma : ¬ Exact.HasPlaces 2 binary32.bits unkeptGamma.toReal := by
  rintro ⟨digits, exponent, hdigits, hgamma⟩
  -- Times a power of two it would be the first integer that is no single.
  have hinteger : Exact.HasPlaces 2 binary32.bits ((2 ^ binary32.bits + 1 : ℕ) : ℝ) := by
    refine ⟨digits, exponent + 20, hdigits, ?_⟩
    rw [Nat.cast_ofNat] at hgamma ⊢
    rw [zpow_add₀ two_ne_zero, ← mul_assoc, ← hgamma, toReal_unkeptGamma]
    norm_num [BinaryFormat.bits, binary32]
  have hlost := Rounded.toReal_round_firstLost (f := binary32) (by decide)
  rw [Rounded.toReal_round_of_hasPlaces hinteger] at hlost
  norm_num at hlost

end Snapshot

end MeshlessGas
