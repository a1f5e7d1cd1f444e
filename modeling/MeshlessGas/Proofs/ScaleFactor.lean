/-
Scale factors over the reals — an accepted cosmology never reaches the scale factor zero.

A cosmology is made only when its first scale factor is positive and lies below the last one.
The scale factor at a tick is the first one times an exponential, so that it stays positive
wherever the cosmology is moved to.
-/
import MeshlessGas.Proofs.RealUnits
import MeshlessGas.Context

namespace MeshlessGas

namespace Number

def value : Number ℝ → ℝ
  | whole n => n
  | real x => x

theorem toReal_eq (n : Number ℝ) : n.toReal = .ok n.value := by
  cases n <;> rfl

theorem isFinite_eq (x : ℝ) : Arithmetic.isFinite x = true := rfl

theorem truncate_eq (x : ℝ) : Arithmetic.truncate x = if 0 ≤ x then ⌊x⌋ else ⌈x⌉ := rfl

theorem ofInt_eq (n : ℤ) : (Arithmetic.ofInt n : ℝ) = n := rfl

theorem intLess_iff {n : ℤ} {x : ℝ} : intLess n x = true ↔ (n : ℝ) < x := by
  simp only [intLess, isFinite_eq, truncate_eq, ofInt_eq, if_true, decide_eq_true_eq]
  split
  · constructor
    · rintro (hlt | ⟨rfl, hlt⟩)
      · exact (Int.cast_lt.mpr hlt).trans_le (Int.floor_le x)
      · exact hlt
    · intro hlt
      obtain hbelow | heq := (Int.le_floor.mpr hlt.le).lt_or_eq
      · exact .inl hbelow
      · exact .inr ⟨heq, heq ▸ hlt⟩
  · rw [Int.lt_ceil]
    constructor
    · rintro (hlt | ⟨-, hlt⟩)
      · exact hlt
      · exact absurd (Int.le_ceil x) (not_le.mpr hlt)
    · exact .inl

theorem lessInt_iff {n : ℤ} {x : ℝ} : lessInt x n = true ↔ x < (n : ℝ) := by
  simp only [lessInt, isFinite_eq, truncate_eq, ofInt_eq, if_true, decide_eq_true_eq]
  split
  · rw [Int.floor_lt]
    constructor
    · rintro (hlt | ⟨-, hlt⟩)
      · exact hlt
      · exact absurd (Int.floor_le x) (not_le.mpr hlt)
    · exact .inl
  · constructor
    · rintro (hlt | ⟨rfl, hlt⟩)
      · exact (Int.le_ceil x).trans_lt (Int.cast_lt.mpr hlt)
      · exact hlt
    · intro hlt
      obtain habove | heq := (Int.ceil_le.mpr hlt.le).lt_or_eq
      · exact .inl habove
      · exact .inr ⟨heq, heq ▸ hlt⟩

theorem less_iff {m n : Number ℝ} : m.less n = true ↔ m.value < n.value := by
  cases m with
  | whole i =>
    cases n with
    | whole j =>
      rw [less, decide_eq_true_eq]
      exact Int.cast_lt.symm
    | real y => exact intLess_iff
  | real x =>
    cases n with
    | whole j => exact lessInt_iff
    | real y => exact decide_eq_true_iff

theorem quotient_eq {m n : Number ℝ} (hn : n.value ≠ 0) :
    m.quotient n = .ok (m.value / n.value) := by
  have hagree : ¬ Arithmetic.agree n.value 0.0 = true := by
    rw [Arithmetic.agree_iff, Exact.zero_eq]
    exact hn
  match m, n with
  | whole i, whole j =>
    have hj : j ≠ 0 := fun hzero => hn (by rw [hzero]; exact Int.cast_zero)
    have hratio : (((if j < 0 then -i else i : ℤ) : ℝ) / (j.natAbs : ℝ)) = (i : ℝ) / j := by
      rw [Nat.cast_natAbs, Int.cast_abs]
      split
      next hneg =>
        have hneg' : (j : ℝ) < 0 := by exact_mod_cast hneg
        rw [abs_of_neg hneg', Int.cast_neg, neg_div_neg_eq]
      next hneg =>
        have hnonneg : (0 : ℝ) ≤ j := by exact_mod_cast not_lt.mp hneg
        rw [abs_of_nonneg hnonneg]
    rw [quotient, if_neg hj]
    exact congrArg Except.ok hratio
  | whole _, real _ | real _, whole _ | real _, real _ =>
    simp only [quotient, toReal_eq, Result.ok_bind]
    exact if_neg hagree

end Number

namespace Cosmology

variable {o : CosmologyOptions ℝ} {units : UnitSystem ℝ}

theorem exists_of_checkScaleFactors (h : checkScaleFactors o = .ok ()) :
    ∃ first last : Number ℝ, o.aBegin.operand = .ok first ∧ o.aEnd.operand = .ok last ∧
      0 < first.value ∧ first.value < last.value := by
  obtain ⟨positive, hpositive, h⟩ := Result.bind_eq_ok.mp h
  obtain ⟨zero, hzero, hpositive⟩ := Result.bind_eq_ok.mp hpositive
  obtain ⟨first, hfirst, hpositive⟩ := Result.bind_eq_ok.mp hpositive
  obtain rfl : Number.real 0.0 = zero := Except.ok.inj hzero
  obtain rfl : (Number.real 0.0).less first = positive := Except.ok.inj hpositive
  -- The last scale factor counts only where the first is positive.
  split at h
  next hpos =>
    obtain ⟨ordered, hordered, h⟩ := Result.bind_eq_ok.mp h
    obtain ⟨first', hfirst', hordered⟩ := Result.bind_eq_ok.mp hordered
    obtain ⟨last, hlast, hordered⟩ := Result.bind_eq_ok.mp hordered
    obtain rfl : first = first' := Except.ok.inj (hfirst.symm.trans hfirst')
    obtain rfl : first.less last = ordered := Except.ok.inj hordered
    have hless : first.less last = true := by
      cases hcase : first.less last with
      | true => rfl
      | false =>
        rw [hcase] at h
        cases h
    rw [Number.less_iff] at hpos hless
    refine ⟨first, last, hfirst, hlast, ?_, hless⟩
    rw [← Exact.zero_eq]
    exact hpos
  next => cases h

/-- An expansion begins at the first scale factor of its options, which is positive, and grows to
the last one. -/
theorem ends_of_expansionOf {c : Expansion ℝ} (h : expansionOf o units = .ok c) :
    o.aBegin.number = .ok c.aBegin ∧ o.aEnd.number = .ok (c.aBegin * c.growth) ∧
      0 < c.aBegin ∧ 1 < c.growth := by
  simp only [expansionOf, Result.bind_eq_ok, Result.pure_eq, Except.ok.injEq] at h
  obtain ⟨_, hcheck, omegaK, -, h, -, last, hlast, first, hfirst, growth, hgrowth, aBegin, hbegin,
    wA, -, w0, -, omegaR, -, omegaM, -, omegaLambda, -, gamma, -, rfl⟩ := h
  obtain ⟨first', last', hfirst', hlast', hpos, hless⟩ := exists_of_checkScaleFactors hcheck
  obtain rfl : first = first' := Except.ok.inj (hfirst.symm.trans hfirst')
  obtain rfl : last = last' := Except.ok.inj (hlast.symm.trans hlast')
  have hnumber : o.aBegin.number = .ok first.value := by
    rw [Value.number, hfirst, Result.ok_bind, Number.toReal_eq]
  have hend : o.aEnd.number = .ok last.value := by
    rw [Value.number, hlast, Result.ok_bind, Number.toReal_eq]
  rw [Number.quotient_eq hpos.ne'] at hgrowth
  obtain rfl : first.value = aBegin := Except.ok.inj (hnumber.symm.trans hbegin)
  obtain rfl : last.value / first.value = growth := Except.ok.inj hgrowth
  refine ⟨hnumber, ?_, hpos, (one_lt_div hpos).mpr hless⟩
  rw [hend, mul_div_cancel₀ _ hpos.ne']

theorem growth_of_expansionOf {c : Expansion ℝ} (h : expansionOf o units = .ok c) :
    0 < c.aBegin ∧ 1 < c.growth :=
  (ends_of_expansionOf h).2.2

theorem epochAt_eq {c : Expansion ℝ} (hbegin : 0 < c.aBegin) (timeBase : ℝ) {time : Value ℝ}
    {tick : ℤ} {t : ℝ} (htick : time.toInt = .ok tick) (ht : time.toReal = .ok t) :
    epochAt c timeBase time = .ok ⟨tick, scaleFactorAfter c timeBase t,
      1 / scaleFactorAfter c timeBase t,
      1 / scaleFactorAfter c timeBase t * (1 / scaleFactorAfter c timeBase t),
      1 / scaleFactorAfter c timeBase t - 1⟩ ∧ 0 < scaleFactorAfter c timeBase t := by
  have hpos : 0 < scaleFactorAfter c timeBase t := mul_pos hbegin (Real.exp_pos _)
  have hquotient : quotient (1.0 : ℝ) (scaleFactorAfter c timeBase t)
      = .ok (1 / scaleFactorAfter c timeBase t) := by
    rw [quotient_of_ne_zero _ hpos.ne', Exact.one_eq]
  refine ⟨?_, hpos⟩
  rw [epochAt, htick, ht]
  show quotient 1.0 (scaleFactorAfter c timeBase t) >>= _ = _
  rw [hquotient, Result.ok_bind, Exact.one_eq]
  rfl

theorem epochAt_intCast {c : Expansion ℝ} (hbegin : 0 < c.aBegin) (timeBase : ℝ) (tick : ℤ) :
    epochAt c timeBase (.int tick) = .ok ⟨tick, scaleFactorAfter c timeBase tick,
      1 / scaleFactorAfter c timeBase tick,
      1 / scaleFactorAfter c timeBase tick * (1 / scaleFactorAfter c timeBase tick),
      1 / scaleFactorAfter c timeBase tick - 1⟩ ∧ 0 < scaleFactorAfter c timeBase tick :=
  epochAt_eq hbegin timeBase rfl rfl

theorem exists_of_epochAt {c : Expansion ℝ} {timeBase : ℝ} {time : Value ℝ} {epoch : Epoch ℝ}
    (h : epochAt c timeBase time = .ok epoch) :
    ∃ tick t, time.toInt = .ok tick ∧ time.toReal = .ok t := by
  rw [epochAt, Result.bind_eq_ok] at h
  obtain ⟨tick, htick, h⟩ := h
  obtain ⟨t, ht, -⟩ := Result.bind_eq_ok.mp h
  exact ⟨tick, t, htick, ht⟩

theorem moveTo_eq_ok {k k' : Cosmology ℝ} {time : Value ℝ} : k.moveTo time = .ok k' ↔
    ∃ epoch, epochAt k.expansion k.timeBase time = .ok epoch ∧ k' = { k with epoch } := by
  rw [moveTo, Result.bind_eq_ok]
  constructor
  · rintro ⟨epoch, hepoch, h⟩
    exact ⟨epoch, hepoch, (Except.ok.inj h).symm⟩
  · rintro ⟨epoch, hepoch, rfl⟩
    exact ⟨epoch, hepoch, rfl⟩

/-- A cosmology that was made of some options, at some time. -/
def IsAccepted (k : Cosmology ℝ) : Prop :=
  ∃ o units k₀ time, ofOptions o units = .ok k₀ ∧ k₀.moveTo time = .ok k

theorem expansionOf_of_ofOptions {k : Cosmology ℝ} (h : ofOptions o units = .ok k) :
    expansionOf o units = .ok k.expansion ∧
      epochAt k.expansion k.timeBase (.int 0) = .ok k.epoch := by
  rw [ofOptions, Result.bind_eq_ok] at h
  obtain ⟨expansion, hexpansion, h⟩ := h
  obtain ⟨epoch, hepoch, h⟩ := Result.bind_eq_ok.mp h
  obtain rfl := Except.ok.inj h
  exact ⟨hexpansion, hepoch⟩

theorem tables_of_ofOptions {k : Cosmology ℝ} (h : ofOptions o units = .ok k) (kind : KickKind) :
    k.tables kind = table k.expansion kind := by
  rw [ofOptions, Result.bind_eq_ok] at h
  obtain ⟨expansion, -, h⟩ := h
  obtain ⟨epoch, -, h⟩ := Result.bind_eq_ok.mp h
  obtain rfl := Except.ok.inj h
  cases kind <;> rfl

theorem isAccepted_of_ofOptions {k : Cosmology ℝ} (h : ofOptions o units = .ok k) :
    k.IsAccepted := by
  obtain ⟨-, hepoch⟩ := expansionOf_of_ofOptions h
  exact ⟨o, units, k, .int 0, h, moveTo_eq_ok.mpr ⟨_, hepoch, rfl⟩⟩

/-- At every time the scale factor of an accepted cosmology is positive, and its inverse
square belongs to it. -/
theorem IsAccepted.epoch {k : Cosmology ℝ} (h : k.IsAccepted) :
    0 < k.epoch.a ∧ k.epoch.a2Inv = 1 / k.epoch.a * (1 / k.epoch.a) := by
  obtain ⟨o, units, k₀, time, hmade, hmove⟩ := h
  obtain ⟨hexpansion, -⟩ := expansionOf_of_ofOptions hmade
  obtain ⟨epoch, hat, rfl⟩ := moveTo_eq_ok.mp hmove
  obtain ⟨tick, t, htick, ht⟩ := exists_of_epochAt hat
  obtain ⟨hepoch, hpos⟩ :=
    epochAt_eq (growth_of_expansionOf hexpansion).1 k₀.timeBase htick ht
  obtain rfl := Except.ok.inj (hepoch.symm.trans hat)
  exact ⟨hpos, rfl⟩

theorem IsAccepted.expansion {k : Cosmology ℝ} (h : k.IsAccepted) :
    0 < k.expansion.aBegin ∧ 1 < k.expansion.growth ∧
      ∀ kind, k.tables kind = table k.expansion kind := by
  obtain ⟨o, units, k₀, time, hmade, hmove⟩ := h
  obtain ⟨hexpansion, -⟩ := expansionOf_of_ofOptions hmade
  obtain ⟨hbegin, hgrowth⟩ := growth_of_expansionOf hexpansion
  have htables : ∀ kind, k₀.tables kind = table k₀.expansion kind := tables_of_ofOptions hmade
  obtain ⟨epoch, -, rfl⟩ := moveTo_eq_ok.mp hmove
  exact ⟨hbegin, hgrowth, htables⟩

/-- The options of a universe of matter and vacuum between two scale factors. -/
noncomputable def flatOptions (h first last omegaM omegaLambda : ℝ) : CosmologyOptions ℝ where
  h := .real h
  aBegin := .real first
  aEnd := .real last
  omegaM := .real omegaM
  omegaLambda := .real omegaLambda
  omegaB := .real 0.0
  omegaR := .real 0.0
  w0 := .real (-1.0)
  wA := .real 0.0
  gamma := .real Scheme.monatomicGamma

noncomputable def flatExpansion (h first last omegaM omegaLambda : ℝ) (units : UnitSystem ℝ) :
    Expansion ℝ where
  aBegin := first
  growth := last / first
  omegaM
  omegaLambda
  omegaR := 0.0
  omegaK := 1.0 - (omegaM + 0.0 + omegaLambda)
  w0 := -1.0
  wA := 0.0
  gamma := Scheme.monatomicGamma
  hubble := hubbleOf h units

theorem expansionOf_flatOptions {first last : ℝ} (hfirst : 0 < first) (hlast : first < last)
    (h omegaM omegaLambda : ℝ) (units : UnitSystem ℝ) :
    expansionOf (flatOptions h first last omegaM omegaLambda) units
      = .ok (flatExpansion h first last omegaM omegaLambda units) := by
  have hpositive : Value.less (.real 0.0) (.real first) = .ok true := by
    show Except.ok (decide ((0.0 : ℝ) < first)) = .ok true
    rw [Exact.zero_eq, decide_eq_true hfirst]
  have hordered : Value.less (.real first) (.real last) = .ok true := by
    show Except.ok (decide (first < last)) = .ok true
    rw [decide_eq_true hlast]
  have hcheck : checkScaleFactors (flatOptions h first last omegaM omegaLambda) = .ok () := by
    simp only [checkScaleFactors, flatOptions, hpositive, hordered, Result.ok_bind, if_true]
    rfl
  have hquotient : (Number.real last).quotient (.real first) = .ok (last / first) :=
    Number.quotient_eq hfirst.ne'
  have hoperands : ∀ x : ℝ, Value.operand (.real x) = .ok (Number.real x) := fun _ => rfl
  have hnumbers : ∀ x : ℝ, Value.number (.real x) = .ok x := fun _ => rfl
  have hcurvature : ∀ x y z : ℝ, curvature (.real x) (.real y) (.real z)
      = .ok (1.0 - (x + y + z)) := fun _ _ _ => rfl
  rw [expansionOf, hcheck]
  simp only [flatOptions, hcurvature, hoperands, hnumbers, hquotient, Result.ok_bind]
  rfl

/-- Such a universe is accepted when its scale factors are positive and in order, and begins
at the first of them. -/
theorem exists_ofOptions {first last : ℝ} (hfirst : 0 < first) (hlast : first < last)
    (h omegaM omegaLambda : ℝ) (units : UnitSystem ℝ) :
    ∃ k, ofOptions (flatOptions h first last omegaM omegaLambda) units = .ok k ∧
      k.epoch.a = first ∧ k.epoch.a2Inv = 1 / first * (1 / first) := by
  have hexpansion := expansionOf_flatOptions hfirst hlast h omegaM omegaLambda units
  set expansion := flatExpansion h first last omegaM omegaLambda units
  have hbegin : expansion.aBegin = first := rfl
  obtain ⟨hepoch, -⟩ := epochAt_intCast (hbegin.symm ▸ hfirst) (timeBaseOf expansion) 0
  have hstart : scaleFactorAfter expansion (timeBaseOf expansion) (0 : ℤ) = first := by
    show expansion.aBegin * Real.exp ((0 : ℤ) * timeBaseOf expansion) = first
    rw [Int.cast_zero, zero_mul, Real.exp_zero, mul_one, hbegin]
  rw [hstart] at hepoch
  rw [ofOptions, hexpansion, Result.ok_bind]
  simp only [hepoch, Result.ok_bind]
  exact ⟨_, rfl, rfl, rfl⟩

end Cosmology

namespace Context

variable {settings : Settings ℝ} {scheme : Scheme ℝ} {gparts : Option (List (GravityParticle ℝ ℝ))}
  {c : Context ℝ ℝ}

theorem ofSettings_eq (cosmology : Option (Cosmology ℝ)) :
    ofSettings settings scheme cosmology gparts =
      if settings.periodic = true ∧ isNone settings.dim = true then .error .missingDimensions
      else
        settings.tick.toInt >>= fun tick =>
        settings.timeBase.toReal >>= fun timeBase =>
        (if isNone settings.dim = true then .ok noExtent else settings.dim.reals) >>= fun dim =>
        cosmology.mapM (fun k => k.moveTo settings.tick) >>= fun cosmology =>
        settings.timeBegin.toReal >>= fun timeBegin =>
        .ok { tick, timeBase, scheme, periodic := settings.periodic, dim, cosmology, gparts,
              timeBegin } := by
  rw [ofSettings]
  split
  · rfl
  · by_cases hdim : isNone settings.dim = true
    · simp only [hdim, if_true]
      cases cosmology <;> rfl
    · simp only [hdim]
      cases cosmology <;> rfl

/-- What a context is made of: the numbers of its settings, and the cosmology moved to its time. -/
theorem parts_of_ofSettings {cosmology : Option (Cosmology ℝ)}
    (h : ofSettings settings scheme cosmology gparts = .ok c) :
    settings.tick.toInt = .ok c.tick ∧ settings.timeBase.toReal = .ok c.timeBase ∧
      settings.timeBegin.toReal = .ok c.timeBegin ∧
      cosmology.mapM (fun k => k.moveTo settings.tick) = .ok c.cosmology := by
  rw [ofSettings_eq] at h
  split at h
  · cases h
  · simp only [Result.bind_eq_ok, Except.ok.injEq] at h
    obtain ⟨tick, htick, timeBase, htimeBase, dim, -, cosmology', hcosmology, timeBegin,
      htimeBegin, rfl⟩ := h
    exact ⟨htick, htimeBase, htimeBegin, hcosmology⟩

theorem exists_moveTo_of_ofSettings {k : Cosmology ℝ}
    (h : ofSettings settings scheme (some k) gparts = .ok c) :
    ∃ k', c.cosmology = some k' ∧ k.moveTo settings.tick = .ok k' := by
  obtain ⟨-, -, -, hmoved⟩ := parts_of_ofSettings h
  rw [Option.mapM_some] at hmoved
  cases hmove : k.moveTo settings.tick with
  | error e =>
    rw [hmove] at hmoved
    cases hmoved
  | ok k' =>
    rw [hmove] at hmoved
    exact ⟨k', (Except.ok.inj hmoved).symm, rfl⟩

/-- A context is made with an accepted cosmology, which is moved to its time. -/
theorem isAccepted_of_ofSettings {o : CosmologyOptions ℝ} {units : UnitSystem ℝ}
    {k : Cosmology ℝ} (hmade : Cosmology.ofOptions o units = .ok k)
    (h : ofSettings settings scheme (some k) gparts = .ok c) :
    ∀ k' ∈ c.cosmology, k'.IsAccepted := by
  intro k' hk'
  obtain ⟨k'', hk'', hmove⟩ := exists_moveTo_of_ofSettings h
  obtain rfl : k'' = k' := Option.some.inj (hk''.symm.trans hk')
  exact ⟨o, units, k, settings.tick, hmade, hmove⟩

end Context

end MeshlessGas
