/-
Clocks over the reals — the integer timeline leads from the beginning of a run to its end.

A clock gives a value to every tick.  It runs through a span when it has the first value at the
first tick, the last one at the last tick, and grows in between.  Both clocks do so, because both
grow with the share of the timeline that is over: the scale factor exponentially and, where space
does not expand, the time linearly.

An expanding universe carries its clock with it.  It is moved to a tick by an update, or by a
context that it is placed in.  One move sets the epoch to the tick that is given and keeps the
history, so any number of moves leaves the epoch of the last tick and the history of the first
universe: `Moved.isAt` and `Moved.sharesHistory`, both by induction on the moves.  A context may be
given a time between two ticks; only times that are ticks are on the timeline.
-/
import MeshlessGas.Proofs.KickFactors

namespace MeshlessGas

/-! ## Clocks of the timeline -/

namespace Timeline

/-- A clock runs through what lies between two values: it has the one at the first tick and the
other at the last, and grows with every tick. -/
structure RunsThrough (clock : ℤ → ℝ) (first last : ℝ) : Prop where
  begins : clock 0 = first
  ends : clock length = last
  grows : StrictMono clock

theorem runsThrough_share {x : ℝ} (hx : 0 < x) :
    RunsThrough (fun t => (t : ℝ) * (x / Cosmology.ticks)) 0 x where
  begins := by rw [Int.cast_zero, zero_mul]
  ends := by rw [← Cosmology.ticks_eq, mul_div_cancel₀ x Cosmology.ticks_pos.ne']
  grows := by
    intro s t hst
    have hcast : (s : ℝ) < t := Int.cast_lt.mpr hst
    exact mul_lt_mul_of_pos_right hcast (div_pos hx Cosmology.ticks_pos)

theorem RunsThrough.map {clock : ℤ → ℝ} {first last : ℝ} {f : ℝ → ℝ}
    (h : RunsThrough clock first last) (hf : StrictMono f) :
    RunsThrough (fun t => f (clock t)) (f first) (f last) where
  begins := congrArg f h.begins
  ends := congrArg f h.ends
  grows := hf.comp h.grows

end Timeline

/-- A time that is a tick: it is the same number as an integer and as a real. -/
structure Value.IsTick (time : Value ℝ) (t : ℤ) : Prop where
  whole : time.toInt = .ok t
  real : time.toReal = .ok (t : ℝ)

theorem Value.isTick_int (t : ℤ) : (Value.int t).IsTick t := ⟨rfl, rfl⟩

namespace Cosmology

open Timeline (RunsThrough)

variable {o : CosmologyOptions ℝ} {units : UnitSystem ℝ} {k₀ k k' : Cosmology ℝ} {s t : ℤ}

/-! ## The scale factor -/

theorem timeBase_of_ofOptions (h : ofOptions o units = .ok k) :
    k.timeBase = timeBaseOf k.expansion := by
  rw [ofOptions, Result.bind_eq_ok] at h
  obtain ⟨expansion, -, h⟩ := h
  obtain ⟨epoch, -, h⟩ := Result.bind_eq_ok.mp h
  obtain rfl := Except.ok.inj h
  rfl

theorem runsThrough_scaleFactor (h : ofOptions o units = .ok k) :
    ∃ first last, o.aBegin.number = .ok first ∧ o.aEnd.number = .ok last ∧
      RunsThrough (fun t => k.scaleFactor t) first last := by
  obtain ⟨hexpansion, -⟩ := expansionOf_of_ofOptions h
  obtain ⟨hfirst, hlast, hpos, hgrowth⟩ := ends_of_expansionOf hexpansion
  have hgrows : StrictMono fun y => k.expansion.aBegin * Real.exp y := by
    intro x y hxy
    exact mul_lt_mul_of_pos_left (Real.exp_lt_exp.mpr hxy) hpos
  have hruns := (Timeline.runsThrough_share (Real.log_pos hgrowth)).map hgrows
  rw [Real.exp_zero, mul_one, Real.exp_log (zero_lt_one.trans hgrowth)] at hruns
  have hclock : (fun t : ℤ => k.scaleFactor t) = fun t : ℤ =>
      k.expansion.aBegin * Real.exp (t * (Real.log k.expansion.growth / ticks)) := by
    funext t
    rw [scaleFactor, timeBase_of_ofOptions h]
    rfl
  exact ⟨_, _, hfirst, hlast, hclock ▸ hruns⟩

/-! ## Moving a cosmology -/

/-- A cosmology stands at a tick: its epoch is that of the tick. -/
structure IsAt (k : Cosmology ℝ) (t : ℤ) : Prop where
  tick : k.epoch.tick = t
  a : k.epoch.a = k.scaleFactor t
  aInv : k.epoch.aInv = 1 / k.epoch.a
  a2Inv : k.epoch.a2Inv = 1 / k.epoch.a ^ 2
  redshift : k.epoch.redshift = 1 / k.epoch.a - 1

/-- Two cosmologies are of one universe: they expand at the same rate, through the same scale
factors, and have the same kick factors. -/
structure SharesHistory (k k' : Cosmology ℝ) : Prop where
  expansion : k'.expansion = k.expansion
  scaleFactor : k'.scaleFactor = k.scaleFactor
  factor : k'.factor = k.factor
  factors : k'.factors = k.factors

theorem SharesHistory.refl (k : Cosmology ℝ) : k.SharesHistory k := ⟨rfl, rfl, rfl, rfl⟩

theorem SharesHistory.trans {k₁ k₂ k₃ : Cosmology ℝ} (h : k₁.SharesHistory k₂)
    (h' : k₂.SharesHistory k₃) : k₁.SharesHistory k₃ where
  expansion := h'.expansion.trans h.expansion
  scaleFactor := h'.scaleFactor.trans h.scaleFactor
  factor := h'.factor.trans h.factor
  factors := h'.factors.trans h.factors

theorem isAt_of_epochAt (hbegin : 0 < k.expansion.aBegin)
    (h : epochAt k.expansion k.timeBase (.int t) = .ok k.epoch) : k.IsAt t := by
  obtain ⟨hepoch, -⟩ := epochAt_intCast hbegin k.timeBase t
  have hsame := Except.ok.inj (h.symm.trans hepoch)
  have ha : k.epoch.a = k.scaleFactor t := by
    rw [hsame]
    rfl
  constructor
  case tick => rw [hsame]
  case a => exact ha
  case aInv => rw [hsame]
  case a2Inv =>
    rw [hsame, pow_two]
    exact one_div_mul_one_div _ _
  case redshift => rw [hsame]

/-- Updates never fail, because the scale factor never vanishes. -/
theorem exists_update (hbegin : 0 < k.expansion.aBegin) (t : ℤ) : ∃ k', k.update t = .ok k' := by
  obtain ⟨hepoch, -⟩ := epochAt_intCast hbegin k.timeBase t
  exact ⟨_, moveTo_eq_ok.mpr ⟨_, hepoch, rfl⟩⟩

theorem isAt_of_update (hbegin : 0 < k.expansion.aBegin) (h : k.update t = .ok k') : k'.IsAt t := by
  obtain ⟨epoch, hepoch, rfl⟩ := moveTo_eq_ok.mp h
  exact isAt_of_epochAt hbegin hepoch

theorem sharesHistory_of_update (h : k.update t = .ok k') : k.SharesHistory k' := by
  obtain ⟨epoch, -, rfl⟩ := moveTo_eq_ok.mp h
  exact ⟨rfl, rfl, rfl, rfl⟩

theorem moveTo_of_isTick {time : Value ℝ} (h : time.IsTick t) : k.moveTo time = k.update t := by
  have hint := Value.isTick_int t
  rw [update, moveTo, moveTo, epochAt, epochAt, h.whole, h.real, hint.whole, hint.real]

/-- What becomes of a cosmology by any number of moves, with the tick that was given last.  It is
moved by an update, and by a context at a tick that it is placed in. -/
inductive Moved (k₀ : Cosmology ℝ) : ℤ → Cosmology ℝ → Prop
  | made : Moved k₀ 0 k₀
  | updated {s t : ℤ} {k k' : Cosmology ℝ} :
      Moved k₀ s k → k.update t = .ok k' → Moved k₀ t k'
  | placed {s t : ℤ} {k k' : Cosmology ℝ} {settings : Context.Settings ℝ} {scheme : Scheme ℝ}
      {gparts : Option (List (GravityParticle ℝ ℝ))} {c : Context ℝ ℝ} :
      Moved k₀ s k → settings.tick.IsTick t →
      Context.ofSettings settings scheme (some k) gparts = .ok c → c.cosmology = some k' →
      Moved k₀ t k'

theorem update_of_placed {settings : Context.Settings ℝ} {scheme : Scheme ℝ}
    {gparts : Option (List (GravityParticle ℝ ℝ))} {c : Context ℝ ℝ}
    (htick : settings.tick.IsTick t)
    (h : Context.ofSettings settings scheme (some k) gparts = .ok c) (hk : c.cosmology = some k') :
    k.update t = .ok k' := by
  obtain ⟨k'', hk'', hmove⟩ := Context.exists_moveTo_of_ofSettings h
  obtain rfl : k'' = k' := Option.some.inj (hk''.symm.trans hk)
  rwa [moveTo_of_isTick htick] at hmove

theorem Moved.sharesHistory (h : Moved k₀ t k) : k₀.SharesHistory k := by
  induction h with
  | made => exact .refl k₀
  | updated _ hupdate ih => exact ih.trans (sharesHistory_of_update hupdate)
  | placed _ htick hplaced hk ih =>
      exact ih.trans (sharesHistory_of_update (update_of_placed htick hplaced hk))

/-- After any number of moves a cosmology stands at the tick that was given last. -/
theorem Moved.isAt (hmade : ofOptions o units = .ok k₀) (h : Moved k₀ t k) : k.IsAt t := by
  obtain ⟨hexpansion, hepoch⟩ := expansionOf_of_ofOptions hmade
  have hbegin : 0 < k₀.expansion.aBegin := (growth_of_expansionOf hexpansion).1
  cases h with
  | made => exact isAt_of_epochAt hbegin hepoch
  | updated hmoved hupdate =>
      rw [← hmoved.sharesHistory.expansion] at hbegin
      exact isAt_of_update hbegin hupdate
  | placed hmoved htick hplaced hk =>
      rw [← hmoved.sharesHistory.expansion] at hbegin
      exact isAt_of_update hbegin (update_of_placed htick hplaced hk)

theorem Moved.exists_of_ofSettings (h : Moved k₀ t k) {settings : Context.Settings ℝ}
    {scheme : Scheme ℝ} {gparts : Option (List (GravityParticle ℝ ℝ))} {c : Context ℝ ℝ}
    (hc : Context.ofSettings settings scheme (some k) gparts = .ok c)
    (htick : settings.tick.IsTick c.tick) : ∃ k', c.cosmology = some k' ∧ Moved k₀ c.tick k' := by
  obtain ⟨k', hk', -⟩ := Context.exists_moveTo_of_ofSettings hc
  exact ⟨k', hk', .placed h htick hc hk'⟩

theorem exists_options_of_ofParameters {p : ParameterSet ℝ} {gamma : Value ℝ}
    (h : ofParameters p gamma units = .ok k) : ∃ o, ofOptions o units = .ok k := by
  rw [ofParameters] at h
  cases hcontains : p.contains "Cosmology:Omega_cdm" with
  | true =>
      simp only [hcontains, if_true, Result.bind_eq_ok] at h
      obtain ⟨_, -, _, -, _, -, _, -, _, -, _, -, _, -, _, -, _, -, _, -, hmade⟩ := h
      exact ⟨_, hmade⟩
  | false =>
      simp only [hcontains, Bool.false_eq_true, if_false, Result.bind_eq_ok] at h
      obtain ⟨_, -, _, -, _, -, _, -, _, -, _, -, _, -, _, -, _, -, hmade⟩ := h
      exact ⟨_, hmade⟩

end Cosmology

/-! ## Contexts of parameters -/

namespace Context

open Cosmology (Moved)

variable {p : ParameterSet ℝ} {tick : Value ℝ} {scheme : Scheme ℝ} {periodic : Bool}
  {dim : Value ℝ} {gparts : Option (List (GravityParticle ℝ ℝ))} {c : Context ℝ ℝ} {first last : ℝ}

/-- Where space expands, the parameters make a cosmology; the context has its ticks, and holds it
moved to its own. -/
theorem exists_moved_of_ofParameters
    (h : ofParameters p tick scheme true periodic dim gparts = .ok c) :
    ∃ o k₀ k, Cosmology.ofOptions o .cosmological = .ok k₀ ∧ c.timeBase = k₀.timeBase ∧
      tick.toInt = .ok c.tick ∧ c.cosmology = some k ∧
      (tick.IsTick c.tick → Moved k₀ c.tick k) := by
  rw [ofParameters, Result.bind_eq_ok] at h
  obtain ⟨clock, hclock, h⟩ := h
  rw [clockOf, if_pos rfl, Result.bind_eq_ok] at hclock
  obtain ⟨k₀, hk₀, hclock⟩ := hclock
  obtain rfl := Except.ok.inj hclock
  obtain ⟨o, hmade⟩ := Cosmology.exists_options_of_ofParameters hk₀
  obtain ⟨htick, htimeBase, -⟩ := parts_of_ofSettings h
  obtain ⟨k, hk, -⟩ := exists_moveTo_of_ofSettings h
  exact ⟨o, k₀, k, hmade, (Except.ok.inj htimeBase).symm, htick, hk,
    fun htick => .placed .made htick h hk⟩

theorem exists_of_update {k k' : Cosmology ℝ} {t : ℤ} (h : k.update t = .ok k') (timeBase : ℝ)
    (scheme : Scheme ℝ) :
    ∃ c : Context ℝ ℝ, ofSettings ⟨.int t, .real timeBase, false, .none, .real 0⟩ scheme (some k)
      none = .ok c ∧ c.tick = t := by
  have h : k.moveTo (.int t) = .ok k' := h
  refine ⟨⟨t, timeBase, scheme, false, noExtent, some k', none, 0⟩, ?_, rfl⟩
  rw [ofSettings_eq, if_neg (fun h => Bool.false_ne_true h.1)]
  simp only [Value.toInt, Value.toReal, isNone, if_true, Result.ok_bind, Option.mapM_some, h]
  rfl

theorem clockOf_of_interval (hfirst : p.real "TimeIntegration:time_begin" = .ok first)
    (hlast : p.real "TimeIntegration:time_end" = .ok last) (scheme : Scheme ℝ) :
    clockOf p scheme false = .ok ⟨(last - first) / Cosmology.ticks, first, none⟩ := by
  rw [clockOf, if_neg Bool.false_ne_true, hfirst, hlast]
  rfl

theorem time_of_interval (hfirst : p.real "TimeIntegration:time_begin" = .ok first)
    (hlast : p.real "TimeIntegration:time_end" = .ok last)
    (h : ofParameters p tick scheme false periodic dim gparts = .ok c) :
    tick.toInt = .ok c.tick ∧
      c.time = .ok (first + c.tick * ((last - first) / Cosmology.ticks)) := by
  rw [ofParameters, clockOf_of_interval hfirst hlast, Result.ok_bind] at h
  obtain ⟨htick, htimeBase, htimeBegin, hcosmology⟩ := parts_of_ofSettings h
  obtain hnone : none = c.cosmology := Except.ok.inj hcosmology
  obtain htimeBase : (last - first) / Cosmology.ticks = c.timeBase := Except.ok.inj htimeBase
  obtain htimeBegin : first = c.timeBegin := Except.ok.inj htimeBegin
  refine ⟨htick, ?_⟩
  rw [time, ← hnone, htimeBase, htimeBegin]
  rfl

theorem exists_of_interval (hfirst : p.real "TimeIntegration:time_begin" = .ok first)
    (hlast : p.real "TimeIntegration:time_end" = .ok last) (scheme : Scheme ℝ) (t : ℤ) :
    ∃ c : Context ℝ ℝ, ofParameters p (.int t) scheme false false .none none = .ok c ∧
      c.tick = t := by
  refine ⟨⟨t, (last - first) / Cosmology.ticks, scheme, false, noExtent, none, none, first⟩, ?_,
    rfl⟩
  rw [ofParameters, clockOf_of_interval hfirst hlast, Result.ok_bind, ofSettings_eq,
    if_neg (fun h => Bool.false_ne_true h.1)]
  rfl

theorem runsThrough_time (h : first < last) :
    Timeline.RunsThrough (fun t => first + t * ((last - first) / Cosmology.ticks)) first last := by
  have hgrows : StrictMono fun y => first + y := by
    intro x y hxy
    exact add_lt_add_right hxy first
  have hruns := (Timeline.runsThrough_share (sub_pos.mpr h)).map hgrows
  rwa [add_zero, add_sub_cancel] at hruns

end Context

/-! ## Both clocks -/

namespace Timeline

open Cosmology (Moved)

/-- The clocks run through a simulation.  The scale factor of an accepted cosmology runs between the
two of its options; whatever it becomes by updates and in contexts, its epoch is that of the tick
given last, its history is the same, and it can be moved on, without fail.  The contexts of an
expanding run hold such a cosmology at every tick.  Without expansion the contexts of a time interval have the
times of one clock that runs through the interval. -/
theorem clocks_run_through :
    (∀ {o : CosmologyOptions ℝ} {units : UnitSystem ℝ} {k₀ : Cosmology ℝ},
      Cosmology.ofOptions o units = .ok k₀ →
      (∃ first last, o.aBegin.number = .ok first ∧ o.aEnd.number = .ok last ∧
        RunsThrough (fun t => k₀.scaleFactor t) first last) ∧
      ∀ {t : ℤ} {k : Cosmology ℝ}, Moved k₀ t k →
        k.IsAt t ∧ k₀.SharesHistory k ∧ (∀ s : ℤ, ∃ k', k.update s = .ok k') ∧
        ∀ {settings : Context.Settings ℝ} {scheme : Scheme ℝ}
          {gparts : Option (List (GravityParticle ℝ ℝ))} {c : Context ℝ ℝ},
          Context.ofSettings settings scheme (some k) gparts = .ok c →
          settings.tick.IsTick c.tick → ∃ k', c.cosmology = some k' ∧ Moved k₀ c.tick k') ∧
    (∀ {p : ParameterSet ℝ} {tick : Value ℝ} {scheme : Scheme ℝ} {periodic : Bool} {dim : Value ℝ}
      {gparts : Option (List (GravityParticle ℝ ℝ))} {c : Context ℝ ℝ},
      Context.ofParameters p tick scheme true periodic dim gparts = .ok c →
      ∃ o k₀ k, Cosmology.ofOptions o .cosmological = .ok k₀ ∧ c.timeBase = k₀.timeBase ∧
        tick.toInt = .ok c.tick ∧ c.cosmology = some k ∧
        (tick.IsTick c.tick → Moved k₀ c.tick k)) ∧
    ∀ {p : ParameterSet ℝ} {first last : ℝ},
      p.real "TimeIntegration:time_begin" = .ok first →
      p.real "TimeIntegration:time_end" = .ok last → first < last →
      ∃ clock, RunsThrough clock first last ∧
        ∀ {tick : Value ℝ} {scheme : Scheme ℝ} {periodic : Bool} {dim : Value ℝ}
          {gparts : Option (List (GravityParticle ℝ ℝ))} {c : Context ℝ ℝ},
          Context.ofParameters p tick scheme false periodic dim gparts = .ok c →
          tick.toInt = .ok c.tick ∧ c.time = .ok (clock c.tick) := by
  refine ⟨?_, Context.exists_moved_of_ofParameters, ?_⟩
  · intro o units k₀ hmade
    refine ⟨Cosmology.runsThrough_scaleFactor hmade, ?_⟩
    intro t k hmoved
    have hbegin : 0 < k.expansion.aBegin := by
      rw [hmoved.sharesHistory.expansion]
      exact (Cosmology.growth_of_expansionOf (Cosmology.expansionOf_of_ofOptions hmade).1).1
    exact ⟨hmoved.isAt hmade, hmoved.sharesHistory, Cosmology.exists_update hbegin,
      hmoved.exists_of_ofSettings⟩
  · intro p first last hfirst hlast hless
    refine ⟨_, Context.runsThrough_time hless, ?_⟩
    intro tick scheme periodic dim gparts c hc
    exact Context.time_of_interval hfirst hlast hc

noncomputable def unitInterval : ParameterSet ℝ :=
  ⟨[("TimeIntegration:time_begin", .real 0), ("TimeIntegration:time_end", .real 1)]⟩

/-- A universe that doubles in size is moved to the middle of the timeline and then, in a context,
to its last tick; the context of a run of unit length has the time one there. -/
theorem clocks_run_through_doubling :
    ∃ (k₀ k₁ k : Cosmology ℝ) (c c' : Context ℝ ℝ),
      Cosmology.ofOptions (Cosmology.flatOptions 0.7 0.5 1 0.3 0.7) .cosmological = .ok k₀ ∧
      k₀.update (2 ^ 55) = .ok k₁ ∧
      Context.ofSettings ⟨.int length, .real k₀.timeBase, false, .none, .real 0⟩ .standard (some k₁)
        none = .ok c ∧
      c.cosmology = some k ∧ k.epoch.tick = length ∧ k.epoch.a = 1 ∧ k.epoch.redshift = 0 ∧
      k₀.scaleFactor (2 ^ 55 : ℤ) < 1 ∧ k.factor = k₀.factor ∧
      Context.ofParameters unitInterval (.int length) .standard false false .none none = .ok c' ∧
      c'.time = .ok 1 := by
  obtain ⟨hexpanding, -, hinterval⟩ := clocks_run_through
  obtain ⟨k₀, hmade, -⟩ := Cosmology.exists_ofOptions (show (0 : ℝ) < 0.5 by norm_num)
    (show (0.5 : ℝ) < 1 by norm_num) 0.7 0.3 0.7 .cosmological
  obtain ⟨⟨first, last, -, hlast, hruns⟩, hmoves⟩ := hexpanding hmade
  obtain rfl : 1 = last := Except.ok.inj hlast
  obtain ⟨-, -, hupdates, -⟩ := hmoves .made
  obtain ⟨k₁, hk₁⟩ := hupdates (2 ^ 55)
  have hmoved := Moved.made.updated hk₁
  obtain ⟨-, -, hupdates₁, hplaced⟩ := hmoves hmoved
  obtain ⟨k₂, hk₂⟩ := hupdates₁ length
  obtain ⟨c, hc, htick₀⟩ := Context.exists_of_update hk₂ k₀.timeBase .standard
  obtain ⟨k, hk, hmoved'⟩ := hplaced hc (htick₀ ▸ Value.isTick_int length)
  obtain ⟨hat, hshares, -⟩ := hmoves hmoved'
  have ha : k.epoch.a = 1 := by
    rw [hat.a, hshares.scaleFactor, htick₀]
    exact hruns.ends
  have hredshift : k.epoch.redshift = 0 := by
    rw [hat.redshift, ha, div_one, sub_self]
  have hmiddle : k₀.scaleFactor (2 ^ 55 : ℤ) < 1 := by
    have hless := hruns.grows (show (2 : ℤ) ^ 55 < length by decide)
    rw [← hruns.ends]
    exact_mod_cast hless
  -- the time needs no cosmology
  obtain ⟨clock, hclock, htime⟩ := hinterval (p := unitInterval) rfl rfl zero_lt_one
  obtain ⟨c', hc', htick⟩ := Context.exists_of_interval (p := unitInterval) rfl rfl .standard length
  obtain ⟨-, hnow⟩ := htime hc'
  rw [htick, hclock.ends] at hnow
  exact ⟨k₀, k₁, k, c, c', hmade, hk₁, hc, hk, hat.tick.trans htick₀, ha, hredshift, hmiddle,
    hshares.factor, hc', hnow⟩

end Timeline

end MeshlessGas
