/-
Extrapolated velocities — from the middle of a step to the current tick.

The step of a bin is twice as long as the distance of its middle from both ends, so that the
middle lies a power of two behind the beginning and the current tick at most that far from it.
The kick factor of a step is the difference of two factors that share its beginning.  They are
differences of one table themselves, and the beginning drops out: what is left is the factor
from the middle to the current tick, which is zero where both are the same.
-/
import MeshlessGas.Proofs.KickFactors
import MeshlessGas.Proofs.Coverage

namespace MeshlessGas

open Conversion (Row)

/-! ## The middle of a step -/

namespace Timeline

/-- The middle of the step of a bin as it is computed in words, none of which wraps around: it
lies half a step behind the beginning, and the current tick `t` lies less than half a step
before it or at most half a step behind it. -/
structure Midway (t : ℤ) (bin current previous first mid last : Tick) : Prop where
  exponent : (bin + 1).toInt = bin.toInt + 1
  length : (stepLength bin).toInt = 2 ^ (bin.toInt + 1).toNat
  words : Unwrapped current previous (stepLength bin)
  sum : (first + last).toInt = first.toInt + last.toInt
  middle : mid.toInt = first.toInt + 2 ^ bin.toInt.toNat
  elapsed : (current - mid).toInt = t - mid.toInt
  early : -2 ^ bin.toInt.toNat < t - mid.toInt
  late : t - mid.toInt ≤ 2 ^ bin.toInt.toNat

/-- At every tick of the timeline the middle of the step is found. -/
theorem midway_of_bin {bin : Tick} (hlow : 1 ≤ bin.toInt) (hhigh : bin.toInt ≤ binCount) {t : ℤ}
    (ht : 1 ≤ t ∧ t ≤ length) {current previous first last : Tick}
    (hcurrent : current = Int64.ofInt t) (hprevious : previous = Int64.ofInt (max (t - 1) 0))
    (hfirst : first = stepBegin previous bin) (hlast : last = stepEnd current bin) :
    Midway t bin current previous first (midpoint first last) last := by
  have hlength : length = 2 ^ 56 := rfl
  obtain ⟨-, htoInt⟩ := tick_eq (t := t) (by omega)
  obtain ⟨-, htoInt'⟩ := tick_eq (t := max (t - 1) 0) (by omega)
  have hbounds := stepLength_bounds hlow hhigh
  have hfound : StepAt t bin first last := by
    rw [stepAt_iff (by omega), hfirst, hlast, hcurrent, hprevious]
    exact ⟨rfl, rfl⟩
  have hstep := (stepAt_iff_isStep hlow hhigh (by omega)).mp hfound
  have hhalves := (within_of_stepAt hlow hhigh ht hfound).halves
  -- Twice the middle is the sum of both ends, which are twice the power apart.
  have hdouble : (stepLength bin).toInt = 2 * 2 ^ bin.toInt.toNat := by
    have hexponent : (bin.toInt + 1).toNat = bin.toInt.toNat + 1 := by omega
    rw [toInt_stepLength hlow hhigh, hexponent, pow_succ']
  have hspan := hstep.span
  have hafter := hstep.after
  have hupTo := hstep.upTo
  have hnonneg : 0 ≤ first.toInt := hstep.le_first (Int.dvd_zero _) (by omega)
  have hwords : Unwrapped current previous (stepLength bin) := by
    rw [hcurrent, hprevious]
    exact .of_le hbounds (by omega) (by omega)
  constructor
  case exponent => exact toInt_exponent hlow hhigh
  case length => exact toInt_stepLength hlow hhigh
  case words => exact hwords
  case sum =>
    rw [Int64.toInt_add]
    exact Int.bmod_eq_of_le (by omega) (by omega)
  case middle => omega
  case elapsed =>
    rw [Int64.toInt_sub, hcurrent, htoInt]
    exact Int.bmod_eq_of_le (by omega) (by omega)
  case early => omega
  case late => omega

end Timeline

/-! ## Gravity -/

/-- The acceleration of gravity that a particle feels: that of its gravity particle, or none if
it has none. -/
inductive Context.Feels (context : Context ℝ ℝ) (p : Particle ℝ ℝ) : Vec3 ℝ → Prop
  | uncoupled (h : p.gpart.toInt < 0) : Feels context p (.replicate 0)
  | alone (h : context.gparts = none ∨ context.gparts = some []) :
      Feels context p (.replicate 0)
  | coupled {gs : List (GravityParticle ℝ ℝ)} {g : GravityParticle ℝ ℝ}
      (hgs : context.gparts = some gs) (hindex : 0 ≤ p.gpart.toInt)
      (hg : gs[p.gpart.toInt.toNat]? = some g) : Feels context p g.aGrav

namespace Context

variable {context : Context ℝ ℝ} {p : Particle ℝ ℝ}

noncomputable def gravityOf (context : Context ℝ ℝ) (p : Particle ℝ ℝ) : Vec3 ℝ :=
  Gravity.valueAt (fun g => Particle.widenVec (D := ℝ) g.aGrav) (.replicate 0.0) context.gparts
    p.gpart

theorem gravityOf_of_neg (h : p.gpart.toInt < 0) : context.gravityOf p = .replicate 0 := by
  have hneg : p.gpart < 0 := Int64.lt_iff_toInt_lt.mpr h
  rw [gravityOf, Gravity.valueAt, if_pos hneg, Exact.zero_eq]

theorem gravityOf_of_alone (h : context.gparts = none ∨ context.gparts = some []) :
    context.gravityOf p = .replicate 0 := by
  have hempty : context.gparts.getD [] = [] := by
    obtain hnone | hempty := h
    · rw [hnone, Option.getD_none]
    · rw [hempty, Option.getD_some]
  rw [gravityOf, Gravity.valueAt, hempty, Exact.zero_eq]
  split <;> rfl

theorem gravityOf_of_coupled {gs : List (GravityParticle ℝ ℝ)} {g : GravityParticle ℝ ℝ}
    (hgs : context.gparts = some gs) (hindex : 0 ≤ p.gpart.toInt)
    (hg : gs[p.gpart.toInt.toNat]? = some g) : context.gravityOf p = g.aGrav := by
  have hnonneg : ¬ p.gpart < 0 := by
    rw [Int64.lt_iff_toInt_lt]
    exact not_lt.mpr hindex
  rw [gravityOf, Gravity.valueAt, if_neg hnonneg, hgs, Option.getD_some, hg]
  rfl

theorem feels_iff {a : Vec3 ℝ} :
    context.Feels p a ↔ context.Couples p ∧ a = context.gravityOf p := by
  constructor
  · intro h
    cases h with
    | uncoupled h =>
      refine ⟨fun gs _ _ => ?_, (gravityOf_of_neg h).symm⟩
      omega
    | alone h =>
      refine ⟨fun gs hgs hne => ?_, (gravityOf_of_alone h).symm⟩
      obtain hnone | hempty := h
      · rw [hnone] at hgs
        cases hgs
      · exact absurd (Option.some.inj (hgs.symm.trans hempty)) hne
    | @coupled gs g hgs hindex hg =>
      refine ⟨fun gs' hgs' _ => ?_, (gravityOf_of_coupled hgs hindex hg).symm⟩
      obtain rfl := Option.some.inj (hgs.symm.trans hgs')
      obtain ⟨hin, -⟩ := List.getElem?_eq_some_iff.mp hg
      omega
  · rintro ⟨hcouples, rfl⟩
    -- An index that asks for a gravity particle leads to one unless there are none at all.
    obtain hneg | hindex := lt_or_ge p.gpart.toInt 0
    · rw [gravityOf_of_neg hneg]
      exact .uncoupled hneg
    · match hgparts : context.gparts with
      | none =>
        rw [gravityOf_of_alone (.inl hgparts)]
        exact .alone (.inl hgparts)
      | some [] =>
        rw [gravityOf_of_alone (.inr hgparts)]
        exact .alone (.inr hgparts)
      | some (g :: gs) =>
        have hin : p.gpart.toInt.toNat < (g :: gs).length := by
          have hbound := hcouples _ hgparts (List.cons_ne_nil g gs)
          omega
        rw [gravityOf_of_coupled hgparts hindex (List.getElem?_eq_getElem hin)]
        exact .coupled hgparts hindex (List.getElem?_eq_getElem hin)

theorem exists_feels_iff : (∃ a, context.Feels p a) ↔ context.Couples p := by
  constructor
  · rintro ⟨a, h⟩
    exact (feels_iff.mp h).1
  · intro h
    exact ⟨_, feels_iff.mpr ⟨h, rfl⟩⟩

end Context

/-! ## Velocities -/

namespace Conversion

variable {context : Context ℝ ℝ}

/-- The kick factor of a kind from a tick to the current one: that of the cosmology, or the
time between them. -/
noncomputable def kickFrom (context : Context ℝ ℝ) (kind : KickKind) (mid : ℤ) : ℝ :=
  match context.cosmology with
  | some k => k.factor kind mid context.tick
  | none => (context.tick - mid : ℤ) * context.timeBase

/-- What turns the velocities of a run into peculiar ones. -/
noncomputable def peculiarScale (context : Context ℝ ℝ) : ℝ :=
  match context.cosmology with
  | some k => k.epoch.a ^ (-2 : ℤ)
  | none => 1

noncomputable def extrapolated (context : Context ℝ ℝ) (mid : ℤ) (v aHydro aGrav : Vec3 ℝ) :
    Vec3 ℝ :=
  let along (v aHydro aGrav : ℝ) : ℝ := peculiarScale context *
    (v + aHydro * kickFrom context .hydro mid + aGrav * kickFrom context .gravity mid)
  ⟨along v.x aHydro.x aGrav.x, along v.y aHydro.y aGrav.y, along v.z aHydro.z aGrav.z⟩

theorem kickFrom_self (context : Context ℝ ℝ) (kind : KickKind) :
    kickFrom context kind context.tick = 0 := by
  unfold kickFrom
  split
  · exact sub_self _
  · rw [sub_self, Int.cast_zero, zero_mul]

theorem extrapolated_self (v aHydro aGrav : Vec3 ℝ) :
    extrapolated context context.tick v aHydro aGrav = v.map (peculiarScale context * ·) := by
  simp only [extrapolated, kickFrom_self, mul_zero, add_zero, Vec3.map]

theorem a2Inv_eq (hmade : ∀ k ∈ context.cosmology, k.IsAccepted) :
    context.a2Inv = peculiarScale context := by
  rw [Context.a2Inv, peculiarScale]
  cases hk : context.cosmology with
  | none => exact Exact.one_eq
  | some k =>
    obtain ⟨-, hinverse⟩ := (hmade k hk).epoch
    show k.epoch.a2Inv = k.epoch.a ^ (-2 : ℤ)
    rw [hinverse, zpow_neg, zpow_two, one_div_mul_one_div, one_div]

/-! ### The step of a particle -/

def binOf (p : Particle ℝ ℝ) : Tick := Int64.ofInt p.timeBin.toInt

def firstOf (context : Context ℝ ℝ) (p : Particle ℝ ℝ) : Tick :=
  Timeline.stepBegin context.previousTick (binOf p)

def lastOf (context : Context ℝ ℝ) (p : Particle ℝ ℝ) : Tick :=
  Timeline.stepEnd context.currentTick (binOf p)

def midOf (context : Context ℝ ℝ) (p : Particle ℝ ℝ) : Tick :=
  Timeline.midpoint (firstOf context p) (lastOf context p)

theorem toInt_binOf {p : Particle ℝ ℝ} : (binOf p).toInt = p.timeBin.toInt := by
  have hlow := p.timeBin.le_toInt
  have hhigh := p.timeBin.toInt_lt
  rw [binOf, Int64.toInt_ofInt_of_le] <;> omega

section Step

variable (ht : 1 ≤ context.tick ∧ context.tick ≤ Timeline.length) {r : Row ℝ ℝ}
  (hbin : 1 ≤ r.1.timeBin.toInt ∧ r.1.timeBin.toInt ≤ Timeline.binCount)

include ht

theorem toInt_currentTick : context.currentTick.toInt = context.tick := by
  have hlength : Timeline.length = 2 ^ 56 := rfl
  exact (Timeline.tick_eq (t := context.tick) (by omega)).2

include hbin

theorem midway_of_row : Timeline.Midway context.tick (binOf r.1) context.currentTick
    context.previousTick (firstOf context r.1) (midOf context r.1) (lastOf context r.1) := by
  rw [← toInt_binOf] at hbin
  exact Timeline.midway_of_bin hbin.1 hbin.2 ht rfl rfl rfl rfl

/-- The beginning of the step drops out of a kick factor. -/
theorem kickFactor_eq (kind : KickKind) : kickFactor context kind r.1.timeBin
    = kickFrom context kind (midOf context r.1).toInt := by
  have helapsed := (midway_of_row ht hbin).elapsed
  cases hk : context.cosmology with
  | none =>
    have htime : kickFactor context kind r.1.timeBin
        = ((context.currentTick - midOf context r.1).toInt : ℝ) * context.timeBase := by
      simp only [kickFactor, hk]
      rfl
    rw [htime, helapsed, kickFrom, hk]
  | some k =>
    have hdifference : kickFactor context kind r.1.timeBin
        = k.factor kind (firstOf context r.1).toInt context.currentTick.toInt
          - k.factor kind (firstOf context r.1).toInt (midOf context r.1).toInt := by
      simp only [kickFactor, hk]
      rfl
    have hadd := k.factor_add_factor kind (firstOf context r.1).toInt (midOf context r.1).toInt
      context.currentTick.toInt
    rw [hdifference, kickFrom, hk, ← hadd, toInt_currentTick ht, add_sub_cancel_left]

theorem velocityOf_eq (hmade : ∀ k ∈ context.cosmology, k.IsAccepted) :
    velocityOf context r = extrapolated context (midOf context r.1).toInt r.2.vFull r.1.aHydro
      (context.gravityOf r.1) := by
  have hdrifted : driftedOf context r
      = (r.2.vFull.zipWith (· + ·)
          (r.1.aHydro.map (· * kickFactor context .hydro r.1.timeBin))).zipWith (· + ·)
        ((context.gravityOf r.1).map (· * kickFactor context .gravity r.1.timeBin)) := rfl
  have hscaled : velocityOf context r = (driftedOf context r).map (peculiarScale context * ·) := by
    rw [← a2Inv_eq hmade, velocityOf]
    cases hk : context.cosmology with
    | none =>
      simp only [Context.a2Inv, hk, Exact.one_eq, one_mul]
      rfl
    | some k =>
      simp only [Vec3.map, mul_comm context.a2Inv]
      rfl
  rw [hscaled, hdrifted, kickFactor_eq ht hbin, kickFactor_eq ht hbin]
  rfl

end Step

/-- What a particle is given as its velocity: its full velocity, brought from the middle of its
step by its own acceleration and the one of gravity. -/
structure IsExtrapolated (context : Context ℝ ℝ) (mid : ℤ) (r : Row ℝ ℝ) (v : Vec3 ℝ) : Prop where
  brought : ∃ aGrav, context.Feels r.1 aGrav ∧
    v = extrapolated context mid r.2.vFull r.1.aHydro aGrav
  atMiddle : context.tick = mid → v = r.2.vFull.map (peculiarScale context * ·)

/-- At every tick of the timeline and in every time bin with steps, velocities are brought from
the middle of the step, which is at most half a step away.  The beginning of the step does not
matter.  Where the gravity particle of some particle is missing there is no velocity. -/
theorem velocities_from_midpoint (hmade : ∀ k ∈ context.cosmology, k.IsAccepted)
    (ht : 1 ≤ context.tick ∧ context.tick ≤ Timeline.length) (t : Tensor (Row ℝ ℝ))
    (hbins : ∀ r ∈ t.cells, 1 ≤ r.1.timeBin.toInt ∧ r.1.timeBin.toInt ≤ Timeline.binCount) :
    ∃ (current previous : Tick) (bin first mid last : Row ℝ ℝ → Tick),
      Timeline.tick context.tick = .ok current ∧
      Timeline.tick (max (context.tick - 1) 0) = .ok previous ∧
      (∀ r, (bin r).toInt = r.1.timeBin.toInt) ∧
      Timeline.stepBegins context.tick (t.map bin) = .ok (t.map first) ∧
      Timeline.stepEnds context.tick (t.map bin) = .ok (t.map last) ∧
      Tensor.map₂? Timeline.midpoint (t.map first) (t.map last) = some (t.map mid) ∧
      (∀ r ∈ t.cells,
        Timeline.Midway context.tick (bin r) current previous (first r) (mid r) (last r)) ∧
      ((∀ r ∈ t.cells, ∃ a, context.Feels r.1 a) → ∃ v : Tensor (Vec3 ℝ),
        convert .velocity context (t.map Prod.fst) (t.map Prod.snd)
          = .ok (.singles (components v)) ∧ v.shape = t.shape ∧
        List.Forall₂ (fun r v => IsExtrapolated context (mid r).toInt r v) t.cells v.cells) ∧
      ((∃ r ∈ t.cells, ¬ ∃ a, context.Feels r.1 a) →
        convert .velocity context (t.map Prod.fst) (t.map Prod.snd)
          = .error .indexOutOfRange) := by
  have hlength : Timeline.length = 2 ^ 56 := rfl
  have hword : ((pow2 63 : ℕ) : ℤ) = 2 ^ 63 := rfl
  have hfits : context.HasTick := by
    rw [Context.HasTick, hword]
    omega
  refine ⟨context.currentTick, context.previousTick, fun r => binOf r.1,
    fun r => firstOf context r.1, fun r => midOf context r.1, fun r => lastOf context r.1,
    hfits.current, hfits.previous, fun r => toInt_binOf, ?_, ?_, Tensor.map₂?_map _ _ _ _,
    fun r hr => midway_of_row ht (hbins r hr), fun hfeels => ?_, fun hlost => ?_⟩
  · rw [Timeline.stepBegins, hfits.previous, Result.ok_bind, Tensor.map_map]
    rfl
  · rw [Timeline.stepEnds, hfits.current, Result.ok_bind, Tensor.map_map]
    rfl
  · have hcouples : ∀ r ∈ t.cells, context.Couples r.1 := fun r hr =>
      Context.exists_feels_iff.mp (hfeels r hr)
    refine ⟨t.map (velocityOf context), ?_, t.shape_map _, ?_⟩
    · rw [convert, velocities_map hfits hcouples]
      rfl
    · rw [Tensor.cells_map, List.forall₂_map_right_iff, List.forall₂_same]
      intro r hr
      have hvelocity := velocityOf_eq ht (hbins r hr) hmade
      refine ⟨⟨_, Context.feels_iff.mpr ⟨hcouples r hr, rfl⟩, hvelocity⟩, fun hmiddle => ?_⟩
      rw [hvelocity, ← hmiddle, extrapolated_self]
  · obtain ⟨r, hr, hlost⟩ := hlost
    rw [Context.exists_feels_iff] at hlost
    rw [convert, velocities_uncoupled hfits ⟨r, hr, hlost⟩]
    rfl

/-! ### A particle that is pushed and pulled -/

/-- A universe at tick 45 with one gravity particle. -/
noncomputable def attractingContext (k : Cosmology ℝ) : Context ℝ ℝ where
  tick := 45
  timeBase := k.timeBase
  scheme := .standard
  periodic := false
  dim := .vector [0.0, 0.0, 0.0]
  cosmology := some k
  gparts := some [{ (GravityParticle.zero : GravityParticle ℝ ℝ) with aGrav := ⟨0.0, 4.0, 0.0⟩ }]
  timeBegin := 0.0

/-- A particle of the third time bin that is pushed along one axis and pulled along another. -/
noncomputable def pushedParticle : Particle ℝ ℝ :=
  { (Particle.zero : Particle ℝ ℝ) with gpart := 0, timeBin := 3, aHydro := ⟨2.0, 0.0, 0.0⟩ }

noncomputable def pushedState : ExtendedState ℝ := ⟨.replicate 0.0, ⟨1.0, 1.0, 1.0⟩⟩

theorem feels_pushedParticle (k : Cosmology ℝ) :
    (attractingContext k).Feels pushedParticle ⟨0.0, 4.0, 0.0⟩ :=
  .coupled (g := { (GravityParticle.zero : GravityParticle ℝ ℝ) with aGrav := ⟨0.0, 4.0, 0.0⟩ })
    rfl (by decide) rfl

/-- At tick 45 the velocity is brought on from tick 40, the middle of the step from 32 to 48. -/
theorem velocities_from_midpoint_forty :
    ∃ k₀ k v, Cosmology.ofOptions (Cosmology.flatOptions 0.7 0.5 1 0.3 0.7) .cosmological = .ok k₀ ∧
      k₀.update 45 = .ok k ∧
      convert .velocity (attractingContext k) (.scalar pushedParticle) (.scalar pushedState)
        = .ok (.singles (components (.scalar v))) ∧
      v.x = k.epoch.a ^ (-2 : ℤ) * (1.0 + 2.0 * k.factor .hydro (40 : ℤ) (45 : ℤ)) ∧
      v.y = k.epoch.a ^ (-2 : ℤ) * (1.0 + 4.0 * k.factor .gravity (40 : ℤ) (45 : ℤ)) ∧
      v.z = k.epoch.a ^ (-2 : ℤ) * 1.0 := by
  obtain ⟨k₀, hk₀, -⟩ := Cosmology.exists_ofOptions
    (show (0 : ℝ) < 0.5 by norm_num) (show (0.5 : ℝ) < 1 by norm_num) 0.7 0.3 0.7 .cosmological
  obtain ⟨hexpansion, -⟩ := Cosmology.expansionOf_of_ofOptions hk₀
  obtain ⟨k, hk⟩ : ∃ k, k₀.update 45 = .ok k := by
    obtain ⟨hepoch, -⟩ := Cosmology.epochAt_intCast
      (Cosmology.growth_of_expansionOf hexpansion).1 k₀.timeBase 45
    exact ⟨_, Cosmology.moveTo_eq_ok.mpr ⟨_, hepoch, rfl⟩⟩
  have hmade : ∀ k' ∈ (attractingContext k).cosmology, k'.IsAccepted := by
    intro k' hk'
    obtain rfl := Option.some.inj hk'
    exact ⟨_, _, k₀, .int 45, hk₀, hk⟩
  have hbins : ∀ r ∈ (Tensor.scalar (pushedParticle, pushedState)).cells,
      1 ≤ r.1.timeBin.toInt ∧ r.1.timeBin.toInt ≤ Timeline.binCount := by
    intro r hr
    obtain rfl := List.mem_singleton.mp hr
    decide
  have hfeels : ∀ r ∈ (Tensor.scalar (pushedParticle, pushedState)).cells,
      ∃ a, (attractingContext k).Feels r.1 a := by
    intro r hr
    obtain rfl := List.mem_singleton.mp hr
    exact ⟨_, feels_pushedParticle k⟩
  obtain ⟨_, _, bin, first, mid, _, -, -, hbin, hfirst, -, -, hmidway, hfound, -⟩ :=
    velocities_from_midpoint hmade (show 1 ≤ (45 : ℤ) ∧ (45 : ℤ) ≤ Timeline.length by decide)
      (.scalar (pushedParticle, pushedState)) hbins
  have hmid : (mid (pushedParticle, pushedState)).toInt = 40 := by
    have hthree : bin (pushedParticle, pushedState) = 3 := Int64.toInt_inj.mp (hbin _)
    have hbegins : Timeline.stepBegins 45 (.scalar (bin (pushedParticle, pushedState)))
        = .ok (.scalar (first (pushedParticle, pushedState))) := hfirst
    have hbegin : Timeline.stepBegins 45 (.scalar 3) = .ok (.scalar 32) := by rfl
    rw [hthree, hbegin] at hbegins
    have hcell := congrArg Tensor.cells (Except.ok.inj hbegins)
    have hmiddle := (hmidway _ (List.mem_singleton.mpr rfl)).middle
    rw [← (List.cons.inj hcell).1, hthree] at hmiddle
    exact hmiddle
  obtain ⟨v, hconvert, hshape, hcells⟩ := hfound hfeels
  obtain ⟨w, rest, hw, hrest, hcells'⟩ := List.forall₂_cons_left_iff.mp hcells
  obtain rfl := List.forall₂_nil_left_iff.mp hrest
  obtain rfl : v = .scalar w := Tensor.ext hshape hcells'
  obtain ⟨aGrav, haGrav, hbrought⟩ := hw.brought
  obtain rfl : aGrav = ⟨0.0, 4.0, 0.0⟩ := (Context.feels_iff.mp haGrav).2.trans
    (Context.feels_iff.mp (feels_pushedParticle k)).2.symm
  have hkick : ∀ kind, kickFrom (attractingContext k) kind 40
      = k.factor kind (40 : ℤ) (45 : ℤ) := fun _ => rfl
  have hscale : peculiarScale (attractingContext k) = k.epoch.a ^ (-2 : ℤ) := rfl
  rw [hmid] at hbrought
  simp only [extrapolated, hkick, hscale, pushedParticle, pushedState, Exact.zero_eq, zero_mul,
    add_zero] at hbrought
  exact ⟨k₀, k, w, hk₀, hk, hconvert, by rw [hbrought], by rw [hbrought], by rw [hbrought]⟩

end Conversion

end MeshlessGas
