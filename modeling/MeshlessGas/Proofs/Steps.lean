/-
Steps on the integer timeline — they tile it, and finer steps lie inside coarser ones.

On the integers the step of length `d` around a tick `t` is the one pair of neighbouring
multiples of `d` with `t` above the first and not above the last.  What is computed in
64-bit words is that step: its beginning comes from the quotient of the tick before, its end
from a remainder, and no operation on the way leaves the word.  Everything said about steps
below then follows from divisibility.
-/
import Mathlib.Algebra.Order.Ring.Int
import Mathlib.Tactic.Positivity
import MeshlessGas.Proofs.Conversions

namespace MeshlessGas

namespace Timeline

/-! ## Steps of the integers -/

/-- The step of a length around `t`: it begins at a multiple of the length, before `t`, and
ends a length later, at `t` or after it. -/
structure IsStep (step t first last : Int) : Prop where
  dvd_first : step ∣ first
  span : last - first = step
  after : first < t
  upTo : t ≤ last

namespace IsStep

variable {step coarse t first last first' last' : Int}

theorem step_pos (h : IsStep step t first last) : 0 < step := by
  have hspan := h.span
  have hafter := h.after
  have hupTo := h.upTo
  omega

theorem dvd_last (h : IsStep step t first last) : step ∣ last := by
  have hlast : last = first + step := by
    have hspan := h.span
    omega
  rw [hlast]
  exact Int.dvd_add h.dvd_first (Int.dvd_refl step)

theorem of_mem (h : IsStep step t first last) {t' : Int} (hafter : first < t')
    (hupTo : t' ≤ last) : IsStep step t' first last :=
  ⟨h.dvd_first, h.span, hafter, hupTo⟩

theorem next (h : IsStep step t first last) :
    IsStep step (last + 1) last (last + step) := by
  have hpos := h.step_pos
  exact ⟨h.dvd_last, by omega, by omega, by omega⟩

theorem le_first (h : IsStep step t first last) {n : Int} (hn : step ∣ n) (hlt : n < t) :
    n ≤ first := by
  have hspan := h.span
  have hupTo := h.upTo
  by_contra hnot
  have hle : step ≤ n - first := Int.le_of_dvd (by omega) (Int.dvd_sub hn h.dvd_first)
  omega

theorem last_le (h : IsStep step t first last) {n : Int} (hn : step ∣ n) (hle : t ≤ n) :
    last ≤ n := by
  have hspan := h.span
  have hafter := h.after
  by_contra hnot
  have hle : step ≤ last - n := Int.le_of_dvd (by omega) (Int.dvd_sub h.dvd_last hn)
  omega

theorem nested (h : IsStep step t first last) (hcoarse : IsStep coarse t first' last')
    (hdvd : step ∣ coarse) : first' ≤ first ∧ last ≤ last' :=
  ⟨h.le_first (hdvd.trans hcoarse.dvd_first) hcoarse.after,
    h.last_le (hdvd.trans hcoarse.dvd_last) hcoarse.upTo⟩

theorem unique (h : IsStep step t first last) (h' : IsStep step t first' last') :
    first' = first ∧ last' = last := by
  have hinside := h.nested h' (Int.dvd_refl step)
  have hinside' := h'.nested h (Int.dvd_refl step)
  omega

/-- The two formulas of a step: the beginning from the quotient of the tick before, the end
from the remainder of the tick. -/
theorem of_quotient (hstep : 0 < step) (t : Int) :
    IsStep step t (step * ((t - 1) / step))
      (if t % step = 0 then t else t - t % step + step) := by
  have hbefore := Int.emod_add_mul_ediv (t - 1) step
  have hlow := Int.emod_nonneg (t - 1) hstep.ne'
  have hhigh := Int.emod_lt_of_pos (t - 1) hstep
  set first := step * ((t - 1) / step) with hfirst
  have hdvd : step ∣ first := Dvd.intro _ hfirst.symm
  have hmod : t % step = if t - first = step then 0 else t - first := by
    rw [← Int.sub_mul_emod_self_left t step ((t - 1) / step), ← hfirst]
    split
    next hend => rw [hend, Int.emod_self]
    next hend => exact Int.emod_eq_of_lt (by omega) (by omega)
  have hspan : (if t % step = 0 then t else t - t % step + step) - first = step := by
    rw [hmod]
    split <;> split at * <;> omega
  refine ⟨hdvd, hspan, by omega, by omega⟩

end IsStep

/-! ## Steps in 64-bit words -/

theorem toInt_powerOfTwo : ∀ k : Fin 63, (powerOfTwo (Int64.ofInt k.val)).toInt = 2 ^ k.val := by
  decide

/-- The operations of a step in words, each with the value it has on the integers: none of them
wraps around.  The step is taken at the tick `current`, with `previous` the tick before. -/
structure Unwrapped (current previous step : Tick) : Prop where
  quotient : (floorDiv previous step).toInt = previous.toInt / step.toInt
  product : (step * floorDiv previous step).toInt = step.toInt * (previous.toInt / step.toInt)
  remainder : (floorMod current step).toInt = current.toInt % step.toInt
  difference : (current - floorMod current step).toInt =
    current.toInt - current.toInt % step.toInt
  sum : (current - floorMod current step + step).toInt =
    current.toInt - current.toInt % step.toInt + step.toInt

/-- Up to a quarter of the ticks of a word, no operation of a step wraps around. -/
theorem Unwrapped.of_le {current previous step : Tick}
    (hstep : 0 < step.toInt ∧ step.toInt ≤ 2 ^ 57)
    (hcurrent : 0 ≤ current.toInt ∧ current.toInt ≤ 2 ^ 62)
    (hprevious : 0 ≤ previous.toInt ∧ previous.toInt ≤ 2 ^ 62) :
    Unwrapped current previous step := by
  obtain ⟨hpos, hmax⟩ := hstep
  have hquotient : (floorDiv previous step).toInt = previous.toInt / step.toInt := by
    have hle := Int.ediv_le_self step.toInt hprevious.1
    have hnonneg := Int.ediv_nonneg hprevious.1 hpos.le
    rw [floorDiv, Int.fdiv_eq_ediv_of_nonneg _ hpos.le, Int64.toInt_ofInt_of_le] <;> omega
  have hproduct : (step * floorDiv previous step).toInt =
      step.toInt * (previous.toInt / step.toInt) := by
    have hnonneg := mul_nonneg hpos.le (Int.ediv_nonneg hprevious.1 hpos.le)
    have hle := Int.mul_ediv_self_le (x := previous.toInt) hpos.ne'
    rw [Int64.toInt_mul, hquotient]
    exact Int.bmod_eq_of_le (by omega) (by omega)
  have hmodLow := Int.emod_nonneg current.toInt hpos.ne'
  have hmodHigh := Int.emod_lt_of_pos current.toInt hpos
  have hremainder : (floorMod current step).toInt = current.toInt % step.toInt := by
    rw [floorMod, Int.fmod_eq_emod_of_nonneg _ hpos.le, Int64.toInt_ofInt_of_le] <;> omega
  have hdifference : (current - floorMod current step).toInt =
      current.toInt - current.toInt % step.toInt := by
    rw [Int64.toInt_sub, hremainder]
    exact Int.bmod_eq_of_le (by omega) (by omega)
  refine ⟨hquotient, hproduct, hremainder, hdifference, ?_⟩
  rw [Int64.toInt_add, hdifference]
  exact Int.bmod_eq_of_le (by omega) (by omega)

theorem toInt_exponent {bin : Tick} (hlow : 1 ≤ bin.toInt) (hhigh : bin.toInt ≤ binCount) :
    (bin + 1).toInt = bin.toInt + 1 := by
  have hcount : (binCount : Int) = 56 := rfl
  have hone : (1 : Tick).toInt = 1 := rfl
  rw [Int64.toInt_add, hone]
  exact Int.bmod_eq_of_le (by omega) (by omega)

theorem toInt_stepLength {bin : Tick} (hlow : 1 ≤ bin.toInt) (hhigh : bin.toInt ≤ binCount) :
    (stepLength bin).toInt = 2 ^ (bin.toInt + 1).toNat := by
  have hcount : (binCount : Int) = 56 := rfl
  have hpositive : ¬ bin ≤ 0 := by
    rw [Int64.le_iff_toInt_le]
    show ¬ bin.toInt ≤ 0
    omega
  have hexponent : bin + 1 = Int64.ofInt (bin.toInt + 1).toNat := by
    rw [← Int64.toInt_inj, toInt_exponent hlow hhigh, Int64.toInt_ofInt_of_le] <;> omega
  rw [stepLength, if_neg hpositive, hexponent]
  exact toInt_powerOfTwo ⟨(bin.toInt + 1).toNat, by omega⟩

theorem stepLength_bounds {bin : Tick} (hlow : 1 ≤ bin.toInt) (hhigh : bin.toInt ≤ binCount) :
    0 < (stepLength bin).toInt ∧ (stepLength bin).toInt ≤ 2 ^ 57 := by
  have hcount : (binCount : Int) = 56 := rfl
  rw [toInt_stepLength hlow hhigh]
  exact ⟨by positivity, pow_le_pow_right₀ (by norm_num) (by omega)⟩

theorem tick_eq {t : Int} (ht : 0 ≤ t ∧ t < 2 ^ 63) :
    tick t = .ok (Int64.ofInt t) ∧ (Int64.ofInt t).toInt = t := by
  have hword : ((pow2 63 : Nat) : Int) = 2 ^ 63 := rfl
  refine ⟨Context.tick_eq_ok ?_, ?_⟩
  · rw [hword]
    omega
  · rw [Int64.toInt_ofInt_of_le] <;> omega

/-- The step of a bin at a tick as it is computed. -/
structure StepAt (t : Int) (bin first last : Tick) : Prop where
  begins : stepBegins t (.scalar bin) = .ok (.scalar first)
  ends : stepEnds t (.scalar bin) = .ok (.scalar last)

theorem stepAt_iff {t : Int} (ht : 0 ≤ t ∧ t < 2 ^ 63) {bin first last : Tick} :
    StepAt t bin first last ↔
      first = stepBegin (Int64.ofInt (max (t - 1) 0)) bin ∧
        last = stepEnd (Int64.ofInt t) bin := by
  have hbegins : stepBegins t (.scalar bin) =
      .ok (.scalar (stepBegin (Int64.ofInt (max (t - 1) 0)) bin)) := by
    rw [stepBegins, (tick_eq (t := max (t - 1) 0) (by omega)).1, Result.ok_bind]
    rfl
  have hends : stepEnds t (.scalar bin) = .ok (.scalar (stepEnd (Int64.ofInt t) bin)) := by
    rw [stepEnds, (tick_eq ht).1, Result.ok_bind]
    rfl
  constructor
  · rintro ⟨hfirst, hlast⟩
    have hfirst := congrArg Tensor.cells (Except.ok.inj (hfirst.symm.trans hbegins))
    have hlast := congrArg Tensor.cells (Except.ok.inj (hlast.symm.trans hends))
    exact ⟨(List.cons.inj hfirst).1, (List.cons.inj hlast).1⟩
  · rintro ⟨rfl, rfl⟩
    exact ⟨hbegins, hends⟩

section Word

variable {bin first last : Tick} {t : Int}

theorem isStep_words (hlow : 1 ≤ bin.toInt) (hhigh : bin.toInt ≤ binCount)
    (ht : 1 ≤ t ∧ t ≤ 2 ^ 62) :
    IsStep (stepLength bin).toInt t (stepBegin (Int64.ofInt (max (t - 1) 0)) bin).toInt
      (stepEnd (Int64.ofInt t) bin).toInt := by
  obtain ⟨-, hcurrent⟩ := tick_eq (t := t) (by omega)
  obtain ⟨-, hprevious⟩ := tick_eq (t := max (t - 1) 0) (by omega)
  have hbounds := stepLength_bounds hlow hhigh
  have hwords : Unwrapped (Int64.ofInt t) (Int64.ofInt (max (t - 1) 0)) (stepLength bin) :=
    .of_le hbounds (by omega) (by omega)
  have hne : stepLength bin ≠ 0 := by
    intro hzero
    have hpos := hbounds.1
    rw [hzero] at hpos
    exact absurd hpos (by decide)
  have hfirst : (stepBegin (Int64.ofInt (max (t - 1) 0)) bin).toInt
      = (stepLength bin).toInt * ((t - 1) / (stepLength bin).toInt) := by
    have hmax : max (t - 1) 0 = t - 1 := by omega
    simp only [stepBegin, if_neg hne]
    rw [hwords.product, hprevious, hmax]
  have hlast : (stepEnd (Int64.ofInt t) bin).toInt
      = if t % (stepLength bin).toInt = 0 then t
        else t - t % (stepLength bin).toInt + (stepLength bin).toInt := by
    have hzero : floorMod (Int64.ofInt t) (stepLength bin) = 0
        ↔ t % (stepLength bin).toInt = 0 := by
      rw [← Int64.toInt_inj, hwords.remainder, hcurrent]
      rfl
    simp only [stepEnd, if_neg hne, hzero]
    split
    next => exact hcurrent
    next => rw [hwords.sum, hcurrent]
  rw [hfirst, hlast]
  exact .of_quotient hbounds.1 t

/-- The computed step is the one step of the integers. -/
theorem stepAt_iff_isStep (hlow : 1 ≤ bin.toInt) (hhigh : bin.toInt ≤ binCount)
    (ht : 1 ≤ t ∧ t ≤ 2 ^ 62) :
    StepAt t bin first last ↔ IsStep (stepLength bin).toInt t first.toInt last.toInt := by
  have hstep := isStep_words hlow hhigh ht
  rw [stepAt_iff (by omega)]
  constructor
  · rintro ⟨rfl, rfl⟩
    exact hstep
  · intro h
    obtain ⟨hfirst, hlast⟩ := hstep.unique h
    exact ⟨Int64.toInt_inj.mp hfirst, Int64.toInt_inj.mp hlast⟩

theorem stepLength_dvd {coarse : Tick} (hlow : 1 ≤ bin.toInt) (hle : bin.toInt ≤ coarse.toInt)
    (hhigh : coarse.toInt ≤ binCount) : (stepLength bin).toInt ∣ (stepLength coarse).toInt := by
  rw [toInt_stepLength hlow (by omega), toInt_stepLength (by omega) hhigh]
  exact pow_dvd_pow 2 (by omega)

end Word

/-! ## Bins and ticks without a step -/

theorem stepAt_zero (bin : Tick) : StepAt 0 bin 0 0 := by
  have hquotient : floorDiv 0 (stepLength bin) = 0 := by
    rw [floorDiv]
    show Int64.ofInt (Int.fdiv 0 _) = 0
    rw [Int.zero_fdiv]
    rfl
  have hremainder : floorMod 0 (stepLength bin) = 0 := by
    rw [floorMod]
    show Int64.ofInt (Int.fmod 0 _) = 0
    rw [Int.zero_fmod]
    rfl
  rw [stepAt_iff (by norm_num)]
  constructor
  · show 0 = stepBegin 0 bin
    simp only [stepBegin, hquotient, Int64.mul_zero, ite_self]
  · show 0 = stepEnd 0 bin
    simp only [stepEnd, hremainder, if_true, ite_self]

theorem stepAt_of_nonpos {bin : Tick} (hbin : bin ≤ 0) {t : Int} (ht : 0 ≤ t ∧ t < 2 ^ 63) :
    StepAt t bin 0 0 := by
  have hlength : stepLength bin = 0 := if_pos hbin
  rw [stepAt_iff ht]
  constructor
  · simp only [stepBegin, hlength, if_true]
  · simp only [stepEnd, hlength, if_true]

/-! ## The tiling -/

/-- The step of a bin at a tick as one tile of the timeline, which lies inside a tile of every
coarser bin. -/
structure Tile (t : Int) (bin first last : Tick) : Prop where
  found : StepAt t bin first last
  dvd_first : (stepLength bin).toInt ∣ first.toInt
  dvd_last : (stepLength bin).toInt ∣ last.toInt
  span : last.toInt - first.toInt = (stepLength bin).toInt
  after : first.toInt < t
  upTo : t ≤ last.toInt
  shared : ∀ t', first.toInt < t' → t' ≤ last.toInt → StepAt t' bin first last
  next : stepBegins (last.toInt + 1) (.scalar bin) = .ok (.scalar last)
  nested : ∀ coarse : Tick, bin ≤ coarse → coarse.toInt ≤ binCount →
    ∃ first' last', StepAt t coarse first' last' ∧
      first'.toInt ≤ first.toInt ∧ last.toInt ≤ last'.toInt

theorem exists_tile {bin : Tick} {t : Int} (hlow : 1 ≤ bin.toInt) (hhigh : bin.toInt ≤ binCount)
    (ht : 1 ≤ t ∧ t ≤ length) : ∃ first last, Tile t bin first last := by
  have hlength : length = 2 ^ 56 := rfl
  have hbounds := stepLength_bounds hlow hhigh
  have hstep := isStep_words hlow hhigh (t := t) (by omega)
  set first := stepBegin (Int64.ofInt (max (t - 1) 0)) bin with hfirst
  set last := stepEnd (Int64.ofInt t) bin with hlast
  have hnonneg : 0 ≤ first.toInt :=
    hstep.le_first (Int.dvd_zero _) (by omega)
  have hspan := hstep.span
  have hafter := hstep.after
  have hupTo := hstep.upTo
  have hfound : ∀ t', first.toInt < t' → t' ≤ last.toInt → StepAt t' bin first last := by
    intro t' hafter' hupTo'
    rw [stepAt_iff_isStep hlow hhigh (by omega)]
    exact hstep.of_mem hafter' hupTo'
  refine ⟨first, last, hfound t hafter hupTo, hstep.dvd_first, hstep.dvd_last, hspan, hafter,
    hupTo, hfound, ?_, ?_⟩
  · have hnext := isStep_words hlow hhigh (t := last.toInt + 1) (by omega)
    have hbegin : last = stepBegin (Int64.ofInt (max (last.toInt + 1 - 1) 0)) bin :=
      Int64.toInt_inj.mp (hnext.unique hstep.next).1
    exact ((stepAt_iff (by omega)).mpr ⟨hbegin, rfl⟩).begins
  · intro coarse hle hcoarse
    have hle : bin.toInt ≤ coarse.toInt := Int64.le_iff_toInt_le.mp hle
    have hstep' := isStep_words (by omega) hcoarse (t := t) (by omega)
    exact ⟨_, _, (stepAt_iff (by omega)).mpr ⟨rfl, rfl⟩,
      hstep.nested hstep' (stepLength_dvd hlow hle hcoarse)⟩

/-- The steps of every bin tile the timeline, the finer inside the coarser ones, and no operation
on the way leaves the word.  Without a step both ends are the start of time. -/
theorem steps_tile :
    (∀ (bin : Tick) (t : Int), 1 ≤ bin.toInt → bin.toInt ≤ binCount → 1 ≤ t → t ≤ length →
      ∃ current previous first last : Tick,
        (tick t = .ok current ∧ current.toInt = t) ∧
        (tick (max (t - 1) 0) = .ok previous ∧ previous.toInt = t - 1) ∧
        (bin + 1).toInt = bin.toInt + 1 ∧
        (stepLength bin).toInt = 2 ^ (bin.toInt + 1).toNat ∧
        Unwrapped current previous (stepLength bin) ∧ Tile t bin first last) ∧
    (∀ bin : Tick, StepAt 0 bin 0 0) ∧
    ∀ (bin : Tick) (t : Int), bin ≤ 0 → 0 ≤ t → t < 2 ^ 63 → StepAt t bin 0 0 := by
  have hlength : length = 2 ^ 56 := rfl
  refine ⟨?_, stepAt_zero, fun bin t hbin hlow hhigh => stepAt_of_nonpos hbin ⟨hlow, hhigh⟩⟩
  intro bin t hlow hhigh hfirst hlast
  have hmax : max (t - 1) 0 = t - 1 := by omega
  obtain ⟨htick, hcurrent⟩ := tick_eq (t := t) (by omega)
  obtain ⟨htick', hprevious⟩ := tick_eq (t := t - 1) (by omega)
  obtain ⟨first, last, htile⟩ := exists_tile hlow hhigh ⟨hfirst, hlast⟩
  rw [hmax]
  refine ⟨_, _, first, last, ⟨htick, hcurrent⟩, ⟨htick', hprevious⟩,
    toInt_exponent hlow hhigh, toInt_stepLength hlow hhigh, ?_, htile⟩
  exact .of_le (stepLength_bounds hlow hhigh) (by omega) (by omega)

/-- Tick 40 lies in the step from 32 to 48 of bin 3. -/
theorem steps_tile_forty : 1 ≤ (3 : Tick).toInt ∧ (3 : Tick).toInt ≤ binCount ∧
    (40 : Int) ≤ length ∧ Tile 40 3 32 48 := by
  obtain ⟨_, _, first, last, -, -, -, -, -, htile⟩ :=
    steps_tile.1 3 40 (by decide) (by decide) (by decide) (by decide)
  obtain ⟨hfirst, hlast⟩ := (stepAt_iff (by decide)).mp htile.found
  obtain rfl : first = 32 := hfirst
  obtain rfl : last = 48 := hlast
  exact ⟨by decide, by decide, by decide, htile⟩

end Timeline

end MeshlessGas
