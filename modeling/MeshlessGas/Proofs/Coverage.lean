/-
Coverage of the timeline — which ends of steps the cosmology tables reach.

The tables hold the kick integrals from the beginning of the timeline to its end, and a look-up
outside of them gives the nearest value they hold.  Steps of all bins but the coarsest end on the
timeline.  The coarsest bin has one step, twice as long as the timeline: it begins and has its
middle on the timeline, which is all that a kick needs, and ends beyond it.
-/
import MeshlessGas.Proofs.Reals
import MeshlessGas.Proofs.Steps

namespace MeshlessGas

namespace Cosmology

/-- The tables cover a tick: its fraction of the timeline lies between their first and their
last point. -/
def Covers (t : Tick) : Prop :=
  ∃ first last, (tablePoints : List ℝ).head? = some first ∧
    (tablePoints : List ℝ).getLast? = some last ∧
    first ≤ Conversion.realOfTick t / ticks ∧ Conversion.realOfTick t / ticks ≤ last

theorem head?_tablePoints : (tablePoints : List ℝ).head? = some 0 := by
  have hrange : (List.range (tableLength - 1)).head? = some 0 := by
    rw [List.head?_range, if_neg (by decide)]
  have hzero : (Arithmetic.ofInt ((0 : ℕ) : ℤ) : ℝ) = 0 := Int.cast_zero
  rw [tablePoints, List.head?_append, List.head?_map, hrange, Option.map_some, hzero, zero_mul]
  rfl

theorem getLast?_tablePoints : (tablePoints : List ℝ).getLast? = some 1 := by
  rw [tablePoints, List.getLast?_append, Exact.one_eq]
  rfl

theorem covers_iff {t : Tick} : Covers t ↔ 0 ≤ t.toInt ∧ t.toInt ≤ Timeline.length := by
  have hticks : (0 : ℝ) < (Timeline.length : ℤ) := by
    exact_mod_cast (by decide : 0 < Timeline.length)
  have hfraction : (Conversion.realOfTick t / ticks : ℝ) = (t.toInt : ℝ) / (Timeline.length : ℤ) :=
    rfl
  have hends : Covers t ↔ 0 ≤ (t.toInt : ℝ) / (Timeline.length : ℤ) ∧
      (t.toInt : ℝ) / (Timeline.length : ℤ) ≤ 1 := by
    simp only [Covers, head?_tablePoints, getLast?_tablePoints, hfraction, Option.some.injEq,
      exists_and_left, exists_eq_left']
  rw [hends, div_le_one hticks, le_div_iff₀ hticks, zero_mul, Int.cast_le, Int.cast_nonneg_iff]

end Cosmology

namespace Timeline

/-- The ends and the midpoint of the step of a bin at a tick of the timeline, as far as they lie
on it. -/
structure Within (t : Int) (bin first mid last : Tick) : Prop where
  first_covered : Cosmology.Covers first
  mid_covered : Cosmology.Covers mid
  halves : 2 * mid.toInt = first.toInt + last.toInt
  last_covered : bin.toInt < binCount → Cosmology.Covers last
  coarsest : bin.toInt = binCount → 1 ≤ t → last.toInt = 2 * length

theorem toInt_midpoint {first last : Tick} (hfirst : 0 ≤ first.toInt ∧ first.toInt ≤ 2 ^ 57)
    (hlast : 0 ≤ last.toInt ∧ last.toInt ≤ 2 ^ 57) :
    (midpoint first last).toInt = (first.toInt + last.toInt) / 2 := by
  have hsum : (first + last).toInt = first.toInt + last.toInt := by
    rw [Int64.toInt_add]
    exact Int.bmod_eq_of_le (by omega) (by omega)
  have htwo : (2 : Tick).toInt = 2 := rfl
  rw [midpoint, floorDiv, hsum, htwo, Int.fdiv_eq_ediv_of_nonneg _ (by norm_num),
    Int64.toInt_ofInt_of_le] <;> omega

section Within

variable {bin : Tick} {t : Int}

/-- All bins but the coarsest have step lengths that divide the timeline. -/
theorem stepLength_dvd_length (hlow : 1 ≤ bin.toInt) (hhigh : bin.toInt < binCount) :
    (stepLength bin).toInt ∣ length := by
  have hcount : (binCount : Int) = 56 := rfl
  have hlength : length = 2 ^ 56 := rfl
  rw [toInt_stepLength hlow (by omega), hlength]
  exact pow_dvd_pow 2 (by omega)

theorem toInt_stepLength_coarsest (hbin : bin.toInt = binCount) :
    (stepLength bin).toInt = 2 * length := by
  have hcount : (binCount : Int) = 56 := rfl
  rw [toInt_stepLength (by omega) (by omega), hbin]
  rfl

theorem IsStep.coarsest {first last : Int} (h : IsStep (2 * length) t first last)
    (ht : 1 ≤ t ∧ t ≤ length) : first = 0 ∧ last = 2 * length := by
  have hlength : length = 2 ^ 56 := rfl
  have hspan := h.span
  have hfirst : 0 ≤ first := h.le_first (Int.dvd_zero _) (by omega)
  have hlast : last ≤ 2 * length := h.last_le (Int.dvd_refl _) (by omega)
  omega

theorem within_zero (bin : Tick) : Within 0 bin 0 0 0 := by
  have hcovered : Cosmology.Covers 0 := Cosmology.covers_iff.mpr (by decide)
  exact ⟨hcovered, hcovered, rfl, fun _ => hcovered, fun _ h => absurd h (by decide)⟩

/-- Steps begin and have their middle on the timeline; all but the coarsest end on it. -/
theorem within_of_stepAt (hlow : 1 ≤ bin.toInt) (hhigh : bin.toInt ≤ binCount)
    (ht : 1 ≤ t ∧ t ≤ length) {first last : Tick} (h : StepAt t bin first last) :
    Within t bin first (midpoint first last) last := by
  have hcount : (binCount : Int) = 56 := rfl
  have hlength : length = 2 ^ 56 := rfl
  have hstep := (stepAt_iff_isStep hlow hhigh (by omega)).mp h
  have hspan := hstep.span
  have hpos := hstep.step_pos
  have hfirst : 0 ≤ first.toInt := hstep.le_first (Int.dvd_zero _) (by omega)
  have hend : bin.toInt < binCount ∧ last.toInt ≤ length ∨
      bin.toInt = binCount ∧ first.toInt = 0 ∧ last.toInt = 2 * length := by
    obtain hfine | hcoarsest : bin.toInt < binCount ∨ bin.toInt = binCount := by omega
    · exact .inl ⟨hfine, hstep.last_le (stepLength_dvd_length hlow hfine) ht.2⟩
    · rw [toInt_stepLength_coarsest hcoarsest] at hstep
      exact .inr ⟨hcoarsest, hstep.coarsest ht⟩
  have heven : (2 : Int) ∣ (stepLength bin).toInt := by
    rw [toInt_stepLength hlow hhigh]
    exact dvd_pow_self 2 (by omega)
  have hevenFirst := heven.trans hstep.dvd_first
  have hmid : (midpoint first last).toInt = (first.toInt + last.toInt) / 2 :=
    toInt_midpoint (by omega) (by omega)
  refine ⟨?_, ?_, by omega, ?_, by omega⟩
  · rw [Cosmology.covers_iff]
    omega
  · rw [Cosmology.covers_iff, hmid]
    omega
  · intro hfine
    rw [Cosmology.covers_iff]
    omega

end Within

/-- The steps that kicks of many particles are taken from: at every tick of the timeline they
are found, begin on the timeline and have their middle there.  They end there for all bins but
the coarsest, whose step ends as far behind the timeline as the timeline is long. -/
theorem steps_within (bins : Tensor Tick) (t : Int)
    (hbins : ∀ bin ∈ bins.cells, 1 ≤ bin.toInt ∧ bin.toInt ≤ binCount)
    (ht : 0 ≤ t ∧ t ≤ length) :
    ∃ (current : Tick) (first mid last : Tick → Tick),
      tick t = .ok current ∧ Cosmology.Covers current ∧
      stepBegins t bins = .ok (bins.map first) ∧ stepEnds t bins = .ok (bins.map last) ∧
      Tensor.map₂? midpoint (bins.map first) (bins.map last) = some (bins.map mid) ∧
      ∀ bin ∈ bins.cells, Within t bin (first bin) (mid bin) (last bin) := by
  have hlength : length = 2 ^ 56 := rfl
  obtain ⟨hcurrent, htick⟩ := tick_eq (t := t) (by omega)
  obtain ⟨hprevious, -⟩ := tick_eq (t := max (t - 1) 0) (by omega)
  refine ⟨Int64.ofInt t, stepBegin (Int64.ofInt (max (t - 1) 0)), _, stepEnd (Int64.ofInt t),
    hcurrent, ?_, ?_, ?_, Tensor.map₂?_map _ _ _ _, ?_⟩
  · rw [Cosmology.covers_iff, htick]
    exact ht
  · rw [stepBegins, hprevious, Result.ok_bind]
    rfl
  · rw [stepEnds, hcurrent, Result.ok_bind]
    rfl
  · intro bin hbin
    obtain ⟨hlow, hhigh⟩ := hbins bin hbin
    obtain rfl | hpos : t = 0 ∨ 1 ≤ t := by omega
    · obtain ⟨hfirst, hlast⟩ := (stepAt_iff (by norm_num)).mp (stepAt_zero bin)
      rw [← hfirst, ← hlast]
      exact within_zero bin
    · exact within_of_stepAt hlow hhigh ⟨hpos, ht.2⟩
        ((stepAt_iff (by omega)).mpr ⟨rfl, rfl⟩)

/-- The step of bin 3 around tick 40 lies on the timeline. -/
theorem steps_within_forty : (1 ≤ (3 : Tick).toInt ∧ (3 : Tick).toInt ≤ binCount) ∧
    (0 ≤ (40 : Int) ∧ (40 : Int) ≤ length) ∧ Within 40 3 32 40 48 := by
  have hbins : ∀ bin ∈ (Tensor.scalar (3 : Tick)).cells,
      1 ≤ bin.toInt ∧ bin.toInt ≤ binCount := by
    intro bin hbin
    obtain rfl := List.mem_singleton.mp hbin
    decide
  obtain ⟨_, first, mid, last, -, -, hfirst, hlast, hmid, hwithin⟩ :=
    steps_within (.scalar 3) 40 hbins (by decide)
  have hfirst : [first 3] = [32] := congrArg Tensor.cells (Except.ok.inj hfirst.symm)
  have hlast : [last 3] = [48] := congrArg Tensor.cells (Except.ok.inj hlast.symm)
  have hmid : [mid 3] = [midpoint (first 3) (last 3)] :=
    congrArg Tensor.cells (Option.some.inj (hmid.symm.trans (Tensor.map₂?_map _ _ _ _)))
  have hcell := hwithin 3 (List.mem_singleton.mpr rfl)
  rw [(List.cons.inj hmid).1, (List.cons.inj hfirst).1, (List.cons.inj hlast).1] at hcell
  exact ⟨by decide, by decide, hcell⟩

/-- The step of the coarsest bin ends behind the timeline, at every tick but the first. -/
theorem coarsest_step_leaves : (1 : Int) ≤ (56 : Tick).toInt ∧ (56 : Tick).toInt ≤ binCount ∧
    0 ≤ length ∧ ∃ last : Tick, stepEnds length (.scalar 56) = .ok (.scalar last) ∧
      ¬ last.toInt ≤ length ∧ ¬ Cosmology.Covers last := by
  refine ⟨by decide, by decide, by decide, 144115188075855872, by rfl, by decide, ?_⟩
  rw [Cosmology.covers_iff]
  decide

end Timeline

end MeshlessGas
