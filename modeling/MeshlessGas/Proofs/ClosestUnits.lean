/-
Closest units — what the named unit of a stored size is.

Over the reals the bytes of a stored number make no difference, and a size in a named unit is a
quotient of two sizes.  Its distance from one, on a logarithmic scale, is the logarithm of the
number of times by which the two differ.  The closest unit is therefore the common one from
which the size differs by the fewest times, and a size that is one of a common unit has that
unit, since no two common units of a dimension have the same size.
-/
import MeshlessGas.Proofs.RealUnits

namespace MeshlessGas

theorem Arithmetic.abs_eq (x : ℝ) : Arithmetic.abs x = |x| := by
  rw [Arithmetic.abs, Exact.zero_eq]
  split
  next hneg => rw [abs_of_neg hneg]
  next hneg => rw [abs_of_nonneg (not_lt.mp hneg)]

theorem Narrowing.toBytes_real (bytes : Nat) (x : ℝ) : Narrowing.toBytes bytes x = x := by
  unfold Narrowing.toBytes
  split
  · rfl
  · split <;> rfl

/-! ## Times apart -/

namespace Exact

/-- By how many times a positive number is larger or smaller than one. -/
noncomputable def timesApart (x : ℝ) : ℝ := max x (1 / x)

theorem log_timesApart {x : ℝ} (hx : 0 < x) : Real.log (timesApart x) = |Real.log x| := by
  rw [timesApart, abs_eq_max_neg, ← Real.log_inv, one_div]
  exact Real.strictMonoOn_log.monotoneOn.map_max hx (inv_pos.mpr hx)

theorem timesApart_pos {x : ℝ} (hx : 0 < x) : 0 < timesApart x :=
  lt_max_of_lt_left hx

theorem timesApart_eq_one_iff {x : ℝ} (hx : 0 < x) : timesApart x = 1 ↔ x = 1 := by
  constructor
  · intro h
    have hle : x ≤ 1 := (le_max_left x (1 / x)).trans h.le
    have hge : 1 / x ≤ 1 := (le_max_right x (1 / x)).trans h.le
    exact le_antisymm hle ((div_le_one hx).mp hge)
  · rintro rfl
    norm_num [timesApart]

/-- Of two sizes, the smaller one is no more times apart from those that do not exceed their
geometric mean. -/
theorem timesApart_div_le_iff {size small large : ℝ} (hsize : 0 < size) (hsmall : 0 < small)
    (hlt : small < large) :
    timesApart (size / small) ≤ timesApart (size / large) ↔ size ^ 2 ≤ small * large := by
  have hlarge := hsmall.trans hlt
  have hmean : size / small ≤ large / size ↔ size ^ 2 ≤ small * large := by
    rw [div_le_div_iff₀ hsmall hsize, pow_two, mul_comm large]
  have habove : size / large < size / small := div_lt_div_of_pos_left hsize hsmall hlt
  have hbelow : small / size < large / size := div_lt_div_of_pos_right hlt hsize
  rw [← hmean, timesApart, timesApart, one_div_div, one_div_div, max_le_iff, le_max_iff, le_max_iff]
  constructor
  · rintro ⟨hle | hle, -⟩
    · exact absurd hle (not_le.mpr habove)
    · exact hle
  · intro hle
    exact ⟨.inr hle, .inr hbelow.le⟩

end Exact

/-! ## The closest unit of a size -/

namespace BaseUnit

variable {bytes : Nat} {size : ℝ} {d : BaseDimension} {u v : NamedUnit}

theorem sizeIn_named (u : NamedUnit) (d : BaseDimension) :
    (named u : BaseUnit ℝ).sizeIn d = u.size / d.cgsUnit.size := by
  rw [sizeIn, named, Exact.one_eq, one_mul]

theorem sizeIn_named_pos (u : NamedUnit) (d : BaseDimension) :
    0 < (named u : BaseUnit ℝ).sizeIn d := by
  rw [sizeIn_named]
  exact div_pos u.size_pos d.cgsUnit.size_pos

theorem sizeIn_cgsUnit (d : BaseDimension) : (named d.cgsUnit : BaseUnit ℝ).sizeIn d = 1 := by
  rw [sizeIn_named, div_self d.cgsUnit.size_pos.ne']

theorem sizeIn_eq (b : BaseUnit ℝ) (d : BaseDimension) :
    b.sizeIn d = b.multiple * (named b.unit).sizeIn d := by
  rw [sizeIn_named, sizeIn, mul_div_assoc]

theorem express_eq_div (bytes : Nat) (size : ℝ) (d : BaseDimension) (u : NamedUnit) :
    express bytes size d u = size / (named u).sizeIn d := by
  simp only [express, Narrowing.toBytes_real, sizeIn_named]
  rw [div_div_eq_mul_div, mul_div_assoc]

theorem distance_eq_log (hsize : 0 < size) :
    distance bytes size d u = Real.log (Exact.timesApart (size / (named u).sizeIn d)) := by
  rw [Exact.log_timesApart (div_pos hsize (sizeIn_named_pos u d)), ← express_eq_div bytes]
  exact Arithmetic.abs_eq _

theorem distance_nonneg : 0 ≤ distance bytes size d u := by
  show 0 ≤ Arithmetic.abs _
  rw [Arithmetic.abs_eq]
  exact abs_nonneg _

theorem distance_le_iff (hsize : 0 < size) :
    distance bytes size d u ≤ distance bytes size d v ↔
      Exact.timesApart (size / (named u).sizeIn d)
        ≤ Exact.timesApart (size / (named v).sizeIn d) := by
  rw [distance_eq_log hsize, distance_eq_log hsize]
  exact Real.log_le_log_iff (Exact.timesApart_pos (div_pos hsize (sizeIn_named_pos u d)))
    (Exact.timesApart_pos (div_pos hsize (sizeIn_named_pos v d)))

theorem closest_mem {D S : Type} [Transcendental D] [Narrowing D S] (bytes : Nat) (value : D)
    (d : BaseDimension) (others : List NamedUnit) (u : NamedUnit) :
    closest bytes value d u others ∈ u :: others := by
  induction others generalizing u with
  | nil => exact List.mem_singleton.mpr rfl
  | cons v others ih =>
    rw [closest]
    rcases List.mem_cons.mp
        (ih (if distance bytes value d v < distance bytes value d u then v else u))
      with hfirst | hrest
    · rw [hfirst]
      split <;> simp
    · exact List.mem_cons_of_mem _ (List.mem_cons_of_mem _ hrest)

theorem distance_closest_le (bytes : Nat) (size : ℝ) (d : BaseDimension)
    (others : List NamedUnit) (u : NamedUnit) :
    ∀ v ∈ u :: others,
      distance bytes size d (closest bytes size d u others) ≤ distance bytes size d v := by
  induction others generalizing u with
  | nil => simp [closest]
  | cons v others ih =>
    rw [closest]
    obtain ⟨hfirst, hrest⟩ := List.forall_mem_cons.mp
      (ih (if distance bytes size d v < distance bytes size d u then v else u))
    refine List.forall_mem_cons.mpr ⟨?_, List.forall_mem_cons.mpr ⟨?_, hrest⟩⟩
    · refine hfirst.trans ?_
      split
      next hnearer => exact hnearer.le
      next => exact le_rfl
    · refine hfirst.trans ?_
      split
      next => exact le_rfl
      next hfarther => exact not_lt.mp hfarther

theorem closest_eq_first {others : List NamedUnit}
    (h : ∀ v ∈ others, distance bytes size d u ≤ distance bytes size d v) :
    closest bytes size d u others = u := by
  induction others with
  | nil => rfl
  | cons v others ih =>
    obtain ⟨hfirst, hrest⟩ := List.forall_mem_cons.mp h
    rw [closest, if_neg (not_lt.mpr hfirst), ih hrest]

theorem cgsUnit_mem (d : BaseDimension) : d.cgsUnit ∈ d.commonUnits := by
  cases d <;> decide

theorem closestCommon_mem {D S : Type} [Transcendental D] [Narrowing D S] (bytes : Nat) (value : D)
    (d : BaseDimension) : closestCommon bytes value d ∈ d.commonUnits := by
  rcases List.mem_cons.mp (closest_mem bytes value d d.commonUnits d.cgsUnit) with hfirst | hrest
  · rw [closestCommon, hfirst]
    exact cgsUnit_mem d
  · exact hrest

/-- The only common unit of a dimension is the closest one, whatever its logarithm. -/
theorem closestCommon_of_commonUnits {D S : Type} [Transcendental D] [Narrowing D S] (bytes : Nat)
    (value : D) {d : BaseDimension} (h : d.commonUnits = [d.cgsUnit]) :
    closestCommon bytes value d = d.cgsUnit := by
  rw [closestCommon, h]
  exact ite_self _

theorem timesApart_closestCommon_le (bytes : Nat) (hsize : 0 < size) (hv : v ∈ d.commonUnits) :
    Exact.timesApart (size / (named (closestCommon bytes size d)).sizeIn d)
      ≤ Exact.timesApart (size / (named v).sizeIn d) :=
  (distance_le_iff hsize).mp
    (distance_closest_le bytes size d d.commonUnits d.cgsUnit v (List.mem_cons_of_mem _ hv))

theorem sizes_increase (d : BaseDimension) :
    d.commonUnits.Pairwise fun u v =>
      (named u : BaseUnit ℝ).sizeIn d < (named v : BaseUnit ℝ).sizeIn d := by
  simp only [sizeIn_named]
  cases d <;> norm_num [BaseDimension.commonUnits, BaseDimension.cgsUnit, NamedUnit.size]

theorem eq_of_sizeIn_eq (hu : u ∈ d.commonUnits) (hv : v ∈ d.commonUnits)
    (h : (named u : BaseUnit ℝ).sizeIn d = (named v : BaseUnit ℝ).sizeIn d) : u = v := by
  have hdistinct : (d.commonUnits.map fun u => (named u : BaseUnit ℝ).sizeIn d).Nodup :=
    List.pairwise_map.mpr ((sizes_increase d).imp fun hlt => hlt.ne)
  exact List.inj_on_of_nodup_map hdistinct hu hv h

theorem closestCommon_of_sizeIn_eq (bytes : Nat) (hu : u ∈ d.commonUnits)
    (h : size = (named u).sizeIn d) : closestCommon bytes size d = u := by
  have hsize : 0 < size := h ▸ sizeIn_named_pos u d
  have hcloser := timesApart_closestCommon_le bytes hsize hu
  set w := closestCommon bytes size d with hw
  have hquotient : 0 < size / (named w).sizeIn d := div_pos hsize (sizeIn_named_pos w d)
  have hone : Exact.timesApart (size / (named u).sizeIn d) = 1 := by
    rw [Exact.timesApart_eq_one_iff (div_pos hsize (sizeIn_named_pos u d)), h,
      div_self (sizeIn_named_pos u d).ne']
  have hleast : Exact.timesApart (size / (named w).sizeIn d) = 1 := by
    refine le_antisymm (hone ▸ hcloser) ?_
    rcases le_total 1 (size / (named w).sizeIn d) with hle | hle
    · exact hle.trans (le_max_left _ _)
    · exact ((one_le_div hquotient).mpr hle).trans (le_max_right _ _)
  rw [Exact.timesApart_eq_one_iff hquotient, div_eq_one_iff_eq (sizeIn_named_pos w d).ne'] at hleast
  exact eq_of_sizeIn_eq (closestCommon_mem bytes size d) hu (hleast.symm.trans h)

/-- A common unit from which a size differs by fewer times than from any other one is the
closest. -/
theorem closestCommon_eq_of_lt (bytes : Nat) (hsize : 0 < size) (hu : u ∈ d.commonUnits)
    (h : ∀ v ∈ d.commonUnits, v ≠ u →
      Exact.timesApart (size / (named u).sizeIn d)
        < Exact.timesApart (size / (named v).sizeIn d)) : closestCommon bytes size d = u := by
  by_contra hne
  exact (timesApart_closestCommon_le bytes hsize hu).not_gt
    (h _ (closestCommon_mem bytes size d) hne)

/-! ## Multiples of the closest unit -/

theorem closestMultiple_eq_div (size : ℝ) (d : BaseDimension) :
    closestMultiple size d
      = size / (named (closestCommon UnitSystem.storedBytes size d)).sizeIn d :=
  express_eq_div UnitSystem.storedBytes size d _

theorem closestMultiple_of_sizeIn_eq (hu : u ∈ d.commonUnits) (h : size = (named u).sizeIn d) :
    closestMultiple size d = 1 := by
  rw [closestMultiple_eq_div, closestCommon_of_sizeIn_eq _ hu h, h,
    div_self (sizeIn_named_pos u d).ne']

/-! ## The base unit of a stored size -/

theorem unit_ofStored (bytes : Nat) (size : ℝ) (d : BaseDimension) :
    (ofStored bytes size d).unit = closestCommon bytes size d := rfl

theorem multiple_ofStored (bytes : Nat) (size : ℝ) (d : BaseDimension) :
    (ofStored bytes size d).multiple = Exact.roundDigits keptDigits
      (size / (named (closestCommon bytes size d)).sizeIn d) := by
  rw [← express_eq_div bytes]
  rfl

theorem ofStored_of_sizeIn_eq (bytes : Nat) (hu : u ∈ d.commonUnits)
    (h : size = (named u).sizeIn d) : ofStored bytes size d = named u := by
  have hclosest := closestCommon_of_sizeIn_eq bytes hu h
  have hdigits : Exact.HasDigits keptDigits 1 :=
    ⟨1, 0, by norm_num [keptDigits], by norm_num⟩
  have hmultiple : (ofStored bytes size d).multiple = 1.0 := by
    rw [multiple_ofStored, hclosest, h, div_self (sizeIn_named_pos u d).ne', hdigits.roundDigits_eq,
      Exact.one_eq]
  exact congrArg₂ BaseUnit.mk hmultiple hclosest

theorem abs_sizeIn_ofStored_sub_le (bytes : Nat) (hsize : 0 < size) (d : BaseDimension) :
    |(ofStored bytes size d).sizeIn d - size| ≤ 5 / 100000 * size := by
  have hunit := sizeIn_named_pos (closestCommon bytes size d) d
  have hround := abs_roundDigits_keptDigits_sub_le (div_pos hsize hunit)
  rw [sizeIn_eq, multiple_ofStored, unit_ofStored]
  set unit := (named (closestCommon bytes size d) : BaseUnit ℝ).sizeIn d
  have hsplit : Exact.roundDigits keptDigits (size / unit) * unit - size
      = (Exact.roundDigits keptDigits (size / unit) - size / unit) * unit := by
    rw [sub_mul, div_mul_cancel₀ size hunit.ne']
  rw [hsplit, abs_mul, abs_of_pos hunit]
  calc _ ≤ 5 / 100000 * (size / unit) * unit := mul_le_mul_of_nonneg_right hround hunit.le
    _ = 5 / 100000 * size := by rw [mul_assoc, div_mul_cancel₀ size hunit.ne']

/-- A positive size is recovered to five digits, in the common unit from which it differs by the
fewest times; and the size of a common unit as that unit. -/
theorem ofStored_recovers (bytes : Nat) (d : BaseDimension) (hsize : 0 < size) :
    |(ofStored bytes size d).sizeIn d - size| ≤ 5 / 100000 * size ∧
      (ofStored bytes size d).multiple = Exact.roundDigits keptDigits
        (size / (named (ofStored bytes size d).unit).sizeIn d) ∧
      (ofStored bytes size d).unit ∈ d.commonUnits ∧
      (∀ v ∈ d.commonUnits,
        Exact.timesApart (size / (named (ofStored bytes size d).unit).sizeIn d)
          ≤ Exact.timesApart (size / (named v).sizeIn d)) ∧
      ∀ u ∈ d.commonUnits, size = (named u).sizeIn d → ofStored bytes size d = named u :=
  ⟨abs_sizeIn_ofStored_sub_le bytes hsize d, multiple_ofStored bytes size d,
    closestCommon_mem bytes size d, fun _ => timesApart_closestCommon_le bytes hsize,
    fun _ => ofStored_of_sizeIn_eq bytes⟩

/-- The size of a megaparsec is read as a megaparsec. -/
theorem ofStored_recovers_megaparsec :
    (0 : ℝ) < 3.085677580962325e24 ∧
      ofStored 8 (3.085677580962325e24 : ℝ) .length = named .megaparsec := by
  have hpos : (0 : ℝ) < 3.085677580962325e24 := by norm_num
  obtain ⟨-, -, -, -, hnamed⟩ := ofStored_recovers 8 .length hpos
  refine ⟨hpos, hnamed .megaparsec (by decide) ?_⟩
  rw [sizeIn_named]
  norm_num [BaseDimension.cgsUnit, NamedUnit.size]

end BaseUnit

end MeshlessGas
