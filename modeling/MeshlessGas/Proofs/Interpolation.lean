/-
Interpolated tables over the reals — a growing table is continued to a growing function.

A table of values at increasing points is looked up by halving the range of indices, and
continued by a straight line inside the cell that is found.  Every point between the first and
the last one lies in exactly one cell, from its beginning up to and without its end, and there
the interpolated value lies between those at both ends.  Two points of one cell are compared
along its line; points of different cells are compared through a value of the table between
them.  Cumulative trapezoidal integrals are such tables: they grow where the integrand is
positive.
-/
import Mathlib.Algebra.BigOperators.Intervals
import Mathlib.Order.Interval.Set.Monotone
import MeshlessGas.Proofs.RealUnits
import MeshlessGas.Cosmology.Table

namespace MeshlessGas

/-! ## Trapezoidal sums -/

/-- The trapezoidal sum of values `g` over the first `n` cells of a grid `a`. -/
noncomputable def trapezoid (a g : ℕ → ℝ) (n : ℕ) : ℝ :=
  ∑ i ∈ Finset.range n, 0.5 * (g i + g (i + 1)) * (a (i + 1) - a i)

theorem trapezoid_zero (a g : ℕ → ℝ) : trapezoid a g 0 = 0 := Finset.sum_range_zero _

theorem trapezoid_succ' (a g : ℕ → ℝ) (n : ℕ) : trapezoid a g (n + 1)
    = 0.5 * (g 0 + g 1) * (a 1 - a 0) + trapezoid (fun i => a (i + 1)) (fun i => g (i + 1)) n := by
  rw [trapezoid, Finset.sum_range_succ', add_comm]
  rfl

theorem trapezoid_lt_succ {a g : ℕ → ℝ} {n : ℕ} (ha : a n < a (n + 1)) (hg : 0 < g n)
    (hg' : 0 < g (n + 1)) : trapezoid a g n < trapezoid a g (n + 1) := by
  have hcell : 0 < 0.5 * (g n + g (n + 1)) * (a (n + 1) - a n) :=
    mul_pos (mul_pos (by norm_num) (add_pos hg hg')) (sub_pos.mpr ha)
  rw [trapezoid, trapezoid, Finset.sum_range_succ]
  linarith

theorem length_cumulate (sum : ℝ) (samples : List (ℝ × ℝ)) :
    (cumulate sum samples).length = samples.length := by
  fun_induction cumulate sum samples with
  | case1 => rfl
  | case2 => rfl
  | case3 sum x₀ f₀ x₁ f₁ rest ih => simp only [List.length_cons, ih]

theorem getElem?_cumulate {samples : List (ℝ × ℝ)} (sum : ℝ) {a g : ℕ → ℝ}
    (h : ∀ i < samples.length, samples[i]? = some (a i, g i)) {i : ℕ} (hi : i < samples.length) :
    (cumulate sum samples)[i]? = some (sum + trapezoid a g i) := by
  fun_induction cumulate sum samples generalizing a g i with
  | case1 => exact absurd hi (Nat.not_lt_zero i)
  | case2 sum =>
    obtain rfl : i = 0 := by simpa using hi
    rw [trapezoid_zero, add_zero]
    rfl
  | case3 sum x₀ f₀ x₁ f₁ rest ih =>
    have hfirst : (x₀, f₀) = (a 0, g 0) := Option.some.inj (h 0 (by simp))
    have hsecond : (x₁, f₁) = (a 1, g 1) := Option.some.inj (h 1 (by simp))
    obtain ⟨rfl, rfl⟩ := Prod.mk.inj hfirst
    obtain ⟨rfl, rfl⟩ := Prod.mk.inj hsecond
    cases i with
    | zero =>
      rw [trapezoid_zero, add_zero]
      rfl
    | succ i =>
      rw [List.getElem?_cons_succ, trapezoid_succ',
        ih (a := fun i => a (i + 1)) (g := fun i => g (i + 1))
          (fun j hj => h (j + 1) (Nat.succ_lt_succ hj)) (Nat.lt_of_succ_lt_succ hi)]
      congr 1
      ring

namespace PointTable

/-! ## Tables of functions -/

/-- A table of the values `f` at the increasing points `x`, of which the last has the index
`n`. -/
structure Tabulates (t : PointTable ℝ) (n : ℕ) (x f : ℕ → ℝ) : Prop where
  size_points : t.points.size = n + 1
  size_values : t.values.size = n + 1
  point : ∀ i ≤ n, t.points[i]? = some (x i)
  value : ∀ i ≤ n, t.values[i]? = some (f i)
  increasing : StrictMonoOn x (Set.Iic n)

namespace Tabulates

variable {t : PointTable ℝ} {n : ℕ} {x f : ℕ → ℝ} {y z : ℝ}

/-- The search keeps a range of indices that a point lies between, and ends with one cell. -/
theorem locate_mem (ht : t.Tabulates n x f) (low high : ℕ) (hrange : low < high)
    (hhigh : high ≤ n + 1) (hle : x low ≤ y) (hlt : high ≤ n → y < x high) :
    x (locate t.points y low high) ≤ y ∧
      (locate t.points y low high < n → y < x (locate t.points y low high + 1)) ∧
      locate t.points y low high ≤ n := by
  fun_induction locate t.points y low high with
  | case1 low high hmore mid p hp hmid ih =>
    obtain rfl : x mid = p := Option.some.inj ((ht.point mid (by omega)).symm.trans hp)
    exact ih (by omega) hhigh hmid hlt
  | case2 low high hmore mid p hp hmid ih =>
    obtain rfl : x mid = p := Option.some.inj ((ht.point mid (by omega)).symm.trans hp)
    exact ih (by omega) (by omega) hle fun _ => not_le.mp hmid
  | case3 low high hmore mid hp =>
    rw [ht.point mid (by omega)] at hp
    cases hp
  | case4 low high hdone =>
    obtain rfl : high = low + 1 := by omega
    exact ⟨hle, fun h => hlt h, by omega⟩

theorem le_iff_le (ht : t.Tabulates n x f) {i j : ℕ} (hi : i ≤ n) (hj : j ≤ n) :
    x i ≤ x j ↔ i ≤ j :=
  ht.increasing.le_iff_le hi hj

theorem lt_succ (ht : t.Tabulates n x f) {i : ℕ} (hi : i < n) : x i < x (i + 1) :=
  ht.increasing hi.le (Nat.succ_le_of_lt hi) (Nat.lt_succ_self i)

theorem ends (ht : t.Tabulates n x f) : t.points[0]? = some (x 0) ∧
    t.points.back? = some (x n) ∧ t.values[0]? = some (f 0) ∧ t.values.back? = some (f n) := by
  have hlast : t.points.back? = some (x n) := by
    rw [Array.back?_eq_getElem?, ht.size_points]
    exact ht.point n le_rfl
  have hlastValue : t.values.back? = some (f n) := by
    rw [Array.back?_eq_getElem?, ht.size_values]
    exact ht.value n le_rfl
  exact ⟨ht.point 0 (Nat.zero_le n), hlast, ht.value 0 (Nat.zero_le n), hlastValue⟩

/-! ## Interpolated values -/

theorem eval_of_lt (ht : t.Tabulates n x f) (hy : y < x 0) : t.eval y = f 0 := by
  obtain ⟨hfirst, hlast, hatFirst, hatLast⟩ := ht.ends
  simp only [eval, hfirst, hlast, hatFirst, hatLast, le_refl, not_true_eq_false, if_false, hy,
    if_true]

theorem eval_of_ge (ht : t.Tabulates n x f) (hy : x n ≤ y) : t.eval y = f n := by
  obtain ⟨hfirst, hlast, hatFirst, hatLast⟩ := ht.ends
  have hends : x 0 ≤ x n := (ht.le_iff_le (Nat.zero_le n) le_rfl).mpr (Nat.zero_le n)
  have hnot : ¬ y < x 0 := not_lt.mpr (hends.trans hy)
  simp only [eval, hfirst, hlast, hatFirst, hatLast, le_refl, not_true_eq_false, if_false, hnot, hy,
    if_true]

/-- Inside the table a point has a cell, and its value lies on the line of the cell. -/
theorem exists_cell (ht : t.Tabulates n x f) (hlow : x 0 ≤ y) (hhigh : y < x n) :
    ∃ i < n, x i ≤ y ∧ y < x (i + 1) ∧
      t.eval y = f i + (f (i + 1) - f i) / (x (i + 1) - x i) * (y - x i) := by
  obtain ⟨hfirst, hlast, hatFirst, hatLast⟩ := ht.ends
  obtain ⟨hle, hlt, hbound⟩ := ht.locate_mem 0 (n + 1) (Nat.succ_pos n) le_rfl hlow
    fun h => absurd h (by omega)
  have hsize : t.points.size = n + 1 := ht.size_points
  rw [← hsize] at hle hlt hbound
  set i := locate t.points y 0 t.points.size with hi
  -- The last point has no cell, and is not reached here.
  have hin : i < n := by
    refine lt_of_le_of_ne hbound fun heq => ?_
    rw [heq] at hle
    exact absurd hhigh (not_lt.mpr hle)
  refine ⟨i, hin, hle, hlt hin, ?_⟩
  have hcell : t.eval y = if Arithmetic.agree (x i) y then f i
      else between (x i) (f i) (x (i + 1)) (f (i + 1)) y := by
    simp only [eval, hfirst, hlast, hatFirst, hatLast, le_refl, not_true_eq_false, if_false,
      not_lt.mpr hlow, not_le.mpr hhigh, ← hi, ht.point i hbound, ht.point (i + 1) hin,
      ht.value i hbound, ht.value (i + 1) hin]
  rw [hcell]
  split
  next hagree =>
    rw [Arithmetic.agree_iff] at hagree
    rw [hagree, sub_self, mul_zero, add_zero]
  next =>
    simp only [between, line, le_refl, if_true]
    exact add_comm _ _

theorem eval_of_le_first (ht : t.Tabulates n x f) (hy : y ≤ x 0) : t.eval y = f 0 := by
  obtain hlt | rfl := hy.lt_or_eq
  · exact ht.eval_of_lt hlt
  obtain rfl | hn := Nat.eq_zero_or_pos n
  · exact ht.eval_of_ge le_rfl
  · obtain ⟨i, hi, hle, -, heval⟩ :=
      ht.exists_cell le_rfl (ht.increasing (Nat.zero_le n) Set.self_mem_Iic hn)
    obtain rfl : i = 0 := Nat.le_zero.mp ((ht.le_iff_le hi.le (Nat.zero_le n)).mp hle)
    rw [heval, sub_self, mul_zero, add_zero]

section Growing

variable (hf : StrictMonoOn f (Set.Iic n))

include hf

theorem slope_pos (ht : t.Tabulates n x f) {i : ℕ} (hi : i < n) :
    0 < (f (i + 1) - f i) / (x (i + 1) - x i) :=
  div_pos (sub_pos.mpr (hf hi.le (Nat.succ_le_of_lt hi) (Nat.lt_succ_self i)))
    (sub_pos.mpr (ht.lt_succ hi))

theorem le_eval (ht : t.Tabulates n x f) {i : ℕ} (hi : i ≤ n) (hy : x i ≤ y) : f i ≤ t.eval y := by
  obtain hge | hlt := le_or_gt (x n) y
  · rw [ht.eval_of_ge hge]
    exact hf.monotoneOn hi Set.self_mem_Iic hi
  · have hlow : x 0 ≤ y := ((ht.le_iff_le (Nat.zero_le n) hi).mpr (Nat.zero_le i)).trans hy
    obtain ⟨j, hj, hle, hlt', heval⟩ := ht.exists_cell hlow hlt
    have hij : i ≤ j := Nat.le_of_lt_succ
      ((ht.increasing.lt_iff_lt hi (Nat.succ_le_of_lt hj)).mp (hy.trans_lt hlt'))
    have hbefore : f i ≤ f j := hf.monotoneOn hi hj.le hij
    have hrise := mul_nonneg (ht.slope_pos hf hj).le (sub_nonneg.mpr hle)
    rw [heval]
    linarith

theorem line_lt (ht : t.Tabulates n x f) {i : ℕ} (hi : i < n) (hy : y < x (i + 1)) :
    f i + (f (i + 1) - f i) / (x (i + 1) - x i) * (y - x i) < f (i + 1) := by
  have hslope := ht.slope_pos hf hi
  have hwidth : x (i + 1) - x i ≠ 0 := (sub_pos.mpr (ht.lt_succ hi)).ne'
  calc f i + (f (i + 1) - f i) / (x (i + 1) - x i) * (y - x i)
      < f i + (f (i + 1) - f i) / (x (i + 1) - x i) * (x (i + 1) - x i) := by gcongr
    _ = f (i + 1) := by
      rw [div_mul_cancel₀ _ hwidth]
      ring

theorem eval_lt_eval (ht : t.Tabulates n x f) (hlow : x 0 ≤ y) (hlt : y < z) (hhigh : z ≤ x n) :
    t.eval y < t.eval z := by
  obtain ⟨i, hi, hle, hend, heval⟩ := ht.exists_cell hlow (hlt.trans_le hhigh)
  obtain hnext | hsame := le_or_gt (x (i + 1)) z
  · calc t.eval y = f i + (f (i + 1) - f i) / (x (i + 1) - x i) * (y - x i) := heval
      _ < f (i + 1) := ht.line_lt hf hi hend
      _ ≤ t.eval z := ht.le_eval hf hi hnext
  · have hz : z < x n := hsame.trans_le ((ht.le_iff_le hi le_rfl).mpr hi)
    obtain ⟨j, hj, hle', hend', heval'⟩ := ht.exists_cell (hlow.trans hlt.le) hz
    -- Both points lie in the cell of the first.
    have hji : j < i + 1 := (ht.increasing.lt_iff_lt hj.le hi).mp (hle'.trans_lt hsame)
    have hij : i < j + 1 :=
      (ht.increasing.lt_iff_lt hi.le hj).mp ((hle.trans hlt.le).trans_lt hend')
    obtain rfl : j = i := by omega
    have hslope := ht.slope_pos hf hj
    rw [heval, heval']
    gcongr

end Growing

end Tabulates

end PointTable

end MeshlessGas
