/-
Neighbouring numbers — what is rounded to which side of a threshold.

The numbers that are written with all of some places are the multiples of their last place, so
between two neighbours there is no other one.  What is rounded to a number up to a threshold is
therefore decided by the two neighbours around the threshold: it is all that lies below the
middle between them, and the middle itself if the lower one is even.

Rounding twice is rounding once.  This fails where small numbers are rounded in one unit and large
ones in another, and then only for the numbers that rounding leads across the threshold.
-/
import MeshlessGas.Proofs.Reals

namespace MeshlessGas

namespace Exact

variable {base count : ℕ} {n k : ℤ} {x y : ℝ}

/-- A number lies at or above one that has all its places, with the last one at some exponent, and
below the next one. -/
structure Follows (base count : ℕ) (n k : ℤ) (x : ℝ) : Prop where
  filled : (base : ℤ) ^ (count - 1) ≤ n
  hasNext : n + 1 < (base : ℤ) ^ count
  lower : n * (base : ℝ) ^ k ≤ x
  upper : x < (n + 1) * (base : ℝ) ^ k

/-- A number is nearer to the lower one of two neighbours, or as near to both while the lower one
is even. -/
def RoundsDown (base : ℕ) (n k : ℤ) (x : ℝ) : Prop :=
  x - n * (base : ℝ) ^ k < (n + 1) * (base : ℝ) ^ k - x ∨
    x - n * (base : ℝ) ^ k = (n + 1) * (base : ℝ) ^ k - x ∧ Even n

theorem roundsDown_iff : RoundsDown base n k x ↔
    2 * x < (2 * n + 1) * (base : ℝ) ^ k ∨ 2 * x = (2 * n + 1) * (base : ℝ) ^ k ∧ Even n := by
  refine or_congr ?_ (and_congr_left' ?_)
  · constructor <;> intro h <;> linarith
  · constructor <;> intro h <;> linarith

variable (hbase : 1 < base) (hcount : 1 ≤ count)

include hbase

/-! ## Rounding in order -/

theorem log_eq_of_le_of_lt (hlow : (base : ℝ) ^ k ≤ x) (hhigh : x < (base : ℝ) ^ (k + 1)) :
    Int.log base x = k := by
  have hx : 0 < x := (zpow_pos (base_pos hbase) k).trans_le hlow
  have hbelow := (Int.lt_zpow_iff_log_lt hbase hx).mp hhigh
  have habove := (Int.zpow_le_iff_le_log hbase hx).mp hlow
  omega

theorem log_mul_zpow (hx : 0 < x) (k : ℤ) :
    Int.log base (x * (base : ℝ) ^ k) = Int.log base x + k := by
  have hpos := base_pos hbase
  have hpower : (0 : ℝ) < (base : ℝ) ^ k := zpow_pos hpos k
  have hlow : (base : ℝ) ^ Int.log base x ≤ x := Int.zpow_log_le_self hbase hx
  have hhigh : x < (base : ℝ) ^ (Int.log base x + 1) := Int.lt_zpow_succ_log_self hbase x
  refine log_eq_of_le_of_lt hbase ?_ ?_
  · rw [zpow_add₀ hpos.ne']
    exact mul_le_mul_of_nonneg_right hlow hpower.le
  · rw [add_right_comm, zpow_add₀ hpos.ne']
    exact mul_lt_mul_of_pos_right hhigh hpower

theorem roundPlaces_mul_zpow (hx : 0 < x) (k : ℤ) :
    roundPlaces base count (x * (base : ℝ) ^ k) = roundPlaces base count x * (base : ℝ) ^ k := by
  have hpos := base_pos hbase
  have hpower : (0 : ℝ) < (base : ℝ) ^ k := zpow_pos hpos k
  have hunit : lastUnit base count (x * (base : ℝ) ^ k)
      = lastUnit base count x * (base : ℝ) ^ k := by
    rw [lastUnit, lastUnit, abs_of_pos (mul_pos hx hpower), abs_of_pos hx, log_mul_zpow hbase hx,
      ← zpow_add₀ hpos.ne']
    congr 1
    ring
  rw [roundPlaces, roundPlaces, hunit, mul_div_mul_right _ _ hpower.ne', mul_assoc]

namespace Follows

theorem pos (h : Follows base count n k x) : 0 < x := by
  have hone : (1 : ℤ) ≤ (base : ℤ) ^ (count - 1) := one_le_pow₀ (by omega)
  have hn : (0 : ℝ) < n := by exact_mod_cast zero_lt_one.trans_le (hone.trans h.filled)
  exact (mul_pos hn (zpow_pos (base_pos hbase) k)).trans_le h.lower

theorem hasPlaces_lower (h : Follows base count n k x) :
    HasPlaces base count (n * (base : ℝ) ^ k) := by
  have hone : (1 : ℤ) ≤ (base : ℤ) ^ (count - 1) := one_le_pow₀ (by omega)
  have hn := h.filled
  have hnext := h.hasNext
  exact ⟨n, k, by rw [abs_of_nonneg (by omega)]; omega, rfl⟩

theorem hasPlaces_upper (h : Follows base count n k x) :
    HasPlaces base count ((n + 1) * (base : ℝ) ^ k) := by
  have hone : (1 : ℤ) ≤ (base : ℤ) ^ (count - 1) := one_le_pow₀ (by omega)
  have hn := h.filled
  have hnext := h.hasNext
  exact ⟨n + 1, k, by rw [abs_of_nonneg (by omega)]; omega, by push_cast; rfl⟩

end Follows

include hcount

theorem roundPlaces_le_of_hasPlaces (hy : HasPlaces base count y) (hle : x ≤ y) :
    roundPlaces base count x ≤ y := by
  have hnearest := abs_roundPlaces_sub_le_of_hasPlaces hbase hcount (x := x) hy
  rw [abs_of_nonneg (sub_nonneg.mpr hle)] at hnearest
  linarith [le_abs_self (roundPlaces base count x - x)]

theorem le_roundPlaces_of_hasPlaces (hy : HasPlaces base count y) (hle : y ≤ x) :
    y ≤ roundPlaces base count x := by
  have hnearest := abs_roundPlaces_sub_le_of_hasPlaces hbase hcount (x := x) hy
  rw [abs_of_nonpos (sub_nonpos.mpr hle)] at hnearest
  linarith [neg_abs_le (roundPlaces base count x - x)]

/-! ## Between two neighbours -/

namespace Follows

theorem lastUnit_eq (h : Follows base count n k x) :
    lastUnit base count x = (base : ℝ) ^ k := by
  have hpos := base_pos hbase
  have hpower : (0 : ℝ) < (base : ℝ) ^ k := zpow_pos hpos k
  have hfilled : ((base : ℝ) ^ (count - 1)) ≤ n := by exact_mod_cast h.filled
  have hnext : ((n : ℝ) + 1) ≤ (base : ℝ) ^ count := by exact_mod_cast h.hasNext.le
  have hscale : ∀ m : ℕ, (base : ℝ) ^ m * (base : ℝ) ^ k = (base : ℝ) ^ ((m : ℤ) + k) := by
    intro m
    rw [zpow_add₀ hpos.ne', zpow_natCast]
  have hlog : Int.log base x = ((count - 1 : ℕ) : ℤ) + k := by
    refine log_eq_of_le_of_lt hbase ?_ ?_
    · rw [← hscale]
      exact (mul_le_mul_of_nonneg_right hfilled hpower.le).trans h.lower
    · have hexponent : ((count - 1 : ℕ) : ℤ) + k + 1 = (count : ℤ) + k := by omega
      rw [hexponent, ← hscale]
      exact h.upper.trans_le (mul_le_mul_of_nonneg_right hnext hpower.le)
  rw [lastUnit, abs_of_pos (h.pos hbase), hlog]
  congr 1
  omega

theorem eq_of_hasPlaces (h : Follows base count n k x) (hx : HasPlaces base count x) :
    x = n * (base : ℝ) ^ k := by
  have hpower : (0 : ℝ) < (base : ℝ) ^ k := zpow_pos (base_pos hbase) k
  have hfirst : (base : ℝ) ^ Int.log base |x| ≤ |x| :=
    Int.zpow_log_le_self hbase (abs_pos.mpr (h.pos hbase).ne')
  obtain ⟨m, hm⟩ := hx.exists_multiple hbase hfirst
  rw [h.lastUnit_eq hbase hcount] at hm
  have hlow := h.lower
  have hhigh := h.upper
  rw [hm] at hlow hhigh
  have hlow : (n : ℝ) ≤ m := le_of_mul_le_mul_right hlow hpower
  have hhigh : (m : ℝ) < n + 1 := lt_of_mul_lt_mul_right hhigh hpower.le
  have hlow : n ≤ m := by exact_mod_cast hlow
  have hhigh : m < n + 1 := by exact_mod_cast hhigh
  rw [hm, show m = n by omega]

theorem not_hasPlaces (h : Follows base count n k x) (hne : n * (base : ℝ) ^ k < x) :
    ¬ HasPlaces base count x :=
  fun hx => hne.ne' (h.eq_of_hasPlaces hbase hcount hx)

theorem roundPlaces_eq (h : Follows base count n k x) :
    (RoundsDown base n k x → roundPlaces base count x = n * (base : ℝ) ^ k) ∧
      (¬ RoundsDown base n k x → roundPlaces base count x = (n + 1) * (base : ℝ) ^ k) := by
  have hpower : (0 : ℝ) < (base : ℝ) ^ k := zpow_pos (base_pos hbase) k
  have hx : x = x / (base : ℝ) ^ k * (base : ℝ) ^ k := (div_mul_cancel₀ x hpower.ne').symm
  have hfloor : ⌊x / (base : ℝ) ^ k⌋ = n :=
    Int.floor_eq_iff.mpr ⟨(le_div_iff₀ hpower).mpr h.lower, (div_lt_iff₀ hpower).mpr h.upper⟩
  have hmiddle : RoundsDown base n k x ↔
      2 * (x / (base : ℝ) ^ k) < 2 * n + 1 ∨ 2 * (x / (base : ℝ) ^ k) = 2 * n + 1 ∧ Even n := by
    rw [roundsDown_iff, hx, ← mul_assoc, mul_lt_mul_iff_left₀ hpower,
      mul_left_inj' hpower.ne', mul_div_cancel_right₀ _ hpower.ne']
  rw [hmiddle, roundPlaces, h.lastUnit_eq hbase hcount, roundEven, Int.fract, hfloor]
  generalize x / (base : ℝ) ^ k = q
  constructor
  · rintro (hless | ⟨htie, heven⟩)
    · rw [if_pos (by linarith)]
    · rw [if_neg (by linarith), if_neg (by linarith), Int.even_iff.mp heven, add_zero]
  · intro hnot
    obtain ⟨hnotless, hnottie⟩ := not_or.mp hnot
    rcases (not_lt.mp hnotless).lt_or_eq with hmore | htie
    · rw [if_neg (by linarith), if_pos (by linarith)]
      push_cast
      rfl
    · have hodd : n % 2 = 1 :=
        Int.not_even_iff.mp fun heven => hnottie ⟨htie.symm, heven⟩
      rw [if_neg (by linarith), if_neg (by linarith), hodd]
      push_cast
      rfl

/-! ## A threshold between two neighbours -/

variable {threshold : ℝ}

/-- What is rounded to a number up to a threshold is what is rounded down between its
neighbours. -/
theorem roundPlaces_le_iff (h : Follows base count n k threshold) (x : ℝ) :
    roundPlaces base count x ≤ threshold ↔ RoundsDown base n k x := by
  have hpower : (0 : ℝ) < (base : ℝ) ^ k := zpow_pos (base_pos hbase) k
  rcases lt_or_ge x (n * (base : ℝ) ^ k) with hbelow | hlow
  · have hround := roundPlaces_le_of_hasPlaces hbase hcount (h.hasPlaces_lower hbase)
      hbelow.le
    exact iff_of_true (hround.trans h.lower) (.inl (by linarith))
  rcases lt_or_ge x ((n + 1) * (base : ℝ) ^ k) with hhigh | habove
  · obtain ⟨hdown, hup⟩ :=
      roundPlaces_eq hbase hcount ⟨h.filled, h.hasNext, hlow, hhigh⟩
    by_cases hrounds : RoundsDown base n k x
    · exact iff_of_true (hdown hrounds ▸ h.lower) hrounds
    · exact iff_of_false (not_le.mpr (hup hrounds ▸ h.upper)) hrounds
  · have hround := le_roundPlaces_of_hasPlaces hbase hcount (h.hasPlaces_upper hbase) habove
    refine iff_of_false (not_le.mpr (h.upper.trans_le hround)) ?_
    rintro (hless | ⟨htie, -⟩) <;> linarith

theorem roundPlaces_eq_lower (h : Follows base count n k threshold) (habove : threshold ≤ x)
    (hround : roundPlaces base count x ≤ threshold) :
    roundPlaces base count x = n * (base : ℝ) ^ k := by
  have hlow := le_roundPlaces_of_hasPlaces hbase hcount (h.hasPlaces_lower hbase)
    (h.lower.trans habove)
  exact eq_of_hasPlaces hbase hcount
    ⟨h.filled, h.hasNext, hlow, hround.trans_lt h.upper⟩ (hasPlaces_roundPlaces hbase hcount x)

theorem roundPlaces_eq_upper (h : Follows base count n k threshold) (hbelow : x ≤ threshold)
    (hround : threshold < roundPlaces base count x) :
    roundPlaces base count x = (n + 1) * (base : ℝ) ^ k := by
  have hhigh := roundPlaces_le_of_hasPlaces hbase hcount (h.hasPlaces_upper hbase)
    (hbelow.trans h.upper.le)
  refine hhigh.lt_or_eq.resolve_left fun hlt => ?_
  have hlower := eq_of_hasPlaces hbase hcount
    ⟨h.filled, h.hasNext, h.lower.trans hround.le, hlt⟩ (hasPlaces_roundPlaces hbase hcount x)
  linarith [h.lower]

end Follows

omit hbase hcount

/-! ## Rounding in one of two units -/

variable {m j : ℤ} {large : ℝ}

/-- A number rounded in the unit in which it is given, or in a larger one where it lies above the
geometric mean of the two. -/
noncomputable def roundInEither (base count : ℕ) (large x : ℝ) : ℝ :=
  if x ≤ √large then roundPlaces base count x else roundPlaces base count (x / large) * large

/-- A number up to the mean is rounded to one above it, between whose neighbours the mean lies. -/
def CrossesUp (base : ℕ) (n k : ℤ) (large x : ℝ) : Prop :=
  x ≤ √large ∧ ¬ RoundsDown base n k x

/-- A number above the mean is rounded, in the larger unit, to one up to it. -/
def CrossesDown (base : ℕ) (m j : ℤ) (large x : ℝ) : Prop :=
  √large < x ∧ RoundsDown base m j (x / large)

/-- Two units whose mean follows a number in either of them.  Next to the mean, what has its places
in one unit does not have them in the other. -/
structure Apart (base count : ℕ) (n k m j : ℤ) (large : ℝ) : Prop where
  large_pos : 0 < large
  inSmall : Follows base count n k (√large)
  inLarge : Follows base count m j (√(large⁻¹))
  above : ¬ HasPlaces base count ((n + 1) * (base : ℝ) ^ k / large)
  below : ¬ HasPlaces base count (m * (base : ℝ) ^ j * large)

theorem sqrt_inv_mul (large : ℝ) : √(large⁻¹) * large = √large := by
  rw [Real.sqrt_inv, inv_mul_eq_div, Real.div_sqrt]

theorem Follows.sqrt (hfilled : (base : ℤ) ^ (count - 1) ≤ n)
    (hnext : n + 1 < (base : ℤ) ^ count) (hlow : (n * (base : ℝ) ^ k) ^ 2 ≤ x)
    (hhigh : x < ((n + 1) * (base : ℝ) ^ k) ^ 2) : Follows base count n k (√x) where
  filled := hfilled
  hasNext := hnext
  lower := Real.le_sqrt_of_sq_le hlow
  upper := by
    have hn : (0 : ℤ) ≤ n := (pow_nonneg (Int.natCast_nonneg base) _).trans hfilled
    have hn : (0 : ℝ) ≤ n := by exact_mod_cast hn
    have hpower : (0 : ℝ) ≤ (base : ℝ) ^ k := zpow_nonneg (Nat.cast_nonneg base) k
    have hx : 0 ≤ x := (sq_nonneg _).trans hlow
    have hnonneg : 0 ≤ (n + 1) * (base : ℝ) ^ k := mul_nonneg (by linarith) hpower
    exact (Real.sqrt_lt_sqrt hx hhigh).trans_eq (Real.sqrt_sq hnonneg)

theorem RoundsDown.iff_of_even (hn : Even n) :
    RoundsDown base n k x ↔ 2 * x ≤ (2 * n + 1) * (base : ℝ) ^ k := by
  rw [roundsDown_iff, and_iff_left hn, le_iff_lt_or_eq]

theorem RoundsDown.iff_of_odd (hn : ¬ Even n) :
    RoundsDown base n k x ↔ 2 * x < (2 * n + 1) * (base : ℝ) ^ k := by
  rw [roundsDown_iff, or_iff_left fun h => hn h.2]

namespace Apart

variable (h : Apart base count n k m j large)

include h

theorem le_sqrt_iff (y : ℝ) : y * large ≤ √large ↔ y ≤ √(large⁻¹) := by
  rw [← sqrt_inv_mul large, mul_le_mul_iff_left₀ h.large_pos]

include hbase hcount

theorem roundInEither_of_crossesUp (hx : CrossesUp base n k large x) :
    roundInEither base count large x = (n + 1) * (base : ℝ) ^ k := by
  obtain ⟨hle, hup⟩ := hx
  rw [roundInEither, if_pos hle]
  refine h.inSmall.roundPlaces_eq_upper hbase hcount hle (not_le.mp fun hround => hup ?_)
  exact (h.inSmall.roundPlaces_le_iff hbase hcount x).mp hround

theorem roundInEither_of_crossesDown (hx : CrossesDown base m j large x) :
    roundInEither base count large x = m * (base : ℝ) ^ j * large := by
  obtain ⟨hlt, hdown⟩ := hx
  have habove : √(large⁻¹) ≤ x / large := by
    rw [le_div_iff₀ h.large_pos, sqrt_inv_mul]
    exact hlt.le
  rw [roundInEither, if_neg (not_le.mpr hlt),
    h.inLarge.roundPlaces_eq_lower hbase hcount habove
      ((h.inLarge.roundPlaces_le_iff hbase hcount _).mpr hdown)]

/-- Rounding once more changes the numbers that came to lie on the other side of the mean, and no
other ones. -/
theorem roundInEither_twice_iff :
    roundInEither base count large (roundInEither base count large x)
        = roundInEither base count large x
      ↔ ¬ CrossesUp base n k large x ∧ ¬ CrossesDown base m j large x := by
  have hidempotent : ∀ y, roundPlaces base count (roundPlaces base count y)
      = roundPlaces base count y :=
    fun y => (hasPlaces_roundPlaces hbase hcount y).roundPlaces_eq hbase
  have hlarge := h.large_pos
  rcases le_or_gt x (√large) with hle | hlt
  · have hdown : ¬ CrossesDown base m j large x := fun hx => hle.not_gt hx.1
    by_cases hup : CrossesUp base n k large x
    · refine iff_of_false ?_ fun hx => hx.1 hup
      have hmean : √large < (n + 1) * (base : ℝ) ^ k := h.inSmall.upper
      rw [h.roundInEither_of_crossesUp hbase hcount hup, roundInEither, if_neg (not_le.mpr hmean)]
      intro heq
      exact h.above ((roundPlaces_eq_iff hbase hcount).mp ((eq_div_iff hlarge.ne').mpr heq))
    · refine iff_of_true ?_ ⟨hup, hdown⟩
      have hrounds : RoundsDown base n k x := not_not.mp fun hnot => hup ⟨hle, hnot⟩
      have hround := (h.inSmall.roundPlaces_le_iff hbase hcount x).mpr hrounds
      have honce : roundInEither base count large x = roundPlaces base count x := if_pos hle
      rw [honce, roundInEither, if_pos hround, hidempotent]
  · have hup : ¬ CrossesUp base n k large x := fun hx => hx.1.not_gt hlt
    by_cases hdown : CrossesDown base m j large x
    · refine iff_of_false ?_ fun hx => hx.2 hdown
      have hmean : m * (base : ℝ) ^ j * large ≤ √large := (h.le_sqrt_iff _).mpr h.inLarge.lower
      rw [h.roundInEither_of_crossesDown hbase hcount hdown, roundInEither, if_pos hmean]
      exact fun heq => h.below ((roundPlaces_eq_iff hbase hcount).mp heq)
    · refine iff_of_true ?_ ⟨hup, hdown⟩
      have hround : ¬ roundPlaces base count (x / large) * large ≤ √large := by
        rw [h.le_sqrt_iff, h.inLarge.roundPlaces_le_iff hbase hcount]
        exact fun hrounds => hdown ⟨hlt, hrounds⟩
      have honce : roundInEither base count large x
          = roundPlaces base count (x / large) * large := if_neg (not_le.mpr hlt)
      rw [honce, roundInEither, if_neg hround, mul_div_cancel_right₀ _ hlarge.ne', hidempotent]

end Apart

end Exact

end MeshlessGas
