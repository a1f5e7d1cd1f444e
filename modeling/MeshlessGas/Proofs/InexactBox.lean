/-
Wrapping with rounding errors — no rounding moves a coordinate out of the box.

The number system here is that of the rationals with an arbitrary function applied to the result
of every quotient, product, sum and difference.  All that is asked of it is a relative error of
a double at most: it need not be monotone, and need not keep any number.  The quotient by the
box length may then fall on the wrong side of an integer, so that what is left of a coordinate
lies up to half a box beside it.  Lifting negative remainders first and lowering what reaches the
box length second takes all of that back: the first leaves nothing negative, and the second
subtracts only where the difference is at most half a box.
-/
import Mathlib.Data.List.Forall2
import Mathlib.Data.Rat.Floor
import Mathlib.Tactic.Linarith
import MeshlessGas.Box
import MeshlessGas.Proofs.Tensor

namespace MeshlessGas

/-! ## Rationals that are rounded -/

/-- A rational in a number system that applies a function to the result of every operation. -/
@[ext] structure Inexact (round : ℚ → ℚ) where
  value : ℚ

namespace Inexact

variable {round : ℚ → ℚ}

/-- Constants, signs, floors and comparisons are exact. -/
instance : Arithmetic (Inexact round) where
  add x y := ⟨round (x.value + y.value)⟩
  sub x y := ⟨round (x.value - y.value)⟩
  mul x y := ⟨round (x.value * y.value)⟩
  div x y := ⟨round (x.value / y.value)⟩
  neg x := ⟨-x.value⟩
  lt x y := x.value < y.value
  le x y := x.value ≤ y.value
  ofScientific m s e := ⟨OfScientific.ofScientific m s e⟩
  decLt _ _ := inferInstanceAs (Decidable (_ < (_ : ℚ)))
  decLe _ _ := inferInstanceAs (Decidable (_ ≤ (_ : ℚ)))
  floor x := ⟨⌊x.value⌋⟩
  truncate x := if 0 ≤ x.value then ⌊x.value⌋ else ⌈x.value⌉
  isFinite _ := true
  ofInt n := ⟨round n⟩
  ofQuotient n d := ⟨round (n / d)⟩

theorem value_zero : (0.0 : Inexact round).value = 0 := by
  show (0.0 : ℚ) = 0
  norm_num

theorem lt_iff {x y : Inexact round} : x < y ↔ x.value < y.value := Iff.rfl

theorem le_iff {x y : Inexact round} : x ≤ y ↔ x.value ≤ y.value := Iff.rfl

/-! ## Relative errors -/

/-- A rounding changes no number by more than one part in two to the power 53. -/
def IsFaithful (round : ℚ → ℚ) : Prop := ∀ y, |round y - y| ≤ 2 ^ (-53 : ℤ) * |y|

theorem isFaithful_id : IsFaithful id := by
  intro y
  rw [id_eq, sub_self, abs_zero]
  positivity

theorem IsFaithful.abs_sub_le (h : IsFaithful round) {y bound : ℚ} (hy : |y| ≤ bound) :
    |round y - y| ≤ 2 ^ (-53 : ℤ) * bound :=
  (h y).trans (mul_le_mul_of_nonneg_left hy (by positivity))

theorem IsFaithful.round_mem (h : IsFaithful round) {y : ℚ} (hy : 0 ≤ y) :
    0 ≤ round y ∧ round y ≤ 9 / 8 * y := by
  have herror := abs_le.mp (h.abs_sub_le (abs_of_nonneg hy).le)
  norm_num at herror
  constructor <;> linarith

end Inexact

namespace Box

open Inexact (IsFaithful)

variable {round : ℚ → ℚ} {x w length : Inexact round}

/-! ## The remainder -/

theorem value_remainder : (remainder x length).value
    = round (x.value - round (⌊round (x.value / length.value)⌋ * length.value)) := rfl

/-- Of a coordinate up to 2 ^ 50 box lengths away, the remainder lies less than half a box beside
the box: both the quotient and the product are wrong by an eighth of a box at most. -/
theorem remainder_near (hround : IsFaithful round) (hlength : 0 < length.value)
    (hx : |x.value| ≤ 2 ^ 50 * length.value) :
    -(length.value / 2) < (remainder x length).value ∧
      (remainder x length).value < 3 * length.value / 2 := by
  set l := length.value
  set quotient := x.value / l with hquotient
  set whole : ℤ := ⌊round quotient⌋ with hwhole
  have hbound : |quotient| ≤ 2 ^ 50 := by
    rwa [hquotient, abs_div, abs_of_pos hlength, div_le_iff₀ hlength]
  have herror := abs_le.mp (hround.abs_sub_le hbound)
  have hfloor := Int.floor_le (round quotient)
  have hceil := Int.lt_floor_add_one (round quotient)
  rw [← hwhole] at hfloor hceil
  have hmultiple : |(whole : ℚ) * l| ≤ (2 ^ 50 + 2) * l := by
    have hquotient' := abs_le.mp hbound
    norm_num at herror hquotient'
    rw [abs_mul, abs_of_pos hlength]
    refine mul_le_mul_of_nonneg_right (abs_le.mpr ⟨?_, ?_⟩) hlength.le <;> linarith
  have hproduct := abs_le.mp (hround.abs_sub_le hmultiple)
  -- Before the last rounding the difference lies a quarter of a box beside the box.
  have hx' : x.value = quotient * l := (div_mul_cancel₀ _ hlength.ne').symm
  have hlow : -(l / 8) ≤ x.value - whole * l := by
    rw [hx', ← sub_mul]
    norm_num at herror
    nlinarith
  have hhigh : x.value - whole * l ≤ 9 * l / 8 := by
    rw [hx', ← sub_mul]
    norm_num at herror
    nlinarith
  have hdifference : |x.value - round (whole * l)| ≤ 2 * l := by
    norm_num at hproduct
    rw [abs_le]
    constructor <;> linarith
  have hlast := abs_le.mp (hround.abs_sub_le hdifference)
  rw [value_remainder]
  norm_num at hproduct hlast
  constructor <;> linarith

theorem remainder_exact {x length : Inexact id} (hlength : 0 < length.value) :
    0 ≤ (remainder x length).value ∧ (remainder x length).value < length.value := by
  have hlow : (⌊x.value / length.value⌋ : ℚ) * length.value ≤ x.value :=
    (le_div_iff₀ hlength).mp (Int.floor_le _)
  have hhigh : x.value < (⌊x.value / length.value⌋ + 1) * length.value :=
    (div_lt_iff₀ hlength).mp (Int.lt_floor_add_one _)
  have hvalue : (remainder x length).value
      = x.value - ⌊x.value / length.value⌋ * length.value := rfl
  rw [hvalue]
  constructor <;> linarith

/-! ## Both clamps -/

theorem value_liftNegative : (liftNegative w length).value
    = if w.value < 0 then round (w.value + length.value) else w.value := by
  simp only [liftNegative, apply_ite Inexact.value, Inexact.lt_iff, Inexact.value_zero]
  rfl

theorem value_lowerExcess : (lowerExcess w length).value
    = if length.value ≤ w.value then round (w.value - length.value) else w.value := by
  simp only [lowerExcess, apply_ite Inexact.value, Inexact.le_iff]
  rfl

/-- What was lifted is not negative any more; it may have reached the box length. -/
theorem liftNegative_near (hround : IsFaithful round)
    (hlow : -(length.value / 2) < w.value) (hhigh : w.value < 3 * length.value / 2) :
    0 ≤ (liftNegative w length).value ∧
      (liftNegative w length).value < 3 * length.value / 2 := by
  rw [value_liftNegative]
  split
  next hneg =>
    obtain ⟨hnonneg, hle⟩ := hround.round_mem (y := w.value + length.value) (by linarith)
    exact ⟨hnonneg, by linarith⟩
  next hneg => exact ⟨not_lt.mp hneg, hhigh⟩

/-- What was lowered lies in the box: the difference is too small to be rounded to its end. -/
theorem lowerExcess_mem (hround : IsFaithful round) (hlow : 0 ≤ w.value)
    (hhigh : w.value < 3 * length.value / 2) :
    0 ≤ (lowerExcess w length).value ∧ (lowerExcess w length).value < length.value := by
  rw [value_lowerExcess]
  split
  next hle =>
    obtain ⟨hnonneg, hle'⟩ := hround.round_mem (y := w.value - length.value) (by linarith)
    exact ⟨hnonneg, by linarith⟩
  next hle => exact ⟨hlow, not_le.mp hle⟩

/-! ## Wrapping -/

/-- A coordinate that was wrapped: it lies in the box, and did not move if it lay there before. -/
structure IsWrapped (length x w : Inexact round) : Prop where
  nonneg : 0 ≤ w.value
  lt_length : w.value < length.value
  kept : 0 ≤ x.value → x.value < length.value → w = x

theorem wrap_of_mem (hlow : 0 ≤ x.value) (hhigh : x.value < length.value) :
    wrap x length = x := by
  have hinside : 0.0 ≤ x ∧ x < length := by
    rw [Inexact.le_iff, Inexact.lt_iff, Inexact.value_zero]
    exact ⟨hlow, hhigh⟩
  rw [wrap, if_pos hinside]

/-- Wrapping leads into the box from every remainder less than half a box beside it. -/
theorem isWrapped_wrap (hround : IsFaithful round)
    (hremainder : -(length.value / 2) < (remainder x length).value ∧
      (remainder x length).value < 3 * length.value / 2) :
    IsWrapped length x (wrap x length) := by
  obtain ⟨hlow, hhigh⟩ := hremainder
  obtain ⟨hlow', hhigh'⟩ := liftNegative_near hround hlow hhigh
  have hclamped := lowerExcess_mem hround hlow' hhigh'
  have hmem : 0 ≤ (wrap x length).value ∧ (wrap x length).value < length.value := by
    unfold wrap
    split
    next hinside =>
      rw [Inexact.le_iff, Inexact.lt_iff, Inexact.value_zero] at hinside
      exact hinside
    next => exact hclamped
  exact ⟨hmem.1, hmem.2, wrap_of_mem⟩

theorem IsWrapped.wrap_eq (h : IsWrapped length x w) : wrap w length = w :=
  wrap_of_mem h.nonneg h.lt_length

theorem exists_wrap_eq (x length : Inexact id) :
    ∃ n : ℤ, (wrap x length).value = x.value + n * length.value := by
  have hremainder : ∃ n : ℤ, (remainder x length).value = x.value + n * length.value := by
    refine ⟨-⌊x.value / length.value⌋, ?_⟩
    show x.value - ⌊x.value / length.value⌋ * length.value = _
    push_cast
    ring
  have hlift : ∀ w : Inexact id, (∃ n : ℤ, w.value = x.value + n * length.value) →
      ∃ n : ℤ, (liftNegative w length).value = x.value + n * length.value := by
    rintro w ⟨n, hn⟩
    rw [value_liftNegative, id_eq, hn]
    split
    · exact ⟨n + 1, by push_cast; ring⟩
    · exact ⟨n, rfl⟩
  have hlower : ∀ w : Inexact id, (∃ n : ℤ, w.value = x.value + n * length.value) →
      ∃ n : ℤ, (lowerExcess w length).value = x.value + n * length.value := by
    rintro w ⟨n, hn⟩
    rw [value_lowerExcess, id_eq, hn]
    split
    · exact ⟨n - 1, by push_cast; ring⟩
    · exact ⟨n, rfl⟩
  unfold wrap
  split
  · exact ⟨0, by simp⟩
  · exact hlower _ (hlift _ hremainder)

theorem wrapAll_scalar (x : Tensor (Inexact round)) (length : Inexact round) :
    wrapAll x (.scalar length) = .ok (x.map (wrap · length)) := by
  rw [wrapAll, Tensor.map₂?_scalar, Failure.ofOption_some]

theorem wrapAll_wrapAll {x : Tensor (Inexact round)}
    (h : ∀ a ∈ x.cells, IsWrapped length a (wrap a length)) :
    wrapAll (x.map (wrap · length)) (.scalar length) = .ok (x.map (wrap · length)) := by
  rw [wrapAll_scalar, Tensor.map_map, Tensor.map_congr fun a ha => (h a ha).wrap_eq]

/-- Whatever is rounded after every operation, coordinates up to 2 ^ 50 box lengths away are
wrapped into the box, those inside stay where they are, and wrapping them again moves none.
Without rounding this holds of all coordinates, and each moves by whole box lengths. -/
theorem wrapAll_in_box :
    (∀ round, IsFaithful round → ∀ (length : Inexact round) (x : Tensor (Inexact round)),
      0 < length.value → (∀ a ∈ x.cells, |a.value| ≤ 2 ^ 50 * length.value) →
      ∃ w, wrapAll x (.scalar length) = .ok w ∧ w.shape = x.shape ∧
        List.Forall₂ (IsWrapped length) x.cells w.cells ∧
        wrapAll w (.scalar length) = .ok w) ∧
    ∀ (length : Inexact id) (x : Tensor (Inexact id)), 0 < length.value →
      ∃ w, wrapAll x (.scalar length) = .ok w ∧ w.shape = x.shape ∧
        List.Forall₂ (IsWrapped length) x.cells w.cells ∧
        wrapAll w (.scalar length) = .ok w ∧
        List.Forall₂ (fun a b => ∃ n : ℤ, b.value = a.value + n * length.value)
          x.cells w.cells := by
  have hall : ∀ {round} {length : Inexact round} {x : Tensor (Inexact round)},
      (∀ a ∈ x.cells, IsWrapped length a (wrap a length)) →
      List.Forall₂ (IsWrapped length) x.cells (x.map (wrap · length)).cells := by
    intro round length x h
    rw [Tensor.cells_map, List.forall₂_map_right_iff, List.forall₂_same]
    exact h
  constructor
  · intro round hround length x hlength hx
    have hwrapped : ∀ a ∈ x.cells, IsWrapped length a (wrap a length) := fun a ha =>
      isWrapped_wrap hround (remainder_near hround hlength (hx a ha))
    exact ⟨_, wrapAll_scalar x length, rfl, hall hwrapped, wrapAll_wrapAll hwrapped⟩
  · intro length x hlength
    have hwrapped : ∀ a ∈ x.cells, IsWrapped length a (wrap a length) := by
      intro a _
      obtain ⟨hlow, hhigh⟩ := remainder_exact (x := a) hlength
      exact isWrapped_wrap Inexact.isFaithful_id ⟨by linarith, by linarith⟩
    refine ⟨_, wrapAll_scalar x length, rfl, hall hwrapped, wrapAll_wrapAll hwrapped, ?_⟩
    rw [Tensor.cells_map, List.forall₂_map_right_iff, List.forall₂_same]
    exact fun a _ => exists_wrap_eq a length

/-! ### Rounding away from zero -/

/-- The largest rounding away from zero. -/
def awayFromZero (y : ℚ) : ℚ := y * (1 + 2 ^ (-53 : ℤ))

theorem isFaithful_awayFromZero : IsFaithful awayFromZero := by
  intro y
  have herror : awayFromZero y - y = 2 ^ (-53 : ℤ) * y := by
    rw [awayFromZero]
    ring
  rw [herror, abs_mul, abs_of_pos (by positivity)]

/-- Just below the box the remainder is rounded beyond its end, and wrapped all the same. -/
theorem wrapAll_in_box_awayFromZero :
    ∃ (length a b : Inexact awayFromZero), IsFaithful awayFromZero ∧ length.value = 1 ∧
      a.value = -2 ^ (-60 : ℤ) ∧ |a.value| ≤ 2 ^ 50 * length.value ∧
      length.value < (remainder a length).value ∧
      wrapAll (.scalar a) (.scalar length) = .ok (.scalar b) ∧ IsWrapped length a b := by
  have hnear : |(-2 ^ (-60 : ℤ) : ℚ)| ≤ 2 ^ 50 * 1 := by
    rw [abs_neg, abs_of_pos (by positivity)]
    norm_num
  obtain ⟨w, hw, -, hwrapped, -⟩ := wrapAll_in_box.1 awayFromZero isFaithful_awayFromZero ⟨1⟩
    (.scalar ⟨-2 ^ (-60 : ℤ)⟩) zero_lt_one fun a ha => by
      obtain rfl := List.mem_singleton.mp ha
      exact hnear
  rw [wrapAll_scalar] at hw
  obtain rfl := Except.ok.inj hw
  refine ⟨⟨1⟩, ⟨-2 ^ (-60 : ℤ)⟩, _, isFaithful_awayFromZero, rfl, rfl, hnear, ?_,
    wrapAll_scalar _ _, (List.forall₂_cons.mp hwrapped).1⟩
  have hwhole : ⌊awayFromZero (-2 ^ (-60 : ℤ) / 1)⌋ = -1 := by
    rw [Int.floor_eq_iff, awayFromZero]
    norm_num
  rw [value_remainder, hwhole, awayFromZero, awayFromZero]
  norm_num

end Box

end MeshlessGas
