/-
Tables — cumulative integrals and their piecewise linear interpolation.

A table holds the values of a function at increasing points.  Between two points it
is continued by a straight line, and outside of them by the first and the last
value.  `cumulate` is the trapezoidal integral of samples up to each point.
-/
import MeshlessGas.Arithmetic

namespace MeshlessGas

variable {D : Type} [Arithmetic D]

/-- The trapezoidal integral of samples `(point, value)` up to each of them, from a
given start. -/
def cumulate (sum : D) : List (D × D) → List D
  | [] => []
  | [_] => [sum]
  | (x₀, f₀) :: (x₁, f₁) :: rest =>
    sum :: cumulate (sum + 0.5 * (f₁ + f₀) * (x₁ - x₀)) ((x₁, f₁) :: rest)

/-- Values at increasing points. -/
structure PointTable (D : Type) where
  points : Array D
  values : Array D

namespace PointTable

/-- Among the indices from `low` on and below `high`, the last whose point is not
above `x`; `low` if there is none. -/
def locate (points : Array D) (x : D) (low high : Nat) : Nat :=
  if _h : low + 1 < high then
    let mid := (low + high) / 2
    match points[mid]? with
    | some p =>
      if p ≤ x then locate points x mid high else locate points x low mid
    | none => low
  else low
termination_by high - low
decreasing_by
  · omega
  · omega

/-- The straight line through two points. -/
def line (x₀ f₀ x₁ f₁ x : D) : D := (f₁ - f₀) / (x₁ - x₀) * (x - x₀) + f₀

/-- The straight line through two points, taken from its other end when the first
gives no number; between equal infinities it is that infinity. -/
def between (x₀ f₀ x₁ f₁ x : D) : D :=
  let y := line x₀ f₀ x₁ f₁ x
  if y ≤ y then y
  else
    let y' := (f₁ - f₀) / (x₁ - x₀) * (x - x₁) + f₁
    if ¬ y' ≤ y' ∧ Arithmetic.agree f₀ f₁ then f₀ else y'

/-- The interpolated value at a point; what is no number stays as it is. -/
def eval (t : PointTable D) (x : D) : D :=
  match t.points[0]?, t.points.back?, t.values[0]?, t.values.back? with
  | some first, some last, some atFirst, some atLast =>
    if ¬ x ≤ x then x
    else if x < first then atFirst
    else if last ≤ x then atLast
    else
      let i := locate t.points x 0 t.points.size
      match t.points[i]?, t.points[i + 1]?, t.values[i]?, t.values[i + 1]? with
      | some x₀, some x₁, some f₀, some f₁ =>
        if Arithmetic.agree x₀ x then f₀ else between x₀ f₀ x₁ f₁ x
      | _, _, _, _ => atLast
  | _, _, _, _ => x

end PointTable

end MeshlessGas
