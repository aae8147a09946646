import Mathlib.Algebra.Order.Field.Basic
import Mathlib.Algebra.Order.Field.Rat

/-!
Scaling a rectangle into a box, and arithmetic that divides by zero.

`Scale.ratio` is the largest factor by which a rectangle can be scaled and still fit a
box. `Extended` is floating-point arithmetic without rounding: rationals, the two
infinities a division by zero can give, and "not a number".

* `le_ratio_iff` — a factor fits exactly when it is at most the ratio.
* `ratio_meets` — scaled by the ratio, the rectangle meets a side of the box.
* `Extended.finite_div_finite`, `Extended.finite_div_zero`, `Extended.zero_mul_infinite`
  — a quotient is a number unless the divisor is zero, and a zero side times such a
  quotient is no number.
-/

/-! ### Scaling into a box -/

namespace Scale

variable {K : Type} [Field K] [LinearOrder K]

/-- The largest factor that fits a rectangle into a box. -/
def ratio (boxWidth boxHeight width height : K) : K := min (boxWidth / width) (boxHeight / height)

variable {boxWidth boxHeight width height : K}

/-- Scaled by the ratio, the rectangle meets a side of the box. -/
theorem ratio_meets (width_ne : width ≠ 0) (height_ne : height ≠ 0) :
    width * ratio boxWidth boxHeight width height = boxWidth ∨
      height * ratio boxWidth boxHeight width height = boxHeight := by
  rcases min_choice (boxWidth / width) (boxHeight / height) with isWidth | isHeight
  · left
    rw [ratio, isWidth, mul_div_cancel₀ _ width_ne]
  · right
    rw [ratio, isHeight, mul_div_cancel₀ _ height_ne]

variable [IsStrictOrderedRing K]

/-- A factor fits the rectangle into the box exactly when it is at most the ratio. -/
theorem le_ratio_iff (width_pos : 0 < width) (height_pos : 0 < height) {factor : K} :
    factor ≤ ratio boxWidth boxHeight width height ↔
      width * factor ≤ boxWidth ∧ height * factor ≤ boxHeight := by
  rw [ratio, le_min_iff, le_div_iff₀' width_pos, le_div_iff₀' height_pos]

theorem ratio_pos (boxWidth_pos : 0 < boxWidth) (boxHeight_pos : 0 < boxHeight)
    (width_pos : 0 < width) (height_pos : 0 < height) :
    0 < ratio boxWidth boxHeight width height :=
  lt_min (div_pos boxWidth_pos width_pos) (div_pos boxHeight_pos height_pos)

end Scale

/-! ### Dividing by zero -/

/-- A rational number, an infinity of either sign, or no number. There is one zero, and
it divides as a positive one. -/
inductive Extended where
  | finite (q : ℚ)
  | infinite (isPositive : Bool)
  | nan
deriving DecidableEq

namespace Extended

/-- The quotient. -/
def div : Extended → Extended → Extended
  | nan, _ => nan
  | _, nan => nan
  | finite p, finite q =>
      if q ≠ 0 then finite (p / q) else if p ≠ 0 then infinite (0 < p) else nan
  | finite _, infinite _ => finite 0
  | infinite s, finite q => infinite (s == decide (0 ≤ q))
  | infinite _, infinite _ => nan

/-- The product. -/
def mul : Extended → Extended → Extended
  | nan, _ => nan
  | _, nan => nan
  | finite p, finite q => finite (p * q)
  | finite p, infinite s => if p ≠ 0 then infinite (s == decide (0 < p)) else nan
  | infinite s, finite p => if p ≠ 0 then infinite (s == decide (0 < p)) else nan
  | infinite s, infinite t => infinite (s == t)

/-- The comparison `<`. It is false of what is no number. -/
def lt : Extended → Extended → Bool
  | finite p, finite q => p < q
  | finite _, infinite s => s
  | infinite s, finite _ => !s
  | infinite s, infinite t => !s && t
  | _, _ => false

instance : Div Extended := ⟨div⟩

instance : Mul Extended := ⟨mul⟩

variable {p q : ℚ}

theorem finite_div_finite (ne : q ≠ 0) : finite p / finite q = finite (p / q) := if_pos ne

theorem finite_div_zero (pos : 0 < p) : finite p / finite 0 = infinite true := by
  show div (finite p) (finite 0) = infinite true
  simp [div, pos, pos.ne']

@[simp] theorem finite_mul_finite : finite p * finite q = finite (p * q) := rfl

@[simp] theorem zero_mul_infinite (s : Bool) : finite 0 * infinite s = nan := rfl

@[simp] theorem lt_finite_finite : lt (finite p) (finite q) = decide (p < q) := rfl

@[simp] theorem lt_finite_infinite (s : Bool) : lt (finite p) (infinite s) = s := rfl

@[simp] theorem lt_infinite_finite (s : Bool) : lt (infinite s) (finite p) = !s := rfl

@[simp] theorem lt_infinite_self (s : Bool) : lt (infinite s) (infinite s) = false := by
  cases s <;> rfl

end Extended
