import Mathlib.Algebra.Order.Field.Basic
import Mathlib.Tactic.Linarith
import Mathlib.Tactic.Ring

/-!
# Vectors as lists

The dot product of two lists over an ordered field, cut off at the shorter one, with the
Cauchy-Schwarz inequality for it.
-/

namespace ListVectors

set_option autoImplicit false

variable {Scalar : Type*}

section Product

variable [CommSemiring Scalar]

def dot (left right : List Scalar) : Scalar := (List.zipWith (· * ·) left right).sum

def squares (vector : List Scalar) : Scalar := (vector.map fun entry => entry * entry).sum

@[simp] theorem dot_nil_left (right : List Scalar) : dot [] right = 0 := by
  simp [dot]

@[simp] theorem dot_nil_right (left : List Scalar) : dot left [] = 0 := by
  simp [dot]

@[simp] theorem dot_cons (first second : Scalar) (left right : List Scalar) :
    dot (first :: left) (second :: right) = first * second + dot left right := by
  simp [dot]

@[simp] theorem squares_nil : squares ([] : List Scalar) = 0 := rfl

@[simp] theorem squares_cons (first : Scalar) (vector : List Scalar) :
    squares (first :: vector) = first * first + squares vector := by
  simp [squares]

theorem dot_comm (left right : List Scalar) : dot left right = dot right left := by
  induction left generalizing right with
  | nil => simp
  | cons first left ih =>
      cases right with
      | nil => simp
      | cons second right => rw [dot_cons, dot_cons, ih right, mul_comm]

theorem dot_self (vector : List Scalar) : dot vector vector = squares vector := by
  induction vector with
  | nil => simp
  | cons first vector ih => rw [dot_cons, squares_cons, ih]

end Product

section Division

variable [Field Scalar]

theorem dot_map_div (left right : List Scalar) (leftScale rightScale : Scalar) :
    dot (left.map fun entry => entry / leftScale) (right.map fun entry => entry / rightScale) =
      dot left right / (leftScale * rightScale) := by
  induction left generalizing right with
  | nil => simp
  | cons first left ih =>
      cases right with
      | nil => simp
      | cons second right =>
          rw [List.map_cons, List.map_cons, dot_cons, ih, dot_cons, add_div, div_mul_div_comm]

end Division

section Bounds

variable [Field Scalar] [LinearOrder Scalar] [IsStrictOrderedRing Scalar]

theorem squares_nonneg (vector : List Scalar) : 0 ≤ squares vector := by
  induction vector with
  | nil => simp
  | cons first vector ih =>
      rw [squares_cons]
      have square := mul_self_nonneg first
      linarith

theorem squares_eq_zero_iff (vector : List Scalar) :
    squares vector = 0 ↔ ∀ entry ∈ vector, entry = 0 := by
  induction vector with
  | nil => simp
  | cons first vector ih =>
      have square := mul_self_nonneg first
      have rest := squares_nonneg vector
      rw [squares_cons, List.forall_mem_cons, ← ih]
      constructor
      · intro sum
        have none : first * first = 0 := by linarith
        exact ⟨mul_self_eq_zero.mp none, by linarith⟩
      · rintro ⟨none, zero⟩
        rw [none, zero]
        simp

theorem mixed_le (first second : Scalar) {product left right : Scalar} (leftNonneg : 0 ≤ left)
    (rightNonneg : 0 ≤ right) (bound : product * product ≤ left * right) :
    2 * (first * second * product) ≤ first * first * right + second * second * left := by
  let one := first * first * right
  let two := second * second * left
  have oneNonneg : 0 ≤ one := mul_nonneg (mul_self_nonneg first) rightNonneg
  have twoNonneg : 0 ≤ two := mul_nonneg (mul_self_nonneg second) leftNonneg
  have scaled : first * second * (first * second) * (product * product) ≤
      first * second * (first * second) * (left * right) :=
    mul_le_mul_of_nonneg_left bound (mul_self_nonneg _)
  have apart : 0 ≤ (one - two) * (one - two) := mul_self_nonneg _
  have square : 2 * (first * second * product) * (2 * (first * second * product)) ≤
      (one + two) * (one + two) := by
    have expand : (one + two) * (one + two) =
        (one - two) * (one - two) +
          4 * (first * second * (first * second) * (left * right)) := by
      simp only [one, two]
      ring
    have shape : 2 * (first * second * product) * (2 * (first * second * product)) =
        4 * (first * second * (first * second) * (product * product)) := by
      ring
    rw [expand, shape]
    linarith
  have absolute := abs_le_iff_mul_self_le.mpr square
  rw [abs_of_nonneg (add_nonneg oneNonneg twoNonneg)] at absolute
  exact le_of_abs_le absolute

theorem dot_mul_self_le (left right : List Scalar) :
    dot left right * dot left right ≤ squares left * squares right := by
  induction left generalizing right with
  | nil => simp
  | cons first left ih =>
      cases right with
      | nil => simp
      | cons second right =>
          have mixed := mixed_le first second (squares_nonneg left) (squares_nonneg right) (ih right)
          have rest := ih right
          rw [dot_cons, squares_cons, squares_cons]
          have expand : (first * second + dot left right) * (first * second + dot left right) =
              first * first * (second * second) + 2 * (first * second * dot left right) +
                dot left right * dot left right := by
            ring
          have product : (first * first + squares left) * (second * second + squares right) =
              first * first * (second * second) +
                (first * first * squares right + second * second * squares left) +
                squares left * squares right := by
            ring
          rw [expand, product]
          linarith

end Bounds

end ListVectors
