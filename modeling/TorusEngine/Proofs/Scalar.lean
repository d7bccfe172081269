import Mathlib.Algebra.Order.Round
import Mathlib.Analysis.Real.Sqrt
import TorusEngine.Scalar

/-!
# Exact numbers

The geometry of the world is written over any scalars. Here the real numbers are made scalars, so that
the same text can be read exactly: every operation is the one of the library, and the constants are
those that the engine uses, each taken for the real number that its bits stand for.
-/

namespace TorusEngine

namespace Numeral

noncomputable def Dyadic.value (number : Dyadic) : ℝ := number.mantissa * 2 ^ number.exponent

/-- The real number that a finite double stands for; the other doubles stand for none and give zero. -/
noncomputable def Binary64.value (number : Float) : ℝ :=
  match magnitude? number.toBits with
  | some magnitude => if isNegative number.toBits then -magnitude.value else magnitude.value
  | none => 0

theorem Binary64.value_eq {number : Float} {mantissa : Nat} {exponent : Int}
    (read : magnitude? number.toBits = some ⟨mantissa, exponent⟩)
    (positive : isNegative number.toBits = false) : value number = mantissa * 2 ^ exponent := by
  simp [value, read, positive, Dyadic.value]

end Numeral

namespace Exact

noncomputable def truncated (number : ℝ) : ℤ := if 0 ≤ number then ⌊number⌋ else ⌈number⌉

noncomputable def rounded (number : ℝ) : ℤ :=
  if Int.fract number < 1 / 2 then ⌊number⌋
  else if 1 / 2 < Int.fract number then ⌊number⌋ + 1
  else ⌊number⌋ + ⌊number⌋ % 2

theorem abs_rounded_sub_le (number : ℝ) : |(rounded number : ℝ) - number| ≤ 1 / 2 := by
  have whole := Int.floor_add_fract number
  have low := Int.fract_nonneg number
  have high := Int.fract_lt_one number
  rw [abs_le]
  unfold rounded
  split
  · constructor <;> linarith
  · split
    · push_cast
      constructor <;> linarith
    · -- A half is as far from the one neighbour as from the other.
      rcases Int.emod_two_eq_zero_or_one ⌊number⌋ with even | odd
      · rw [even, Int.add_zero]
        constructor <;> linarith
      · rw [odd]
        push_cast
        constructor <;> linarith

theorem rounded_eq_of_near {number : ℝ} {whole : ℤ} (near : |number - whole| ≤ 1 / 2)
    (even : |number - whole| = 1 / 2 → whole % 2 = 0) : rounded number = whole := by
  have fraction := Int.fract_add_floor number
  rw [abs_le] at near
  unfold rounded
  rcases le_or_gt (whole : ℝ) number with above | below
  · have floor : ⌊number⌋ = whole := Int.floor_eq_iff.mpr ⟨above, by linarith⟩
    rw [floor] at fraction ⊢
    rw [if_neg (show ¬ 1 / 2 < Int.fract number by linarith)]
    split
    · rfl
    · rw [even (by rw [abs_of_nonneg (by linarith)]; linarith), Int.add_zero]
  · have floor : ⌊number⌋ = whole - 1 := by
      rw [Int.floor_eq_iff]
      push_cast
      constructor <;> linarith
    rw [floor] at fraction ⊢
    push_cast at fraction
    rw [if_neg (show ¬ Int.fract number < 1 / 2 by linarith)]
    split
    · ring
    · have tie := even (by rw [abs_of_neg (by linarith)]; linarith)
      omega

end Exact

noncomputable instance : Scalar ℝ where
  ofInt number := number
  abs number := |number|
  remainder a b := a - b * Exact.truncated (a / b)
  sqrt := Real.sqrt
  lt a b := decide (a < b)
  le a b := decide (a ≤ b)
  isFinite _ := true
  nearest low high number := max low (min high (Exact.rounded number))
  sqrtTwo := Numeral.Binary64.value Scalar.sqrtTwo

namespace Exact

theorem sqrtTwo_eq : (Scalar.sqrtTwo : ℝ) = 6369051672525773 / 4503599627370496 := by
  have constant : (Scalar.sqrtTwo : ℝ) = 6369051672525773 * 2 ^ (-52 : ℤ) :=
    Numeral.Binary64.value_eq (by decide +kernel) (by decide +kernel)
  rw [constant]
  norm_num

theorem truncated_neg (number : ℝ) : truncated (-number) = -truncated number := by
  rcases lt_trichotomy number 0 with negative | rfl | positive
  · rw [truncated, truncated, if_pos (neg_nonneg.mpr negative.le), if_neg negative.not_ge, Int.floor_neg]
  · simp [truncated]
  · rw [truncated, truncated, if_neg (neg_neg_of_pos positive).not_ge, if_pos positive.le, Int.ceil_neg]

theorem remainder_neg_left (a b : ℝ) : Scalar.remainder (-a) b = -Scalar.remainder a b := by
  simp only [Scalar.remainder, neg_div, truncated_neg]
  push_cast
  ring

theorem remainder_neg_right (a b : ℝ) : Scalar.remainder a (-b) = Scalar.remainder a b := by
  simp only [Scalar.remainder, div_neg, truncated_neg]
  push_cast
  ring

theorem remainder_natCast_mul (a : Nat) {b : Nat} {unit : ℝ} (positive : 0 < unit) :
    Scalar.remainder (a * unit) (b * unit) = (a % b : Nat) * unit := by
  have quotient : truncated ((a : ℝ) * unit / (b * unit)) = (a / b : Nat) := by
    have nonneg : (0 : ℝ) ≤ a / b := by positivity
    rw [mul_div_mul_right _ _ positive.ne', truncated, if_pos nonneg, Int.floor_div_natCast,
      Int.floor_natCast, Int.natCast_div]
  have whole : (a : ℝ) = b * (a / b : Nat) + (a % b : Nat) := by
    exact_mod_cast (Nat.div_add_mod a b).symm
  simp only [Scalar.remainder, quotient, Int.cast_natCast]
  calc (a : ℝ) * unit - b * unit * (a / b : Nat)
      = (b * (a / b : Nat) + (a % b : Nat)) * unit - b * unit * (a / b : Nat) := by rw [← whole]
    _ = (a % b : Nat) * unit := by ring

theorem sqrt_two_le : √2 ≤ (Scalar.sqrtTwo : ℝ) := by
  rw [sqrtTwo_eq, Real.sqrt_le_left (by norm_num)]
  norm_num

end Exact

end TorusEngine
