import Mathlib.Tactic.Linarith
import Mathlib.Tactic.Ring
import TorusEngine.Proofs.Scalar
import TorusEngine.Torus.Rollover

/-!
# The shortest way round

Read exactly, `delta v width` differs from `v` by whole widths and is at most half a width long
(`delta_eq_sub`, `abs_delta_le`). So `distance v width` is the distance from `v` to the nearest multiple
of the width: no multiple is nearer (`distance_le`), and one is as near (`exists_distance_eq`).
-/

namespace TorusEngine.Torus.Rollover

variable {v width : ℝ}

theorem delta_eq (v width : ℝ) : delta v width =
    if -(width / 2) ≤ v ∧ v ≤ width / 2 then v
    else
      let rest := |v| - width * Exact.truncated (|v| / width)
      let folded := if width / 2 < rest then rest - width else rest
      if v < 0 then -folded else folded := by
  have two : (Scalar.ofInt 2 : ℝ) = 2 := by
    show ((2 : ℤ) : ℝ) = 2
    norm_num
  have zero : (Scalar.ofInt 0 : ℝ) = 0 := by
    show ((0 : ℤ) : ℝ) = 0
    norm_num
  unfold delta
  simp only [two, zero, Scalar.le, Scalar.lt, Scalar.remainder, Scalar.abs, Bool.and_eq_true,
    decide_eq_true_eq]

theorem distance_eq (v width : ℝ) : distance v width = |delta v width| := rfl

/-- The part of a length that whole widths leave is short of a width. -/
theorem rest_bounds (positive : 0 < width) (long : 0 ≤ v) :
    0 ≤ v - width * Exact.truncated (v / width) ∧ v - width * Exact.truncated (v / width) < width := by
  have quotient : Exact.truncated (v / width) = ⌊v / width⌋ := if_pos (div_nonneg long positive.le)
  have below := Int.floor_le (v / width)
  have above := Int.lt_floor_add_one (v / width)
  rw [le_div_iff₀ positive] at below
  rw [div_lt_iff₀ positive] at above
  rw [quotient]
  constructor <;> nlinarith

theorem delta_cases (positive : 0 < width) (v : ℝ) :
    |delta v width| ≤ width / 2 ∧ ∃ times : ℤ, delta v width = v - times * width := by
  rw [delta_eq]
  split
  · rename_i near
    exact ⟨abs_le.mpr near, 0, by simp⟩
  · obtain ⟨low, high⟩ := rest_bounds positive (abs_nonneg v)
    generalize whole : Exact.truncated (|v| / width) = count at low high ⊢
    -- What is folded is the length less `count` widths, or less one more.
    obtain ⟨times, folded, short⟩ : ∃ times : ℤ,
        (if width / 2 < |v| - width * count then |v| - width * count - width
          else |v| - width * count) = |v| - times * width ∧ |(|v| - times * width)| ≤ width / 2 := by
      split
      · rename_i beyond
        refine ⟨count + 1, by push_cast; ring, abs_le.mpr ⟨?_, ?_⟩⟩ <;> push_cast <;> linarith
      · rename_i within
        exact ⟨count, by ring, abs_le.mpr ⟨by linarith, by linarith⟩⟩
    simp only [folded]
    split
    · rename_i negative
      rw [abs_neg]
      refine ⟨short, -times, ?_⟩
      rw [abs_of_neg negative]
      push_cast
      ring
    · rename_i positive
      refine ⟨short, times, ?_⟩
      rw [abs_of_nonneg (not_lt.mp positive)]

theorem abs_delta_le (positive : 0 < width) (v : ℝ) : |delta v width| ≤ width / 2 :=
  (delta_cases positive v).1

theorem delta_eq_sub (positive : 0 < width) (v : ℝ) :
    ∃ times : ℤ, delta v width = v - times * width :=
  (delta_cases positive v).2

theorem exists_distance_eq (positive : 0 < width) (v : ℝ) :
    ∃ times : ℤ, distance v width = |v - times * width| := by
  obtain ⟨times, same⟩ := delta_eq_sub positive v
  exact ⟨times, by rw [distance_eq, same]⟩

theorem distance_le (positive : 0 < width) (v : ℝ) (times : ℤ) :
    distance v width ≤ |v - times * width| := by
  obtain ⟨nearest, same⟩ := delta_eq_sub positive v
  have short := abs_delta_le positive v
  rw [distance_eq]
  rcases eq_or_ne times nearest with rfl | different
  · rw [same]
  · -- Two multiples are a width apart, and the nearest one takes no more than half of it.
    have gap : width ≤ |((nearest - times : ℤ) : ℝ) * width| := by
      have whole : (1 : ℝ) ≤ |((nearest - times : ℤ) : ℝ)| := by
        exact_mod_cast Int.one_le_abs (sub_ne_zero.mpr different.symm)
      rw [abs_mul, abs_of_pos positive]
      nlinarith
    have apart : v - times * width = delta v width + ((nearest - times : ℤ) : ℝ) * width := by
      rw [same]
      push_cast
      ring
    have triangle := abs_sub_abs_le_abs_sub (((nearest - times : ℤ) : ℝ) * width) (-delta v width)
    rw [abs_neg, sub_neg_eq_add, add_comm (((nearest - times : ℤ) : ℝ) * width), ← apart] at triangle
    linarith

theorem distance_nonneg (v width : ℝ) : 0 ≤ distance v width := abs_nonneg _

end TorusEngine.Torus.Rollover
