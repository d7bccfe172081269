import Mathlib.Topology.MetricSpace.HausdorffDistance
import TorusEngine.Proofs.Relevance.CoarseFilter

/-!
# Relevance lives on the torus

Read exactly, the relevance test asks how far two cells are apart on the ground, each axis taken to the
nearest multiple of the width (`Rollover.toNearest`). The taxicab distance, which is looked at first,
rejects nothing that the Euclidean distance accepts, so it never changes the answer
(`relevance_on_torus`).
-/

namespace TorusEngine.Torus.Rollover

/-- How far a number is from the nearest multiple of a width. -/
noncomputable def toNearest (v width : ℝ) : ℝ :=
  Metric.infDist v (Set.range fun times : ℤ => times * width)

section Nearest

variable {v width : ℝ}

theorem toNearest_le (v width : ℝ) (times : ℤ) : toNearest v width ≤ |v - times * width| :=
  Metric.infDist_le_dist_of_mem (Set.mem_range_self times)

theorem distance_eq_toNearest (positive : 0 < width) (v : ℝ) : distance v width = toNearest v width := by
  refine le_antisymm ?_ ?_
  · refine (Metric.le_infDist (Set.range_nonempty _)).mpr ?_
    rintro _ ⟨times, rfl⟩
    exact distance_le positive v times
  · obtain ⟨times, same⟩ := exists_distance_eq positive v
    exact same ▸ toNearest_le v width times

theorem toNearest_le_toNearest {u : ℝ}
    (reaches : ∀ times : ℤ, ∃ other : ℤ, |u - other * width| = |v - times * width|) :
    toNearest u width ≤ toNearest v width := by
  refine (Metric.le_infDist (Set.range_nonempty _)).mpr ?_
  rintro _ ⟨times, rfl⟩
  obtain ⟨other, same⟩ := reaches times
  exact (toNearest_le u width other).trans same.le

theorem toNearest_neg (v width : ℝ) : toNearest (-v) width = toNearest v width := by
  refine le_antisymm (toNearest_le_toNearest fun times => ⟨-times, ?_⟩)
    (toNearest_le_toNearest fun times => ⟨-times, ?_⟩)
  · rw [← abs_neg]
    push_cast
    ring_nf
  · rw [← abs_neg]
    push_cast
    ring_nf

theorem toNearest_add_mul (v width : ℝ) (shift : ℤ) :
    toNearest (v + shift * width) width = toNearest v width := by
  refine le_antisymm (toNearest_le_toNearest fun times => ⟨times + shift, ?_⟩)
    (toNearest_le_toNearest fun times => ⟨times - shift, ?_⟩)
  · push_cast
    ring_nf
  · push_cast
    ring_nf

end Nearest

end TorusEngine.Torus.Rollover

namespace TorusEngine.Relevance

open Torus (Cell)
open Torus.Rollover (distance distance_eq_toNearest toNearest toNearest_le toNearest_neg
  toNearest_add_mul)

noncomputable def groundSquare (center cell : Cell) (width : ℝ) : ℝ :=
  toNearest ((cell.x : ℝ) - center.x) width ^ 2 + toNearest ((cell.z : ℝ) - center.z) width ^ 2

/-- Two names of one place on the ground: whole widths apart on both axes, at any height. -/
def SamePlace (width : ℝ) (cell other : Cell) : Prop :=
  (∃ times : ℤ, (other.x : ℝ) = cell.x + times * width) ∧
    ∃ times : ℤ, (other.z : ℝ) = cell.z + times * width

theorem groundSquare_comm (center cell : Cell) (width : ℝ) :
    groundSquare center cell width = groundSquare cell center width := by
  unfold groundSquare
  rw [← neg_sub (center.x : ℝ), ← neg_sub (center.z : ℝ), toNearest_neg, toNearest_neg]

theorem groundSquare_of_samePlace {center cell other : Cell} {width : ℝ}
    (same : SamePlace width cell other) :
    groundSquare center other width = groundSquare center cell width := by
  obtain ⟨⟨times, x⟩, rounds, z⟩ := same
  unfold groundSquare
  rw [x, z, add_sub_right_comm, add_sub_right_comm, toNearest_add_mul, toNearest_add_mul]

theorem cellDistance_eq {width : ℝ} (positive : 0 < width) (center cell : Cell) :
    cellDistance center cell width = √(groundSquare center cell width) := by
  simp only [cellDistance, groundSquare, distance_eq_toNearest positive, sq]

theorem groundSquare_nonneg (center cell : Cell) (width : ℝ) : 0 ≤ groundSquare center cell width :=
  add_nonneg (sq_nonneg _) (sq_nonneg _)

section Test

variable {width radius : ℝ} {center cell : Cell}

theorem isRelevant_iff_sqrt (positive : 0 < width) (placed : cell.isEverywhere = false) :
    isRelevant center cell radius width = true ↔ √(groundSquare center cell width) < radius := by
  rw [isRelevant_iff, placed, cellDistance_eq positive]
  simp

theorem isRelevant_iff_groundSquare (positive : 0 < width) (placed : cell.isEverywhere = false)
    (nonneg : 0 ≤ radius) :
    isRelevant center cell radius width = true ↔ groundSquare center cell width < radius ^ 2 := by
  rw [isRelevant_iff_sqrt positive placed, Real.sqrt_lt (groundSquare_nonneg _ _ _) nonneg]

theorem isRelevant_congr (positive : 0 < width) (placed : cell.isEverywhere = false)
    {other moved : Cell} (placedToo : moved.isEverywhere = false)
    (same : groundSquare other moved width = groundSquare center cell width) (radius : ℝ) :
    isRelevant other moved radius width = isRelevant center cell radius width := by
  rw [Bool.eq_iff_iff, isRelevant_iff_sqrt positive placed, isRelevant_iff_sqrt positive placedToo, same]

end Test

structure AsksForTorus (width : ℝ) : Prop where
  near : ∀ center cell : Cell, cell.isEverywhere = false → ∀ radius, 0 ≤ radius →
    (isRelevant center cell radius width = true ↔ groundSquare center cell width < radius ^ 2)
  prefilter : ∀ center cell radius,
    radius * Scalar.sqrtTwo ≤ toNearest ((cell.x : ℝ) - center.x) width +
      toNearest ((cell.z : ℝ) - center.z) width → radius ≤ √(groundSquare center cell width)
  symmetric : ∀ center cell : Cell, center.isEverywhere = false → cell.isEverywhere = false →
    ∀ radius, isRelevant center cell radius width = isRelevant cell center radius width
  periodic : ∀ center cell other moved : Cell, cell.isEverywhere = false → moved.isEverywhere = false →
    SamePlace width center other → SamePlace width cell moved →
    ∀ radius, isRelevant other moved radius width = isRelevant center cell radius width
  monotone : ∀ center cell : Cell, ∀ radius wider, radius ≤ wider →
    isRelevant center cell radius width = true → isRelevant center cell wider width = true

/-- The taxicab filter never changes the answer: a cell is relevant when its distance on the torus is less
than the radius. So the answer is symmetric, the same for all names of a place, and monotone. -/
theorem relevance_on_torus {width : ℝ} (positive : 0 < width) : AsksForTorus width where
  near _ _ placed _ := isRelevant_iff_groundSquare positive placed
  prefilter center cell radius far := by
    by_contra within
    rw [not_le, groundSquare, sq, sq] at within
    exact not_lt.mpr far (add_lt_of_sqrt_lt within)
  symmetric center cell origin placed radius :=
    isRelevant_congr positive origin placed (groundSquare_comm center cell width) radius
  periodic center cell other moved placed placedToo same sameToo radius := by
    refine isRelevant_congr positive placed placedToo ?_ radius
    rw [groundSquare_of_samePlace sameToo, groundSquare_comm, groundSquare_of_samePlace same,
      groundSquare_comm]
  monotone center cell radius wider grows relevant := by
    rw [isRelevant_iff] at relevant ⊢
    exact relevant.imp_right (lt_of_lt_of_le · grows)

/-- On a world of five cells an edge, a cell just across the seam on both axes, so that the taxicab
distance is as long as it can be for its Euclidean distance. -/
theorem relevance_on_torus_acrossSeam : (0 : ℝ) < 5 ∧
    isRelevant ⟨4, 0, 0⟩ ⟨0, 100, 4⟩ (3 / 2 : ℝ) 5 = true ∧
    isRelevant ⟨0, 100, 4⟩ ⟨4, 0, 0⟩ (3 / 2 : ℝ) 5 = true ∧
    isRelevant ⟨4, 0, 0⟩ ⟨-2147483645, 7, 4⟩ (3 / 2 : ℝ) 5 = true ∧ AsksForTorus 5 := by
  have five : (0 : ℝ) < 5 := by norm_num
  have torus := relevance_on_torus five
  have square : groundSquare ⟨4, 0, 0⟩ ⟨0, 100, 4⟩ 5 < (3 / 2) ^ 2 := by
    have x : toNearest (((0 : ℤ) : ℝ) - ((4 : ℤ) : ℝ)) 5 ≤ 1 :=
      (toNearest_le _ _ (-1)).trans (by norm_num)
    have z : toNearest (((4 : ℤ) : ℝ) - ((0 : ℤ) : ℝ)) 5 ≤ 1 :=
      (toNearest_le _ _ 1).trans (by norm_num)
    have nonneg (v : ℝ) : 0 ≤ toNearest v 5 := Metric.infDist_nonneg
    refine (add_le_add (pow_le_one₀ (nonneg _) x) (pow_le_one₀ (nonneg _) z)).trans_lt ?_
    norm_num
  have relevant := (torus.near ⟨4, 0, 0⟩ ⟨0, 100, 4⟩ rfl (3 / 2) (by norm_num)).mpr square
  refine ⟨five, relevant, ?_, ?_, torus⟩
  · rw [torus.symmetric _ _ rfl rfl]
    exact relevant
  · have same : SamePlace 5 ⟨4, 0, 0⟩ ⟨4, 0, 0⟩ := ⟨⟨0, by norm_num⟩, 0, by norm_num⟩
    have rounded : SamePlace 5 ⟨0, 100, 4⟩ ⟨-2147483645, 7, 4⟩ :=
      ⟨⟨-429496729, by norm_num⟩, 0, by norm_num⟩
    rw [torus.periodic ⟨4, 0, 0⟩ ⟨0, 100, 4⟩ _ _ rfl rfl same rounded]
    exact relevant

end TorusEngine.Relevance
