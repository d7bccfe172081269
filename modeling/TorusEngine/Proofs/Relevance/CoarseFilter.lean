import Mathlib.Analysis.Real.Sqrt
import TorusEngine.Drawing.DrawingConfig
import TorusEngine.Proofs.Torus.Rollover
import TorusEngine.Relevance.RelevanceConfig
import TorusEngine.Relevance.Test
import TorusEngine.Torus.Geometry

/-!
# The coarse filter and the fine one

An object is filtered twice: by the distance of its cell from the observer's cell, and later by its own
distance from the observer. Moving a position to the middle of its cell moves each coordinate by at
most half a cell, so wrapped distances on an axis grow by at most one cell (`axis_distance_le`), and
those on the ground by less than `√2` cells (`sqrt_grown_lt`). Where the coarse radius has room for
that, the coarse filter hides nothing that the fine filter would show (`coarse_filter_hides_nothing`).
-/

namespace TorusEngine.Relevance

open Torus (Cell Geometry)
open Torus.Rollover (distance distance_le exists_distance_eq distance_nonneg)

/-! ## The test on cells, read exactly -/

noncomputable def cellDistance (center cell : Cell) (width : ℝ) : ℝ :=
  let dx := distance ((cell.x : ℝ) - center.x) width
  let dz := distance ((cell.z : ℝ) - center.z) width
  √(dx * dx + dz * dz)

theorem add_le_sqrt_mul (dx dz : ℝ) : dx + dz ≤ √(dx * dx + dz * dz) * √2 := by
  have squares : (dx + dz) ^ 2 ≤ (dx * dx + dz * dz) * 2 := by nlinarith [sq_nonneg (dx - dz)]
  rw [← Real.sqrt_mul (by nlinarith [mul_self_nonneg dx, mul_self_nonneg dz])]
  exact Real.le_sqrt_of_sq_le squares

/-- The taxicab test rejects nothing that the Euclidean test accepts. -/
theorem add_lt_of_sqrt_lt {dx dz radius : ℝ} (near : √(dx * dx + dz * dz) < radius) :
    dx + dz < radius * Scalar.sqrtTwo := by
  have positive : 0 ≤ radius := (Real.sqrt_nonneg _).trans near.le
  calc dx + dz ≤ √(dx * dx + dz * dz) * √2 := add_le_sqrt_mul dx dz
    _ < radius * √2 := mul_lt_mul_of_pos_right near (by norm_num)
    _ ≤ radius * Scalar.sqrtTwo := mul_le_mul_of_nonneg_left Exact.sqrt_two_le positive

theorem isRelevant_iff (center cell : Cell) (radius width : ℝ) :
    isRelevant center cell radius width = true ↔
      cell.isEverywhere = true ∨ cellDistance center cell width < radius := by
  unfold isRelevant cellDistance
  simp only [Scalar.isFinite, Scalar.lt, Scalar.le, Scalar.sqrt, Scalar.ofInt, Int.cast_zero,
    Bool.not_true, Bool.false_or, decide_eq_true_eq]
  split
  · rename_i everywhere
    simp [everywhere]
  · rename_i placed
    rw [or_iff_right placed]
    split
    · rename_i negative
      exact iff_of_false (by simp) (not_lt.mpr (negative.le.trans (Real.sqrt_nonneg _)))
    · split
      · rename_i far
        have outside := fun near => not_lt.mpr far (add_lt_of_sqrt_lt near)
        simpa using outside
      · simp

/-! ## From positions to cells -/

/-- Neither ground coordinate of the cell of a position is held at a bound. -/
def OnMap (geometry : Geometry ℝ) (position : Vec3 ℝ) : Prop :=
  ∀ v ∈ [position.x, position.z], Cell.lowest ≤ Exact.rounded (v / geometry.cellSize) ∧
    Exact.rounded (v / geometry.cellSize) ≤ Cell.highest

theorem OnMap.cell {geometry : Geometry ℝ} {position : Vec3 ℝ} (onMap : OnMap geometry position) :
    (Cell.ofPosition position geometry.cellSize).x = Exact.rounded (position.x / geometry.cellSize) ∧
      (Cell.ofPosition position geometry.cellSize).z =
        Exact.rounded (position.z / geometry.cellSize) := by
  have nearest (v : ℝ) (within : Cell.lowest ≤ Exact.rounded v ∧ Exact.rounded v ≤ Cell.highest) :
      Scalar.nearest Cell.lowest Cell.highest v = Exact.rounded v := by
    show max Cell.lowest (min Cell.highest (Exact.rounded v)) = Exact.rounded v
    omega
  exact ⟨nearest _ (onMap _ (by simp)), nearest _ (onMap _ (by simp))⟩

theorem axis_distance_le {size count : ℝ} (sized : 0 < size) (counted : 0 < count) (a b : ℝ) :
    distance ((Exact.rounded (a / size) : ℝ) - Exact.rounded (b / size)) count ≤
      distance (a - b) (size * count) / size + 1 := by
  -- The multiple that is nearest to the positions bounds the distance of the cells as well.
  obtain ⟨times, same⟩ := exists_distance_eq (mul_pos sized counted) (a - b)
  let moved (v : ℝ) := Exact.rounded (v / size) - v / size
  have between : |(a - b - times * (size * count)) / size| =
      distance (a - b) (size * count) / size := by
    rw [same, abs_div, abs_of_pos sized]
  have together : |moved a - moved b| ≤ 1 := by
    have first : |moved a| ≤ 1 / 2 := Exact.abs_rounded_sub_le (a / size)
    have second : |moved b| ≤ 1 / 2 := Exact.abs_rounded_sub_le (b / size)
    linarith [abs_sub (moved a) (moved b)]
  calc distance ((Exact.rounded (a / size) : ℝ) - Exact.rounded (b / size)) count
      ≤ |(Exact.rounded (a / size) : ℝ) - Exact.rounded (b / size) - times * count| :=
        distance_le counted _ times
    _ = |(a - b - times * (size * count)) / size + (moved a - moved b)| := by
        congr 1
        simp only [moved]
        field_simp
        ring
    _ ≤ distance (a - b) (size * count) / size + 1 :=
        (abs_add_le _ _).trans (add_le_add between.le together)

theorem sqrt_grown_lt {dx dz cx cz reach : ℝ} (near : √(dx * dx + dz * dz) < reach)
    (positive : 0 ≤ cx ∧ 0 ≤ cz) (grown : cx ≤ dx + 1 ∧ cz ≤ dz + 1) :
    √(cx * cx + cz * cz) < reach + √2 := by
  have reached : 0 < reach := (Real.sqrt_nonneg _).trans_lt near
  have root : √2 * √2 = 2 := Real.mul_self_sqrt (by norm_num)
  have inside : dx * dx + dz * dz < reach ^ 2 := (Real.sqrt_lt' reached).mp near
  have sum : dx + dz < reach * √2 :=
    (add_le_sqrt_mul dx dz).trans_lt (mul_lt_mul_of_pos_right near (by norm_num))
  have x := mul_self_le_mul_self positive.1 grown.1
  have z := mul_self_le_mul_self positive.2 grown.2
  rw [Real.sqrt_lt' (add_pos reached (by norm_num))]
  calc cx * cx + cz * cz ≤ (dx + 1) * (dx + 1) + (dz + 1) * (dz + 1) := add_le_add x z
    _ = dx * dx + dz * dz + 2 * (dx + dz) + 2 := by ring
    _ < reach ^ 2 + 2 * (reach * √2) + √2 * √2 := by linarith
    _ = (reach + √2) ^ 2 := by ring

/-! ## Nothing is hidden -/

noncomputable def exactly (geometry : Geometry Float) : Geometry ℝ :=
  ⟨Numeral.Binary64.value geometry.cellSize, geometry.cells⟩

/-- The coarse radius, in cells, exceeds the fine one by what rounding to cells can add. -/
structure LeavesRoom (geometry : Geometry ℝ) (radius visibility : ℝ) : Prop where
  cellSize_pos : 0 < geometry.cellSize
  cells_pos : 0 < geometry.cells
  room : visibility / geometry.cellSize + √2 ≤ radius

theorem ground_distance_lt {geometry : Geometry ℝ} (sized : 0 < geometry.cellSize)
    {position observer : Vec3 ℝ} {visibility : ℝ}
    (near : geometry.distance .euclidean position observer < visibility) :
    let dx := distance (position.x - observer.x) geometry.width / geometry.cellSize
    let dz := distance (position.z - observer.z) geometry.width / geometry.cellSize
    √(dx * dx + dz * dz) < visibility / geometry.cellSize := by
  intro dx dz
  let delta := geometry.delta position observer
  have space : √(delta.x * delta.x + delta.y * delta.y + delta.z * delta.z) < visibility := near
  have seen : 0 < visibility := (Real.sqrt_nonneg _).trans_lt space
  rw [Real.sqrt_lt' seen] at space
  rw [Real.sqrt_lt' (div_pos seen sized)]
  have x : dx * dx = delta.x * delta.x / geometry.cellSize ^ 2 := by
    rw [← abs_mul_abs_self delta.x, sq, mul_div_mul_comm]
    rfl
  have z : dz * dz = delta.z * delta.z / geometry.cellSize ^ 2 := by
    rw [← abs_mul_abs_self delta.z, sq, mul_div_mul_comm]
    rfl
  rw [x, z, ← add_div, div_pow]
  refine div_lt_div_of_pos_right ?_ (pow_pos sized 2)
  linarith [mul_self_nonneg delta.y]

theorem exactly_standard : exactly ({} : RelevanceConfig).geometry = ⟨524288, 32⟩ := by
  have size : Numeral.Binary64.value ({} : RelevanceConfig).geometry.cellSize =
      4503599627370496 * 2 ^ (-33 : ℤ) :=
    Numeral.Binary64.value_eq (by decide +kernel) (by decide +kernel)
  have cells : ({} : RelevanceConfig).geometry.cells = 32 := by decide +kernel
  rw [exactly, size, cells]
  norm_num

theorem value_radius : Numeral.Binary64.value ({} : RelevanceConfig).radius = 27 / 8 := by
  have radius : Numeral.Binary64.value ({} : RelevanceConfig).radius =
      7599824371187712 * 2 ^ (-51 : ℤ) :=
    Numeral.Binary64.value_eq (by decide +kernel) (by decide +kernel)
  rw [radius]
  norm_num

theorem value_visibilityRadius :
    Numeral.Binary64.value ({} : Drawing.DrawingConfig).visibilityRadius = 884736 := by
  have radius : Numeral.Binary64.value ({} : Drawing.DrawingConfig).visibilityRadius =
      7599824371187712 * 2 ^ (-33 : ℤ) :=
    Numeral.Binary64.value_eq (by decide +kernel) (by decide +kernel)
  rw [radius]
  norm_num

theorem leavesRoom_standard : LeavesRoom ⟨524288, 32⟩ (27 / 8) 884736 where
  cellSize_pos := by norm_num
  cells_pos := by norm_num
  room := by
    have root : √2 ≤ 27 / 16 := (Real.sqrt_le_left (by norm_num)).mpr (by norm_num)
    norm_num
    linarith

/-- The engine's own configuration leaves room, and where there is room, the cell of an object that is
within the visibility radius of an observer is relevant to the observer's cell. -/
theorem coarse_filter_hides_nothing :
    LeavesRoom (exactly ({} : RelevanceConfig).geometry)
      (Numeral.Binary64.value ({} : RelevanceConfig).radius)
      (Numeral.Binary64.value ({} : Drawing.DrawingConfig).visibilityRadius) ∧
    ∀ {geometry : Geometry ℝ} {radius visibility : ℝ}, LeavesRoom geometry radius visibility →
      ∀ {observer position : Vec3 ℝ}, OnMap geometry observer → OnMap geometry position →
        geometry.distance .euclidean position observer < visibility →
          isRelevant (Cell.ofPosition observer geometry.cellSize)
            (Cell.ofPosition position geometry.cellSize) radius geometry.widthCells = true := by
  refine ⟨?_, ?_⟩
  · rw [exactly_standard, value_radius, value_visibilityRadius]
    exact leavesRoom_standard
  · intro geometry radius visibility leaves observer position observed placed near
    have ground := ground_distance_lt leaves.cellSize_pos near
    have counted : 0 < geometry.widthCells := by
      show (0 : ℝ) < ((geometry.cells : ℤ) : ℝ)
      exact_mod_cast leaves.cells_pos
    refine (isRelevant_iff _ _ _ _).mpr (.inr (lt_of_lt_of_le ?_ leaves.room))
    unfold cellDistance
    rw [observed.cell.1, observed.cell.2, placed.cell.1, placed.cell.2]
    exact sqrt_grown_lt ground ⟨distance_nonneg _ _, distance_nonneg _ _⟩
      ⟨axis_distance_le leaves.cellSize_pos counted _ _,
        axis_distance_le leaves.cellSize_pos counted _ _⟩

theorem onMap_of_abs_le {geometry : Geometry ℝ} {position : Vec3 ℝ}
    (few : ∀ v ∈ [position.x, position.z], |v / geometry.cellSize| ≤ 1000000000) :
    OnMap geometry position := by
  intro v member
  have size := abs_le.mp (few v member)
  have near := abs_le.mp (Exact.abs_rounded_sub_le (v / geometry.cellSize))
  constructor
  · have low : ((Cell.lowest : ℤ) : ℝ) ≤ Exact.rounded (v / geometry.cellSize) := by
      norm_num [Cell.lowest, Cell.sentinel]
      linarith
    exact_mod_cast low
  · have high : (Exact.rounded (v / geometry.cellSize) : ℝ) ≤ ((Cell.highest : ℤ) : ℝ) := by
      norm_num [Cell.highest]
      linarith
    exact_mod_cast high

/-- An observer and an object on two sides of the seam, two cells apart. -/
theorem coarse_filter_hides_nothing_acrossSeam :
    LeavesRoom ⟨524288, 32⟩ (27 / 8) 884736 ∧
    OnMap ⟨524288, 32⟩ ⟨314573, 0, 0⟩ ∧ OnMap ⟨524288, 32⟩ ⟨16252928, 0, 0⟩ ∧
    Geometry.distance ⟨524288, 32⟩ .euclidean (⟨16252928, 0, 0⟩ : Vec3 ℝ) ⟨314573, 0, 0⟩ < 884736 ∧
    isRelevant (Cell.ofPosition (⟨314573, 0, 0⟩ : Vec3 ℝ) 524288)
      (Cell.ofPosition (⟨16252928, 0, 0⟩ : Vec3 ℝ) 524288) (27 / 8)
      (Geometry.widthCells ⟨524288, 32⟩ : ℝ) = true := by
  have observed : OnMap ⟨524288, 32⟩ ⟨314573, 0, 0⟩ := onMap_of_abs_le (by norm_num)
  have placed : OnMap ⟨524288, 32⟩ ⟨16252928, 0, 0⟩ := onMap_of_abs_le (by norm_num)
  have near : Geometry.distance ⟨524288, 32⟩ .euclidean (⟨16252928, 0, 0⟩ : Vec3 ℝ) ⟨314573, 0, 0⟩ <
      884736 := by
    have across : |Torus.Rollover.delta ((16252928 : ℝ) - 314573) (524288 * 32)| ≤ 838861 := by
      refine (distance_le (by norm_num) _ 1).trans ?_
      norm_num
    have level : Torus.Rollover.delta ((0 : ℝ) - 0) (524288 * 32) = 0 := by
      norm_num [Torus.Rollover.delta_eq]
    have squared := mul_self_le_mul_self (abs_nonneg _) across
    rw [abs_mul_abs_self] at squared
    show √(Torus.Rollover.delta ((16252928 : ℝ) - 314573) (524288 * 32) *
      Torus.Rollover.delta ((16252928 : ℝ) - 314573) (524288 * 32) +
      Torus.Rollover.delta ((0 : ℝ) - 0) (524288 * 32) * Torus.Rollover.delta ((0 : ℝ) - 0) (524288 * 32) +
      Torus.Rollover.delta ((0 : ℝ) - 0) (524288 * 32) * Torus.Rollover.delta ((0 : ℝ) - 0) (524288 * 32))
        < 884736
    rw [level, Real.sqrt_lt' (by norm_num)]
    linarith
  exact ⟨leavesRoom_standard, observed, placed, near,
    coarse_filter_hides_nothing.2 leavesRoom_standard observed placed near⟩

end TorusEngine.Relevance
