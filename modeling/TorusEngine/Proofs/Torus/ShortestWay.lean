import TorusEngine.Proofs.Numeral.Doubles
import TorusEngine.Proofs.Torus.Rollover
import TorusEngine.Torus.Geometry

/-!
# Distances on the torus

Read exactly, `delta` takes the shortest way round, which depends on the difference modulo the width
alone, and so the taxicab distances are metrics on the positions modulo the width
(`Geometry.distance`, `Geometry.groundDistance`). On doubles `delta` computes the same numbers without
rounding, if the width can be halved: the half is the only step that may be rounded.
-/

namespace TorusEngine.Torus

/-! ## Metrics modulo an equivalence -/

section Metrics

variable {α β : Type}

structure Separates (same : Setoid α) (d : α → α → ℝ) : Prop where
  zero_iff : ∀ a b, d a b = 0 ↔ same a b
  symm : ∀ a b, d a b = d b a
  triangle : ∀ a b c, d a c ≤ d a b + d b c

def IsMetricOn (same : Setoid α) (d : α → α → ℝ) : Prop :=
  ∃ metric : MetricSpace (Quotient same), ∀ a b, metric.dist ⟦a⟧ ⟦b⟧ = d a b

namespace Separates

variable {same same' : Setoid α} {d e : α → α → ℝ}

theorem nonneg (separates : Separates same d) (a b : α) : 0 ≤ d a b := by
  have around := separates.triangle a b a
  rw [(separates.zero_iff a a).mpr (same.refl a), separates.symm b a] at around
  linarith

theorem le_of_same (separates : Separates same d) {a b a' b' : α} (first : same a a')
    (second : same b b') : d a b ≤ d a' b' := by
  have start := separates.triangle a a' b
  have finish := separates.triangle a' b' b
  rw [(separates.zero_iff a a').mpr first] at start
  rw [(separates.zero_iff b' b).mpr (same.symm second)] at finish
  linarith

theorem isMetricOn (separates : Separates same d) : IsMetricOn same d := by
  have congr : ∀ a b a' b', same a a' → same b b' → d a b = d a' b' :=
    fun a b a' b' first second => le_antisymm (separates.le_of_same first second)
      (separates.le_of_same (same.symm first) (same.symm second))
  refine ⟨
    { dist := Quotient.lift₂ d congr
      dist_self := ?_
      dist_comm := ?_
      dist_triangle := ?_
      eq_of_dist_eq_zero := ?_ }, fun a b => rfl⟩
  · rintro ⟨a⟩
    exact (separates.zero_iff a a).mpr (same.refl a)
  · rintro ⟨a⟩ ⟨b⟩
    exact separates.symm a b
  · rintro ⟨a⟩ ⟨b⟩ ⟨c⟩
    exact separates.triangle a b c
  · rintro ⟨a⟩ ⟨b⟩ zero
    exact Quotient.sound ((separates.zero_iff a b).mp zero)

theorem comap (separates : Separates same d) (f : β → α) :
    Separates (same.comap f) fun a b => d (f a) (f b) where
  zero_iff _ _ := separates.zero_iff _ _
  symm _ _ := separates.symm _ _
  triangle _ _ _ := separates.triangle _ _ _

theorem add (separates : Separates same d) (other : Separates same' e) :
    Separates (same ⊓ same') fun a b => d a b + e a b where
  zero_iff a b := by
    rw [add_eq_zero_iff_of_nonneg (separates.nonneg a b) (other.nonneg a b), separates.zero_iff,
      other.zero_iff]
    rfl
  symm a b := by rw [separates.symm, other.symm]
  triangle a b c := by
    have first := separates.triangle a b c
    have second := other.triangle a b c
    linarith

end Separates

end Metrics

/-! ## The shortest way round, read exactly -/

namespace Rollover

section Exact

variable {width : ℝ}

theorem delta_of_near {v : ℝ} (near : |v| ≤ width / 2) : delta v width = v := by
  rw [delta_eq, if_pos (abs_le.mp near)]

theorem delta_neg (positive : 0 < width) (v : ℝ) : delta (-v) width = -delta v width := by
  by_cases near : |v| ≤ width / 2
  · rw [delta_of_near near, delta_of_near (by rwa [abs_neg])]
  · have nonzero : v ≠ 0 := by
      rintro rfl
      rw [abs_zero] at near
      linarith
    have far (u : ℝ) (same : |u| = |v|) : ¬(-(width / 2) ≤ u ∧ u ≤ width / 2) := by
      rwa [← abs_le, same]
    rw [delta_eq, delta_eq, if_neg (far _ (abs_neg v)), if_neg (far v rfl), abs_neg]
    rcases nonzero.lt_or_gt with negative | positive
    · simp only [negative, neg_lt_zero, negative.not_gt, if_true, if_false, neg_neg]
    · simp only [positive, neg_lt_zero, positive.not_gt, if_true, if_false]

theorem isLeast_distance (positive : 0 < width) (v : ℝ) :
    IsLeast (Set.range fun times : ℤ => |v - times * width|) (distance v width) := by
  constructor
  · obtain ⟨times, same⟩ := exists_distance_eq positive v
    exact ⟨times, same.symm⟩
  · rintro _ ⟨times, rfl⟩
    exact distance_le positive v times

theorem distance_add_mul_le (positive : 0 < width) (v : ℝ) (times : ℤ) :
    distance (v + times * width) width ≤ distance v width := by
  obtain ⟨count, same⟩ := exists_distance_eq positive v
  refine (distance_le positive _ (count + times)).trans_eq ?_
  rw [same]
  push_cast
  ring_nf

theorem distance_add_mul (positive : 0 < width) (v : ℝ) (times : ℤ) :
    distance (v + times * width) width = distance v width := by
  refine le_antisymm (distance_add_mul_le positive v times) ?_
  have back := distance_add_mul_le positive (v + times * width) (-times)
  rwa [Int.cast_neg, neg_mul, add_neg_cancel_right] at back

theorem distance_neg (positive : 0 < width) (v : ℝ) : distance (-v) width = distance v width := by
  rw [distance_eq, distance_eq, delta_neg positive, abs_neg]

theorem distance_triangle (positive : 0 < width) (a b c : ℝ) :
    distance (a - c) width ≤ distance (a - b) width + distance (b - c) width := by
  obtain ⟨first, same⟩ := exists_distance_eq positive (a - b)
  obtain ⟨second, same'⟩ := exists_distance_eq positive (b - c)
  calc distance (a - c) width ≤ |a - c - ((first + second : ℤ) : ℝ) * width| := distance_le positive _ _
    _ = |(a - b - first * width) + (b - c - second * width)| := by
        push_cast
        ring_nf
    _ ≤ distance (a - b) width + distance (b - c) width := by
        rw [same, same']
        exact abs_add_le _ _

open AddCommGroup (ModEq)

def congruent (width : ℝ) : Setoid ℝ where
  r := ModEq width
  iseqv := ⟨AddCommGroup.modEq_refl, ModEq.symm, ModEq.trans⟩

theorem separates (positive : 0 < width) :
    Separates (congruent width) fun a b => distance (a - b) width where
  zero_iff a b := by
    show _ ↔ ModEq width a b
    rw [AddCommGroup.modEq_comm, AddCommGroup.modEq_iff_zsmul']
    constructor
    · intro zero
      obtain ⟨times, same⟩ := exists_distance_eq positive (a - b)
      rw [zero, eq_comm, abs_eq_zero, sub_eq_zero] at same
      exact ⟨times, by rw [same, zsmul_eq_mul]⟩
    · rintro ⟨times, same⟩
      refine le_antisymm ((distance_le positive _ times).trans_eq ?_) (distance_nonneg _ _)
      rw [same, zsmul_eq_mul, sub_self, abs_zero]
  symm a b := by rw [← distance_neg positive, neg_sub]
  triangle := distance_triangle positive

end Exact

section Doubles

open Numeral (Binary64.StandsFor Binary64.standsFor_iff Binary64.fits_half_iff Fits.sub_of_near)

variable {v width : Float} {x w : ℝ}

/-- The steps of `delta` on doubles compute what they compute on the numbers. -/
structure ExactSteps (v width : Float) (x w : ℝ) : Prop where
  half : Binary64.StandsFor (width / Scalar.ofInt 2) (w / 2)
  near : (Scalar.le (-(width / Scalar.ofInt 2)) v && Scalar.le v (width / Scalar.ofInt 2)) =
    decide (|x| ≤ w / 2)
  rest : Binary64.StandsFor (Scalar.remainder (Scalar.abs v) width) (Scalar.remainder |x| w)
  beyond : Scalar.lt (width / Scalar.ofInt 2) (Scalar.remainder (Scalar.abs v) width) =
    decide (w / 2 < Scalar.remainder |x| w)
  folded : w / 2 < Scalar.remainder |x| w → Binary64.StandsFor
    (Scalar.remainder (Scalar.abs v) width - width) (Scalar.remainder |x| w - w)
  delta : Binary64.StandsFor (delta v width) (delta x w)
  distance : Binary64.StandsFor (distance v width) (distance x w)

/-- What is left of a length and is longer than half a width is near enough to the width to take the width
from it exactly. -/
theorem exactSteps (stands : Binary64.StandsFor v x) (wide : Binary64.StandsFor width w)
    (positive : 0 < w) (even : ∃ count : ℕ, w = count * 2 ^ (-1073 : ℤ)) :
    ExactSteps v width x w := by
  have half := wide.half ((Binary64.fits_half_iff wide.fits positive.le).mpr even)
  have rest := stands.abs.remainder wide positive.ne'
  have zero : Binary64.StandsFor (Scalar.ofInt 0) 0 := Binary64.standsFor_iff.mpr (.zero .positive)
  have near : (Scalar.le (-(width / Scalar.ofInt 2)) v && Scalar.le v (width / Scalar.ofInt 2)) =
      decide (|x| ≤ w / 2) := by
    rw [half.neg.le stands, stands.le half, ← Bool.decide_and]
    exact decide_eq_decide.mpr abs_le.symm
  have beyond := half.lt rest
  obtain ⟨nonneg, short⟩ := rest_bounds positive (abs_nonneg x)
  have folded (far : w / 2 < Scalar.remainder |x| w) := rest.sub wide
    (Fits.sub_of_near rest.fits wide.fits ⟨nonneg, short.le.trans (by linarith)⟩
      ⟨positive.le, by linarith⟩)
  have way : Binary64.StandsFor (delta v width) (delta x w) := by
    rw [delta_eq, delta]
    simp only [near, beyond, stands.lt zero, decide_eq_true_eq, abs_le]
    split
    · exact stands
    · have length : Binary64.StandsFor
          (if w / 2 < Scalar.remainder |x| w then Scalar.remainder (Scalar.abs v) width - width
            else Scalar.remainder (Scalar.abs v) width)
          (if w / 2 < Scalar.remainder |x| w then Scalar.remainder |x| w - w
            else Scalar.remainder |x| w) := by
        split
        · exact folded ‹_›
        · exact rest
      split
      · exact length.neg
      · exact length
  exact ⟨half, near, rest, beyond, folded, way, way.abs⟩

end Doubles

end Rollover

/-! ## Distances of positions -/

open Rollover (congruent delta distance)

/-- Two names of one point: whole widths apart on every axis. -/
def samePoint (width : ℝ) : Setoid (Vec3 ℝ) :=
  (congruent width).comap Vec3.x ⊓ (congruent width).comap Vec3.y ⊓ (congruent width).comap Vec3.z

/-- Two names of points above one place on the ground. -/
def samePlace (width : ℝ) : Setoid (Vec3 ℝ) :=
  (congruent width).comap Vec3.x ⊓ (congruent width).comap Vec3.z

/-- The folded difference is the shortest signed way round, and the distances made of such ways are
metrics on the positions modulo the width. -/
structure ShortestWay (width : ℝ) : Prop where
  bounded : ∀ v, -(width / 2) ≤ delta v width ∧ delta v width ≤ width / 2
  whole : ∀ v, ∃ times : ℤ, v - delta v width = times * width
  near : ∀ v, |v| ≤ width / 2 → delta v width = v
  odd : ∀ v, delta (-v) width = -delta v width
  idempotent : ∀ v, delta (delta v width) width = delta v width
  least : ∀ v, IsLeast (Set.range fun times : ℤ => |v - times * width|) (distance v width)
  periodic : ∀ v (times : ℤ), distance (v + times * width) width = distance v width
  triangle : ∀ a b c, distance (a - c) width ≤ distance (a - b) width + distance (b - c) width
  taxicab : ∀ geometry : Geometry ℝ, geometry.width = width →
    IsMetricOn (samePoint width) (geometry.distance .taxicab)
  ground : ∀ geometry : Geometry ℝ, geometry.width = width →
    IsMetricOn (samePlace width) geometry.groundDistance

theorem shortestWay {width : ℝ} (positive : 0 < width) : ShortestWay width where
  bounded v := abs_le.mp (Rollover.abs_delta_le positive v)
  whole v := by
    obtain ⟨times, same⟩ := Rollover.delta_eq_sub positive v
    exact ⟨times, by rw [same, sub_sub_cancel]⟩
  near _ := Rollover.delta_of_near
  odd := Rollover.delta_neg positive
  idempotent v := Rollover.delta_of_near (Rollover.abs_delta_le positive v)
  least := Rollover.isLeast_distance positive
  periodic := Rollover.distance_add_mul positive
  triangle := Rollover.distance_triangle positive
  taxicab := by
    rintro geometry rfl
    have axis := Rollover.separates positive
    exact (((axis.comap Vec3.x).add (axis.comap Vec3.y)).add (axis.comap Vec3.z)).isMetricOn
  ground := by
    rintro geometry rfl
    have axis := Rollover.separates positive
    exact ((axis.comap Vec3.x).add (axis.comap Vec3.z)).isMetricOn

open Numeral (Binary64.value Dyadic.value)

/-- The width is a multiple of twice the least double, so that its half is a double. -/
def Halvable (width : Float) : Prop := ∃ count : ℕ, Binary64.value width = Dyadic.value ⟨count, -1073⟩

/-- Folding takes the shortest signed way round. On doubles no step of it is rounded, if and only if the
width can be halved, as every width from `2 ^ -1021` on can. -/
theorem shortest_way_round {edge : ℝ} (positive : 0 < edge) {v width : Float}
    (finite : v.isFinite = true) (wide : 0 < Binary64.value width) :
    ShortestWay edge ∧
      (Rollover.ExactSteps v width (Binary64.value v) (Binary64.value width) ↔ Halvable width) ∧
      (2 ^ (-1021 : ℤ) ≤ Binary64.value width → Halvable width) := by
  have stands := Numeral.Binary64.standsFor_of_value_ne_zero wide.ne'
  refine ⟨shortestWay positive, ⟨fun steps => ?_, ?_⟩, Numeral.Binary64.exists_count_of_le stands.fits⟩
  · exact (Numeral.Binary64.fits_half_iff stands.fits wide.le).mp steps.half.fits
  · exact Rollover.exactSteps ⟨finite, rfl⟩ stands wide

/-- A difference of one and a half widths to the left, in a world of sixteen units. -/
theorem shortest_way_round_midpoint :
    (0 : ℝ) < 16 ∧ (Float.ofBits 0xC038000000000000).isFinite = true ∧
      0 < Binary64.value (Float.ofBits 0x4030000000000000) ∧ ShortestWay 16 ∧
      Halvable (Float.ofBits 0x4030000000000000) ∧
      Rollover.ExactSteps (Float.ofBits 0xC038000000000000) (Float.ofBits 0x4030000000000000)
        (Binary64.value (Float.ofBits 0xC038000000000000))
        (Binary64.value (Float.ofBits 0x4030000000000000)) := by
  have sixteen : (0 : ℝ) < 16 := by norm_num
  have finite : (Float.ofBits 0xC038000000000000).isFinite = true := by decide +kernel
  have width : Binary64.value (Float.ofBits 0x4030000000000000) = 16 := by
    have read : Binary64.value (Float.ofBits 0x4030000000000000) = (2 ^ 52 : ℕ) * 2 ^ (-48 : ℤ) :=
      Numeral.Binary64.value_eq (by decide +kernel) (by decide +kernel)
    rw [read]
    norm_num
  have wide : 0 < Binary64.value (Float.ofBits 0x4030000000000000) := width ▸ sixteen
  have large : (2 : ℝ) ^ (-1021 : ℤ) ≤ 16 :=
    (zpow_le_one_of_nonpos₀ (by norm_num) (by norm_num)).trans (by norm_num)
  obtain ⟨way, steps, halvable⟩ := shortest_way_round sixteen finite wide
  rw [width] at halvable
  exact ⟨sixteen, finite, wide, way, halvable large, steps.mpr (halvable large)⟩

/-- A normal width in the lowest binade with an odd last place: its half is rounded up to the difference,
which is then taken for a way of at most half a width. -/
theorem odd_width_is_rounded :
    (Float.ofBits 0x0008000000000002).isFinite = true ∧
      Numeral.Binary64.exponentField (Float.ofBits 0x0010000000000003).toBits = 1 ∧
      0 < Binary64.value (Float.ofBits 0x0010000000000003) ∧
      ¬ Rollover.ExactSteps (Float.ofBits 0x0008000000000002) (Float.ofBits 0x0010000000000003)
        (Binary64.value (Float.ofBits 0x0008000000000002))
        (Binary64.value (Float.ofBits 0x0010000000000003)) ∧
      Binary64.value (Float.ofBits 0x0010000000000003) / 2 <
        Binary64.value (delta (Float.ofBits 0x0008000000000002) (Float.ofBits 0x0010000000000003)) := by
  have least : (0 : ℝ) < 2 ^ (-1074 : ℤ) := zpow_pos (by norm_num) _
  have difference : Binary64.value (Float.ofBits 0x0008000000000002) =
      (0x8000000000002 : ℕ) * 2 ^ (-1074 : ℤ) :=
    Numeral.Binary64.value_eq (by decide +kernel) (by decide +kernel)
  have width : Binary64.value (Float.ofBits 0x0010000000000003) =
      (0x10000000000003 : ℕ) * 2 ^ (-1074 : ℤ) :=
    Numeral.Binary64.value_eq (by decide +kernel) (by decide +kernel)
  have unchanged : delta (Float.ofBits 0x0008000000000002) (Float.ofBits 0x0010000000000003) =
      Float.ofBits 0x0008000000000002 := by decide +kernel
  have beyond : Binary64.value (Float.ofBits 0x0010000000000003) / 2 <
      Binary64.value (delta (Float.ofBits 0x0008000000000002) (Float.ofBits 0x0010000000000003)) := by
    rw [unchanged, difference, width, mul_div_right_comm]
    exact mul_lt_mul_of_pos_right (by norm_num) least
  have wide : 0 < Binary64.value (Float.ofBits 0x0010000000000003) := by
    rw [width]
    positivity
  refine ⟨by decide +kernel, by decide +kernel, wide, fun steps => ?_, beyond⟩
  rw [steps.delta.value] at beyond
  exact beyond.not_ge ((shortestWay wide).bounded _).2

end TorusEngine.Torus
