import TorusEngine.Json.Number
import TorusEngine.Proofs.Numeral.Products

/-!
# Scaling numbers in JSON text

A significand is scaled in double arithmetic. With a significand of 53 places and a power of ten that
is a double there is one rounding only, so every decimal in the interval of a double is read as that
double (`toDouble_exact`). With more places there are up to three roundings, and the result need not
be the nearest double; it is finite wherever it is not refused (`scale_finite`).
-/

namespace TorusEngine.Json.NumberText

open Numeral
open Numeral.Binary64

variable {significand : Nat} {exponent : Int}

section Finite

variable {fuel : Nat} {number result : Float} {size : ℝ}

theorem scale_succ (small : exponent.natAbs ≤ 308) : scale (fuel + 1) number exponent =
    if exponent < 0 then .ok (number / Float.ofScientific 1 false exponent.natAbs)
    else if (number * Float.ofScientific 1 false exponent.natAbs).isInf then .error .malformed
    else .ok (number * Float.ofScientific 1 false exponent.natAbs) := by
  rw [scale, if_pos small]

theorem one_le_power {places : Nat} (small : places ≤ 308) :
    1 ≤ Binary64.value (Float.ofScientific 1 false places) := by
  rcases Nat.lt_or_ge 22 places with large | exact
  · have many : (10 : ℝ) ^ 22 ≤ 10 ^ places := pow_le_pow_right₀ (by norm_num) large.le
    refine le_trans ?_ (approximates_power small).mul_le
    nlinarith
  · rw [(standsFor_power exact).value]
    exact one_le_pow₀ (by norm_num)

theorem scale_finite (stands : StandsFor number size) (nonneg : 0 ≤ size)
    (scaled : scale fuel number exponent = .ok result) : result.isFinite = true := by
  induction fuel generalizing number size exponent with
  | zero =>
      cases scaled
      exact stands.finite
  | succ fuel ih =>
      rcases Nat.lt_or_ge 308 exponent.natAbs with large | small
      · rw [scale, if_neg large.not_ge] at scaled
        split_ifs at scaled
        · cases scaled
          exact stands.finite
        · obtain ⟨less, stands', nonneg'⟩ :=
            stands.div_finite (approximates_power le_rfl).standsFor nonneg (one_le_power le_rfl)
          exact ih stands' nonneg' scaled
      · rw [scale_succ small] at scaled
        split_ifs at scaled with negative infinite
        · cases scaled
          obtain ⟨less, stands', -⟩ :=
            stands.div_finite (approximates_power small).standsFor nonneg (one_le_power small)
          exact stands'.finite
        · cases scaled
          exact isFinite_mul stands.finite (approximates_power small).finite
            (Bool.not_eq_true _ ▸ infinite)

/-- Numbers are only refused for being too large. -/
theorem scale_of_neg (negative : exponent < 0) : ∃ result, scale fuel number exponent = .ok result := by
  induction fuel generalizing number exponent with
  | zero => exact ⟨number, rfl⟩
  | succ fuel ih =>
      rcases Nat.lt_or_ge 308 exponent.natAbs with large | small
      · rw [scale, if_neg large.not_ge]
        split_ifs with none up
        · exact ⟨number, rfl⟩
        · omega
        · exact ih (by omega)
      · rw [scale_succ small, if_pos negative]
        exact ⟨_, rfl⟩

end Finite

/-! ## The scaled number -/

theorem div_power (negative : exponent < 0) :
    (significand / 10 ^ exponent.natAbs : ℝ) = significand * 10 ^ exponent := by
  rw [zpow_eq_div (by norm_num) exponent, Int.toNat_of_nonpos negative.le, pow_zero, mul_one_div]
  congr 2
  omega

theorem mul_power (nonneg : 0 ≤ exponent) :
    (significand * 10 ^ exponent.natAbs : ℝ) = significand * 10 ^ exponent := by
  rw [← zpow_natCast]
  congr 2
  omega

theorem normal_significand {number : Float} (natural : Approximates number significand)
    (some : 0 < significand) : 2 ^ (-1022 : ℤ) ≤ Binary64.value number := by
  have whole : (1 : ℝ) ≤ significand := Nat.one_le_cast.mpr some
  calc (2 : ℝ) ^ (-1022 : ℤ) ≤ 2 ^ (-1 : ℤ) := zpow_le_zpow_right₀ one_le_two (by norm_num)
    _ ≤ significand * (1 - 1 / 2 ^ 53) := by
        norm_num
        linarith
    _ ≤ Binary64.value number := natural.mul_le

/-! ## Exact scaling -/

section Exact

variable {number : Float} {size : Numeral.Dyadic}

theorem scale_exact (canonical : size.Canonical)
    (contained : (RoundingInterval.ofMagnitude size).Contains (significand * 10 ^ exponent))
    (some : 0 < significand) (short : significand < 2 ^ 53) (small : exponent.natAbs ≤ 22) :
    scale 4 (UInt64.ofNat significand).toFloat exponent = .ok (positive size canonical) := by
  have natural := standsFor_ofNat short
  have power := standsFor_power small
  have whole : (1 : ℝ) ≤ significand := Nat.one_le_cast.mpr some
  have power_pos : (0 : ℝ) < 10 ^ exponent.natAbs := by positivity
  rw [scale_succ (small.trans (by norm_num))]
  split_ifs with negative infinite
  · obtain ⟨_, _, _, _, pending, same⟩ := natural.div_unpack power (by linarith) power_pos
    rw [div_power negative] at pending
    rw [same, pending.rounds_to canonical contained]
    rfl
  all_goals
    have normal : (2 : ℝ) ^ (-1022 : ℤ) ≤ significand :=
      (zpow_le_one_of_nonpos₀ one_le_two (by norm_num)).trans whole
    obtain ⟨_, _, _, pending, same⟩ := natural.mul_unpack power normal power_pos
    rw [mul_power (not_lt.mp negative)] at pending
    rw [pending.rounds_to canonical contained] at same
    have found : (UInt64.ofNat significand).toFloat * Float.ofScientific 1 false exponent.natAbs =
      positive size canonical := same
  · rw [found, not_isInf_of_isFinite standsFor_positive.finite] at infinite
    cases infinite
  · rw [found]

theorem toDouble_exact (read : magnitude? number.toBits = some size) (nonzero : size.mantissa ≠ 0)
    (contained : (RoundingInterval.ofMagnitude size).Contains (significand * 10 ^ exponent))
    (some : 0 < significand) (short : significand < 2 ^ 53) (small : exponent.natAbs ≤ 22) :
    toDouble (isNegative number.toBits) significand exponent = .ok (.real number) := by
  obtain ⟨range, full⟩ := inRange_of_magnitude read
  have canonical : size.Canonical := ⟨range, Nat.pos_of_ne_zero nonzero, full⟩
  have same := eq_positive read canonical
  rw [toDouble, scale_exact canonical contained some short small]
  exact congrArg (fun number => Except.ok (Number.real number)) same.symm

theorem toDouble_zero (read : magnitude? number.toBits = some size) (zero : size.mantissa = 0) :
    toDouble (isNegative number.toBits) 0 (-1) = .ok (.real number) := by
  have unpacked := unpack_of_magnitude read
  rw [dif_pos zero, signOf] at unpacked
  have same : number = if isNegative number.toBits then -0.0 else 0.0 := by
    refine eq_of_unpack (holds_of_magnitude read).isFinite (unpacked.trans ?_)
    split <;> rfl
  have scaled : scale 4 (UInt64.ofNat 0).toFloat (-1) = .ok 0.0 := by
    rw [scale_succ (by decide), if_pos (by decide)]
    rfl
  rw [toDouble, scaled]
  exact congrArg (fun number => Except.ok (Number.real number)) same.symm

end Exact

/-! ## The error of scaling -/

section Error

/-- Three roundings are off by five half places at most. -/
theorem near_of_bounds {number : Float} {size target : ℝ} (approximates : Approximates number size)
    (positive : 0 < target) (low : target * (1 - 3 / 2 ^ 53) ≤ size)
    (high : size ≤ target * (1 + 3 / 2 ^ 53)) :
    |Binary64.value number - target| ≤ target * (5 / 2 ^ 53) := by
  have least := approximates.mul_le
  have most := approximates.le_mul
  rw [abs_le]
  constructor <;> linarith

/-- The sizes at which neither a product nor a quotient of approximations leaves the normal doubles. -/
theorem normal_of_bounds {size target : ℝ} (low : 2 ^ (-980 : ℤ) ≤ target)
    (high : target ≤ 2 ^ (1001 : ℤ)) (least : target * (1 - 3 / 2 ^ 53) ≤ size)
    (most : size ≤ target * (1 + 3 / 2 ^ 53)) : 2 ^ (-1022 : ℤ) ≤ size ∧ size < overflow := by
  have positive : 0 < target := (zpow_pos two_pos _).trans_le low
  have down : (2 : ℝ) ^ (-1022 : ℤ) ≤ 2 ^ (-981 : ℤ) := zpow_le_zpow_right₀ one_le_two (by norm_num)
  have up : (2 : ℝ) ^ (1002 : ℤ) ≤ 2 ^ (1023 : ℤ) := zpow_le_zpow_right₀ one_le_two (by norm_num)
  rw [show (-980 : ℤ) = -981 + 1 from rfl, zpow_add_one₀ two_ne_zero] at low
  rw [show (1002 : ℤ) = 1001 + 1 from rfl, zpow_add_one₀ two_ne_zero] at up
  have double : target * (1 + 3 / 2 ^ 53) ≤ target * 2 :=
    mul_le_mul_of_nonneg_left (by norm_num) positive.le
  have twice : target * 2 ≤ 2 ^ (1001 : ℤ) * 2 := mul_le_mul_of_nonneg_right high two_pos.le
  exact ⟨by linarith, lt_overflow (most.trans (double.trans (twice.trans up)))⟩

theorem scale_near (some : 0 < significand) (short : significand < 2 ^ 64)
    (few : exponent.natAbs ≤ 308) (low : (2 : ℝ) ^ (-980 : ℤ) ≤ significand * 10 ^ exponent)
    (high : (significand * 10 ^ exponent : ℝ) ≤ 2 ^ (1001 : ℤ)) :
    ∃ result, scale 4 (UInt64.ofNat significand).toFloat exponent = .ok result ∧
      |Binary64.value result - significand * 10 ^ exponent| ≤
        significand * 10 ^ exponent * (5 / 2 ^ 53) := by
  have natural := approximates_ofNat some short
  have power := approximates_power few
  have whole : (0 : ℝ) < significand := Nat.cast_pos.mpr some
  have step : (0 : ℝ) < 10 ^ exponent.natAbs := by positivity
  have positive : (0 : ℝ) < significand * 10 ^ exponent := by positivity
  rcases lt_or_ge exponent 0 with negative | nonneg
  · obtain ⟨least, most⟩ := natural.div_bounds power whole step
    rw [div_power negative] at least most
    obtain ⟨normal, small⟩ := normal_of_bounds low high least most
    rw [scale_succ few, if_pos negative]
    exact ⟨_, rfl, near_of_bounds (natural.standsFor.div_approximates power.standsFor
      (natural.pos whole) (power.pos step) normal small) positive least most⟩
  · obtain ⟨least, most⟩ := natural.mul_bounds power whole step
    rw [mul_power nonneg] at least most
    obtain ⟨normal, small⟩ := normal_of_bounds low high least most
    have product := natural.standsFor.mul_approximates power.standsFor (normal_significand natural some)
      (power.pos step) normal small
    rw [scale_succ few, if_neg nonneg.not_gt, if_neg (Bool.eq_false_iff.mp
      (not_isInf_of_isFinite product.finite))]
    exact ⟨_, rfl, near_of_bounds product positive least most⟩

end Error

/-! ## Shortest decimals are not refused -/

section Shortest

/-- A bound with room for three roundings below the overflow. -/
def bound : Nat := 17976931348623150 * 10 ^ 292

theorem bound_mul_lt : bound * (1 + 1 / 2 ^ 53) * (1 + 1 / 2 ^ 53) < overflow := by
  have above : 17976931348623155 * 10 ^ 292 < 18014398509481983 * 2 ^ 970 := by decide +kernel
  have above := lt_overflow_of_nat above
  rw [bound]
  generalize 10 ^ 292 = power at *
  have nonneg : (0 : ℝ) ≤ power := Nat.cast_nonneg power
  refine lt_of_le_of_lt ?_ above
  push_cast
  linarith

theorem bound_lt {places : Nat} (many : 308 < places) : bound < 10 ^ places :=
  lt_of_lt_of_le (by decide +kernel) (Nat.pow_le_pow_right (by norm_num) (Nat.succ_le_of_lt many))

theorem scale_of_le_bound {places : Nat} (some : 0 < significand) (short : significand < 2 ^ 64)
    (small : significand * 10 ^ places ≤ bound) :
    ∃ result, scale 4 (UInt64.ofNat significand).toFloat places = .ok result := by
  have few : places ≤ 308 := by
    by_contra many
    have large : 10 ^ places ≤ significand * 10 ^ places := Nat.le_mul_of_pos_left _ some
    exact ((bound_lt (Nat.not_le.mp many)).trans_le large).not_ge small
  have natural := approximates_ofNat some short
  have power := approximates_power few
  have whole : (1 : ℝ) ≤ significand := Nat.one_le_cast.mpr some
  have step : (0 : ℝ) < 10 ^ places := by positivity
  have finite : ((UInt64.ofNat significand).toFloat *
      Float.ofScientific 1 false places).isFinite = true := by
    refine natural.standsFor.mul_finite power.standsFor (normal_significand natural some)
      (power.pos step) ?_
    · calc Binary64.value (UInt64.ofNat significand).toFloat *
            Binary64.value (Float.ofScientific 1 false places)
          ≤ significand * (1 + 1 / 2 ^ 53) * (10 ^ places * (1 + 1 / 2 ^ 53)) :=
            mul_le_mul natural.le_mul power.le_mul (power.pos step).le (by positivity)
        _ = (significand * 10 ^ places : ℕ) * (1 + 1 / 2 ^ 53) * (1 + 1 / 2 ^ 53) := by
            push_cast
            ring
        _ ≤ bound * (1 + 1 / 2 ^ 53) * (1 + 1 / 2 ^ 53) := by gcongr
        _ < overflow := bound_mul_lt
  rw [scale_succ (by simpa using few), if_neg (by omega), Int.natAbs_natCast,
    if_neg (Bool.eq_false_iff.mp (not_isInf_of_isFinite finite))]
  exact ⟨_, rfl⟩

/-- The largest double is the only one whose decimal comes nearer to the overflow, and the decimals next
to it are products that are not infinite. -/
theorem scale_of_near_bound {significand : Nat} (above : 17976931348623150 < significand)
    (below : significand < 17976931348623158) :
    ∃ result, scale 4 (UInt64.ofNat significand).toFloat (292 : ℕ) = .ok result := by
  have finite : ((UInt64.ofNat significand).toFloat * Float.ofScientific 1 false 292).isInf = false := by
    interval_cases significand <;> decide +kernel
  rw [scale_succ (by decide), if_neg (by decide)]
  exact ⟨_, if_neg (Bool.eq_false_iff.mp finite)⟩

theorem lt_of_mul_ten_pow {n count : Nat} (places : Nat)
    (lt : n * 10 ^ places < count * 10 ^ places) : n < count :=
  Nat.lt_of_mul_lt_mul_right lt

theorem mul_ten_pow_le {digits count limit least places : Nat} (coarser : least ≤ places)
    (below : digits * 10 ^ places ≤ limit) (room : limit < (count + 1) * 10 ^ least) :
    digits * 10 ^ places ≤ count * 10 ^ least := by
  obtain ⟨more, rfl⟩ := Nat.exists_eq_add_of_le coarser
  have parts : digits * 10 ^ (least + more) = digits * 10 ^ more * 10 ^ least := by
    rw [Nat.pow_add]
    ring
  rw [parts] at below ⊢
  exact Nat.mul_le_mul_right _ (Nat.le_of_lt_succ (lt_of_mul_ten_pow least (below.trans_lt room)))

theorem le_mul_two_pow {n count : Nat} (places : Nat)
    (le : (n : ℝ) ≤ count * 2 ^ (places : ℤ)) : n ≤ count * 2 ^ places := by
  exact_mod_cast le

theorem mul_two_pow_le {n count : Nat} (places : Nat)
    (le : (count * 2 ^ (places : ℤ) : ℝ) ≤ n) : count * 2 ^ places ≤ n := by
  exact_mod_cast le

/-- On grids as coarse as the large doubles need, few decimals lie between the bound and the second
largest double. -/
theorem le_bound_or_near {digits places : Nat} (coarse : 292 ≤ places)
    (below : digits * 10 ^ places ≤ 36028797018963962 * 2 ^ 969) :
    digits * 10 ^ places ≤ bound ∨
      places = 292 ∧ 17976931348623150 < digits ∧ digits < 17976931348623158 := by
  rcases coarse.eq_or_lt with rfl | coarser
  · refine or_iff_not_imp_left.mpr fun large => ⟨rfl, ?_, ?_⟩
    · exact lt_of_mul_ten_pow 292 (lt_of_le_of_lt (by decide +kernel) (Nat.not_le.mp large))
    · exact lt_of_mul_ten_pow 292 (below.trans_lt (by decide +kernel))
  · have small := @mul_ten_pow_le digits 1797693134862315 _ 293 places coarser below (by decide +kernel)
    exact .inl (small.trans (by decide +kernel))

variable {size : Numeral.Dyadic}

theorem scale_shortest (canonical : size.Canonical) :
    ∃ result, scale 4 (UInt64.ofNat (shortest .toEven size).digits).toFloat
      (shortest .toEven size).exponent = .ok result := by
  obtain ⟨⟨some, -, high, -⟩, narrow⟩ := shortest_spec canonical .toEven
  have short := (shortest_digits_lt canonical .toEven).trans (by norm_num : 2 ^ 57 < 2 ^ 64)
  rcases lt_or_ge (shortest .toEven size).exponent 0 with negative | nonneg
  · exact scale_of_neg negative
  by_cases largest : size = ⟨2 ^ 53 - 1, 971⟩
  · have decimal : shortest .toEven size = ⟨17976931348623157, 292⟩ := by
      rw [largest]
      decide +kernel
    rw [decimal]
    exact scale_of_near_bound (by norm_num) (by norm_num)
  generalize shortest .toEven size = decimal at *
  obtain ⟨digits, exponent⟩ := decimal
  obtain ⟨places, rfl⟩ := Int.eq_ofNat_of_zero_le nonneg
  have width := RoundingInterval.width_ofMagnitude canonical.positive
  obtain ⟨short', -, greatest⟩ := canonical.toInRange
  simp only [Decimal.value, RoundingInterval.ofMagnitude, zpow_natCast] at high narrow width
  rcases greatest.lt_or_eq with lower | top
  · refine scale_of_le_bound some short (le_trans ?_ (by decide +kernel : 2 ^ 55 * 2 ^ 968 ≤ bound))
    have below : (digits * 10 ^ places : ℝ) ≤ 2 ^ 55 * 2 ^ (968 : ℤ) := by
      refine high.trans (mul_le_mul ?_ (zpow_le_zpow_right₀ one_le_two (by omega)) ?_ (by norm_num))
      · exact_mod_cast (by omega : 4 * size.mantissa + 2 ≤ 2 ^ 55)
      · exact (zpow_pos two_pos _).le
    exact_mod_cast below
  · have power : (0 : ℝ) < 2 ^ (size.exponent - 2) := zpow_pos two_pos _
    have step : (3 * 2 ^ (size.exponent - 2) : ℝ) ≤ 10 ^ (places + 1 : ℤ) := by nlinarith
    rw [top] at high step
    have below : digits * 10 ^ places ≤ 36028797018963962 * 2 ^ 969 := by
      have second : size.mantissa ≠ 2 ^ 53 - 1 := fun same =>
        largest ((Numeral.Dyadic.mk.injEq ..).mpr ⟨same, top⟩)
      have fewer : ((4 * size.mantissa + 2 : ℕ) : ℝ) ≤ 36028797018963962 := by
        exact_mod_cast (by omega : 4 * size.mantissa + 2 ≤ 36028797018963962)
      have scaled := high.trans (mul_le_mul_of_nonneg_right fewer (zpow_pos two_pos _).le)
      exact le_mul_two_pow 969 (by push_cast; exact scaled)
    have coarse : 292 ≤ places := by
      by_contra finer
      have fine : 10 ^ (places + 1) ≤ 10 ^ 292 := ten_pow_le (by omega)
      exact absurd ((mul_two_pow_le 969 (by push_cast; exact step)).trans fine) (by decide +kernel)
    rcases le_bound_or_near coarse below with small | ⟨rfl, above, below⟩
    · exact scale_of_le_bound some short small
    · exact scale_of_near_bound above below

end Shortest

end TorusEngine.Json.NumberText
