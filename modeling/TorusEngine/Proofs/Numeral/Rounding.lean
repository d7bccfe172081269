import TorusEngine.Numeral.Shortest
import TorusEngine.Proofs.Numeral.Doubles

/-!
# Rounding to the nearest double

A product or a quotient of doubles is computed to enough places and two bits that say what was cut
off (`Extends`), and is then rounded at the exponent that the format wants for its size (`Pending`). So
it is the nearest multiple of a power of two, which is a double unless it is too large (`Pending.holds`).
Every number in the interval of a double is rounded to that double (`Pending.rounds_to`).
-/

namespace TorusEngine.Numeral

open Float.Model (Format UnpackedFloat totalExponent)
open Float.Model.UnpackedFloat

/-! ## What was cut off -/

/-- The numbers that an extended mantissa can stand for: the round bit is the first place behind the
point, and the sticky bit says whether what follows is not zero. -/
structure Extends (em : ExtendedMantissa) (number : ℝ) : Prop where
  low : 2 * em.mantissa + em.roundBit.toNat ≤ 2 * number
  high : 2 * number < 2 * em.mantissa + em.roundBit.toNat + 1
  sticky : em.stickyBit = false ↔ 2 * em.mantissa + em.roundBit.toNat = 2 * number

namespace Extends

variable {em : ExtendedMantissa} {number : ℝ}

theorem mantissa_le (extended : Extends em number) : em.mantissa ≤ number := by
  have low := extended.low
  have bit : (0 : ℝ) ≤ em.roundBit.toNat := Nat.cast_nonneg _
  linarith

theorem lt_mantissa_add_one (extended : Extends em number) : number < em.mantissa + 1 := by
  have high := extended.high
  have bit : (em.roundBit.toNat : ℝ) ≤ 1 := by exact_mod_cast Bool.toNat_le em.roundBit
  linarith

theorem shiftRightOne (extended : Extends em number) : Extends em.shiftRightOne (number / 2) := by
  have halves : (2 * em.shiftRightOne.mantissa + em.shiftRightOne.roundBit.toNat : ℝ) =
      em.mantissa := by
    have division := Nat.div_add_mod em.mantissa 2
    have bit : (em.mantissa % 2 != 0).toNat = em.mantissa % 2 := by
      rcases Nat.mod_two_eq_zero_or_one em.mantissa with even | odd
      · rw [even]
        rfl
      · rw [odd]
        rfl
    rw [← bit] at division
    exact_mod_cast division
  have twice : 2 * (number / 2) = number := by ring
  have sticky := extended.sticky
  constructor
  · rw [halves, twice]
    exact extended.mantissa_le
  · rw [halves, twice]
    exact extended.lt_mantissa_add_one
  · rw [halves, twice, show em.shiftRightOne.stickyBit = (em.roundBit || em.stickyBit) from rfl,
      Bool.or_eq_false_iff]
    constructor
    · rintro ⟨even, rest⟩
      have exact := sticky.mp rest
      rw [even, Bool.toNat_false, Nat.cast_zero] at exact
      linarith
    · intro exact
      have low := extended.low
      have even : em.roundBit = false := by
        cases bit : em.roundBit with
        | false => rfl
        | true =>
            rw [bit, Bool.toNat_true, Nat.cast_one] at low
            linarith
      refine ⟨even, sticky.mpr ?_⟩
      rw [even, Bool.toNat_false, Nat.cast_zero]
      linarith

theorem shiftRight (extended : Extends em number) (places : Nat) :
    Extends (em >>> places) (number / 2 ^ places) := by
  induction places with
  | zero =>
      rw [pow_zero, div_one]
      exact extended
  | succ places ih =>
      rw [pow_succ, ← div_div]
      exact ih.shiftRightOne

/-- The bits are enough to find the nearest integer, and the even one between two. -/
theorem roundedMantissa (extended : Extends em number) :
    (em.roundedMantissa : ℤ) = Exact.rounded number := by
  have whole : ⌊number⌋ = (em.mantissa : ℤ) :=
    Int.floor_eq_iff.mpr ⟨by exact_mod_cast extended.mantissa_le,
      by exact_mod_cast extended.lt_mantissa_add_one⟩
  have fraction := Int.fract_add_floor number
  rw [whole, Int.cast_natCast] at fraction
  rw [Exact.rounded, whole]
  obtain ⟨low, high, sticky⟩ := extended
  obtain ⟨mantissa, round, rest⟩ := em
  cases round <;> cases rest <;>
    simp only [Bool.toNat_false, Bool.toNat_true, Nat.cast_zero, Nat.cast_one] at *
  case false.false =>
    have exact := sticky.mp trivial
    rw [if_pos (by linarith)]
    rfl
  case false.true =>
    rw [if_pos (by linarith)]
    rfl
  case true.false =>
    have exact := sticky.mp trivial
    rw [if_neg (by linarith), if_neg (by linarith)]
    rfl
  case true.true =>
    have inexact : (2 * mantissa + 1 : ℝ) ≠ 2 * number := fun exact =>
      Bool.noConfusion (sticky.mpr exact)
    have above := lt_of_le_of_ne low inexact
    rw [if_neg (by linarith), if_pos (by linarith)]
    rfl

end Extends

theorem extends_exact (mantissa : Nat) :
    Extends (.ofMantissaAndAccuracy mantissa .exact) mantissa := by
  constructor <;> simp [ExtendedMantissa.ofMantissaAndAccuracy]

/-- The rest of a division says where the quotient lies behind its whole part. -/
theorem extends_fraction (mantissa : Nat) {rest divisor : Nat} (less : rest < divisor) :
    Extends (.ofMantissaAndAccuracy mantissa (accuracyOfFraction rest divisor))
      (mantissa + rest / divisor : ℝ) := by
  have unit : (0 : ℝ) < divisor := Nat.cast_pos.mpr (Nat.zero_lt_of_lt less)
  have small : (rest : ℝ) / divisor < 1 := (div_lt_one unit).mpr (Nat.cast_lt.mpr less)
  rcases Nat.eq_zero_or_pos rest with rfl | positive
  · rw [Nat.cast_zero, zero_div, add_zero]
    exact extends_exact mantissa
  · have some : (0 : ℝ) < rest / divisor := div_pos (Nat.cast_pos.mpr positive) unit
    rw [accuracyOfFraction, if_neg positive.ne']
    rcases lt_trichotomy (2 * rest) divisor with less | half | more
    · have below : (rest : ℝ) / divisor < 1 / 2 := by
        rw [div_lt_div_iff₀ unit two_pos]
        exact_mod_cast (by omega : rest * 2 < 1 * divisor)
      rw [Nat.compare_eq_lt.mpr less]
      constructor <;>
        simp only [ExtendedMantissa.ofMantissaAndAccuracy, Bool.toNat_false, Nat.cast_zero]
      · linarith
      · linarith
      · exact iff_of_false Bool.noConfusion (by linarith : (2 * mantissa + 0 : ℝ) < _).ne
    · have between : (rest : ℝ) / divisor = 1 / 2 := by
        rw [div_eq_div_iff unit.ne' two_ne_zero]
        exact_mod_cast (by omega : rest * 2 = 1 * divisor)
      rw [Nat.compare_eq_eq.mpr half]
      constructor <;>
        simp only [ExtendedMantissa.ofMantissaAndAccuracy, Bool.toNat_true, Nat.cast_one]
      · linarith
      · linarith
      · exact iff_of_true trivial (by linarith)
    · have above : 1 / 2 < (rest : ℝ) / divisor := by
        rw [div_lt_div_iff₀ two_pos unit]
        exact_mod_cast (by omega : 1 * divisor < rest * 2)
      rw [Nat.compare_eq_gt.mpr more]
      constructor <;>
        simp only [ExtendedMantissa.ofMantissaAndAccuracy, Bool.toNat_true, Nat.cast_one]
      · linarith
      · linarith
      · exact iff_of_false Bool.noConfusion (by linarith : (2 * mantissa + 1 : ℝ) < _).ne

theorem extends_quotient (dividend : Nat) {divisor : Nat} (positive : 0 < divisor) :
    Extends (.ofMantissaAndAccuracy (dividend / divisor)
      (accuracyOfFraction (dividend % divisor) divisor)) (dividend / divisor : ℝ) := by
  have unit : (0 : ℝ) < divisor := Nat.cast_pos.mpr positive
  have whole : (dividend : ℝ) / divisor =
      (dividend / divisor : ℕ) + (dividend % divisor : ℕ) / divisor := by
    have division : (divisor * (dividend / divisor : ℕ) + (dividend % divisor : ℕ) : ℝ) = dividend := by
      exact_mod_cast Nat.div_add_mod dividend divisor
    rw [← division]
    field_simp
  rw [whole]
  exact extends_fraction _ (Nat.mod_lt dividend positive)

/-! ## Rounding at an exponent -/

/-- What is to be rounded: the number, the mantissa and the accuracy at an exponent that stand for
it, and the exponent at which it is rounded. -/
structure Pending (number : ℝ) (mantissa : Nat) (exponent : Int) (accuracy : Accuracy)
    (target : Int) : Prop where
  extended : Extends (.ofMantissaAndAccuracy mantissa accuracy) (number / 2 ^ exponent)
  target_eq : Format.binary64.targetExponent (totalExponent mantissa exponent) = target
  exponent_le : exponent ≤ target

namespace Pending

variable {number : ℝ} {mantissa : Nat} {exponent target : Int} {accuracy : Accuracy}

theorem least_le (pending : Pending number mantissa exponent accuracy target) : -1074 ≤ target := by
  rw [← pending.target_eq, Dyadic.targetExponent_eq]
  exact le_max_right _ _

theorem bounds (pending : Pending number mantissa exponent accuracy target) :
    number < 2 ^ (target + 53) ∧ (2 ^ (target + 52) ≤ number ∨ target = -1074) := by
  obtain ⟨extended, same, low⟩ := pending
  have power : (0 : ℝ) < 2 ^ exponent := zpow_pos two_pos _
  have below := extended.mantissa_le
  have above := extended.lt_mantissa_add_one
  have mantissa_eq : (ExtendedMantissa.ofMantissaAndAccuracy mantissa accuracy).mantissa = mantissa := by
    unfold ExtendedMantissa.ofMantissaAndAccuracy
    split <;> rfl
  rw [mantissa_eq, le_div_iff₀ power] at below
  rw [mantissa_eq, div_lt_iff₀ power] at above
  rw [Dyadic.targetExponent_eq, totalExponent] at same
  constructor
  · have short : (mantissa : ℝ) + 1 ≤ 2 ^ (mantissa.log2 + 1 : ℤ) := by
      exact_mod_cast Nat.lt_log2_self
    calc number < (mantissa + 1) * 2 ^ exponent := above
      _ ≤ 2 ^ (mantissa.log2 + 1 : ℤ) * 2 ^ exponent := mul_le_mul_of_nonneg_right short power.le
      _ = 2 ^ (mantissa.log2 + 1 + exponent : ℤ) := (zpow_add₀ two_ne_zero _ _).symm
      _ ≤ 2 ^ (target + 53) := zpow_le_zpow_right₀ one_le_two (by omega)
  · refine or_iff_not_imp_right.mpr fun higher => ?_
    have positive : mantissa ≠ 0 := by
      rintro rfl
      rw [Nat.log2_zero] at same
      omega
    have long : (2 : ℝ) ^ (mantissa.log2 : ℤ) ≤ mantissa := by
      exact_mod_cast Nat.log2_self_le positive
    calc (2 : ℝ) ^ (target + 52) = 2 ^ (mantissa.log2 + exponent : ℤ) := by
          congr 1
          omega
      _ = 2 ^ (mantissa.log2 : ℤ) * 2 ^ exponent := zpow_add₀ two_ne_zero _ _
      _ ≤ mantissa * 2 ^ exponent := mul_le_mul_of_nonneg_right long power.le
      _ ≤ number := below

theorem shifted (pending : Pending number mantissa exponent accuracy target) :
    ∃ em, shiftToTargetExponent .binary64 mantissa exponent accuracy = (em, target) ∧
      (em.roundedMantissa : ℤ) = Exact.rounded (number / 2 ^ target) := by
  obtain ⟨extended, same, low⟩ := pending
  have moved := extended.shiftRight (target - exponent).toNat
  have power : number / 2 ^ exponent / 2 ^ (target - exponent).toNat = number / 2 ^ target := by
    rw [div_div, ← zpow_natCast, ← zpow_add₀ two_ne_zero]
    congr 2
    omega
  rw [power] at moved
  refine ⟨_, ?_, moved.roundedMantissa⟩
  rw [shiftToTargetExponent, same, shiftToExponent, Prod.mk.injEq]
  exact ⟨rfl, by omega⟩

theorem roundWithAccuracy_eq (pending : Pending number mantissa exponent accuracy target)
    {result : Dyadic} (canonical : result.Canonical) (below : target ≤ result.exponent)
    (nearest : (Exact.rounded (number / 2 ^ target) : ℝ) * 2 ^ target = result.value) (sign : Sign) :
    roundWithAccuracy .binary64 sign mantissa exponent accuracy =
      .finite sign result.mantissa result.exponent canonical.positive := by
  obtain ⟨em, first, rounded⟩ := pending.shifted
  have value : (⟨em.roundedMantissa, target⟩ : Dyadic).value = result.value := by
    rw [← nearest, Dyadic.value, ← rounded, Int.cast_natCast]
  have moved := Dyadic.eq_shifted_of_value value below
  have second := shiftToTargetExponent_shifted canonical (result.exponent - target).toNat
  rw [← moved] at second
  have nonzero := canonical.positive.ne'
  simp only [roundWithAccuracy, first, second, nonzero, dite_false]

end Pending

/-! ## The interval of a double -/

namespace RoundingInterval

structure Contains (interval : RoundingInterval) (number : ℝ) : Prop where
  low : interval.low * 2 ^ interval.exponent ≤ number
  high : number ≤ interval.high * 2 ^ interval.exponent
  inside : interval.closed = true ∨
    interval.low * 2 ^ interval.exponent < number ∧ number < interval.high * 2 ^ interval.exponent

/-- The numbers of an interval lie within half a place of its double, and within a quarter of a place
below a power of two. -/
theorem Contains.near {size : Dyadic} (positive : 0 < size.mantissa) {number : ℝ}
    (contained : (ofMagnitude size).Contains number) :
    |number / 2 ^ size.exponent - size.mantissa| ≤ 1 / 2 ∧
      (|number / 2 ^ size.exponent - size.mantissa| = 1 / 2 → size.mantissa % 2 = 0) ∧
      (size.mantissa = Binary64.hiddenBit → -1074 < size.exponent →
        size.mantissa - 1 / 4 ≤ number / 2 ^ size.exponent) := by
  obtain ⟨mantissa, exponent⟩ := size
  obtain ⟨low, high, inside⟩ := contained
  have power : (0 : ℝ) < 2 ^ exponent := zpow_pos two_pos _
  have quarter : (2 : ℝ) ^ (exponent - 2) = 2 ^ exponent / 4 := by
    rw [zpow_sub₀ two_ne_zero]
    norm_num
  simp only [ofMagnitude, quarter, decide_eq_true_eq] at low high inside positive ⊢
  generalize gap : (if mantissa = Binary64.hiddenBit ∧ -1074 < exponent then 1 else 2) = step at *
  have short : step ≤ 2 := by
    rw [← gap]
    split <;> decide
  have short' : (step : ℝ) ≤ 2 := by exact_mod_cast short
  rw [Nat.cast_sub (by omega)] at low inside
  push_cast at low high inside
  -- Counted in places of the double, the bounds are its mantissa and a part of one place.
  have places (bound : ℝ) : bound * (2 ^ exponent / 4) = bound / 4 * 2 ^ exponent := by ring
  rw [places, ← le_div_iff₀ power] at low
  rw [places, ← div_le_iff₀ power] at high
  rw [places, places, ← lt_div_iff₀ power, ← div_lt_iff₀ power] at inside
  generalize number / 2 ^ exponent = place at *
  refine ⟨abs_le.mpr ⟨by linarith, by linarith⟩, fun tie => ?_, fun hidden higher => ?_⟩
  · refine inside.resolve_right fun strictly => ?_
    rcases abs_cases (place - mantissa) with ⟨same, -⟩ | ⟨same, -⟩ <;> linarith [strictly.1, strictly.2]
  · rw [if_pos ⟨hidden, higher⟩] at gap
    rw [← gap, Nat.cast_one] at low
    linarith

end RoundingInterval

section Rounded

variable {number : ℝ} {mantissa : Nat} {exponent target : Int} {accuracy : Accuracy} {result : Dyadic}

theorem zpow_add_places (exponent places : ℤ) :
    (2 : ℝ) ^ (exponent + places) = 2 ^ places * 2 ^ exponent := by
  rw [zpow_add₀ two_ne_zero, mul_comm]

/-- A number near a double is not rounded to more than its places. -/
theorem Pending.target_le_of_near (pending : Pending number mantissa exponent accuracy target)
    (canonical : result.Canonical)
    (near : |number / 2 ^ result.exponent - result.mantissa| ≤ 1 / 2) : target ≤ result.exponent := by
  have power : (0 : ℝ) < 2 ^ result.exponent := zpow_pos two_pos _
  have least := canonical.toInRange.least
  have top : (result.mantissa : ℝ) + 1 ≤ 2 ^ 53 := by exact_mod_cast canonical.toInRange.short
  by_contra higher
  have large : (2 : ℝ) ^ (53 : ℤ) * 2 ^ result.exponent ≤ number := by
    rw [← zpow_add_places]
    exact (zpow_le_zpow_right₀ one_le_two (by omega)).trans (pending.bounds.2.resolve_right (by omega))
  rw [← le_div_iff₀ power] at large
  norm_num at large
  linarith [(abs_le.mp near).2]

/-- It is rounded to fewer places only just below a power of two. -/
theorem Pending.hidden_of_lower (pending : Pending number mantissa exponent accuracy target)
    (canonical : result.Canonical)
    (near : |number / 2 ^ result.exponent - result.mantissa| ≤ 1 / 2)
    (lower : target < result.exponent) :
    result.mantissa = Binary64.hiddenBit ∧ target = result.exponent - 1 := by
  have power : (0 : ℝ) < 2 ^ result.exponent := zpow_pos two_pos _
  have least := pending.least_le
  obtain ⟨low, -⟩ := abs_le.mp near
  have above := pending.bounds.1
  have full : 2 ^ 52 ≤ result.mantissa := canonical.full.resolve_right (by omega)
  have full' : (2 : ℝ) ^ 52 ≤ result.mantissa := by exact_mod_cast full
  constructor
  · refine le_antisymm (Nat.le_of_lt_succ ?_) full
    have small : number < 2 ^ (52 : ℤ) * 2 ^ result.exponent := by
      rw [← zpow_add_places]
      exact above.trans_le (zpow_le_zpow_right₀ one_le_two (by omega))
    rw [← div_lt_iff₀ power] at small
    have strict : (result.mantissa : ℝ) < (2 ^ 52 + 1 : ℕ) := by
      push_cast
      norm_num at small
      linarith
    exact_mod_cast strict
  · have large : (2 : ℝ) ^ (result.exponent + 51) < 2 ^ (target + 53) := by
      refine lt_of_le_of_lt ?_ above
      rw [zpow_add_places, ← le_div_iff₀ power]
      have enough : (2 : ℝ) ^ (51 : ℤ) ≤ 2 ^ 52 - 1 / 2 := by norm_num
      linarith
    have := (zpow_lt_zpow_iff_right₀ one_lt_two).mp large
    omega

theorem Pending.rounds_to (pending : Pending number mantissa exponent accuracy target)
    (canonical : result.Canonical)
    (contained : (RoundingInterval.ofMagnitude result).Contains number) (sign : Sign) :
    roundWithAccuracy .binary64 sign mantissa exponent accuracy =
      .finite sign result.mantissa result.exponent canonical.positive := by
  obtain ⟨near, even, narrow⟩ := contained.near canonical.positive
  refine pending.roundWithAccuracy_eq canonical (pending.target_le_of_near canonical near) ?_ sign
  rcases (pending.target_le_of_near canonical near).lt_or_eq with lower | same
  · -- One place lower, the number is rounded up to the power of two.
    obtain ⟨hidden, next⟩ := pending.hidden_of_lower canonical near lower
    have close := narrow hidden (by have := pending.least_le; omega)
    have half : (2 : ℝ) ^ target = 2 ^ result.exponent / 2 := by
      rw [next]
      exact zpow_sub_one₀ two_ne_zero _
    have below : number / 2 ^ result.exponent < 2 ^ 52 := by
      have above := pending.bounds.1
      rw [next, show result.exponent - 1 + 53 = result.exponent + 52 by omega, zpow_add_places] at above
      exact (div_lt_iff₀ (zpow_pos two_pos _)).mpr above
    have twice : number / 2 ^ target = number / 2 ^ result.exponent * 2 := by
      rw [half]
      field_simp
    rw [hidden, Binary64.hiddenBit] at close
    push_cast at close
    rw [twice, @Exact.rounded_eq_of_near _ (2 ^ 53), Dyadic.value, hidden, Binary64.hiddenBit, half]
    · push_cast
      ring
    · push_cast
      rw [abs_le]
      constructor <;> linarith
    · exact fun _ => by norm_num
  · rw [same, @Exact.rounded_eq_of_near _ result.mantissa near fun tie => by exact_mod_cast even tie]
    rfl

/-! ## Numbers that are not too large -/

noncomputable def overflow : ℝ := (⟨0x3fffffffffffff, 970⟩ : Dyadic).value

theorem overflow_eq : overflow = (2 ^ 54 - 1) * 2 ^ (970 : ℤ) := by
  rw [overflow, Dyadic.value]
  norm_num

theorem shiftToTargetExponent_zero (exponent : Int) :
    (shiftToTargetExponent .binary64 0 exponent .exact).1.mantissa = 0 := by
  have shifted := shiftRight_shiftLeft 0
    (Format.binary64.targetExponent (totalExponent 0 exponent) - exponent).toNat
  rw [Nat.zero_shiftLeft] at shifted
  exact congrArg ExtendedMantissa.mantissa shifted

theorem Pending.target_le (pending : Pending number mantissa exponent accuracy target)
    (small : number < overflow) : target ≤ 971 := by
  by_contra higher
  have large := pending.bounds.2.resolve_right (by omega)
  have power : (2 : ℝ) ^ (1024 : ℤ) ≤ 2 ^ (target + 52) := zpow_le_zpow_right₀ one_le_two (by omega)
  have beyond : overflow < 2 ^ (1024 : ℤ) := by
    rw [overflow_eq, show (1024 : ℤ) = 54 + 970 from rfl, zpow_add₀ two_ne_zero]
    exact mul_lt_mul_of_pos_right (by norm_num) (zpow_pos two_pos _)
  linarith

theorem Pending.exists_canonical (pending : Pending number mantissa exponent accuracy target)
    (small : number < overflow) {nearest : Nat} (positive : 0 < nearest)
    (near : |nearest - number / 2 ^ target| ≤ 1 / 2) :
    ∃ result : Dyadic, result.Canonical ∧ target ≤ result.exponent ∧
      result.value = nearest * 2 ^ target := by
  have power : (0 : ℝ) < 2 ^ target := zpow_pos two_pos _
  have least := pending.least_le
  have greatest := pending.target_le small
  obtain ⟨above, below⟩ := pending.bounds
  rw [zpow_add_places, ← div_lt_iff₀ power] at above
  rw [zpow_add_places, ← le_div_iff₀ power] at below
  obtain ⟨low, high⟩ := abs_le.mp near
  have short : nearest < 2 ^ 53 + 1 := by
    have : (nearest : ℝ) < (2 ^ 53 + 1 : ℕ) := by
      push_cast
      norm_num at above
      linarith
    exact_mod_cast this
  have full : 2 ^ 52 ≤ nearest ∨ target = -1074 := by
    refine below.imp_left fun below => Nat.lt_succ_iff.mp ?_
    have : ((2 ^ 52 : ℕ) : ℝ) < (nearest + 1 : ℕ) := by
      push_cast
      norm_num at below
      linarith
    exact_mod_cast this
  rcases Nat.lt_succ_iff_lt_or_eq.mp short with within | carried
  · exact ⟨⟨nearest, target⟩, ⟨⟨within, least, greatest⟩, positive, full⟩, le_rfl, rfl⟩
  · -- All 53 places are ones and are carried over, which cannot happen at the greatest exponent.
    have notGreatest : target ≠ 971 := by
      rintro rfl
      have room : number / 2 ^ (971 : ℤ) < 2 ^ 53 - 1 / 2 := by
        rw [div_lt_iff₀ power]
        calc number < overflow := small
          _ = (2 ^ 53 - 1 / 2) * 2 ^ (971 : ℤ) := by
              rw [overflow_eq, show (971 : ℤ) = 970 + 1 from rfl, zpow_add_one₀ two_ne_zero]
              ring
      rw [carried] at high
      push_cast at high
      linarith
    refine ⟨⟨2 ^ 52, target + 1⟩, ⟨⟨by norm_num, ?_, ?_⟩, by norm_num, .inl le_rfl⟩, ?_, ?_⟩
    · simp only
      omega
    · simp only
      omega
    · simp only
      omega
    · rw [Dyadic.value, carried, zpow_add_one₀ two_ne_zero]
      push_cast
      ring

theorem Pending.holds (pending : Pending number mantissa exponent accuracy target)
    (small : number < overflow) (sign : Sign) :
    ∃ size, Holds (roundWithAccuracy .binary64 sign mantissa exponent accuracy) (signed sign size) ∧
      0 ≤ size ∧ |size - number| ≤ 2 ^ (target - 1) := by
  have power : (0 : ℝ) < 2 ^ target := zpow_pos two_pos _
  have half : (2 : ℝ) ^ (target - 1) = 2 ^ target / 2 := zpow_sub_one₀ two_ne_zero _
  have place : number / 2 ^ target * 2 ^ target = number := div_mul_cancel₀ number power.ne'
  obtain ⟨em, first, rounded⟩ := pending.shifted
  have near := Exact.abs_rounded_sub_le (number / 2 ^ target)
  rw [← rounded, Int.cast_natCast] at near
  refine ⟨em.roundedMantissa * 2 ^ target, ?_, mul_nonneg (Nat.cast_nonneg _) power.le, ?_⟩
  · rcases Nat.eq_zero_or_pos em.roundedMantissa with none | positive
    · simp only [roundWithAccuracy, first, none, shiftToTargetExponent_zero, dite_true,
        Nat.cast_zero, zero_mul, signed_zero]
      exact .zero sign
    · obtain ⟨result, canonical, above, value⟩ := pending.exists_canonical small positive near
      rw [pending.roundWithAccuracy_eq canonical above _ sign, ← value]
      · exact .finite sign canonical
      · rw [← rounded, value, Int.cast_natCast]
  · rw [half, ← place, ← sub_mul, abs_mul, abs_of_pos power]
    linarith [mul_le_mul_of_nonneg_right near power.le]

theorem Pending.half_place_le (pending : Pending number mantissa exponent accuracy target)
    (normal : 2 ^ (-1022 : ℤ) ≤ number) : (2 : ℝ) ^ (target - 1) ≤ number / 2 ^ 53 := by
  have large : 2 ^ (target + 52) ≤ number := by
    rcases pending.bounds.2 with large | rfl
    · exact large
    · exact normal
  rw [le_div_iff₀ (by norm_num)]
  calc (2 : ℝ) ^ (target - 1) * 2 ^ 53 = 2 ^ (target + 52) := by
        rw [← zpow_natCast, ← zpow_add₀ two_ne_zero]
        congr 1
        push_cast
        ring
    _ ≤ number := large

end Rounded

/-! ## Products, quotients and whole numbers -/

theorem pending_mul {first second : Dyadic} (long : 2 ^ 52 ≤ first.mantissa)
    (positive : 0 < second.mantissa) : ∃ target, Pending (first.value * second.value)
      (first.mantissa * second.mantissa) (first.exponent + second.exponent) .exact target := by
  have two : (2 : ℝ) ≠ 0 := two_ne_zero
  refine ⟨_, ?_, rfl, ?_⟩
  · have product : first.value * second.value / 2 ^ (first.exponent + second.exponent) =
        (first.mantissa * second.mantissa : ℕ) := by
      rw [Dyadic.value, Dyadic.value, zpow_add₀ two]
      push_cast
      field_simp
    rw [product]
    exact extends_exact _
  · have long' : 2 ^ 52 ≤ first.mantissa * second.mantissa :=
      long.trans (Nat.le_mul_of_pos_right _ positive)
    have log := (Nat.le_log2 (by omega)).mpr long'
    rw [Dyadic.targetExponent_eq, totalExponent]
    omega

theorem pending_div {first second : Dyadic} (positive : 0 < first.mantissa)
    (positive' : 0 < second.mantissa) : ∃ target, Pending (first.value / second.value)
      (divCore .binary64 first.mantissa first.exponent second.mantissa second.exponent).1
      (divCore .binary64 first.mantissa first.exponent second.mantissa second.exponent).2.1
      (divCore .binary64 first.mantissa first.exponent second.mantissa second.exponent).2.2
      target := by
  have two : (2 : ℝ) ≠ 0 := two_ne_zero
  simp only [divCore]
  generalize goal : Format.binary64.targetExponent
    (totalExponent first.mantissa first.exponent - totalExponent second.mantissa second.exponent) = wanted
  rw [Dyadic.targetExponent_eq, totalExponent, totalExponent] at goal
  generalize lowest : min (first.exponent - second.exponent) wanted = exponent
  generalize amount : (first.exponent - second.exponent - exponent).toNat = places
  refine ⟨_, ?_, rfl, ?_⟩
  · have quotient : first.value / second.value / 2 ^ exponent =
        (first.mantissa <<< places : ℕ) / second.mantissa := by
      have moved : (2 : ℝ) ^ first.exponent = 2 ^ places * (2 ^ exponent * 2 ^ second.exponent) := by
        rw [← zpow_natCast, ← zpow_add₀ two, ← zpow_add₀ two]
        congr 1
        omega
      rw [Dyadic.value, Dyadic.value, moved, Nat.shiftLeft_eq]
      push_cast
      field_simp
    rw [quotient]
    exact extends_quotient _ positive'
  · rw [Dyadic.targetExponent_eq, totalExponent]
    rcases le_or_gt exponent (-1074) with bottom | higher
    · exact le_max_of_le_right bottom
    · -- The dividend was moved up until the quotient has 53 places.
      have long : 2 ^ 52 ≤ first.mantissa <<< places / second.mantissa := by
        rw [Nat.le_div_iff_mul_le positive']
        have places_le : 53 + second.mantissa.log2 ≤ first.mantissa.log2 + places := by omega
        calc 2 ^ 52 * second.mantissa ≤ 2 ^ 52 * 2 ^ (second.mantissa.log2 + 1) :=
              Nat.mul_le_mul_left _ Nat.lt_log2_self.le
          _ = 2 ^ (53 + second.mantissa.log2) := by rw [← Nat.pow_add]; congr 1; omega
          _ ≤ 2 ^ (first.mantissa.log2 + places) := Nat.pow_le_pow_right two_pos places_le
          _ ≤ first.mantissa <<< places := by
              rw [Nat.pow_add, Nat.shiftLeft_eq]
              exact Nat.mul_le_mul_right _ (Nat.log2_self_le positive.ne')
      have log := (Nat.le_log2 (by omega)).mpr long
      omega

/-- Before a number is rounded, its exponent is brought down to where it is rounded. -/
theorem pending_round {number : Dyadic} (positive : 0 < number.mantissa) : ∃ places target,
    Pending number.value (number.shifted places).mantissa (number.shifted places).exponent .exact
      target ∧
    ∀ sign, UnpackedFloat.round .binary64 sign number.mantissa number.exponent =
      roundWithAccuracy .binary64 sign (number.shifted places).mantissa
        (number.shifted places).exponent .exact := by
  refine ⟨(number.exponent - Format.binary64.targetExponent
    (totalExponent number.mantissa number.exponent)).toNat, _, ⟨?_, rfl, ?_⟩, fun sign => rfl⟩
  · rw [← number.value_shifted, Dyadic.value, mul_div_cancel_right₀ _ (zpow_pos two_pos _).ne']
    exact extends_exact _
  · rw [Dyadic.totalExponent_shifted positive]
    simp only [Dyadic.shifted]
    omega

/-! ## On doubles -/

namespace Binary64

theorem unpack_of_magnitude {bits : UInt64} {number : Dyadic} (read : magnitude? bits = some number) :
    unpack .binary64 bits.toBitVec = if empty : number.mantissa = 0 then .zero (signOf bits)
      else .finite (signOf bits) number.mantissa number.exponent (Nat.pos_of_ne_zero empty) := by
  have fields := fields_toBitVec bits
  rcases magnitude?_cases bits with ⟨bottom, same⟩ | ⟨-, same⟩ | ⟨low, high, same⟩ <;>
    rw [same] at read <;> cases read
  · rcases Nat.eq_zero_or_pos (fractionField bits) with empty | positive
    · rw [fields.unpack_zero bottom empty, dif_pos empty]
    · rw [fields.unpack_subnormal bottom positive, dif_neg positive.ne']
  · rw [fields.unpack_normal low high, dif_neg (by simp only; omega)]

theorem fields_of_magnitude {bits : UInt64} {number : Dyadic} (read : magnitude? bits = some number) :
    fractionField bits = number.mantissa % 2 ^ 52 ∧ exponentField bits =
      if number.mantissa < 2 ^ 52 then 0 else (number.exponent + 1075).toNat := by
  have short : fractionField bits < 2 ^ 52 := Nat.mod_lt _ (by decide)
  rcases magnitude?_cases bits with ⟨bottom, same⟩ | ⟨-, same⟩ | ⟨low, high, same⟩ <;>
    rw [same] at read <;> cases read
  · rw [if_pos short]
    exact ⟨(Nat.mod_eq_of_lt short).symm, bottom⟩
  · rw [if_neg (by simp only; omega)]
    simp only
    omega

theorem eq_of_magnitude {bits other : UInt64} {number : Dyadic}
    (read : magnitude? bits = some number) (read' : magnitude? other = some number)
    (sign : signOf bits = signOf other) : bits = other := by
  have short := bits.toNat_lt
  have short' := other.toNat_lt
  have negative : isNegative bits = isNegative other := by
    unfold signOf at sign
    cases left : isNegative bits <;> cases right : isNegative other <;> simp_all
  rw [isNegative, isNegative, Bool.eq_iff_iff, beq_iff_eq, beq_iff_eq, Nat.shiftRight_eq_div_pow,
    Nat.shiftRight_eq_div_pow] at negative
  obtain ⟨fraction, exponent⟩ := fields_of_magnitude read
  obtain ⟨fraction', exponent'⟩ := fields_of_magnitude read'
  rw [← fraction'] at fraction
  rw [← exponent'] at exponent
  refine UInt64.toNat_inj.mp ?_
  simp only [fractionField, exponentField, hiddenBit] at fraction exponent
  omega

theorem eq_of_unpack {a b : Float} (finite : a.isFinite = true)
    (same : a.toModel.unpack = b.toModel.unpack) : a = b := by
  have finite' : b.isFinite = true := (congrArg UnpackedFloat.isFinite same).symm.trans finite
  obtain ⟨first, read⟩ := exists_magnitude finite
  obtain ⟨second, read'⟩ := exists_magnitude finite'
  have unpacked := (unpack_of_magnitude read).symm.trans (same.trans (unpack_of_magnitude read'))
  have full := (inRange_of_magnitude read).2
  have full' := (inRange_of_magnitude read').2
  have bits : a.toBits = b.toBits := by
    split at unpacked <;> split at unpacked <;>
      simp only [UnpackedFloat.zero.injEq, UnpackedFloat.finite.injEq, reduceCtorEq] at unpacked
    · rename_i empty empty'
      have exponent := full.resolve_left (by omega)
      have exponent' := full'.resolve_left (by omega)
      have same : second = first := (Dyadic.mk.injEq ..).mpr
        ⟨empty'.trans empty.symm, exponent'.trans exponent.symm⟩
      exact eq_of_magnitude read (same ▸ read') unpacked
    · obtain ⟨sign, mantissa, exponent⟩ := unpacked
      have same : second = first := (Dyadic.mk.injEq ..).mpr ⟨mantissa.symm, exponent.symm⟩
      exact eq_of_magnitude read (same ▸ read') sign
  obtain ⟨⟨_, _⟩⟩ := a
  obtain ⟨⟨_, _⟩⟩ := b
  cases bits
  rfl

section Operations

variable {a b : Float} {x y : ℝ}

theorem StandsFor.exists_finite (stands : StandsFor a x) (positive : 0 < x) :
    ∃ (number : Dyadic) (canonical : number.Canonical), number.value = x ∧
      a.toModel.unpack = .finite .positive number.mantissa number.exponent canonical.positive := by
  have holds := standsFor_iff.mp stands
  generalize a.toModel.unpack = u at holds
  cases holds with
  | zero sign => exact absurd positive (lt_irrefl 0)
  | @finite sign number canonical =>
      cases sign with
      | negative =>
          have size := Dyadic.value_pos canonical.positive
          exact absurd positive (neg_nonpos.mpr size.le).not_gt
      | positive => exact ⟨number, canonical, rfl, rfl⟩

theorem long_of_normal {number : Dyadic} (canonical : number.Canonical)
    (normal : 2 ^ (-1022 : ℤ) ≤ number.value) : 2 ^ 52 ≤ number.mantissa := by
  refine canonical.full.elim id fun bottom => ?_
  have power : (0 : ℝ) < 2 ^ (-1074 : ℤ) := zpow_pos two_pos _
  have moved : (2 : ℝ) ^ (-1022 : ℤ) = 2 ^ 52 * 2 ^ (-1074 : ℤ) := by
    rw [← zpow_natCast, ← zpow_add₀ two_ne_zero]
    rfl
  rw [Dyadic.value, bottom, moved] at normal
  exact_mod_cast le_of_mul_le_mul_right normal power

theorem StandsFor.mul_unpack (stands : StandsFor a x) (other : StandsFor b y)
    (normal : 2 ^ (-1022 : ℤ) ≤ x) (positive : 0 < y) : ∃ mantissa exponent target,
      Pending (x * y) mantissa exponent .exact target ∧
        a * b = .ofModel (.pack (roundWithAccuracy .binary64 .positive mantissa exponent .exact)) := by
  obtain ⟨first, canonical, rfl, unpacked⟩ :=
    stands.exists_finite ((zpow_pos two_pos _).trans_le normal)
  obtain ⟨second, canonical', rfl, unpacked'⟩ := other.exists_finite positive
  obtain ⟨target, pending⟩ := pending_mul (long_of_normal canonical normal) canonical'.positive
  refine ⟨_, _, target, pending, ?_⟩
  show Float.ofModel (.pack (.mul .binary64 a.toModel.unpack b.toModel.unpack)) = _
  rw [unpacked, unpacked']
  rfl

theorem StandsFor.div_unpack (stands : StandsFor a x) (other : StandsFor b y) (positive : 0 < x)
    (positive' : 0 < y) : ∃ mantissa exponent accuracy target,
      Pending (x / y) mantissa exponent accuracy target ∧
        a / b = .ofModel (.pack
          (roundWithAccuracy .binary64 .positive mantissa exponent accuracy)) := by
  obtain ⟨first, canonical, rfl, unpacked⟩ := stands.exists_finite positive
  obtain ⟨second, canonical', rfl, unpacked'⟩ := other.exists_finite positive'
  obtain ⟨target, pending⟩ := pending_div canonical.positive canonical'.positive
  refine ⟨_, _, _, target, pending, ?_⟩
  show Float.ofModel (.pack (.div .binary64 a.toModel.unpack b.toModel.unpack)) = _
  rw [unpacked, unpacked']
  rfl

end Operations

def positive (size : Dyadic) (canonical : size.Canonical) : Float :=
  .ofModel (.pack (.finite .positive size.mantissa size.exponent canonical.positive))

section Positive

variable {size : Dyadic} {canonical : size.Canonical}

theorem unpack_positive : (positive size canonical).toModel.unpack =
    .finite .positive size.mantissa size.exponent canonical.positive := unpack_pack_finite canonical

theorem standsFor_positive : StandsFor (positive size canonical) size.value :=
  standsFor_pack (.finite .positive canonical)

theorem eq_positive {number : Float} (read : magnitude? number.toBits = some size)
    (canonical : size.Canonical) : number =
      if isNegative number.toBits then -positive size canonical else positive size canonical := by
  have unpacked : number.toModel.unpack =
      .finite (signOf number.toBits) size.mantissa size.exponent canonical.positive := by
    have same := unpack_of_magnitude read
    rwa [dif_neg canonical.positive.ne'] at same
  refine eq_of_unpack (holds_of_magnitude read).isFinite ?_
  rw [unpacked, signOf]
  split
  · have turned : (-positive size canonical).toModel.unpack = unpack .binary64
        (UnpackedFloat.pack .binary64 (positive size canonical).toModel.unpack.neg) := rfl
    rw [turned, unpack_positive]
    exact (unpack_pack_finite canonical).symm
  · exact unpack_positive.symm

end Positive

end Binary64

end TorusEngine.Numeral
