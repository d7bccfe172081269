import Mathlib
import TorusEngine.Proofs.Scalar

/-!
# Exact operations on unpacked doubles

A double is computed with in its unpacked form, and the result is rounded and packed. Numbers in the
form that doubles have (`Dyadic.Canonical`) are packed without loss, and a result that has such a form
is not changed by rounding (`round_of_canonical`). So differences and halves that doubles hold are
computed exactly, and comparing doubles is comparing the numbers that they stand for.
-/

namespace TorusEngine.Numeral

open Float.Model (Format UnpackedFloat totalExponent)
open Float.Model.UnpackedFloat

/-! ## Numbers in the form of doubles -/

namespace Dyadic

structure InRange (number : Dyadic) : Prop where
  short : number.mantissa < 2 ^ 53
  least : -1074 ≤ number.exponent
  greatest : number.exponent ≤ 971

/-- At the lower of two exponents one of the mantissas is as short as it was. -/
theorem InRange.short_or_short {first second : Dyadic} (range : first.InRange)
    (range' : second.InRange) :
    first.mantissa <<< (first.exponent - min first.exponent second.exponent).toNat < 2 ^ 53 ∨
      second.mantissa <<< (second.exponent - min first.exponent second.exponent).toNat < 2 ^ 53 := by
  rcases Int.le_total first.exponent second.exponent with lower | higher
  · left
    simpa only [min_eq_left lower, Int.sub_self, Int.toNat_zero, Nat.shiftLeft_zero] using range.short
  · right
    simpa only [min_eq_right higher, Int.sub_self, Int.toNat_zero, Nat.shiftLeft_zero]
      using range'.short

/-- The form in which doubles hold a positive number. -/
structure Canonical (number : Dyadic) : Prop extends InRange number where
  positive : 0 < number.mantissa
  full : 2 ^ 52 ≤ number.mantissa ∨ number.exponent = -1074

def shifted (number : Dyadic) (places : Nat) : Dyadic :=
  ⟨number.mantissa <<< places, number.exponent - places⟩

@[simp] theorem shifted_zero (number : Dyadic) : number.shifted 0 = number := by
  simp [shifted]

@[simp] theorem value_shifted (number : Dyadic) (places : Nat) :
    (number.shifted places).value = number.value := by
  have two : (2 : ℝ) ≠ 0 := by norm_num
  simp only [value, shifted, Nat.shiftLeft_eq, Nat.cast_mul, Nat.cast_pow, Nat.cast_ofNat]
  rw [zpow_sub₀ two, zpow_natCast]
  field_simp

theorem value_eq_mul {number : Dyadic} {exponent : Int} (below : exponent ≤ number.exponent) :
    number.value = (number.mantissa <<< (number.exponent - exponent).toNat : Nat) * 2 ^ exponent := by
  have lowered : number.exponent - ((number.exponent - exponent).toNat : Int) = exponent := by omega
  rw [← number.value_shifted (number.exponent - exponent).toNat, value, shifted, lowered]

theorem value_half (number : Dyadic) :
    (⟨number.mantissa, number.exponent - 1⟩ : Dyadic).value = number.value / 2 := by
  rw [value, value, zpow_sub_one₀ (by norm_num)]
  ring

theorem eq_shifted_of_value {number other : Dyadic} (same : other.value = number.value)
    (below : other.exponent ≤ number.exponent) :
    other = number.shifted (number.exponent - other.exponent).toNat := by
  have moved := number.value_shifted (number.exponent - other.exponent).toNat
  have exponent : (number.shifted (number.exponent - other.exponent).toNat).exponent =
      other.exponent := by
    simp only [shifted]
    omega
  rw [← same, value, value, exponent] at moved
  have power : (2 : ℝ) ^ other.exponent ≠ 0 := (zpow_pos (by norm_num) _).ne'
  have mantissa := Nat.cast_injective (mul_right_cancel₀ power moved)
  exact (Dyadic.mk.injEq ..).mpr ⟨mantissa.symm, exponent.symm⟩

theorem log2_shiftLeft {mantissa : Nat} (positive : 0 < mantissa) (places : Nat) :
    (mantissa <<< places).log2 = mantissa.log2 + places := by
  induction places with
  | zero => rfl
  | succ places ih =>
      have nonzero : mantissa <<< places ≠ 0 := by
        simp [Nat.shiftLeft_eq, positive.ne']
      rw [Nat.shiftLeft_succ, Nat.log2_two_mul nonzero, ih, Nat.add_assoc]

theorem totalExponent_shifted {number : Dyadic} (positive : 0 < number.mantissa) (places : Nat) :
    totalExponent (number.shifted places).mantissa (number.shifted places).exponent =
      totalExponent number.mantissa number.exponent := by
  simp only [totalExponent, shifted, log2_shiftLeft positive]
  push_cast
  ring

theorem totalExponent_of_value {number other : Dyadic} (positive : 0 < number.mantissa)
    (positive' : 0 < other.mantissa) (same : other.value = number.value) :
    totalExponent other.mantissa other.exponent = totalExponent number.mantissa number.exponent := by
  rcases Int.le_total other.exponent number.exponent with below | above
  · rw [eq_shifted_of_value same below, totalExponent_shifted positive]
  · rw [eq_shifted_of_value same.symm above, totalExponent_shifted positive']

theorem targetExponent_eq (total : Int) : Format.binary64.targetExponent total =
    max (total - 53) (-1074) := rfl

namespace Canonical

variable {number : Dyadic}

theorem targetExponent (canonical : number.Canonical) :
    Format.binary64.targetExponent (totalExponent number.mantissa number.exponent) =
      number.exponent := by
  have upper := (Nat.log2_lt canonical.positive.ne').mpr canonical.short
  have least := canonical.least
  rw [targetExponent_eq, totalExponent]
  rcases canonical.full with full | bottom
  · have lower := (Nat.le_log2 canonical.positive.ne').mpr full
    omega
  · omega

end Canonical

/-- A mantissa of a double's length is moved up as far as its exponent lets it. -/
theorem InRange.moved_up {number : Dyadic} (range : number.InRange) (positive : 0 < number.mantissa) :
    (number.shifted (min (52 - number.mantissa.log2) (number.exponent + 1074).toNat)).Canonical := by
  obtain ⟨short, least, greatest⟩ := range
  have upper := (Nat.log2_lt positive.ne').mpr short
  generalize places : min (52 - number.mantissa.log2) (number.exponent + 1074).toNat = up
  have log := log2_shiftLeft positive up
  have moved : 0 < number.mantissa <<< up := by
    simp [Nat.shiftLeft_eq, positive]
  refine ⟨⟨(Nat.log2_lt moved.ne').mp (by omega), ?_, ?_⟩, moved, ?_⟩
  · simp only [shifted]
    omega
  · simp only [shifted]
    omega
  · rcases Nat.le_total (52 - number.mantissa.log2) (number.exponent + 1074).toNat with high | low
    · exact .inl ((Nat.le_log2 moved.ne').mp (by omega))
    · refine .inr ?_
      simp only [shifted]
      omega

end Dyadic

/-! ## Rounding -/

theorem shiftRight_shiftLeft (mantissa places : Nat) :
    (⟨mantissa <<< places, false, false⟩ : ExtendedMantissa) >>> places = ⟨mantissa, false, false⟩ := by
  induction places generalizing mantissa with
  | zero => rfl
  | succ places ih =>
      have again := ih (2 * mantissa)
      have moved : (2 * mantissa) <<< places = mantissa <<< (places + 1) := by
        rw [Nat.shiftLeft_eq, Nat.shiftLeft_eq, Nat.pow_succ]
        ring
      rw [moved] at again
      have last : (⟨mantissa <<< (places + 1), false, false⟩ : ExtendedMantissa) >>> (places + 1) =
          ((⟨mantissa <<< (places + 1), false, false⟩ : ExtendedMantissa) >>> places).shiftRightOne := rfl
      rw [last, again]
      simp [ExtendedMantissa.shiftRightOne]

theorem shiftToTargetExponent_shifted {number : Dyadic} (canonical : number.Canonical) (places : Nat) :
    shiftToTargetExponent .binary64 (number.shifted places).mantissa (number.shifted places).exponent
      .exact = (⟨number.mantissa, false, false⟩, number.exponent) := by
  have amount : (number.exponent - (number.exponent - places)).toNat = places := by omega
  rw [shiftToTargetExponent, Dyadic.totalExponent_shifted canonical.positive, canonical.targetExponent]
  simp only [shiftToExponent, Dyadic.shifted, amount, ExtendedMantissa.ofMantissaAndAccuracy,
    shiftRight_shiftLeft]
  simp

theorem roundWithAccuracy_shifted {number : Dyadic} (canonical : number.Canonical) (sign : Sign)
    (places : Nat) :
    roundWithAccuracy .binary64 sign (number.shifted places).mantissa (number.shifted places).exponent
      .exact = .finite sign number.mantissa number.exponent canonical.positive := by
  have again := shiftToTargetExponent_shifted canonical 0
  rw [Dyadic.shifted_zero] at again
  have nonzero := canonical.positive.ne'
  simp only [roundWithAccuracy, shiftToTargetExponent_shifted canonical,
    show (⟨number.mantissa, false, false⟩ : ExtendedMantissa).roundedMantissa = number.mantissa from rfl,
    again, nonzero, dite_false]

theorem round_of_canonical {number other : Dyadic} (canonical : number.Canonical)
    (same : other.value = number.value) (sign : Sign) :
    UnpackedFloat.round .binary64 sign other.mantissa other.exponent =
      .finite sign number.mantissa number.exponent canonical.positive := by
  rcases Int.le_total other.exponent number.exponent with below | above
  · -- It is given at a lower exponent, and only zeros are shifted out.
    obtain ⟨places, rfl⟩ : ∃ places, other = number.shifted places :=
      ⟨_, Dyadic.eq_shifted_of_value same below⟩
    have kept : decreaseExponent (number.shifted places).mantissa (number.shifted places).exponent
        number.exponent = ((number.shifted places).mantissa, (number.shifted places).exponent) := by
      have amount : ((number.shifted places).exponent - number.exponent).toNat = 0 := by
        simp [Dyadic.shifted]
      simp [decreaseExponent, amount]
    rw [UnpackedFloat.round, Dyadic.totalExponent_shifted canonical.positive,
      canonical.targetExponent, kept]
    exact roundWithAccuracy_shifted canonical sign places
  · -- It is given at a higher exponent, which is brought down before anything is rounded.
    obtain ⟨places, moved⟩ : ∃ places, number = other.shifted places :=
      ⟨_, Dyadic.eq_shifted_of_value same.symm above⟩
    have positive : 0 < other.mantissa := by
      have := canonical.positive
      simp [moved, Dyadic.shifted, Nat.shiftLeft_eq] at this
      exact this
    have target := canonical.targetExponent
    have final := roundWithAccuracy_shifted canonical sign 0
    have amount : (other.exponent - number.exponent).toNat = places := by
      simp [moved, Dyadic.shifted]
    have kept : decreaseExponent other.mantissa other.exponent number.exponent =
        (number.mantissa, number.exponent) := by
      simp only [decreaseExponent, amount]
      simp [moved, Dyadic.shifted]
    have total := Dyadic.totalExponent_shifted positive places
    rw [← moved] at total
    rw [Dyadic.shifted_zero] at final
    rw [UnpackedFloat.round, ← total, target, kept]
    exact final

/-! ## The numbers that unpacked doubles stand for -/

noncomputable def signed : Sign → ℝ → ℝ
  | .negative, size => -size
  | .positive, size => size

/-- An unpacked double that stands for a number, in the form that doubles have. -/
inductive Holds : UnpackedFloat → ℝ → Prop where
  | zero (sign : Sign) : Holds (.zero sign) 0
  | finite (sign : Sign) {number : Dyadic} (canonical : number.Canonical) :
      Holds (.finite sign number.mantissa number.exponent canonical.positive)
        (signed sign number.value)

def Fits (number : ℝ) : Prop :=
  ∃ size : Dyadic, size.InRange ∧ |number| = size.value

theorem Dyadic.value_pos {number : Dyadic} (positive : 0 < number.mantissa) : 0 < number.value :=
  mul_pos (Nat.cast_pos.mpr positive) (zpow_pos (by norm_num) _)

theorem Fits.canonical {number : ℝ} (fits : Fits number) (nonzero : number ≠ 0) :
    ∃ size : Dyadic, size.Canonical ∧ |number| = size.value := by
  obtain ⟨size, range, same⟩ := fits
  have positive : 0 < size.mantissa := by
    by_contra empty
    have none : size.mantissa = 0 := Nat.eq_zero_of_not_pos empty
    simp [Dyadic.value, none, nonzero] at same
  exact ⟨_, range.moved_up positive, by rw [same, Dyadic.value_shifted]⟩

/-- The difference of two numbers of which neither is more than twice the other is at most either, so it
has room where they have. -/
theorem Fits.sub_of_near {x y : ℝ} (fits : Fits x) (other : Fits y) (near : 0 ≤ x ∧ x ≤ 2 * y)
    (near' : 0 ≤ y ∧ y ≤ 2 * x) : Fits (x - y) := by
  obtain ⟨first, range, same⟩ := fits
  obtain ⟨second, range', same'⟩ := other
  rw [abs_of_nonneg near.1, Dyadic.value_eq_mul (min_le_left first.exponent second.exponent)] at same
  rw [abs_of_nonneg near'.1, Dyadic.value_eq_mul (min_le_right first.exponent second.exponent)] at same'
  have power : (0 : ℝ) < 2 ^ min first.exponent second.exponent := zpow_pos (by norm_num) _
  have short := range.short_or_short range'
  generalize first.mantissa <<< _ = m at same short
  generalize second.mantissa <<< _ = n at same' short
  have below : m ≤ 2 * n := by
    rw [same, same', ← mul_assoc] at near
    exact_mod_cast le_of_mul_le_mul_right near.2 power
  have below' : n ≤ 2 * m := by
    rw [same, same', ← mul_assoc] at near'
    exact_mod_cast le_of_mul_le_mul_right near'.2 power
  refine ⟨⟨(m - n : Int).natAbs, min first.exponent second.exponent⟩, ⟨?_, ?_, ?_⟩, ?_⟩
  · simp only
    omega
  · exact le_min range.least range'.least
  · exact (min_le_left _ _).trans range.greatest
  · rw [Dyadic.value, same, same', ← sub_mul, abs_mul, abs_of_pos power, Nat.cast_natAbs]
    push_cast
    rfl

@[simp] theorem signed_zero (sign : Sign) : signed sign 0 = 0 := by
  cases sign
  · exact neg_zero
  · rfl

theorem neg_signed (sign : Sign) (size : ℝ) : -signed sign size = signed (-sign) size := by
  cases sign
  · exact neg_neg size
  · rfl

theorem abs_signed {size : ℝ} (positive : 0 < size) (sign : Sign) : |signed sign size| = size := by
  cases sign
  · exact (abs_neg size).trans (abs_of_pos positive)
  · exact abs_of_pos positive

section Operations

variable {u v : UnpackedFloat} {x y : ℝ}

theorem Holds.isFinite (holds : Holds u x) : u.isFinite = true := by
  cases holds <;> rfl

theorem Holds.fits (holds : Holds u x) : Fits x := by
  cases holds with
  | zero sign => exact ⟨⟨0, 0⟩, ⟨by decide, by decide, by decide⟩, by simp [Dyadic.value]⟩
  | finite sign canonical =>
      exact ⟨_, canonical.toInRange, abs_signed (Dyadic.value_pos canonical.positive) sign⟩

theorem Holds.neg (holds : Holds u x) : Holds u.neg (-x) := by
  cases holds with
  | zero sign =>
      rw [neg_zero]
      exact .zero _
  | finite sign canonical =>
      rw [neg_signed]
      exact .finite (-sign) canonical

theorem Holds.abs (holds : Holds u x) : Holds u.abs |x| := by
  cases holds with
  | zero sign =>
      rw [abs_zero]
      exact .zero _
  | finite sign canonical =>
      rw [abs_signed (Dyadic.value_pos canonical.positive)]
      exact .finite .positive canonical

theorem holds_round {number : Dyadic} (fits : Fits number.value) (positive : 0 < number.mantissa)
    (sign : Sign) :
    Holds (.round .binary64 sign number.mantissa number.exponent) (signed sign number.value) := by
  have size := Dyadic.value_pos positive
  obtain ⟨other, canonical, same⟩ := fits.canonical size.ne'
  rw [abs_of_pos size] at same
  rw [round_of_canonical canonical same sign, same]
  exact .finite sign canonical

theorem holds_normalize {mantissa exponent : Int} (fits : Fits (mantissa * 2 ^ exponent))
    (sign : Sign) :
    Holds (UnpackedFloat.normalize .binary64 mantissa exponent sign) (mantissa * 2 ^ exponent : ℝ) := by
  have size : (⟨mantissa.natAbs, exponent⟩ : Dyadic).value = |(mantissa : ℝ) * 2 ^ exponent| := by
    rw [Dyadic.value, abs_mul, abs_of_pos (zpow_pos (by norm_num : (0 : ℝ) < 2) exponent),
      Nat.cast_natAbs, Int.cast_abs]
  have rounded (nonzero : mantissa ≠ 0) (sign : Sign) := @holds_round ⟨mantissa.natAbs, exponent⟩
    (by rwa [size, Fits, abs_abs]) (Int.natAbs_pos.mpr nonzero) sign
  rw [size] at rounded
  rcases lt_trichotomy mantissa 0 with negative | rfl | positive
  · have below : (mantissa : ℝ) * 2 ^ exponent < 0 :=
      mul_neg_of_neg_of_pos (Int.cast_lt_zero.mpr negative) (zpow_pos (by norm_num) _)
    have whole : (-mantissa).toNat = mantissa.natAbs := by omega
    have found := rounded negative.ne .negative
    rw [signed, abs_of_neg below, neg_neg] at found
    rwa [UnpackedFloat.normalize, Int.compare_eq_lt.mpr negative, whole]
  · simpa [UnpackedFloat.normalize] using Holds.zero sign
  · have above : (0 : ℝ) < mantissa * 2 ^ exponent :=
      mul_pos (Int.cast_pos.mpr positive) (zpow_pos (by norm_num) _)
    have whole : mantissa.toNat = mantissa.natAbs := by omega
    have found := rounded positive.ne' .positive
    rw [signed, abs_of_pos above] at found
    rwa [UnpackedFloat.normalize, Int.compare_eq_gt.mpr positive, whole]

theorem apply_shifted (sign : Sign) {number : Dyadic} {exponent : Int}
    (below : exponent ≤ number.exponent) :
    (sign.apply ((number.mantissa <<< (number.exponent - exponent).toNat : Nat) : Int) : ℝ) *
      2 ^ exponent = signed sign number.value := by
  cases sign <;> simp only [Sign.apply, signed, Int.cast_neg, Int.cast_natCast, neg_mul,
    Dyadic.value_eq_mul below]

theorem Holds.sub (holds : Holds u x) (other : Holds v y) (fits : Fits (x - y)) :
    Holds (.sub .binary64 u v) (x - y) := by
  cases holds with
  | zero sign =>
      cases other with
      | zero second =>
          rw [sub_zero]
          cases sign <;> cases second <;> exact .zero _
      | finite second canonical =>
          rw [zero_sub, neg_signed]
          exact .finite (-second) canonical
  | @finite sign number canonical =>
      cases other with
      | zero second =>
          rw [sub_zero]
          exact .finite sign canonical
      | @finite second number' canonical' =>
          have first := apply_shifted sign (min_le_left number.exponent number'.exponent)
          have last := apply_shifted second (min_le_right number.exponent number'.exponent)
          rw [← first, ← last, ← sub_mul, ← Int.cast_sub] at fits ⊢
          exact holds_normalize fits .positive

theorem Dyadic.value_lt_of_exponent_lt {number other : Dyadic} (canonical : number.Canonical)
    (canonical' : other.Canonical) (lower : number.exponent < other.exponent) :
    number.value < other.value := by
  have full : 2 ^ 52 ≤ other.mantissa := by
    have := canonical.least
    exact canonical'.full.resolve_right (by omega)
  have two : (1 : ℝ) ≤ 2 := by norm_num
  have power : (0 : ℝ) < 2 ^ number.exponent := zpow_pos (by norm_num) _
  calc number.value < 2 ^ 53 * 2 ^ number.exponent :=
        mul_lt_mul_of_pos_right (by exact_mod_cast canonical.short) power
    _ = 2 ^ 52 * 2 ^ (number.exponent + 1) := by
        rw [zpow_add_one₀ (by norm_num)]
        ring
    _ ≤ 2 ^ 52 * 2 ^ other.exponent :=
        mul_le_mul_of_nonneg_left (zpow_le_zpow_right₀ two lower) (by norm_num)
    _ ≤ other.value :=
        mul_le_mul_of_nonneg_right (by exact_mod_cast full) (zpow_pos (by norm_num) _).le

theorem Dyadic.compare_eq_cmp {number other : Dyadic} (canonical : number.Canonical)
    (canonical' : other.Canonical) :
    (compare number.exponent other.exponent).then (compare number.mantissa other.mantissa) =
      cmp number.value other.value := by
  rcases lt_trichotomy number.exponent other.exponent with lower | same | higher
  · have less := value_lt_of_exponent_lt canonical canonical' lower
    rw [Int.compare_eq_lt.mpr lower, (cmp_eq_lt_iff _ _).mpr less]
    rfl
  · have power : (0 : ℝ) < 2 ^ other.exponent := zpow_pos (by norm_num) _
    have mantissas := (Nat.strictMono_cast : StrictMono (Nat.cast : ℕ → ℝ)).cmp_map_eq
    rw [value, value, same, cmp_mul_pos_right power, mantissas, cmp_eq_compare,
      Int.compare_eq_eq.mpr rfl]
    rfl
  · have less := value_lt_of_exponent_lt canonical' canonical higher
    rw [Int.compare_eq_gt.mpr higher, (cmp_eq_gt_iff _ _).mpr less]
    rfl

theorem Holds.compare (holds : Holds u x) (other : Holds v y) : u.compare v = some (cmp x y) := by
  cases holds with
  | zero sign =>
      cases other with
      | zero second => rw [cmp_self_eq_eq, UnpackedFloat.compare]
      | finite second canonical =>
          have size := Dyadic.value_pos canonical.positive
          cases second with
          | negative => exact congrArg some ((cmp_eq_gt_iff _ _).mpr (neg_neg_of_pos size)).symm
          | positive => exact congrArg some ((cmp_eq_lt_iff _ _).mpr size).symm
  | finite sign canonical =>
      have size := Dyadic.value_pos canonical.positive
      cases other with
      | zero second =>
          cases sign with
          | negative => exact congrArg some ((cmp_eq_lt_iff _ _).mpr (neg_neg_of_pos size)).symm
          | positive => exact congrArg some ((cmp_eq_gt_iff _ _).mpr size).symm
      | finite second canonical' =>
          have size' := Dyadic.value_pos canonical'.positive
          have sizes := Dyadic.compare_eq_cmp canonical canonical'
          cases sign <;> cases second <;> refine congrArg some ?_
          · -- The order of two negative numbers is that of their sizes, turned round.
            have turns : StrictAnti (Neg.neg : ℝ → ℝ) := fun _ _ less => neg_lt_neg less
            rw [sizes, cmp_swap]
            exact (turns.cmp_map_eq _ _).symm
          · exact ((cmp_eq_lt_iff _ _).mpr ((neg_neg_of_pos size).trans size')).symm
          · exact ((cmp_eq_gt_iff _ _).mpr ((neg_neg_of_pos size').trans size)).symm
          · exact sizes

theorem Holds.unique (holds : Holds u x) (other : Holds u y) : x = y := by
  have same := holds.compare other
  rw [holds.compare holds, cmp_self_eq_eq] at same
  exact (cmp_eq_eq_iff x y).mp (Option.some.inj same).symm

def two : Dyadic := ⟨2 ^ 52, -51⟩

/-- The quotient by two is taken at an exponent from which a half that doubles hold is reached. -/
theorem divCore_two {number half : Dyadic} (canonical : number.Canonical)
    (canonical' : half.Canonical)
    (same : (⟨number.mantissa, number.exponent - 1⟩ : Dyadic).value = half.value) : ∃ places,
      divCore .binary64 number.mantissa number.exponent two.mantissa two.exponent =
        ((half.shifted places).mantissa, (half.shifted places).exponent, .exact) := by
  have total := Dyadic.totalExponent_of_value canonical'.positive (by exact canonical.positive) same
  have exponent := canonical'.targetExponent
  have bottom := canonical'.least
  have twice : totalExponent two.mantissa two.exponent = 2 := by decide
  simp only [totalExponent] at total
  rw [divCore, twice]
  generalize goal : min (number.exponent - two.exponent) (Format.binary64.targetExponent
    (totalExponent number.mantissa number.exponent - 2)) = target
  rw [Dyadic.targetExponent_eq, totalExponent, show two.exponent = -51 from rfl] at goal
  rw [Dyadic.targetExponent_eq, totalExponent] at exponent
  have below : target ≤ half.exponent := by omega
  -- Moved to the quotient's exponent, the dividend is the half with 52 places more.
  obtain ⟨moved, rfl⟩ : ∃ moved : Nat, number.exponent + 51 - moved = target :=
    ⟨(number.exponent + 51 - target).toNat, by omega⟩
  obtain ⟨places, rest⟩ : ∃ places : Nat, half.exponent - places = number.exponent + 51 - moved :=
    ⟨(half.exponent - (number.exponent + 51 - moved)).toNat, by omega⟩
  have dividend := Dyadic.eq_shifted_of_value
    (((⟨number.mantissa, number.exponent - 1⟩ : Dyadic).value_shifted moved).trans same)
    (by simp only [Dyadic.shifted]; omega)
  have amount : (half.exponent - (number.exponent - 1 - moved)).toNat = places + 52 := by omega
  have shift : (number.exponent - two.exponent - (number.exponent + 51 - moved)).toNat = moved := by
    rw [show two.exponent = -51 from rfl]
    omega
  simp only [Dyadic.shifted, amount, Dyadic.mk.injEq] at dividend
  have product : number.mantissa <<< moved = half.mantissa <<< places * two.mantissa := by
    rw [dividend.1, Nat.shiftLeft_add, Nat.shiftLeft_eq _ 52]
    rfl
  refine ⟨places, ?_⟩
  simp only [shift, product, Nat.mul_div_cancel _ (show 0 < two.mantissa by decide),
    Nat.mul_mod_left, accuracyOfFraction, if_true, Dyadic.shifted, rest]

theorem Holds.half (holds : Holds u x) (fits : Fits (x / 2)) :
    Holds (.div .binary64 u (.finite .positive two.mantissa two.exponent (by decide))) (x / 2) := by
  cases holds with
  | zero sign =>
      rw [zero_div]
      exact .zero _
  | @finite sign number canonical =>
      have size := half_pos (Dyadic.value_pos canonical.positive)
      have halved : signed sign number.value / 2 = signed sign (number.value / 2) := by
        cases sign
        · exact neg_div _ _
        · rfl
      rw [halved] at fits ⊢
      obtain ⟨half, canonical', same⟩ := fits.canonical (abs_pos.mp (by rwa [abs_signed size]))
      rw [abs_signed size] at same
      obtain ⟨places, quotient⟩ := divCore_two canonical canonical' (number.value_half.trans same)
      have positive : sign / .positive = sign := by cases sign <;> rfl
      simp only [UnpackedFloat.div, quotient, roundWithAccuracy_shifted canonical', positive, same]
      exact .finite sign canonical'

end Operations

/-! ## Packing -/

section Packing

variable {bits : BitVec Format.binary64.numBits} {sign : Sign} {field fraction : Nat}

structure Fields (bits : BitVec Format.binary64.numBits) (sign : Sign) (field fraction : Nat) :
    Prop where
  exponent : (unpackExponent bits).toNat = field
  mantissa : (unpackMantissa bits).toNat = fraction
  sign : Sign.ofBitVec (unpackSign bits) = sign

theorem fields_packComponents (short : field < 2 ^ 11) :
    Fields (packComponents .binary64 sign (.ofNat 11 field) (.ofNat 52 fraction)) sign field
      (fraction % 2 ^ 52) := by
  refine ⟨?_, ?_, by rw [unpackSign_packComponents, Sign.ofBitVec_toBitVec]⟩
  · rw [unpackExponent_packComponents]
    exact Nat.mod_eq_of_lt short
  · rw [unpackMantissa_packComponents]
    rfl

namespace Fields

variable (fields : Fields bits sign field fraction)

include fields

theorem unpack_normal (low : 0 < field) (high : field < 2047) :
    unpack .binary64 bits = .finite sign (2 ^ 52 + fraction) (field - 1075) (by omega) := by
  obtain ⟨rfl, rfl, rfl⟩ := fields
  have notTop : unpackExponent bits ≠ -1#11 := fun top => by
    rw [top] at high
    exact absurd high (by decide)
  have notBottom : unpackExponent bits ≠ 0#11 := fun bottom => by
    rw [bottom] at low
    exact absurd low (by decide)
  have whole : (1#1 ++ unpackMantissa bits).toNat = 2 ^ 52 + (unpackMantissa bits).toNat := by
    rw [BitVec.toNat_append, ← Nat.shiftLeft_add_eq_or_of_lt (BitVec.isLt _)]
    rfl
  simp only [unpack, whole]
  rw [if_neg notTop, if_neg notBottom]
  rfl

theorem unpack_subnormal (bottom : field = 0) (positive : 0 < fraction) :
    unpack .binary64 bits = .finite sign fraction (-1074) positive := by
  obtain ⟨exponent, rfl, rfl⟩ := fields
  have none : unpackExponent bits = 0#11 := BitVec.eq_of_toNat_eq (exponent.trans bottom)
  have some : unpackMantissa bits ≠ 0#52 := fun empty => by
    rw [empty] at positive
    exact absurd positive (by decide)
  simp only [unpack]
  rw [if_neg (by rw [none]; decide), if_pos none, dif_neg some]
  simp only [none]
  rfl

theorem unpack_zero (bottom : field = 0) (empty : fraction = 0) :
    unpack .binary64 bits = .zero sign := by
  obtain ⟨exponent, mantissa, rfl⟩ := fields
  have none : unpackExponent bits = 0#11 := BitVec.eq_of_toNat_eq (exponent.trans bottom)
  have nothing : unpackMantissa bits = 0#52 := BitVec.eq_of_toNat_eq (mantissa.trans empty)
  simp only [unpack]
  rw [if_neg (by rw [none]; decide), if_pos none, dif_pos nothing]

theorem isFinite_unpack_top (top : field = 2047) : (unpack .binary64 bits).isFinite = false := by
  have full : unpackExponent bits = -1#11 := BitVec.eq_of_toNat_eq (fields.exponent.trans top)
  simp only [unpack]
  rw [if_pos full]
  split <;> rfl

end Fields

theorem unpack_pack_finite {number : Dyadic} (canonical : number.Canonical) :
    unpack .binary64 (pack .binary64 (.finite sign number.mantissa number.exponent canonical.positive)) =
      .finite sign number.mantissa number.exponent canonical.positive := by
  have upper := (Nat.log2_lt canonical.positive.ne').mpr canonical.short
  have short := canonical.short
  have least := canonical.least
  have greatest := canonical.greatest
  have notTop : ¬ 2 ^ 11 ≤ (number.exponent + 1023 + 52).toNat + 1 := by omega
  have packed : pack .binary64
      (.finite sign number.mantissa number.exponent canonical.positive) =
        if number.mantissa.log2 + 1 = 53 then
          packComponents .binary64 sign (.ofNat 11 (number.exponent + 1023 + 52).toNat)
            (.ofNat 52 number.mantissa)
        else packComponents .binary64 sign 0#11 (.ofNat 52 number.mantissa) := if_neg notTop
  rw [packed]
  -- The length of the mantissa tells a subnormal number from a normal one.
  rcases Nat.lt_or_ge number.mantissa (2 ^ 52) with subnormal | normal
  · have bottom := canonical.full.resolve_left subnormal.not_ge
    have lower := (Nat.log2_lt canonical.positive.ne').mpr subnormal
    have fields := @fields_packComponents sign 0 number.mantissa (by decide)
    rw [Nat.mod_eq_of_lt subnormal] at fields
    rw [if_neg (by omega), fields.unpack_subnormal rfl canonical.positive]
    simp only [bottom]
  · have lower := (Nat.le_log2 canonical.positive.ne').mpr normal
    have fields := @fields_packComponents sign (number.exponent + 1023 + 52).toNat number.mantissa
      (by omega)
    have fraction : 2 ^ 52 + number.mantissa % 2 ^ 52 = number.mantissa := by omega
    have exponent : ((number.exponent + 1023 + 52).toNat : Int) - 1075 = number.exponent := by omega
    rw [if_pos (by omega), fields.unpack_normal (by omega) (by omega)]
    simp only [fraction, exponent]

end Packing

theorem Holds.unpack_pack {u : UnpackedFloat} {x : ℝ} (holds : Holds u x) :
    unpack .binary64 (pack .binary64 u) = u := by
  cases holds with
  | zero sign => cases sign <;> rfl
  | finite sign canonical => exact unpack_pack_finite canonical

end TorusEngine.Numeral
