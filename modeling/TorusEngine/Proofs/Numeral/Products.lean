import TorusEngine.Proofs.Numeral.ShortestDecimals

/-!
# Products and quotients of doubles

Whole numbers and powers of ten become doubles that approximate them (`Approximates`), the small ones
exactly. A product of approximations is finite with some room below the overflow, and dividing by one
or more leaves a finite double finite.
-/

namespace TorusEngine.Numeral

open Float.Model (Format UnpackedFloat)
open Float.Model.UnpackedFloat

namespace Binary64

/-- A finite double that is as near to a number as normal doubles are. -/
structure Approximates (number : Float) (target : ℝ) : Prop where
  finite : number.isFinite = true
  near : |value number - target| ≤ target / 2 ^ 53

namespace Approximates

variable {number : Float} {target : ℝ}

theorem standsFor (approximates : Approximates number target) : StandsFor number (value number) :=
  ⟨approximates.finite, rfl⟩

theorem le_mul (approximates : Approximates number target) :
    value number ≤ target * (1 + 1 / 2 ^ 53) := by
  have near := (abs_le.mp approximates.near).2
  linarith

theorem mul_le (approximates : Approximates number target) :
    target * (1 - 1 / 2 ^ 53) ≤ value number := by
  have near := (abs_le.mp approximates.near).1
  linarith

theorem pos (approximates : Approximates number target) (positive : 0 < target) :
    0 < value number :=
  (mul_pos positive (by norm_num)).trans_le approximates.mul_le

end Approximates

theorem lt_overflow {number : ℝ} (small : number ≤ 2 ^ (1023 : ℤ)) : number < overflow := by
  refine small.trans_lt ?_
  rw [overflow_eq, show (1023 : ℤ) = 53 + 970 from rfl, zpow_add₀ two_ne_zero]
  exact mul_lt_mul_of_pos_right (by norm_num) (zpow_pos two_pos _)

theorem lt_overflow_of_nat {n : Nat} (small : n < 18014398509481983 * 2 ^ 970) : (n : ℝ) < overflow := by
  generalize same : 2 ^ 970 = power at small
  have cast : (2 : ℝ) ^ (970 : ℤ) = power := by
    rw [← same, Nat.cast_pow, Nat.cast_ofNat]
    rfl
  have below : (n : ℝ) < 18014398509481983 * power := by exact_mod_cast small
  rw [overflow_eq, cast]
  linarith

/-! ## Whole numbers -/

section Naturals

variable {n : Nat}

theorem ofNat_eq_pack (short : n < 2 ^ 64) : (UInt64.ofNat n).toFloat =
    .ofModel (.pack (UnpackedFloat.normalize .binary64 n 0 .positive)) := by
  show Float.ofModel (.pack (UnpackedFloat.normalize .binary64 (UInt64.ofNat n).toNat 0 .positive)) = _
  rw [UInt64.toNat_ofNat_of_lt' short]

theorem standsFor_ofNat (short : n < 2 ^ 53) : StandsFor (UInt64.ofNat n).toFloat n := by
  have fits : Fits ((n : ℤ) * 2 ^ (0 : ℤ)) :=
    ⟨⟨n, 0⟩, ⟨short, by norm_num, by norm_num⟩, by simp [Dyadic.value]⟩
  have holds := standsFor_pack (holds_normalize fits .positive)
  rw [ofNat_eq_pack (by omega)]
  simpa using holds

theorem approximates_ofNat (positive : 0 < n) (short : n < 2 ^ 64) :
    Approximates (UInt64.ofNat n).toFloat n := by
  have whole : (1 : ℝ) ≤ n := Nat.one_le_cast.mpr positive
  have below : (n : ℝ) < 2 ^ 64 := by exact_mod_cast short
  obtain ⟨places, target, pending, rounded⟩ := @pending_round ⟨n, 0⟩ positive
  have same : (⟨n, 0⟩ : Dyadic).value = n := by simp [Dyadic.value]
  rw [same] at pending
  have small : (n : ℝ) < overflow :=
    lt_overflow (below.le.trans (zpow_le_zpow_right₀ one_le_two (by norm_num : (64 : ℤ) ≤ 1023)))
  obtain ⟨size, holds, -, near⟩ := pending.holds small .positive
  have made : UnpackedFloat.normalize .binary64 n 0 .positive = .round .binary64 .positive n 0 := by
    rw [UnpackedFloat.normalize, Int.compare_eq_gt.mpr (by exact_mod_cast positive)]
    rfl
  have stands := standsFor_pack holds
  rw [← rounded, ← made, ← ofNat_eq_pack short] at stands
  refine ⟨stands.finite, ?_⟩
  rw [stands.value]
  refine near.trans (pending.half_place_le ?_)
  calc (2 : ℝ) ^ (-1022 : ℤ) ≤ 2 ^ (0 : ℤ) := zpow_le_zpow_right₀ one_le_two (by norm_num)
    _ ≤ n := by simpa using whole

theorem exists_standsFor_ofNat (short : n < 2 ^ 64) :
    ∃ size, StandsFor (UInt64.ofNat n).toFloat size ∧ 0 ≤ size := by
  rcases Nat.eq_zero_or_pos n with rfl | positive
  · exact ⟨_, standsFor_ofNat (by norm_num), Nat.cast_nonneg _⟩
  · have approximates := approximates_ofNat positive short
    exact ⟨_, approximates.standsFor, (approximates.pos (Nat.cast_pos.mpr positive)).le⟩

end Naturals

/-! ## Powers of ten -/

theorem ten_pow_le {places more : Nat} (le : places ≤ more) : 10 ^ places ≤ 10 ^ more :=
  Nat.pow_le_pow_right (by norm_num) le

def isNatural (number : Float) (n : Nat) : Bool :=
  match magnitude? number.toBits with
  | some ⟨mantissa, exponent⟩ =>
      !isNegative number.toBits && mantissa <<< exponent.toNat == n <<< (-exponent).toNat
  | none => false

theorem standsFor_of_isNatural {number : Float} {n : Nat} (found : isNatural number n = true) :
    StandsFor number n := by
  rw [isNatural] at found
  split at found
  · rename_i mantissa exponent read
    rw [Bool.and_eq_true, Bool.not_eq_true', beq_iff_eq, Nat.shiftLeft_eq, Nat.shiftLeft_eq] at found
    obtain ⟨positive, same⟩ := found
    refine ⟨(holds_of_magnitude read).isFinite, ?_⟩
    rw [value_eq read positive, zpow_eq_div two_ne_zero, mul_div_assoc', div_eq_iff (by positivity)]
    exact_mod_cast same
  · cases found

theorem standsFor_power {places : Nat} (small : places ≤ 22) :
    StandsFor (Float.ofScientific 1 false places) (10 ^ places) := by
  have all : ∀ places < 23, isNatural (Float.ofScientific 1 false places) (10 ^ places) = true := by
    decide +kernel
  exact_mod_cast standsFor_of_isNatural (all places (by omega))

theorem ofScientific_eq {n places : Nat} (positive : 0 < n) (few : places ≤ 2048) :
    UnpackedFloat.ofScientific .binary64 n places =
      roundWithAccuracy .binary64 .positive (n <<< 53 * 10 ^ places) (-53 + 0) .exact := by
  have least : (0 : ℤ) ≤ 2 ^ Format.binary64.exponentBits := by positivity
  have most : (2 : ℤ) ^ Format.binary64.exponentBits = 2048 := rfl
  rw [UnpackedFloat.ofScientific, dif_neg positive.ne', if_neg (by omega), if_neg (by omega),
    if_pos (Int.natCast_nonneg _)]
  rfl

theorem approximates_ofScientific {n places : Nat} (positive : 0 < n)
    (large : ¬(n < 2 ^ 53 ∧ places ≤ 22)) (few : places ≤ 2048) (small : (n * 10 ^ places : ℝ) < overflow) :
    Approximates (Float.ofScientific n false places) (n * 10 ^ places) := by
  have whole : (1 : ℝ) ≤ n := Nat.one_le_cast.mpr positive
  have power : (1 : ℝ) ≤ 10 ^ places := one_le_pow₀ (by norm_num)
  obtain ⟨target, pending⟩ := @pending_mul ⟨n <<< 53, -53⟩ ⟨10 ^ places, 0⟩ (by
    simp only [Nat.shiftLeft_eq]
    omega) (by positivity)
  have size : (⟨n <<< 53, -53⟩ : Dyadic).value * (⟨10 ^ places, 0⟩ : Dyadic).value = n * 10 ^ places := by
    rw [Dyadic.value, Dyadic.value, Nat.shiftLeft_eq, zpow_neg, zpow_ofNat]
    push_cast
    field_simp
    norm_num
  rw [size] at pending
  obtain ⟨_, holds, -, near⟩ := pending.holds small .positive
  have stands := standsFor_pack holds
  have made : Float.ofScientific n false places =
      .ofModel (.pack (.ofScientific .binary64 n places)) := dif_neg large
  rw [← ofScientific_eq positive few, ← made] at stands
  refine ⟨stands.finite, stands.value ▸ near.trans (pending.half_place_le ?_)⟩
  calc (2 : ℝ) ^ (-1022 : ℤ) ≤ 1 := zpow_le_one_of_nonpos₀ one_le_two (by norm_num)
    _ ≤ n * 10 ^ places := by nlinarith

theorem approximates_power {places : Nat} (small : places ≤ 308) :
    Approximates (Float.ofScientific 1 false places) (10 ^ places) := by
  rcases Nat.lt_or_ge 22 places with large | exact
  · have below := lt_overflow_of_nat ((ten_pow_le small).trans_lt (by decide +kernel))
    simpa using approximates_ofScientific Nat.one_pos (by omega) (by omega) (by simpa using below)
  · have stands := standsFor_power exact
    refine ⟨stands.finite, ?_⟩
    rw [stands.value, sub_self, abs_zero]
    positivity

/-! ## Results that are finite -/

theorem isFinite_packComponents (sign : Sign) {field fraction : Nat} (short : field < 2047) :
    (unpack .binary64 (packComponents .binary64 sign (.ofNat 11 field)
      (.ofNat 52 fraction))).isFinite = true := by
  have fields := @fields_packComponents sign field fraction (by omega)
  rcases Nat.eq_zero_or_pos field with bottom | low
  · rcases Nat.eq_zero_or_pos (fraction % 2 ^ 52) with empty | positive
    · rw [fields.unpack_zero bottom empty]
      rfl
    · rw [fields.unpack_subnormal bottom positive]
      rfl
  · rw [fields.unpack_normal low short]
    rfl

theorem isFinite_or_isInf_pack {u : UnpackedFloat} (number : u ≠ .notANumber) :
    (unpack .binary64 (UnpackedFloat.pack .binary64 u)).isFinite = true ∨
      (unpack .binary64 (UnpackedFloat.pack .binary64 u)).isInf = true := by
  cases u with
  | notANumber => exact absurd rfl number
  | infinity sign => cases sign <;> exact .inr rfl
  | zero sign => cases sign <;> exact .inl rfl
  | finite sign mantissa exponent positive =>
      have packed : UnpackedFloat.pack .binary64 (.finite sign mantissa exponent positive) =
          if 2 ^ 11 ≤ (exponent + 1023 + 52).toNat + 1 then packedInfinity .binary64 sign
          else if mantissa.log2 + 1 = 53 then
            packComponents .binary64 sign (.ofNat 11 (exponent + 1023 + 52).toNat) (.ofNat 52 mantissa)
          else packComponents .binary64 sign 0#11 (.ofNat 52 mantissa) := rfl
      rw [packed]
      split_ifs with top normal
      · cases sign <;> exact .inr rfl
      · exact .inl (isFinite_packComponents sign (by omega))
      · exact .inl (isFinite_packComponents sign (by decide))

section Operations

variable {a b : Float} {x y : ℝ}

theorem not_isInf_of_isFinite (finite : a.isFinite = true) : a.isInf = false := by
  have unpacked : a.toModel.unpack.isFinite = true := finite
  show a.toModel.unpack.isInf = false
  generalize a.toModel.unpack = u at unpacked
  cases u with
  | infinity sign => cases unpacked
  | _ => rfl

theorem roundWithAccuracy_ne_notANumber (sign : Sign) (mantissa : Nat) (exponent : Int)
    (accuracy : Accuracy) :
    roundWithAccuracy .binary64 sign mantissa exponent accuracy ≠ .notANumber := by
  simp only [roundWithAccuracy]
  split <;> exact UnpackedFloat.noConfusion

theorem isFinite_mul (finite : a.isFinite = true) (finite' : b.isFinite = true)
    (bounded : (a * b).isInf = false) : (a * b).isFinite = true := by
  have product : (a * b).toModel.unpack = unpack .binary64
      (UnpackedFloat.pack .binary64 (.mul .binary64 a.toModel.unpack b.toModel.unpack)) := rfl
  have number : UnpackedFloat.mul .binary64 a.toModel.unpack b.toModel.unpack ≠ .notANumber := by
    obtain ⟨x, holds⟩ : ∃ x, Holds a.toModel.unpack x := ⟨_, holds_value finite⟩
    obtain ⟨y, holds'⟩ : ∃ y, Holds b.toModel.unpack y := ⟨_, holds_value finite'⟩
    generalize a.toModel.unpack = u at *
    generalize b.toModel.unpack = v at *
    cases holds with
    | zero sign => cases holds' <;> exact UnpackedFloat.noConfusion
    | finite sign canonical =>
        cases holds' with
        | zero sign => exact UnpackedFloat.noConfusion
        | finite sign canonical' =>
            exact roundWithAccuracy_ne_notANumber _ _ _ _
  refine (isFinite_or_isInf_pack number).resolve_right ?_
  rw [← product]
  exact Bool.eq_false_iff.mp bounded

theorem StandsFor.lt_overflow (stands : StandsFor a x) (positive : 0 < x) : x < overflow := by
  obtain ⟨size, range, same⟩ := stands.fits
  have short : (size.mantissa : ℝ) < 2 ^ 53 := by exact_mod_cast range.short
  rw [abs_of_pos positive, Dyadic.value] at same
  have power : (0 : ℝ) < 2 ^ (970 : ℤ) := zpow_pos two_pos _
  calc x = size.mantissa * 2 ^ size.exponent := same
    _ ≤ size.mantissa * 2 ^ (971 : ℤ) := mul_le_mul_of_nonneg_left
        (zpow_le_zpow_right₀ one_le_two range.greatest) (Nat.cast_nonneg _)
    _ = size.mantissa * 2 * 2 ^ (970 : ℤ) := by
        rw [show (971 : ℤ) = 970 + 1 from rfl, zpow_add_one₀ two_ne_zero]
        ring
    _ < overflow := by
        have whole : (size.mantissa : ℝ) ≤ 2 ^ 53 - 1 := by
          have := range.short
          exact le_sub_iff_add_le.mpr (by exact_mod_cast this)
        rw [overflow_eq]
        exact mul_lt_mul_of_pos_right (by linarith) power

theorem StandsFor.mul_finite (stands : StandsFor a x) (other : StandsFor b y)
    (normal : 2 ^ (-1022 : ℤ) ≤ x) (positive : 0 < y) (small : x * y < overflow) :
    (a * b).isFinite = true := by
  obtain ⟨mantissa, exponent, target, pending, same⟩ := stands.mul_unpack other normal positive
  obtain ⟨size, holds, -⟩ := pending.holds small .positive
  rw [same]
  exact (standsFor_pack holds).finite

theorem StandsFor.mul_approximates (stands : StandsFor a x) (other : StandsFor b y)
    (normal : 2 ^ (-1022 : ℤ) ≤ x) (positive : 0 < y) (low : 2 ^ (-1022 : ℤ) ≤ x * y)
    (small : x * y < overflow) : Approximates (a * b) (x * y) := by
  obtain ⟨mantissa, exponent, target, pending, same⟩ := stands.mul_unpack other normal positive
  obtain ⟨size, holds, -, near⟩ := pending.holds small .positive
  have stands := standsFor_pack holds
  rw [← same] at stands
  exact ⟨stands.finite, stands.value ▸ near.trans (pending.half_place_le low)⟩

theorem StandsFor.div_approximates (stands : StandsFor a x) (other : StandsFor b y)
    (positive : 0 < x) (positive' : 0 < y) (low : 2 ^ (-1022 : ℤ) ≤ x / y) (small : x / y < overflow) :
    Approximates (a / b) (x / y) := by
  obtain ⟨mantissa, exponent, accuracy, target, pending, same⟩ := stands.div_unpack other positive positive'
  obtain ⟨size, holds, -, near⟩ := pending.holds small .positive
  have stands := standsFor_pack holds
  rw [← same] at stands
  exact ⟨stands.finite, stands.value ▸ near.trans (pending.half_place_le low)⟩

theorem StandsFor.div_finite (stands : StandsFor a x) (other : StandsFor b y) (nonneg : 0 ≤ x)
    (large : 1 ≤ y) : ∃ size, StandsFor (a / b) size ∧ 0 ≤ size := by
  have positive : 0 < y := zero_lt_one.trans_le large
  rcases nonneg.eq_or_lt with none | some
  · have quotient : a / b =
        .ofModel (.pack (.div .binary64 a.toModel.unpack b.toModel.unpack)) := rfl
    have holds := standsFor_iff.mp stands
    have holds' := standsFor_iff.mp other
    rw [quotient]
    generalize a.toModel.unpack = u at *
    generalize b.toModel.unpack = v at *
    cases holds with
    | zero sign =>
        cases holds' with
        | zero => exact absurd positive (lt_irrefl 0)
        | finite sign' => exact ⟨0, standsFor_pack (.zero (sign / sign')), le_rfl⟩
    | finite sign canonical =>
        have size := Dyadic.value_pos canonical.positive
        rw [← abs_signed size sign, ← none, abs_zero] at size
        exact absurd size (lt_irrefl 0)
  · obtain ⟨mantissa, exponent, accuracy, target, pending, same⟩ := stands.div_unpack other some positive
    obtain ⟨size, holds, nonneg, -⟩ := pending.holds
      ((div_le_self nonneg large).trans_lt (stands.lt_overflow some)) .positive
    rw [same]
    exact ⟨size, standsFor_pack holds, nonneg⟩

end Operations

/-! ## Errors that add up -/

section Errors

variable {number other : Float} {target target' : ℝ}

theorem Approximates.mul_bounds (approximates : Approximates number target)
    (approximates' : Approximates other target') (positive : 0 < target) (positive' : 0 < target') :
    target * target' * (1 - 3 / 2 ^ 53) ≤ value number * value other ∧
      value number * value other ≤ target * target' * (1 + 3 / 2 ^ 53) := by
  have low := mul_le_mul approximates.mul_le approximates'.mul_le
    (mul_nonneg positive'.le (by norm_num)) (approximates.pos positive).le
  have high := mul_le_mul approximates.le_mul approximates'.le_mul
    (approximates'.pos positive').le (mul_nonneg positive.le (by norm_num))
  have product := mul_pos positive positive'
  constructor <;> linarith

theorem Approximates.div_bounds (approximates : Approximates number target)
    (approximates' : Approximates other target') (positive : 0 < target) (positive' : 0 < target') :
    target / target' * (1 - 3 / 2 ^ 53) ≤ value number / value other ∧
      value number / value other ≤ target / target' * (1 + 3 / 2 ^ 53) := by
  have other_pos := approximates'.pos positive'
  have least := approximates.mul_le
  have most := approximates.le_mul
  have least' := approximates'.mul_le
  have most' := approximates'.le_mul
  rw [div_mul_eq_mul_div, div_mul_eq_mul_div, div_le_div_iff₀ positive' other_pos,
    div_le_div_iff₀ other_pos positive']
  constructor
  · calc target * (1 - 3 / 2 ^ 53) * value other
        ≤ target * (1 - 3 / 2 ^ 53) * (target' * (1 + 1 / 2 ^ 53)) :=
          mul_le_mul_of_nonneg_left most' (mul_nonneg positive.le (by norm_num))
      _ = target * target' * ((1 - 3 / 2 ^ 53) * (1 + 1 / 2 ^ 53)) := by ring
      _ ≤ target * target' * (1 - 1 / 2 ^ 53) :=
          mul_le_mul_of_nonneg_left (by norm_num) (mul_pos positive positive').le
      _ = target * (1 - 1 / 2 ^ 53) * target' := by ring
      _ ≤ value number * target' := mul_le_mul_of_nonneg_right least positive'.le
  · calc value number * target' ≤ target * (1 + 1 / 2 ^ 53) * target' :=
          mul_le_mul_of_nonneg_right most positive'.le
      _ = target * target' * (1 + 1 / 2 ^ 53) := by ring
      _ ≤ target * target' * ((1 + 3 / 2 ^ 53) * (1 - 1 / 2 ^ 53)) :=
          mul_le_mul_of_nonneg_left (by norm_num) (mul_pos positive positive').le
      _ = target * (1 + 3 / 2 ^ 53) * (target' * (1 - 1 / 2 ^ 53)) := by ring
      _ ≤ target * (1 + 3 / 2 ^ 53) * value other :=
          mul_le_mul_of_nonneg_left least' (mul_nonneg positive.le (by norm_num))

end Errors

/-! ## Whole numbers of either sign -/

theorem isFinite_ofNat {n : Nat} (positive : 0 < n) (short : n < 2 ^ 64) :
    (Float.ofNat n).isFinite = true := by
  have whole : (1 : ℝ) ≤ n := Nat.one_le_cast.mpr positive
  have below : (n : ℝ) < 2 ^ 64 := by exact_mod_cast short
  have small : (n : ℝ) < overflow :=
    lt_overflow (below.le.trans (zpow_le_zpow_right₀ one_le_two (by norm_num : (64 : ℤ) ≤ 1023)))
  by_cases exact : n < 2 ^ 53 ∧ 0 ≤ 22
  · have one : StandsFor Float.exactlyRepresentablePowersOfTen[0] (1 : ℕ) :=
      standsFor_of_isNatural (by decide +kernel)
    have made : Float.ofNat n = n.toUInt64.toFloat * Float.exactlyRepresentablePowersOfTen[0] :=
      dif_pos exact
    rw [made]
    refine (standsFor_ofNat exact.1).mul_finite one ?_ (by norm_num) (by simpa using small)
    exact (zpow_le_one_of_nonpos₀ one_le_two (by norm_num)).trans whole
  · exact (approximates_ofScientific positive exact (Nat.zero_le _) (by simpa using small)).finite

theorem isFinite_ofInt {n : Int} (short : -2 ^ 63 ≤ n) (negative : n < 0) :
    (Float.ofInt n).isFinite = true := by
  obtain ⟨count, rfl⟩ := Int.eq_negSucc_of_lt_zero negative
  have natural := isFinite_ofNat (Nat.succ_pos count) (by omega)
  exact (StandsFor.neg ⟨natural, rfl⟩).finite

end Binary64

end TorusEngine.Numeral
