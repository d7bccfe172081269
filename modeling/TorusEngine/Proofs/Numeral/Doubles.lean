import TorusEngine.Proofs.Numeral.Unpacked

/-!
# Exact operations on doubles

A finite double stands for a number (`StandsFor`), and signs, comparisons, halves and differences of
doubles are those of the numbers wherever doubles hold the result. The remainder is always held by a
double, and so is a difference of two numbers of which neither is more than twice the other
(`Fits.sub_of_near`).
-/

namespace TorusEngine.Numeral

open Float.Model (Format UnpackedFloat)
open Float.Model.UnpackedFloat

/-! ## Reading and writing bit patterns -/

namespace Binary64

def signOf (bits : UInt64) : Sign := if isNegative bits then .negative else .positive

theorem fields_toBitVec (bits : UInt64) :
    Fields bits.toBitVec (signOf bits) (exponentField bits) (fractionField bits) where
  exponent := by
    simp [unpackExponent, exponentField, hiddenBit, BitVec.extractLsb_toNat, Nat.shiftRight_eq_div_pow]
  mantissa := by
    simp [unpackMantissa, fractionField, hiddenBit, BitVec.extractLsb_toNat]
  sign := by
    have short := bits.toNat_lt
    have top : (@unpackSign .binary64 bits.toBitVec).toNat = bits.toNat >>> 63 := by
      simp [unpackSign, BitVec.extractLsb_toNat, Nat.shiftRight_eq_div_pow]
      omega
    rw [signOf, isNegative, ← top]
    generalize @unpackSign .binary64 bits.toBitVec = bit
    obtain rfl | rfl := BitVec.eq_zero_or_eq_one bit
    · rfl
    · rfl

/-- A pattern is subnormal, or it stands for no finite number, or it is normal. -/
theorem magnitude?_cases (bits : UInt64) :
    (exponentField bits = 0 ∧ magnitude? bits = some ⟨fractionField bits, -1074⟩) ∨
    (exponentField bits = 2047 ∧ magnitude? bits = none) ∨
    (0 < exponentField bits ∧ exponentField bits < 2047 ∧
      magnitude? bits = some ⟨2 ^ 52 + fractionField bits, exponentField bits - 1075⟩) := by
  have bound : exponentField bits < 2048 := Nat.mod_lt _ (by decide)
  unfold magnitude?
  split
  · rename_i bottom
    exact .inl ⟨bottom, rfl⟩
  · rename_i top
    exact .inr (.inl ⟨top, rfl⟩)
  · rename_i low top
    exact .inr (.inr ⟨Nat.pos_of_ne_zero low, Nat.lt_of_le_of_ne (Nat.le_of_lt_succ bound) top, rfl⟩)

theorem inRange_of_magnitude {bits : UInt64} {number : Dyadic}
    (read : magnitude? bits = some number) :
    number.InRange ∧ (2 ^ 52 ≤ number.mantissa ∨ number.exponent = -1074) := by
  have short : fractionField bits < 2 ^ 52 := Nat.mod_lt _ (by decide)
  rcases magnitude?_cases bits with ⟨-, same⟩ | ⟨-, same⟩ | ⟨low, high, same⟩ <;>
    rw [same] at read <;> cases read
  · exact ⟨⟨short.trans (by decide), le_rfl, by simp⟩, .inr rfl⟩
  · refine ⟨⟨?_, ?_, ?_⟩, .inl (Nat.le_add_right _ _)⟩ <;> simp only <;> omega

theorem holds_of_magnitude {bits : UInt64} {number : Dyadic} (read : magnitude? bits = some number) :
    Holds (unpack .binary64 bits.toBitVec) (signed (signOf bits) number.value) := by
  have fields := fields_toBitVec bits
  obtain ⟨range, full⟩ := inRange_of_magnitude read
  rcases magnitude?_cases bits with ⟨bottom, same⟩ | ⟨-, same⟩ | ⟨low, high, same⟩ <;>
    rw [same] at read <;> cases read
  · rcases Nat.eq_zero_or_pos (fractionField bits) with empty | positive
    · rw [fields.unpack_zero bottom empty, Dyadic.value, empty, Nat.cast_zero, zero_mul, signed_zero]
      exact .zero _
    · rw [fields.unpack_subnormal bottom positive]
      exact .finite _ ⟨range, positive, full⟩
  · rw [fields.unpack_normal low high]
    exact .finite _ ⟨range, Nat.add_pos_left (by decide) _, full⟩

theorem isFinite_unpack_of_magnitude {bits : UInt64} (read : magnitude? bits = none) :
    (unpack .binary64 bits.toBitVec).isFinite = false := by
  rcases magnitude?_cases bits with ⟨-, same⟩ | ⟨top, -⟩ | ⟨-, -, same⟩
  · rw [same] at read
    cases read
  · exact (fields_toBitVec bits).isFinite_unpack_top top
  · rw [same] at read
    cases read

/-! ## The number that a double stands for -/

structure StandsFor (number : Float) (size : ℝ) : Prop where
  finite : number.isFinite = true
  value : Binary64.value number = size

theorem value_eq_signed {number : Float} {size : Dyadic}
    (read : magnitude? number.toBits = some size) :
    value number = signed (signOf number.toBits) size.value := by
  rw [value, read, signOf]
  cases isNegative number.toBits <;> rfl

theorem exists_magnitude {number : Float} (finite : number.isFinite = true) :
    ∃ size, magnitude? number.toBits = some size := by
  refine Option.ne_none_iff_exists'.mp fun none => ?_
  have infinite : number.isFinite = false := isFinite_unpack_of_magnitude none
  rw [infinite] at finite
  cases finite

theorem holds_value {number : Float} (finite : number.isFinite = true) :
    Holds number.toModel.unpack (value number) := by
  obtain ⟨size, read⟩ := exists_magnitude finite
  rw [value_eq_signed read]
  exact holds_of_magnitude read

theorem standsFor_iff {number : Float} {size : ℝ} :
    StandsFor number size ↔ Holds number.toModel.unpack size := by
  constructor
  · rintro ⟨finite, rfl⟩
    exact holds_value finite
  · intro holds
    have finite : number.isFinite = true := holds.isFinite
    exact ⟨finite, (holds_value finite).unique holds⟩

theorem standsFor_of_value_ne_zero {number : Float} (nonzero : value number ≠ 0) :
    StandsFor number (value number) := by
  obtain ⟨size, read⟩ : ∃ size, magnitude? number.toBits = some size := by
    refine Option.ne_none_iff_exists'.mp fun none => nonzero ?_
    rw [value, none]
  rw [standsFor_iff, value_eq_signed read]
  exact holds_of_magnitude read

theorem standsFor_pack {u : UnpackedFloat} {size : ℝ} (holds : Holds u size) :
    StandsFor (.ofModel (.pack u)) size := by
  rw [standsFor_iff]
  show Holds (unpack .binary64 (pack .binary64 u)) size
  rwa [holds.unpack_pack]

/-! ## Exact operations -/

section Operations

variable {a b : Float} {x y : ℝ}

theorem StandsFor.fits (stands : StandsFor a x) : Fits x := (standsFor_iff.mp stands).fits

theorem StandsFor.neg (stands : StandsFor a x) : StandsFor (-a) (-x) :=
  standsFor_pack (standsFor_iff.mp stands).neg

theorem StandsFor.abs (stands : StandsFor a x) : StandsFor (Scalar.abs a) |x| :=
  standsFor_pack (standsFor_iff.mp stands).abs

theorem StandsFor.sub (stands : StandsFor a x) (other : StandsFor b y) (fits : Fits (x - y)) :
    StandsFor (a - b) (x - y) :=
  standsFor_pack ((standsFor_iff.mp stands).sub (standsFor_iff.mp other) fits)

theorem unpack_two : (Scalar.ofInt 2 : Float).toModel.unpack =
    .finite .positive two.mantissa two.exponent (by decide) := by
  rfl

theorem StandsFor.half (stands : StandsFor a x) (fits : Fits (x / 2)) :
    StandsFor (a / Scalar.ofInt 2) (x / 2) :=
  standsFor_pack (unpack_two ▸ (standsFor_iff.mp stands).half fits)

theorem StandsFor.le (stands : StandsFor a x) (other : StandsFor b y) :
    Scalar.le a b = decide (x ≤ y) := by
  have compared := (standsFor_iff.mp stands).compare (standsFor_iff.mp other)
  have unpacked : Scalar.le a b = a.toModel.unpack.le b.toModel.unpack :=
    (Bool.decide_eq_true (b := a.le b)).trans Bool.decide_eq_true
  rw [unpacked, UnpackedFloat.le, compared, Bool.eq_iff_iff, decide_eq_true_iff, ← not_lt,
    ← cmp_eq_gt_iff]
  cases cmp x y <;> decide

theorem StandsFor.lt (stands : StandsFor a x) (other : StandsFor b y) :
    Scalar.lt a b = decide (x < y) := by
  have compared := (standsFor_iff.mp stands).compare (standsFor_iff.mp other)
  have unpacked : Scalar.lt a b = a.toModel.unpack.lt b.toModel.unpack :=
    (Bool.decide_eq_true (b := a.lt b)).trans Bool.decide_eq_true
  rw [unpacked, UnpackedFloat.lt, compared, Bool.eq_iff_iff, decide_eq_true_iff, ← cmp_eq_lt_iff]
  cases cmp x y <;> decide

end Operations

/-! ## Numbers with a half -/

section Halves

variable {x : ℝ}

theorem two_zpow : (2 : ℝ) ^ (-1073 : ℤ) = 2 ^ (-1074 : ℤ) * 2 := zpow_add_one₀ (by norm_num) (-1074)

/-- A number is twice another double's number when it is a multiple of twice the least double. -/
theorem fits_half_iff (fits : Fits x) (nonneg : 0 ≤ x) :
    Fits (x / 2) ↔ ∃ count : ℕ, x = count * 2 ^ (-1073 : ℤ) := by
  have nonneg' : 0 ≤ x / 2 := by linarith
  constructor
  · rintro ⟨size, range, same⟩
    rw [abs_of_nonneg nonneg', Dyadic.value_eq_mul range.least] at same
    refine ⟨size.mantissa <<< (size.exponent - -1074).toNat, ?_⟩
    rw [two_zpow]
    linarith
  · rintro ⟨count, multiple⟩
    obtain ⟨size, range, same⟩ := fits
    have greatest := range.greatest
    rw [abs_of_nonneg nonneg] at same
    rw [Fits, abs_of_nonneg nonneg']
    -- At the least exponent the mantissa itself has to be even; above it the exponent is lowered.
    rcases range.least.eq_or_lt with bottom | above
    · have least : (0 : ℝ) < 2 ^ (-1074 : ℤ) := zpow_pos (by norm_num) _
      rw [multiple, two_zpow, Dyadic.value, ← bottom, mul_comm _ (2 : ℝ), ← mul_assoc] at same
      have twice : count * 2 = size.mantissa := by
        exact_mod_cast mul_right_cancel₀ least.ne' same
      have short := range.short
      refine ⟨⟨count, -1074⟩, ⟨?_, le_rfl, by simp⟩, ?_⟩
      · simp only
        omega
      · rw [multiple, two_zpow, Dyadic.value]
        ring
    · refine ⟨⟨size.mantissa, size.exponent - 1⟩, ⟨range.short, ?_, ?_⟩, ?_⟩
      · simp only
        omega
      · simp only
        omega
      · rw [same, size.value_half]

/-- Only numbers below `2 ^ -1021` can have an odd last place at the least exponent. -/
theorem exists_count_of_le (fits : Fits x) (wide : 2 ^ (-1021 : ℤ) ≤ x) :
    ∃ count : ℕ, x = count * 2 ^ (-1073 : ℤ) := by
  obtain ⟨size, range, same⟩ := fits
  have least : (0 : ℝ) < 2 ^ (-1074 : ℤ) := zpow_pos (by norm_num) _
  rw [abs_of_nonneg ((zpow_pos (by norm_num) _).le.trans wide)] at same
  rcases range.least.eq_or_lt with bottom | above
  · have short : (size.mantissa : ℝ) < 2 ^ 53 := by exact_mod_cast range.short
    have power : (2 : ℝ) ^ (-1021 : ℤ) = 2 ^ 53 * 2 ^ (-1074 : ℤ) := by
      rw [← zpow_natCast, ← zpow_add₀ (by norm_num)]
      rfl
    rw [same, Dyadic.value, ← bottom, power] at wide
    exact absurd (le_of_mul_le_mul_right wide least) short.not_ge
  · exact ⟨_, same.trans (Dyadic.value_eq_mul (Int.add_one_le_iff.mpr above))⟩

end Halves

/-! ## The remainder -/

/-- A pattern is made by adding the exponent to the mantissa, of which the hidden bit is one more
exponent. -/
theorem magnitude?_eq_some {bits : UInt64} {number : Dyadic} (canonical : number.Canonical)
    (made : bits.toNat = number.mantissa + (number.exponent + 1074).toNat * hiddenBit) :
    magnitude? bits = some number ∧ signOf bits = .positive := by
  obtain ⟨⟨short, least, greatest⟩, positive, full⟩ := canonical
  have exponent : exponentField bits =
      (number.mantissa + (number.exponent + 1074).toNat * hiddenBit) / hiddenBit % 2048 := by
    rw [exponentField, made]
  have fraction : fractionField bits =
      (number.mantissa + (number.exponent + 1074).toNat * hiddenBit) % hiddenBit := by
    rw [fractionField, made]
  have above : isNegative bits = false := by
    rw [isNegative, made, beq_eq_false_iff_ne, Nat.shiftRight_eq_div_pow]
    simp only [hiddenBit]
    omega
  refine ⟨?_, by rw [signOf, above]; rfl⟩
  simp only [hiddenBit] at exponent fraction
  rcases magnitude?_cases bits with ⟨bottom, same⟩ | ⟨top, -⟩ | ⟨low, high, same⟩
  · rw [same, Option.some.injEq, Dyadic.mk.injEq]
    omega
  · omega
  · rw [same, Option.some.injEq, Dyadic.mk.injEq]
    omega

theorem standsFor_pattern {number : Dyadic} (range : number.InRange) (positive : 0 < number.mantissa) :
    StandsFor (Float.ofBits (pattern number)) number.value := by
  have canonical := range.moved_up positive
  have short := canonical.short
  have greatest := canonical.greatest
  have made : (pattern number).toNat = _ % 2 ^ 64 := UInt64.toNat_ofNat'
  rw [Nat.mod_eq_of_lt] at made
  · obtain ⟨read, sign⟩ := magnitude?_eq_some canonical made
    have holds := holds_of_magnitude read
    rw [sign, Dyadic.value_shifted] at holds
    exact standsFor_pack holds
  · simp only [Dyadic.shifted] at short greatest
    simp only [hiddenBit]
    omega

theorem remainder_signed (first second : Sign) (x y : ℝ) :
    Scalar.remainder (signed first x) (signed second y) = signed first (Scalar.remainder x y) := by
  cases first <;> cases second <;>
    simp only [signed, Exact.remainder_neg_left, Exact.remainder_neg_right]

theorem inRange_modulo {first second : Dyadic} (range : first.InRange) (range' : second.InRange)
    (nonzero : second.mantissa ≠ 0) : (first.modulo second).InRange where
  short := by
    rcases range.short_or_short range' with short | short
    · exact (Nat.mod_le _ _).trans_lt short
    · have divisor : 0 < second.mantissa <<<
          (second.exponent - min first.exponent second.exponent).toNat := by
        simp [Nat.shiftLeft_eq, Nat.pos_of_ne_zero nonzero]
      exact (Nat.mod_lt _ divisor).trans short
  least := le_min range.least range'.least
  greatest := (min_le_left _ _).trans range.greatest

theorem value_modulo (first second : Dyadic) :
    (first.modulo second).value = Scalar.remainder first.value second.value := by
  rw [Dyadic.value_eq_mul (min_le_left first.exponent second.exponent),
    Dyadic.value_eq_mul (min_le_right first.exponent second.exponent),
    Exact.remainder_natCast_mul _ (zpow_pos (by norm_num) _)]
  rfl

theorem standsFor_zero : StandsFor 0.0 0 := standsFor_iff.mpr (.zero .positive)

/-- A remainder is always held by a double: it is less than the divisor, and at most the dividend. -/
theorem StandsFor.remainder {a b : Float} {x y : ℝ} (stands : StandsFor a x) (other : StandsFor b y)
    (nonzero : y ≠ 0) : StandsFor (Scalar.remainder a b) (Scalar.remainder x y) := by
  obtain ⟨finite, rfl⟩ := stands
  obtain ⟨finite', rfl⟩ := other
  obtain ⟨first, read⟩ := exists_magnitude finite
  obtain ⟨second, read'⟩ := exists_magnitude finite'
  rw [value_eq_signed read'] at nonzero
  have range := (inRange_of_magnitude read).1
  have range' := (inRange_of_magnitude read').1
  have nonempty : second.mantissa ≠ 0 := fun empty => by
    rw [Dyadic.value, empty, Nat.cast_zero, zero_mul, signed_zero] at nonzero
    exact nonzero rfl
  have unsigned : StandsFor
      (if (first.modulo second).mantissa = 0 then 0.0
        else Float.ofBits (pattern (first.modulo second))) (first.modulo second).value := by
    split
    · rename_i empty
      rw [Dyadic.value, empty, Nat.cast_zero, zero_mul]
      exact standsFor_zero
    · rename_i some
      exact standsFor_pattern (inRange_modulo range range' nonempty) (Nat.pos_of_ne_zero some)
  rw [value_eq_signed read, value_eq_signed read', remainder_signed, ← value_modulo, signOf]
  show StandsFor (Binary64.remainder a b) _
  simp only [Binary64.remainder, read, read', nonempty, if_false]
  split
  · exact unsigned.neg
  · exact unsigned

end Binary64

end TorusEngine.Numeral
