import TorusEngine.Json.Printer
import TorusEngine.Proofs.Json.NumberTexts
import TorusEngine.Proofs.Json.Scaling

/-!
# How doubles are spelled in JSON text

A decimal is spelled in parts that make up a number (`spelled`), and they are read as a significand and an
exponent: those of the decimal, or with a zero more behind a whole number (`written`). So the text of
every finite double is read (`value_printed`), but not always as the same double (`Reread`).
-/

namespace TorusEngine.Json

open Numeral

/-! ## Digits -/

theorem ofDigitChars_replicate (count n : Nat) :
    Nat.ofDigitChars 10 (List.replicate count '0') n = n * 10 ^ count := by
  induction count generalizing n with
  | zero => exact (Nat.mul_one n).symm
  | succ count ih =>
      rw [List.replicate_succ, Parts.ofDigitChars_cons, ih, show '0'.toNat - 48 = 0 from rfl]
      ring

theorem head?_toDigits {n : Nat} (positive : 0 < n) : (Nat.toDigits 10 n).head? ≠ some '0' := by
  induction n using Nat.strongRecOn with
  | ind n ih =>
      rcases Nat.lt_or_ge n 10 with small | large
      · rw [Nat.toDigits_of_lt_base small]
        intro zero
        interval_cases n <;> simp [Nat.digitChar] at zero
      · rw [Nat.toDigits_of_base_le (by norm_num) large, List.head?_append_of_ne_nil _ Nat.toDigits_ne_nil]
        exact ih (n / 10) (by omega) (by omega)

theorem isDigit_toDigits {n : Nat} {c : Char} (belongs : c ∈ Nat.toDigits 10 n) : c.isDigit = true :=
  Nat.isDigit_of_mem_toDigits (by norm_num) le_rfl belongs

/-! ## Spelling -/

def Parts.ofDigits (negative : Bool) (digits : List Char) (point : Int) : Parts :=
  if -4 ≤ point ∧ point ≤ 16 then
    if point ≤ 0 then ⟨negative, ['0'], List.replicate (-point).toNat '0' ++ digits, none⟩
    else if digits.length ≤ point then
      ⟨negative, digits ++ List.replicate (point - digits.length).toNat '0', ['0'], none⟩
    else ⟨negative, digits.take point.toNat, digits.drop point.toNat, none⟩
  else ⟨negative, digits.take 1, digits.drop 1,
    some (!decide (1 ≤ point), Nat.toDigits 10 (point - 1).natAbs)⟩

def spelled (negative : Bool) (decimal : Decimal) : Parts :=
  if decimal.digits = 0 then ⟨negative, ['0'], ['0'], none⟩
  else .ofDigits negative (Nat.toDigits 10 decimal.digits)
    (decimal.exponent + (Nat.toDigits 10 decimal.digits).length)

theorem toList_repr_int (n : Int) : (toString n).toList =
    if n < 0 then '-' :: Nat.toDigits 10 n.natAbs else Nat.toDigits 10 n.natAbs := by
  cases n with
  | ofNat n =>
      rw [Int.ofNat_eq_natCast, if_neg (Int.not_lt.mpr (Int.natCast_nonneg n))]
      exact Nat.toList_repr
  | negSucc n =>
      rw [if_pos (Int.negSucc_lt_zero n)]
      show ("-" ++ Nat.repr (n + 1)).toList = _
      rw [String.toList_append, Nat.toList_repr]
      rfl

section Digits

variable {digits : List Char} {point : Int}

theorem toList_withExponent (outside : ¬(-4 ≤ point ∧ point ≤ 16)) :
    (Style.document.withExponent digits point).toList = (Parts.ofDigits false digits point).text := by
  rw [Parts.ofDigits, if_neg outside, Style.withExponent]
  simp only [Parts.text, Parts.fractionText, Parts.exponentText, Style.document, Bool.true_and,
    String.toList_append, toList_repr_int]
  rcases lt_or_ge point 1 with low | high
  · have down : decide (1 ≤ point) = false := decide_eq_false (by omega)
    rw [if_pos (by omega : point - 1 < 0), down]
    cases digits.drop 1 <;> simp
  · have up : decide (1 ≤ point) = true := decide_eq_true high
    rw [if_neg (by omega : ¬point - 1 < 0), up]
    cases digits.drop 1 <;> simp

theorem toList_withoutExponent (nonempty : digits ≠ []) (inside : -4 ≤ point ∧ point ≤ 16) :
    (Style.document.withoutExponent digits point).toList =
      (Parts.ofDigits false digits point).text := by
  rw [Parts.ofDigits, if_pos inside, Style.withoutExponent]
  by_cases low : point ≤ 0
  · rw [if_pos low, if_pos low]
    simp [Parts.text, Parts.fractionText, Parts.exponentText, Style.zeros, nonempty]
  · rw [if_neg low, if_neg low]
    by_cases whole : digits.length ≤ point
    · rw [if_pos whole, if_pos whole]
      simp [Parts.text, Parts.fractionText, Parts.exponentText, Style.zeros, Style.document]
    · have more : digits.drop point.toNat ≠ [] := by
        rw [Ne, List.drop_eq_nil_iff]
        omega
      rw [if_neg whole, if_neg whole]
      simp only [Parts.text, Parts.fractionText, Parts.exponentText, more]
      simp

theorem valid_ofDigits (all : ∀ c ∈ digits, c.isDigit = true) (nonempty : digits ≠ [])
    (noZero : digits.head? ≠ some '0') (negative : Bool) (point : Int) :
    (Parts.ofDigits negative digits point).Valid := by
  have zeros (count : Nat) : ∀ c ∈ List.replicate count '0', c.isDigit = true := by
    intro c belongs
    rw [List.eq_of_mem_replicate belongs]
    rfl
  have both {first second : List Char} (left : ∀ c ∈ first, c.isDigit = true)
      (right : ∀ c ∈ second, c.isDigit = true) : ∀ c ∈ first ++ second, c.isDigit = true :=
    fun c belongs => (List.mem_append.mp belongs).elim (left c) (right c)
  have taken (count : Nat) : ∀ c ∈ digits.take count, c.isDigit = true :=
    fun c belongs => all c (List.mem_of_mem_take belongs)
  have dropped (count : Nat) : ∀ c ∈ digits.drop count, c.isDigit = true :=
    fun c belongs => all c (List.mem_of_mem_drop belongs)
  rw [Parts.ofDigits]
  split_ifs with inside low whole
  · exact ⟨zeros 1, by simp, by simp, both (zeros _) all, by simp⟩
  · refine ⟨both all (zeros _), by simp [nonempty], fun _ => ?_, zeros 1, by simp⟩
    rwa [List.head?_append_of_ne_nil _ nonempty]
  · have some : point.toNat ≠ 0 := by omega
    refine ⟨taken _, by simp [nonempty, some], fun _ => ?_, dropped _, by simp⟩
    rwa [List.head?_take, if_neg some]
  · refine ⟨taken _, by simp [nonempty], fun long => ?_, dropped _, ?_⟩
    · rwa [List.head?_take, if_neg one_ne_zero]
    · rintro e ⟨⟩
      exact ⟨Nat.toDigits_ne_nil, fun c => isDigit_toDigits⟩

/-- A whole number without an exponent is spelled with all its digits and one zero behind the point. -/
theorem ofDigits_whole (nonempty : digits ≠ []) (negative : Bool) (small : point ≤ 16)
    (whole : digits.length ≤ point) : Parts.ofDigits negative digits point =
      ⟨negative, digits ++ List.replicate (point - digits.length).toNat '0', ['0'], none⟩ := by
  have some := List.length_pos_iff.mpr nonempty
  rw [Parts.ofDigits, if_pos ⟨by omega, small⟩, if_neg (by omega), if_pos whole]

theorem ofDigits_said (nonempty : digits ≠ []) (negative : Bool)
    (other : ¬(point ≤ 16 ∧ digits.length ≤ point)) :
    (Parts.ofDigits negative digits point).significand = Nat.ofDigitChars 10 digits 0 ∧
      (Parts.ofDigits negative digits point).power - (Parts.ofDigits negative digits point).fraction.length =
        point - digits.length := by
  have some := List.length_pos_iff.mpr nonempty
  rw [Parts.ofDigits]
  split_ifs with inside low whole
  · constructor
    · rw [Parts.significand, Nat.ofDigitChars_append, Nat.ofDigitChars_append, ofDigitChars_replicate]
      rw [Parts.ofDigitChars_cons, Nat.ofDigitChars_nil, show '0'.toNat - 48 = 0 from rfl, Nat.zero_mul]
    · simp only [Parts.power, List.length_append, List.length_replicate]
      omega
  · exact absurd ⟨inside.2, whole⟩ other
  · constructor
    · rw [Parts.significand, List.take_append_drop]
    · simp only [Parts.power, List.length_drop]
      omega
  · constructor
    · rw [Parts.significand, List.take_append_drop]
    · simp only [Parts.power, List.length_drop, Nat.ofDigitChars_toDigits (by norm_num : 1 < 10) le_rfl]
      rcases lt_or_ge point 1 with down | up
      · rw [if_pos (by simpa using down)]
        omega
      · rw [if_neg (by simpa using up)]
        omega

end Digits

theorem toList_spell (decimal : Decimal) :
    (Style.document.spell decimal).toList = (spelled false decimal).text := by
  rw [Style.spell, spelled]
  split
  · rfl
  · change String.toList (if -4 ≤ _ ∧ _ ≤ 16 then _ else _) = _
    split
    · exact toList_withoutExponent Nat.toDigits_ne_nil ‹_›
    · exact toList_withExponent ‹_›

theorem valid_spelled (negative : Bool) (decimal : Decimal) : (spelled negative decimal).Valid := by
  rw [spelled]
  split
  · exact ⟨by simp, by simp, by simp, by simp, by simp⟩
  · exact valid_ofDigits (fun _ => isDigit_toDigits) Nat.toDigits_ne_nil
      (head?_toDigits (Nat.pos_of_ne_zero ‹_›)) negative _

/-- The significand and the exponent with which a spelled decimal is read. A whole number without an
exponent has a zero behind its point. -/
def written (decimal : Decimal) : Decimal :=
  if decimal.digits = 0 then ⟨0, -1⟩
  else if 0 ≤ decimal.exponent ∧ decimal.exponent + (Nat.toDigits 10 decimal.digits).length ≤ 16 then
    ⟨decimal.digits * 10 ^ (decimal.exponent + 1).toNat, -1⟩
  else decimal

theorem spelled_said (negative : Bool) (decimal : Decimal) :
    (spelled negative decimal).significand = (written decimal).digits ∧
      (spelled negative decimal).power - (spelled negative decimal).fraction.length =
        (written decimal).exponent := by
  have read := Nat.ofDigitChars_toDigits (n := decimal.digits) (by norm_num : 1 < 10) le_rfl
  have nonempty := @Nat.toDigits_ne_nil decimal.digits 10
  rw [spelled, written]
  split_ifs with zero whole
  · exact ⟨rfl, rfl⟩
  · rw [ofDigits_whole nonempty negative whole.2 (by omega)]
    constructor
    · rw [Parts.significand, Nat.ofDigitChars_append, Nat.ofDigitChars_append, read,
        ofDigitChars_replicate, Parts.ofDigitChars_cons, Nat.ofDigitChars_nil,
        show '0'.toNat - 48 = 0 from rfl, Nat.add_zero, Nat.mul_assoc, ← Nat.pow_succ]
      congr 2
      omega
    · rfl
  · obtain ⟨significand, exponent⟩ := @ofDigits_said _
      (decimal.exponent + (Nat.toDigits 10 decimal.digits).length) nonempty negative (by omega)
    exact ⟨significand.trans read, exponent.trans (by omega)⟩

theorem written_digits_lt {decimal : Decimal} (short : decimal.digits < 2 ^ 57) :
    (written decimal).digits < 2 ^ 64 := by
  rw [written]
  split_ifs with zero whole
  · norm_num
  · have below : decimal.digits < 10 ^ (Nat.toDigits 10 decimal.digits).length :=
      (Nat.length_toDigits_le_iff (by norm_num) Nat.length_toDigits_pos).mp le_rfl
    calc decimal.digits * 10 ^ (decimal.exponent + 1).toNat
        ≤ 10 ^ (Nat.toDigits 10 decimal.digits).length * 10 ^ (decimal.exponent + 1).toNat :=
          Nat.mul_le_mul_right _ below.le
      _ = 10 ^ ((Nat.toDigits 10 decimal.digits).length + (decimal.exponent + 1).toNat) :=
          (Nat.pow_add ..).symm
      _ ≤ 10 ^ 17 := Nat.pow_le_pow_right (by norm_num) (by omega)
      _ < 2 ^ 64 := by norm_num
  · exact short.trans (by norm_num)

@[simp] theorem negative_spelled (negative : Bool) (decimal : Decimal) :
    (spelled negative decimal).negative = negative := by
  rw [spelled, Parts.ofDigits]
  split_ifs <;> rfl

theorem spelled_real (negative : Bool) (decimal : Decimal) :
    (spelled negative decimal).fraction ≠ [] ∨ (spelled negative decimal).exponent ≠ none := by
  rw [spelled, Parts.ofDigits]
  split_ifs with zero inside low whole
  · exact .inl (by simp)
  · exact .inl (by simp [Nat.toDigits_ne_nil])
  · exact .inl (by simp)
  · refine .inl ?_
    rw [Ne, List.drop_eq_nil_iff]
    omega
  · exact .inr (by simp)

theorem natAbs_power_le {decimal : Decimal} (short : decimal.digits < 2 ^ 57) (negative : Bool) :
    (spelled negative decimal).power.natAbs ≤ decimal.exponent.natAbs + 18 := by
  have few : (Nat.toDigits 10 decimal.digits).length ≤ 18 :=
    (Nat.length_toDigits_le_iff (by norm_num) (by norm_num)).mpr (short.trans (by norm_num))
  have some := @Nat.length_toDigits_pos 10 decimal.digits
  rw [spelled, Parts.ofDigits]
  split_ifs with zero inside low whole
  · exact Nat.zero_le _
  · exact Nat.zero_le _
  · exact Nat.zero_le _
  · exact Nat.zero_le _
  · simp only [Parts.power, Nat.ofDigitChars_toDigits (by norm_num : 1 < 10) le_rfl]
    split <;> omega

theorem value_spelled {decimal : Decimal} (short : decimal.digits < 2 ^ 57)
    (small : decimal.exponent.natAbs < 2 ^ 30) (negative : Bool) :
    (spelled negative decimal).said.value =
      NumberText.toDouble negative (written decimal).digits (written decimal).exponent := by
  obtain ⟨significand, exponent⟩ := spelled_said negative decimal
  have power := natAbs_power_le short negative
  rw [Parts.value_real _ (spelled_real negative decimal) (by omega), significand, exponent,
    negative_spelled]
  rw [significand]
  exact written_digits_lt short

/-! ## Doubles -/

open Numeral.Binary64

def decimalOf (size : Numeral.Dyadic) : Decimal :=
  if size.mantissa = 0 then ⟨0, 0⟩ else shortest .toEven size

def printedDecimal (number : Float) : Decimal :=
  match magnitude? number.toBits with
  | some size => written (decimalOf size)
  | none => ⟨0, 0⟩

/-- The text of a double has a significand of 53 places and a power of ten that is a double. -/
structure IsShort (number : Float) : Prop where
  digits : (printedDecimal number).digits < 2 ^ 53
  exponent : (printedDecimal number).exponent.natAbs ≤ 22

instance (number : Float) : Decidable (IsShort number) :=
  decidable_of_iff ((printedDecimal number).digits < 2 ^ 53 ∧ (printedDecimal number).exponent.natAbs ≤ 22)
    ⟨fun short => ⟨short.1, short.2⟩, fun short => ⟨short.digits, short.exponent⟩⟩

theorem spelled_true (decimal : Decimal) :
    (spelled true decimal).text = '-' :: (spelled false decimal).text := by
  have same : spelled true decimal = { spelled false decimal with negative := true } := by
    rw [spelled, spelled, Parts.ofDigits, Parts.ofDigits]
    split_ifs <;> rfl
  rw [same, Parts.text, Parts.text, negative_spelled]
  rfl

section Double

variable {number : Float} {size : Numeral.Dyadic}

theorem toList_render (read : magnitude? number.toBits = some size) :
    (Style.document.render number).toList =
      (spelled (isNegative number.toBits) (decimalOf size)).text := by
  simp only [Style.render, read, Style.withSign]
  cases isNegative number.toBits with
  | false => exact toList_spell (decimalOf size)
  | true =>
      rw [if_pos rfl, String.toList_append, spelled_true]
      exact congrArg (List.cons '-') (toList_spell (decimalOf size))

theorem value_written {decimal : Decimal} (some : decimal.digits ≠ 0) :
    (written decimal).value = decimal.value := by
  rw [written, if_neg some]
  split_ifs with whole
  · rw [Decimal.value, Decimal.value]
    push_cast
    rw [← zpow_natCast, Int.toNat_of_nonneg (by omega), zpow_add_one₀ (by norm_num), zpow_neg_one]
    ring
  · rfl

theorem written_pos {decimal : Decimal} (some : 0 < decimal.digits) : 0 < (written decimal).digits := by
  rw [written, if_neg some.ne']
  split_ifs
  · exact Nat.mul_pos some (by positivity)
  · exact some

theorem scale_written (canonical : size.Canonical) : ∃ result,
    NumberText.scale 4 (UInt64.ofNat (written (shortest .toEven size)).digits).toFloat
      (written (shortest .toEven size)).exponent = .ok result := by
  obtain ⟨⟨some, -⟩, -⟩ := shortest_spec canonical .toEven
  rw [written, if_neg some.ne']
  split_ifs
  · exact NumberText.scale_of_neg (by norm_num)
  · exact NumberText.scale_shortest canonical

/-- What is read for a printed double: its decimal, scaled. It is the same double if the text is short, and
one that is near unless the double is very small or very large. -/
structure Reread (number back : Float) : Prop where
  said : NumberText.toDouble (isNegative number.toBits) (printedDecimal number).digits
    (printedDecimal number).exponent = .ok (.real back)
  finite : back.isFinite = true
  same : IsShort number → back = number
  near : 2 ^ (-960 : ℤ) ≤ |Binary64.value number| → |Binary64.value number| ≤ 2 ^ (1000 : ℤ) →
    |Binary64.value back - Binary64.value number| ≤ |Binary64.value number| / 2 ^ 50

theorem abs_written_sub_le (canonical : size.Canonical) (normal : 2 ^ (-1022 : ℤ) ≤ size.value) :
    |(written (shortest .toEven size)).value - size.value| ≤ size.value / 2 ^ 53 := by
  obtain ⟨⟨some, contained⟩, -⟩ := shortest_spec canonical .toEven
  have long : (2 : ℝ) ^ 52 ≤ size.mantissa := by exact_mod_cast long_of_normal canonical normal
  have power : (0 : ℝ) < 2 ^ size.exponent := zpow_pos two_pos _
  have near := (contained.near canonical.positive).1
  rw [value_written some.ne', Numeral.Dyadic.value]
  generalize (shortest .toEven size).value = decimal at *
  rw [← mul_le_mul_iff_of_pos_right power, ← abs_of_pos power, ← abs_mul, abs_of_pos power, sub_mul,
    div_mul_cancel₀ _ power.ne'] at near
  refine near.trans ?_
  rw [le_div_iff₀ (by norm_num)]
  nlinarith

theorem natAbs_exponent_le {decimal : Decimal} (some : 0 < decimal.digits)
    (short : decimal.digits < 2 ^ 57) (low : 2 ^ (-961 : ℤ) ≤ decimal.value)
    (high : decimal.value < 2 ^ (1001 : ℤ)) : decimal.exponent.natAbs ≤ 308 := by
  have power : (0 : ℝ) < 10 ^ decimal.exponent := zpow_pos (by norm_num) _
  rw [Decimal.value] at low high
  have upper : decimal.exponent ≤ 308 := by
    by_contra above
    have whole : (1 : ℝ) ≤ decimal.digits := Nat.one_le_cast.mpr some
    have large : (2 : ℝ) ^ (1001 : ℤ) ≤ 10 ^ decimal.exponent :=
      two_zpow_le_ten_zpow (by omega) (by omega)
    exact (large.trans (le_mul_of_one_le_left power.le whole)).not_gt high
  have lower : -308 ≤ decimal.exponent := by
    by_contra below
    have few : (decimal.digits : ℝ) < 10 ^ (18 : ℤ) := by
      have : decimal.digits < 10 ^ 18 := short.trans (by norm_num)
      exact_mod_cast this
    have small : (10 : ℝ) ^ (18 + decimal.exponent) ≤ 2 ^ (-961 : ℤ) :=
      ten_zpow_le_two_zpow (by omega) (by omega)
    rw [zpow_add₀ (by norm_num)] at small
    exact (low.trans_lt (mul_lt_mul_of_pos_right few power)).not_ge small
  omega

theorem scale_written_near (canonical : size.Canonical) (low : 2 ^ (-960 : ℤ) ≤ size.value)
    (high : size.value ≤ 2 ^ (1000 : ℤ)) {result : Float}
    (scaled : NumberText.scale 4 (UInt64.ofNat (written (shortest .toEven size)).digits).toFloat
      (written (shortest .toEven size)).exponent = .ok result) :
    |Binary64.value result - size.value| ≤ size.value / 2 ^ 50 := by
  obtain ⟨⟨some, -⟩, -⟩ := shortest_spec canonical .toEven
  have short := shortest_digits_lt canonical .toEven
  have positive := Numeral.Dyadic.value_pos canonical.positive
  have down {exponent exponent' : ℤ} (le : exponent ≤ exponent') : (2 : ℝ) ^ exponent ≤ 2 ^ exponent' :=
    zpow_le_zpow_right₀ one_le_two le
  have near := abs_written_sub_le canonical ((down (by norm_num)).trans low)
  obtain ⟨above, below⟩ := abs_le.mp near
  have low' : 2 ^ (-961 : ℤ) ≤ (written (shortest .toEven size)).value := by
    rw [show (-960 : ℤ) = -961 + 1 from rfl, zpow_add_one₀ two_ne_zero] at low
    linarith
  have high' : (written (shortest .toEven size)).value < 2 ^ (1001 : ℤ) := by
    have double : (written (shortest .toEven size)).value < size.value * 2 := by linarith
    rw [show (1001 : ℤ) = 1000 + 1 from rfl, zpow_add_one₀ two_ne_zero]
    exact double.trans_le (mul_le_mul_of_nonneg_right high two_pos.le)
  have few : (written (shortest .toEven size)).exponent.natAbs ≤ 308 := by
    rw [value_written some.ne'] at low' high'
    have bounded := natAbs_exponent_le some short low' high'
    rw [written, if_neg some.ne']
    split_ifs
    · norm_num
    · exact bounded
  obtain ⟨_, again, error⟩ := NumberText.scale_near (written_pos some) (written_digits_lt short) few
    ((down (by norm_num)).trans low') high'.le
  rw [scaled] at again
  cases again
  change |Binary64.value result - (written (shortest .toEven size)).value| ≤
    (written (shortest .toEven size)).value * _ at error
  generalize (written (shortest .toEven size)).value = decimal at *
  have parts := abs_sub_le (Binary64.value result) decimal size.value
  linarith

theorem value_printed_zero (read : magnitude? number.toBits = some size) (zero : size.mantissa = 0) :
    (spelled (isNegative number.toBits) (decimalOf size)).said.value = .ok (.real number) ∧
      Reread number number := by
  have printed : printedDecimal number = written (decimalOf size) := by rw [printedDecimal, read]
  have same := NumberText.toDouble_zero read zero
  rw [decimalOf, if_pos zero] at printed ⊢
  refine ⟨?_, ?_, (holds_of_magnitude read).isFinite, fun _ => rfl, fun _ _ => ?_⟩
  · rw [value_spelled (by norm_num) (by norm_num)]
    exact same
  · rw [printed]
    exact same
  · rw [sub_self, abs_zero]
    positivity

theorem reread_of_scaled (read : magnitude? number.toBits = some size) (canonical : size.Canonical)
    {magnitude : Float}
    (scaled : NumberText.scale 4 (UInt64.ofNat (written (shortest .toEven size)).digits).toFloat
      (written (shortest .toEven size)).exponent = .ok magnitude) :
    Reread number (if isNegative number.toBits then -magnitude else magnitude) := by
  obtain ⟨⟨some, contained⟩, -⟩ := shortest_spec canonical .toEven
  obtain ⟨_, natural, nonneg⟩ := exists_standsFor_ofNat
    (written_digits_lt (shortest_digits_lt canonical .toEven))
  have stands : StandsFor magnitude (Binary64.value magnitude) :=
    ⟨NumberText.scale_finite natural nonneg scaled, rfl⟩
  have printed : printedDecimal number = written (shortest .toEven size) := by
    rw [printedDecimal, read]
    exact congrArg written (if_neg canonical.positive.ne')
  have said : NumberText.toDouble (isNegative number.toBits) (printedDecimal number).digits
      (printedDecimal number).exponent =
        .ok (.real (if isNegative number.toBits then -magnitude else magnitude)) := by
    rw [printed, NumberText.toDouble, scaled]
    rfl
  constructor
  case said => exact said
  case finite =>
    split
    · exact stands.neg.finite
    · exact stands.finite
  case same =>
    intro short
    rw [← value_written some.ne', ← printed] at contained
    have exact := NumberText.toDouble_exact read canonical.positive.ne' contained
      (printed ▸ written_pos some) short.digits short.exponent
    exact Number.real.inj (Except.ok.inj (said.symm.trans exact))
  case near =>
    have value := value_eq_signed read
    rw [show |Binary64.value number| = size.value by
      rw [value, abs_signed (Numeral.Dyadic.value_pos canonical.positive)]]
    intro low high
    have near := scale_written_near canonical low high scaled
    rw [value, signOf]
    split
    · rw [stands.neg.value, signed, neg_sub_neg, abs_sub_comm]
      exact near
    · exact near

theorem value_printed (read : magnitude? number.toBits = some size) : ∃ back : Float,
    (spelled (isNegative number.toBits) (decimalOf size)).said.value = .ok (.real back) ∧
      Reread number back := by
  obtain ⟨range, full⟩ := inRange_of_magnitude read
  rcases Nat.eq_zero_or_pos size.mantissa with zero | positive
  · exact ⟨number, value_printed_zero read zero⟩
  · have canonical : size.Canonical := ⟨range, positive, full⟩
    obtain ⟨magnitude, scaled⟩ := scale_written canonical
    refine ⟨_, ?_, reread_of_scaled read canonical scaled⟩
    rw [show decimalOf size = shortest .toEven size from if_neg positive.ne',
      value_spelled (shortest_digits_lt canonical .toEven)
        (natAbs_exponent_shortest_lt canonical .toEven), NumberText.toDouble, scaled]
    rfl

end Double

end TorusEngine.Json
