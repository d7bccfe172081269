import TorusEngine.Proofs.Numeral.Rounding

/-!
# Shortest decimals lie in their intervals

A decimal on a grid lies in the interval of a double, or the interval has no more room than for one
step of the grid (`RoundingInterval.onGrid?_cases`). The first grid is too coarse for the interval and
the last one is fine enough, so the search finds a decimal (`shortest_spec`), and it has few digits.
-/

namespace TorusEngine.Numeral

noncomputable def Decimal.value (decimal : Decimal) : ℝ := decimal.digits * 10 ^ decimal.exponent

theorem zpow_eq_div {base : ℝ} (nonzero : base ≠ 0) (exponent : Int) :
    base ^ exponent = base ^ exponent.toNat / base ^ (-exponent).toNat := by
  rw [← zpow_natCast, ← zpow_natCast, ← zpow_sub₀ nonzero]
  congr 1
  omega

/-! ## Powers of two and of ten -/

theorem zpow_le_zpow_of_nonpos {base other : ℝ} (positive : 0 < base) (le : base ≤ other)
    {exponent : Int} (nonpos : exponent ≤ 0) : other ^ exponent ≤ base ^ exponent := by
  have turned := zpow_le_zpow_left₀ (by omega : 0 ≤ -exponent)
    (inv_nonneg.mpr (positive.le.trans le)) (inv_anti₀ positive le)
  rwa [inv_zpow', inv_zpow', neg_neg] at turned

theorem zpow_le_zpow_of_pow_le {base other : ℝ} (large : 1 ≤ other)
    {few many : ℕ} (nonzero : many ≠ 0) {exponent exponent' : Int}
    (enough : few * exponent ≤ many * exponent')
    (powers : (base ^ many) ^ exponent ≤ (other ^ few) ^ exponent) :
    base ^ exponent ≤ other ^ exponent' := by
  refine le_of_pow_le_pow_left₀ nonzero (zpow_nonneg (by linarith) _) ?_
  calc (base ^ exponent) ^ many = (base ^ many) ^ exponent := by
        rw [← zpow_natCast, ← zpow_natCast, ← zpow_mul, ← zpow_mul, mul_comm]
    _ ≤ (other ^ few) ^ exponent := powers
    _ = other ^ (few * exponent : ℤ) := by rw [← zpow_natCast, ← zpow_mul]
    _ ≤ other ^ (many * exponent' : ℤ) := zpow_le_zpow_right₀ large enough
    _ = (other ^ exponent') ^ many := by rw [← zpow_natCast, ← zpow_mul, mul_comm]

theorem two_zpow_le_ten_zpow {exponent exponent' : Int} (above : 28 * exponent ≤ 93 * exponent')
    (below : 59 * exponent ≤ 196 * exponent') : (2 : ℝ) ^ exponent ≤ 10 ^ exponent' := by
  rcases Int.le_total 0 exponent with nonneg | nonpos
  · exact zpow_le_zpow_of_pow_le (by norm_num) (by norm_num : 93 ≠ 0) above
      (zpow_le_zpow_left₀ nonneg (by norm_num) (by norm_num))
  · exact zpow_le_zpow_of_pow_le (by norm_num) (by norm_num : 196 ≠ 0) below
      (zpow_le_zpow_of_nonpos (by norm_num) (by norm_num) nonpos)

theorem ten_zpow_le_two_zpow {exponent exponent' : Int} (above : 196 * exponent ≤ 59 * exponent')
    (below : 93 * exponent ≤ 28 * exponent') : (10 : ℝ) ^ exponent ≤ 2 ^ exponent' := by
  rcases Int.le_total 0 exponent with nonneg | nonpos
  · exact zpow_le_zpow_of_pow_le one_le_two (by norm_num : 59 ≠ 0) above
      (zpow_le_zpow_left₀ nonneg (by norm_num) (by norm_num))
  · exact zpow_le_zpow_of_pow_le one_le_two (by norm_num : 28 ≠ 0) below
      (zpow_le_zpow_of_nonpos (by norm_num) (by norm_num) nonpos)

namespace RoundingInterval

structure Proper (interval : RoundingInterval) : Prop where
  low_lt : interval.low < interval.center
  lt_high : interval.center < interval.high

theorem proper_ofMagnitude {size : Dyadic} (positive : 0 < size.mantissa) :
    (ofMagnitude size).Proper := by
  constructor
  · simp only [ofMagnitude]
    split <;> omega
  · simp only [ofMagnitude]
    omega

/-! ## One grid -/

/-- Multiples of a unit and of a scale compare as those of a power of ten and of a power of two. -/
structure Comparable (grid exponent : Int) (unit scale : ℕ) : Prop where
  below : ∀ count places : ℕ,
    count * unit < places * scale ↔ (count * 10 ^ grid : ℝ) < places * 2 ^ exponent
  above : ∀ count places : ℕ,
    places * scale < count * unit ↔ (places * 2 ^ exponent : ℝ) < count * 10 ^ grid

namespace Comparable

variable {grid exponent : Int} {unit scale : ℕ}

theorem not_below (comparable : Comparable grid exponent unit scale) (count places : ℕ) :
    places * scale ≤ count * unit ↔ (places * 2 ^ exponent : ℝ) ≤ count * 10 ^ grid := by
  rw [← not_lt, ← not_lt, comparable.below]

theorem not_above (comparable : Comparable grid exponent unit scale) (count places : ℕ) :
    count * unit ≤ places * scale ↔ (count * 10 ^ grid : ℝ) ≤ places * 2 ^ exponent := by
  rw [← not_lt, ← not_lt, comparable.above]

end Comparable

theorem comparable (grid exponent : Int) : Comparable grid exponent
    (Nat.pow 10 grid.toNat <<< (-exponent).toNat) (Nat.pow 10 (-grid).toNat <<< exponent.toNat) := by
  have power (count : ℕ) : ((Nat.pow 10 count : ℕ) : ℝ) = 10 ^ count := by
    exact_mod_cast rfl
  have positive : (0 : ℝ) < 10 ^ (-grid).toNat * 2 ^ (-exponent).toNat := by positivity
  have units (count : ℕ) : ((count * Nat.pow 10 grid.toNat <<< (-exponent).toNat : ℕ) : ℝ) =
      count * 10 ^ grid * (10 ^ (-grid).toNat * 2 ^ (-exponent).toNat) := by
    rw [zpow_eq_div (by norm_num) grid, Nat.shiftLeft_eq]
    push_cast [power]
    field_simp
  have scales (places : ℕ) : ((places * Nat.pow 10 (-grid).toNat <<< exponent.toNat : ℕ) : ℝ) =
      places * 2 ^ exponent * (10 ^ (-grid).toNat * 2 ^ (-exponent).toNat) := by
    rw [zpow_eq_div two_ne_zero exponent, Nat.shiftLeft_eq]
    push_cast [power]
    field_simp
  constructor
  case below =>
    intro count places
    rw [← Nat.cast_lt (α := ℝ), units, scales, mul_lt_mul_iff_left₀ positive]
  case above =>
    intro count places
    rw [← Nat.cast_lt (α := ℝ), units, scales, mul_lt_mul_iff_left₀ positive]

section Grid

variable {interval : RoundingInterval} {tie : Tie} {grid : Int}

structure Neighbour (interval : RoundingInterval) (decimal : Decimal) : Prop where
  positive : 0 < decimal.digits
  contained : interval.Contains decimal.value

section Sides

variable {unit scale digits : ℕ}

theorem neighbour_above (proper : interval.Proper)
    (comparable : Comparable grid interval.exponent unit scale)
    (beyond : interval.center * scale < digits * unit)
    (within : (decide (digits * unit < interval.high * scale) ||
      interval.closed && digits * unit == interval.high * scale) = true) :
    interval.Neighbour ⟨digits, grid⟩ := by
  have power : (0 : ℝ) < 2 ^ interval.exponent := zpow_pos two_pos _
  have low : (interval.low : ℝ) * 2 ^ interval.exponent < digits * 10 ^ grid :=
    (mul_lt_mul_of_pos_right (Nat.cast_lt.mpr proper.low_lt) power).trans
      ((comparable.above _ _).mp beyond)
  rw [Bool.or_eq_true, Bool.and_eq_true, decide_eq_true_eq, beq_iff_eq] at within
  refine ⟨Nat.pos_of_mul_pos_right (Nat.zero_lt_of_lt beyond), low.le, ?_, ?_⟩
  · exact (comparable.not_above _ _).mp (within.elim Nat.le_of_lt fun same => same.2.le)
  · rcases within with less | ⟨closed, -⟩
    · exact .inr ⟨low, (comparable.below _ _).mp less⟩
    · exact .inl closed

theorem neighbour_below (proper : interval.Proper)
    (comparable : Comparable grid interval.exponent unit scale) (positive : 0 < digits)
    (beneath : digits * unit ≤ interval.center * scale)
    (within : (decide (interval.low * scale < digits * unit) ||
      interval.closed && interval.low * scale == digits * unit) = true) :
    interval.Neighbour ⟨digits, grid⟩ := by
  have power : (0 : ℝ) < 2 ^ interval.exponent := zpow_pos two_pos _
  have high : (digits : ℝ) * 10 ^ grid < interval.high * 2 ^ interval.exponent :=
    ((comparable.not_above _ _).mp beneath).trans_lt
      (mul_lt_mul_of_pos_right (Nat.cast_lt.mpr proper.lt_high) power)
  rw [Bool.or_eq_true, Bool.and_eq_true, decide_eq_true_eq, beq_iff_eq] at within
  refine ⟨positive, ?_, high.le, ?_⟩
  · exact (comparable.not_below _ _).mp (within.elim Nat.le_of_lt fun same => same.2.le)
  · rcases within with less | ⟨closed, -⟩
    · exact .inr ⟨(comparable.above _ _).mp less, high⟩
    · exact .inl closed

end Sides

/-- What `onGrid?` finds is a neighbour; it finds one if the grid is finer than the interval is wide. -/
theorem onGrid?_cases (proper : interval.Proper) (tie : Tie) (grid : Int) :
    (∃ digits, interval.onGrid? tie grid = some ⟨digits, grid⟩ ∧ interval.Neighbour ⟨digits, grid⟩) ∨
    interval.onGrid? tie grid = none ∧
      (interval.high * 2 ^ interval.exponent : ℝ) ≤
        interval.low * 2 ^ interval.exponent + 10 ^ grid := by
  have comparable := comparable grid interval.exponent
  have unit_pos : 0 < Nat.pow 10 grid.toNat <<< (-interval.exponent).toNat := by
    rw [Nat.shiftLeft_eq]
    exact Nat.mul_pos (Nat.pow_pos (by decide)) (Nat.two_pow_pos _)
  simp only [onGrid?]
  generalize Nat.pow 10 grid.toNat <<< (-interval.exponent).toNat = unit at *
  generalize Nat.pow 10 (-grid).toNat <<< interval.exponent.toNat = scale at *
  have beneath := Nat.div_mul_le_self (interval.center * scale) unit
  have beyond := Nat.lt_mul_of_div_lt (Nat.lt_succ_self (interval.center * scale / unit)) unit_pos
  generalize interval.center * scale / unit = below at *
  split_ifs with first second
  · rw [Bool.and_eq_true] at first
    exact .inl ⟨_, rfl, neighbour_above proper comparable beyond first.1⟩
  · rw [Bool.and_eq_true, decide_eq_true_eq] at second
    exact .inl ⟨_, rfl, neighbour_below proper comparable second.1 beneath second.2⟩
  · -- Neither neighbour lies inside, so the interval fits between them.
    refine .inr ⟨rfl, ?_⟩
    rw [Bool.eq_false_of_not_eq_true second, Bool.not_false, Bool.or_true, Bool.and_true] at first
    have high : interval.high * scale ≤ (below + 1) * unit := by
      refine Nat.not_lt.mp fun inside => first ?_
      rw [decide_eq_true inside, Bool.true_or]
    have low : below * unit ≤ interval.low * scale := by
      refine Nat.not_lt.mp fun inside => second ?_
      have some : 0 < below := Nat.pos_of_ne_zero fun none => by simp [none] at inside
      rw [decide_eq_true inside, decide_eq_true some, Bool.true_or, Bool.true_and]
    rw [comparable.not_below] at high
    rw [comparable.not_above] at low
    push_cast at high
    linarith

end Grid

/-! ## All grids -/

section Double

variable {size : Dyadic}

theorem width_ofMagnitude (positive : 0 < size.mantissa) :
    ((ofMagnitude size).low + 3 : ℝ) ≤ (ofMagnitude size).high := by
  have wide : (ofMagnitude size).low + 3 ≤ (ofMagnitude size).high := by
    simp only [ofMagnitude]
    split <;> omega
  exact_mod_cast wide

/-- No multiple on the first grid is as small as the upper bound, and the last grid is fine enough. -/
theorem grids_suffice (canonical : size.Canonical) :
    ((ofMagnitude size).high * 2 ^ (ofMagnitude size).exponent : ℝ) <
        10 ^ (ofMagnitude size).coarsestGrid ∧
      (10 : ℝ) ^ ((ofMagnitude size).coarsestGrid - 23) ≤ 2 ^ (ofMagnitude size).exponent := by
  have short := canonical.short
  have least := canonical.least
  have greatest := canonical.greatest
  have positive := canonical.positive
  simp only [coarsestGrid, ofMagnitude]
  have nonzero : 4 * size.mantissa + 2 ≠ 0 := by omega
  have few := (Nat.log2_lt nonzero).mpr (show 4 * size.mantissa + 2 < 2 ^ 55 by omega)
  have some := (Nat.le_log2 nonzero).mpr (show 2 ^ 2 ≤ 4 * size.mantissa + 2 by omega)
  generalize digits : (4 * size.mantissa + 2).log2 = places at *
  constructor
  · have below : ((4 * size.mantissa + 2 : ℕ) : ℝ) < 2 ^ (places + 1 : ℤ) := by
      rw [← digits]
      exact_mod_cast Nat.lt_log2_self
    calc ((4 * size.mantissa + 2 : ℕ) : ℝ) * 2 ^ (size.exponent - 2)
        < 2 ^ (places + 1 : ℤ) * 2 ^ (size.exponent - 2) :=
          mul_lt_mul_of_pos_right below (zpow_pos two_pos _)
      _ = 2 ^ (size.exponent - 2 + places + 1) := by
          rw [← zpow_add₀ two_ne_zero]
          congr 1
          ring
      _ ≤ 10 ^ ((size.exponent - 2 + places + 1) * 30103 / 100000 + 2) :=
          two_zpow_le_ten_zpow (by omega) (by omega)
  · exact ten_zpow_le_two_zpow (by omega) (by omega)

end Double

end RoundingInterval

section Shortest

variable {size : Dyadic}

theorem mem_before {count step : ℕ} {before after : List ℕ}
    (steps : List.range count = before ++ (step + 1) :: after) : step ∈ before := by
  have sorted : (before ++ (step + 1) :: after).Pairwise (· < ·) := steps ▸ List.pairwise_lt_range
  have member : step ∈ before ++ (step + 1) :: after := by
    have last : step + 1 ∈ List.range count := by simp [steps]
    rw [← steps, List.mem_range]
    exact (Nat.lt_succ_self step).trans (List.mem_range.mp last)
  rw [List.pairwise_append, List.pairwise_cons] at sorted
  rw [List.mem_append, List.mem_cons] at member
  rcases member with first | same | later
  · exact first
  · omega
  · have := sorted.2.1.1 step later
    omega

open RoundingInterval in
/-- The shortest decimal lies in the interval of its double, and the interval has no more room than for
one step of the next coarser grid. -/
theorem shortest_spec (canonical : size.Canonical) (tie : Tie) :
    (ofMagnitude size).Neighbour (shortest tie size) ∧
      ((ofMagnitude size).high * 2 ^ (ofMagnitude size).exponent : ℝ) ≤
        (ofMagnitude size).low * 2 ^ (ofMagnitude size).exponent +
          10 ^ ((shortest tie size).exponent + 1) := by
  have proper := proper_ofMagnitude canonical.positive
  have width := width_ofMagnitude canonical.positive
  obtain ⟨coarse, fine⟩ := grids_suffice canonical
  rw [shortest]
  generalize ofMagnitude size = interval at *
  have power : (0 : ℝ) < 2 ^ interval.exponent := zpow_pos two_pos _
  cases search : (List.range 24).findSome? fun step : Nat =>
      interval.onGrid? tie (interval.coarsestGrid - step) with
  | none =>
      have missed := List.findSome?_eq_none_iff.mp search 23 (by decide)
      rcases onGrid?_cases proper tie (interval.coarsestGrid - (23 : ℕ)) with ⟨_, found, -⟩ | ⟨-, narrow⟩
      · rw [missed] at found
        cases found
      · push_cast at narrow
        nlinarith
  | some decimal =>
      obtain ⟨before, step, after, steps, found, missed⟩ := List.findSome?_eq_some_iff.mp search
      obtain ⟨digits, here, neighbour⟩ := (onGrid?_cases proper tie _).resolve_right
        (by rw [found]; rintro ⟨⟨⟩, -⟩)
      rw [found, Option.some.injEq] at here
      subst here
      refine ⟨neighbour, ?_⟩
      cases step with
      | zero =>
          have high := neighbour.contained.high
          have whole : (1 : ℝ) ≤ digits := Nat.one_le_cast.mpr neighbour.positive
          have step : (0 : ℝ) < 10 ^ interval.coarsestGrid := zpow_pos (by norm_num) _
          rw [Decimal.value, Nat.cast_zero, sub_zero] at high
          nlinarith
      | succ step =>
          have tried : step ∈ before := mem_before steps
          rcases onGrid?_cases proper tie (interval.coarsestGrid - step) with ⟨_, other, -⟩ | ⟨-, narrow⟩
          · rw [missed step tried] at other
            cases other
          · have next : interval.coarsestGrid - (step + 1 : ℕ) + 1 = interval.coarsestGrid - step := by
              omega
            simp only [Option.getD_some, next]
            exact narrow

theorem onGrid?_exponent {interval : RoundingInterval} {tie : Tie} {grid : Int} {decimal : Decimal}
    (found : interval.onGrid? tie grid = some decimal) : decimal.exponent = grid := by
  simp only [RoundingInterval.onGrid?] at found
  split_ifs at found <;> cases found <;> rfl

theorem natAbs_exponent_shortest_lt (canonical : size.Canonical) (tie : Tie) :
    (shortest tie size).exponent.natAbs < 2 ^ 30 := by
  have short := canonical.short
  have least := canonical.least
  have greatest := canonical.greatest
  have few := (Nat.log2_lt (by omega)).mpr (show 4 * size.mantissa + 2 < 2 ^ 55 by omega)
  rw [shortest]
  cases search : (List.range 24).findSome? fun step : Nat =>
      (RoundingInterval.ofMagnitude size).onGrid? tie
        ((RoundingInterval.ofMagnitude size).coarsestGrid - step) with
  | none => exact Nat.two_pow_pos 30
  | some decimal =>
      obtain ⟨step, belongs, found⟩ := List.exists_of_findSome?_eq_some search
      have grid := onGrid?_exponent found
      have steps := List.mem_range.mp belongs
      simp only [RoundingInterval.coarsestGrid, RoundingInterval.ofMagnitude] at grid
      simp only [Option.getD_some]
      omega

theorem shortest_digits_lt (canonical : size.Canonical) (tie : Tie) :
    (shortest tie size).digits < 2 ^ 57 := by
  obtain ⟨neighbour, narrow⟩ := shortest_spec canonical tie
  have high := neighbour.contained.high
  have width := RoundingInterval.width_ofMagnitude canonical.positive
  have short : ((RoundingInterval.ofMagnitude size).high : ℝ) < 2 ^ 55 := by
    have short := canonical.short
    have : (RoundingInterval.ofMagnitude size).high < 2 ^ 55 := by
      simp only [RoundingInterval.ofMagnitude]
      omega
    exact_mod_cast this
  have power : (0 : ℝ) < 2 ^ (RoundingInterval.ofMagnitude size).exponent := zpow_pos two_pos _
  have step : (0 : ℝ) < 10 ^ (shortest tie size).exponent := zpow_pos (by norm_num) _
  rw [zpow_add_one₀ (by norm_num)] at narrow
  rw [Decimal.value] at high
  have few : ((shortest tie size).digits : ℝ) * 10 ^ (shortest tie size).exponent <
      (2 ^ 57 : ℕ) * 10 ^ (shortest tie size).exponent := by
    push_cast
    nlinarith
  exact_mod_cast lt_of_mul_lt_mul_right few step.le

end Shortest

end TorusEngine.Numeral
