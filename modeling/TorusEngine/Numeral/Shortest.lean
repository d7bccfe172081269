import TorusEngine.Numeral.Binary64

/-!
# Shortest decimals

Among the decimals that read back as a given double, `shortest` gives one with the fewest digits and,
of those, the nearest to the double. On each grid of multiples of a power of ten only the two
neighbours of the double have to be tried, from the coarsest grid to the finest.
-/

namespace TorusEngine.Numeral

structure Decimal where
  digits : Nat
  exponent : Int
deriving DecidableEq, Repr

inductive Tie where
  | up
  | toEven
deriving DecidableEq, Repr

/-- The numbers that round to a positive double, all as multiples of `2 ^ exponent`. The bounds
belong to the interval if it is closed. -/
structure RoundingInterval where
  low : Nat
  center : Nat
  high : Nat
  exponent : Int
  closed : Bool
deriving DecidableEq, Repr

namespace RoundingInterval

/-- The interval of a positive double. Below a power of two the neighbours lie closer together. -/
def ofMagnitude (magnitude : Dyadic) : RoundingInterval :=
  let center := 4 * magnitude.mantissa
  let narrow := magnitude.mantissa = Binary64.hiddenBit ∧ -1074 < magnitude.exponent
  { low := center - if narrow then 1 else 2
    center
    high := center + 2
    exponent := magnitude.exponent - 2
    closed := magnitude.mantissa % 2 = 0 }

/-- The neighbour of the center on the grid of multiples of `10 ^ grid` that lies in the interval,
and the nearer one if both do. -/
def onGrid? (interval : RoundingInterval) (tie : Tie) (grid : Int) : Option Decimal :=
  let unit := Nat.pow 10 grid.toNat <<< (-interval.exponent).toNat
  let scale := Nat.pow 10 (-grid).toNat <<< interval.exponent.toNat
  let below := interval.center * scale / unit
  let rest := interval.center * scale % unit
  let within (bound multiple : Nat) : Bool := bound < multiple || (interval.closed && bound == multiple)
  let lower := 0 < below && within (interval.low * scale) (below * unit)
  let upper := within ((below + 1) * unit) (interval.high * scale)
  let roundsUp := unit < 2 * rest || (2 * rest == unit && (tie == .up || below % 2 == 1))
  if upper && (roundsUp || !lower) then some ⟨below + 1, grid⟩
  else if lower then some ⟨below, grid⟩
  else none

/-- A grid on which no positive multiple lies in the interval, or the coarsest that has one. -/
def coarsestGrid (interval : RoundingInterval) : Int :=
  (interval.exponent + interval.high.log2 + 1) * 30103 / 100000 + 2

end RoundingInterval

def shortest (tie : Tie) (magnitude : Dyadic) : Decimal :=
  let interval := RoundingInterval.ofMagnitude magnitude
  ((List.range 24).findSome? fun step : Nat => interval.onGrid? tie (interval.coarsestGrid - step)).getD
    ⟨0, 0⟩

end TorusEngine.Numeral
