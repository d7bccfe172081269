/-!
# Binary64 numbers

A double is read through its bit pattern: a sign, an eleven-bit exponent and a fraction of 52 bits.
`magnitude?` gives the absolute value of a finite double exactly, as a natural number times a power
of two, and the functions on doubles below that core does not have are computed from it in exact
arithmetic: the remainder, the nearest integer, and the total order of bit patterns.
-/

namespace TorusEngine.Numeral

structure Dyadic where
  mantissa : Nat
  exponent : Int
deriving DecidableEq, Repr

def roundDiv (numerator denominator : Nat) : Nat :=
  let quotient := numerator / denominator
  let rest := numerator % denominator
  if 2 * rest < denominator then quotient
  else if denominator < 2 * rest then quotient + 1
  else quotient + quotient % 2

namespace Dyadic

def round (number : Dyadic) : Nat :=
  match number.exponent with
  | .ofNat places => number.mantissa <<< places
  | .negSucc places => roundDiv number.mantissa (1 <<< (places + 1))

/-- The rest of a division of dyadics with a whole quotient, at the lower of their exponents. -/
def modulo (dividend divisor : Dyadic) : Dyadic :=
  let exponent := min dividend.exponent divisor.exponent
  ⟨(dividend.mantissa <<< (dividend.exponent - exponent).toNat) %
    (divisor.mantissa <<< (divisor.exponent - exponent).toNat), exponent⟩

end Dyadic

namespace Binary64

def hiddenBit : Nat := 0x10000000000000

def isNegative (bits : UInt64) : Bool := bits.toNat >>> 63 == 1

def exponentField (bits : UInt64) : Nat := bits.toNat / hiddenBit % 2048

def fractionField (bits : UInt64) : Nat := bits.toNat % hiddenBit

def isNaN (bits : UInt64) : Bool := exponentField bits == 2047 && fractionField bits != 0

def isInfinite (bits : UInt64) : Bool := exponentField bits == 2047 && fractionField bits == 0

def magnitude? (bits : UInt64) : Option Dyadic :=
  match exponentField bits with
  | 0 => some ⟨fractionField bits, -1074⟩
  | 2047 => none
  | field => some ⟨hiddenBit + fractionField bits, (field : Int) - 1075⟩

/-- The integer nearest to a double, a half to the even neighbour, held between two bounds. What is
not a number counts as lying below both. -/
def nearest (low high : Int) (number : Float) : Int :=
  let bits := number.toBits
  match magnitude? bits with
  | some magnitude =>
      let rounded : Int := magnitude.round
      max low (min high (if isNegative bits then -rounded else rounded))
  | none => if isInfinite bits && !isNegative bits then high else low

/-- The pattern of a positive double with a given value: the mantissa is moved up to the hidden bit, or
as far as the least exponent lets it. -/
def pattern (number : Dyadic) : UInt64 :=
  let up := min (52 - number.mantissa.log2) (number.exponent + 1074).toNat
  .ofNat ((number.mantissa <<< up) + (number.exponent - up + 1074).toNat * hiddenBit)

/-- The dividend minus the divisor times the quotient rounded toward zero. It is exact, and it has
the sign of the dividend. -/
def remainder (dividend divisor : Float) : Float :=
  match magnitude? dividend.toBits, magnitude? divisor.toBits with
  | some a, some b =>
      if b.mantissa = 0 then 0.0 / 0.0
      else
        let rest := a.modulo b
        let value := if rest.mantissa = 0 then 0.0 else Float.ofBits (pattern rest)
        if isNegative dividend.toBits then -value else value
  | some _, none => if isInfinite divisor.toBits then dividend else 0.0 / 0.0
  | none, _ => 0.0 / 0.0

/-- The place of a bit pattern in the total order of doubles, in which the negative patterns come
first and every pattern, also one that is not a number, has a place of its own. -/
def rank (bits : UInt64) : Int :=
  if isNegative bits then 0x7fffffffffffffff - (bits.toNat : Int) else bits.toNat

end Binary64

end TorusEngine.Numeral
