import TorusEngine.Json.Reader
import TorusEngine.Numeral.Binary64

/-!
# Numbers in JSON text

A number without fraction and exponent is an integer if it fits into 64 bits. Every other number
becomes a double: as many digits as fit into a 64-bit significand are collected, the others only move
the exponent, and the significand is scaled by powers of ten in double arithmetic. The result may be
off by a few units in the last place.
-/

namespace TorusEngine.Json

structure NumberText where
  negative : Bool
  integer : List Nat
  fraction : List Nat
  exponent : Option (Bool × List Nat)
deriving DecidableEq, Repr

inductive Number where
  | natural (n : Nat)
  | negative (n : Int)
  | real (x : Float)

namespace Reader

def digits : Reader (List Nat) := modifyGet fun text =>
  ((text.takeWhile Char.isDigit).map (·.toNat - 48), text.dropWhile Char.isDigit)

def someDigits (atEnd : Problem) : Reader (List Nat) := do
  match ← digits with
  | [] => if (← get).isEmpty then throw atEnd else throw .malformed
  | found => return found

def accept (test : Char → Bool) : Reader Bool := modifyGet fun text =>
  match text with
  | c :: rest => if test c then (true, rest) else (false, text)
  | [] => (false, text)

def fractionText (atEnd : Problem) : Reader (List Nat) := do
  if ← accept (· = '.') then someDigits atEnd else return []

def exponentText (atEnd : Problem) : Reader (Option (Bool × List Nat)) := do
  if ← accept (fun c => c = 'e' || c = 'E') then
    let down ← accept (· = '-')
    if !down then let _ ← accept (· = '+')
    return some (down, ← someDigits atEnd)
  else return none

def numberText (atEnd : Problem) : Reader NumberText := do
  let negative ← accept (· = '-')
  let integer ← someDigits atEnd
  if integer.length > 1 && integer.head? = some 0 then throw .malformed
  let fraction ← fractionText atEnd
  return { negative, integer, fraction, exponent := ← exponentText atEnd }

end Reader

namespace NumberText

/-- Collects digits as long as the significand stays below `2 ^ 64`, and counts those left out. -/
def absorb : Nat → List Nat → Nat × Nat
  | significand, [] => (significand, 0)
  | significand, digit :: rest =>
      if significand * 10 + digit < 0x10000000000000000 then absorb (significand * 10 + digit) rest
      else (significand, rest.length + 1)

/-- Scales a number by a power of ten; `fuel` bounds the steps that bring the exponent into the range
of the powers of ten. -/
def scale : Nat → Float → Int → Except Problem Float
  | 0, number, _ => .ok number
  | fuel + 1, number, exponent =>
      if exponent.natAbs ≤ 308 then
        let power := Float.ofScientific 1 false exponent.natAbs
        if exponent < 0 then .ok (number / power)
        else if (number * power).isInf then .error .malformed
        else .ok (number * power)
      else if number == 0 then .ok number
      else if 0 < exponent then .error .malformed
      else scale fuel (number / Float.ofScientific 1 false 308) (exponent + 308)

/-- The double `significand * 10 ^ exponent`. Three steps are enough, because a significand has at
most twenty digits and vanishes when it is twice divided by the greatest power of ten. -/
def toDouble (negative : Bool) (significand : Nat) (exponent : Int) : Except Problem Number := do
  let magnitude ← scale 4 (UInt64.ofNat significand).toFloat exponent
  return .real (if negative then -magnitude else magnitude)

def integerValue (negative : Bool) (significand : Nat) : Number :=
  if !negative then .natural significand
  else if significand = 0 || 0x8000000000000000 < significand then .real (-(UInt64.ofNat significand).toFloat)
  else .negative (-significand)

def value (text : NumberText) : Except Problem Number := do
  let (whole, cut) := absorb 0 text.integer
  let (significand, left) := absorb whole text.fraction
  let exponent : Int := cut + left - text.fraction.length
  match text.exponent with
  | none =>
      if text.fraction.isEmpty && cut = 0 then return integerValue text.negative significand
      else toDouble text.negative significand exponent
  | some (down, digits) =>
      let shift : Nat := digits.foldl (fun n digit => n * 10 + digit) 0
      if shift < 0x80000000 then
        toDouble text.negative significand (if down then exponent - shift else exponent + (shift : Int))
      else if significand ≠ 0 && !down then throw .malformed
      else return .real (if text.negative then -0.0 else 0.0)

end NumberText

namespace Number

def toSize? (limit : Nat) : Number → Option Nat
  | natural n => if n < limit then some n else none
  | _ => none

def toInt? (least greatest : Int) : Number → Option Int
  | natural n => if n ≤ greatest then some n else none
  | negative n => if least ≤ n then some n else none
  | real _ => none

def toFloat : Number → Float
  | natural n => (UInt64.ofNat n).toFloat
  | negative n => Float.ofInt n
  | real x => x

end Number

end TorusEngine.Json
