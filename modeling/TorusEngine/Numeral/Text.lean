/-!
# Numbers in arguments

A size is written in digits, with a plus sign in front if one likes. A double is written as a sign,
digits with a point somewhere among them, and an exponent, or as a word for infinity or for no number
at all; sign, point, fraction and exponent may be left out.
-/

namespace TorusEngine.Numeral.Text

private def digitsValue (digits : List Char) : Nat :=
  digits.foldl (fun n c => n * 10 + (c.toNat - 48)) 0

private def isDigits (cs : List Char) : Bool := !cs.isEmpty && cs.all Char.isDigit

def size? (text : String) : Option Nat :=
  let digits := match text.toList with
    | '+' :: rest => rest
    | cs => cs
  if isDigits digits && digitsValue digits < 0x10000000000000000 then some (digitsValue digits) else none

private def word? (cs : List Char) : Option Float :=
  match String.ofList (cs.map Char.toLower) with
  | "inf" | "infinity" => some (1.0 / 0.0)
  | "nan" => some (0.0 / 0.0)
  | _ => none

private def exponent? : List Char → Option Int
  | '-' :: digits => if isDigits digits then some (-(digitsValue digits : Int)) else none
  | '+' :: digits => if isDigits digits then some (digitsValue digits) else none
  | digits => if isDigits digits then some (digitsValue digits) else none

private def isMark (c : Char) : Bool := c = 'e' || c = 'E'

/-- The double that digits with a point and an exponent say. Exponents far outside of the range of
doubles say zero or infinity. -/
private def unsigned? (cs : List Char) : Option Float := do
  let mantissa := cs.takeWhile (!isMark ·)
  let exponent ← match cs.dropWhile (!isMark ·) with
    | [] => some 0
    | _ :: exponent => exponent? exponent
  let whole := mantissa.takeWhile (· ≠ '.')
  let fraction := (mantissa.dropWhile (· ≠ '.')).drop 1
  let digits := whole ++ fraction
  if !isDigits digits then none
  else
    let significand := digitsValue digits
    let shift := exponent - fraction.length
    if significand = 0 || shift < -1000 - digits.length then some 0
    else if 400 < shift then some (1.0 / 0.0)
    else some (Float.ofScientific significand (shift < 0) shift.natAbs)

def double? (text : String) : Option Float :=
  match text.toList with
  | '-' :: rest => (word? rest <|> unsigned? rest).map Neg.neg
  | '+' :: rest => word? rest <|> unsigned? rest
  | cs => word? cs <|> unsigned? cs

end TorusEngine.Numeral.Text
