import TorusEngine.Numeral.Shortest

/-!
# Number styles

A style says how the shortest decimal of a double is spelled: with or without an exponent, and with
or without a point in whole numbers.
-/

namespace TorusEngine.Numeral

structure Style where
  /-- Whether a whole number ends in a point and a zero. -/
  pointed : Bool
  /-- The places of the point, counted from the first digit, that are spelled without an exponent;
  all of them if there are no bounds. -/
  positional : Option (Int × Int)
  /-- Whether an exponent that is not negative has a sign. -/
  signed : Bool
  tie : Tie
deriving DecidableEq, Repr

namespace Style

def plain : Style := ⟨false, none, false, .up⟩

def listing : Style := ⟨true, some (-3, 16), false, .up⟩

def document : Style := ⟨true, some (-4, 16), true, .toEven⟩

def zeros (count : Nat) : String := String.ofList (List.replicate count '0')

def withoutExponent (style : Style) (digits : List Char) (point : Int) : String :=
  if point ≤ 0 then "0." ++ zeros (-point).toNat ++ String.ofList digits
  else if digits.length ≤ point then
    String.ofList digits ++ zeros (point - digits.length).toNat ++ if style.pointed then ".0" else ""
  else
    String.ofList (digits.take point.toNat) ++ "." ++ String.ofList (digits.drop point.toNat)

def withExponent (style : Style) (digits : List Char) (point : Int) : String :=
  let fraction := digits.drop 1
  String.ofList (digits.take 1) ++ (if fraction.isEmpty then "" else "." ++ String.ofList fraction) ++
    (if style.signed && 1 ≤ point then "e+" else "e") ++ toString (point - 1)

def spell (style : Style) (decimal : Decimal) : String :=
  if decimal.digits = 0 then if style.pointed then "0.0" else "0"
  else
    let digits := Nat.toDigits 10 decimal.digits
    let point := decimal.exponent + digits.length
    match style.positional with
    | some (least, greatest) =>
        if least ≤ point ∧ point ≤ greatest then style.withoutExponent digits point
        else style.withExponent digits point
    | none => style.withoutExponent digits point

def withSign (bits : UInt64) (text : String) : String :=
  if Binary64.isNegative bits then "-" ++ text else text

def special (bits : UInt64) : String :=
  if Binary64.isNaN bits then "NaN" else withSign bits "inf"

def render (style : Style) (number : Float) : String :=
  let bits := number.toBits
  match Binary64.magnitude? bits with
  | some magnitude =>
      withSign bits (style.spell
        (if magnitude.mantissa = 0 then ⟨0, 0⟩ else shortest style.tie magnitude))
  | none => special bits

def renderRounded (number : Float) : String :=
  let bits := number.toBits
  match Binary64.magnitude? bits with
  | some magnitude => withSign bits (toString magnitude.round)
  | none => special bits

end Style

end TorusEngine.Numeral
