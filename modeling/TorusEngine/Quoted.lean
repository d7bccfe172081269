import TorusEngine.Characters.Attaching
import TorusEngine.Characters.Unseen

/-!
# Quoted names

Listings show names between quotes. Quotes, backslashes and the common control characters are
written with a backslash, and all else that would not show as a character of its own by its code
point in hexadecimal.
-/

namespace TorusEngine.Quoted

open Characters (isAttaching isUnseen)

private def lowerHex (n : Nat) : String := String.ofList (Nat.toDigits 16 n)

def escape (c : Char) : String :=
  match c with
  | '"' => "\\\""
  | '\\' => "\\\\"
  | '\n' => "\\n"
  | '\r' => "\\r"
  | '\t' => "\\t"
  | '\x00' => "\\0"
  | _ =>
      if isUnseen c || isAttaching c then "\\u\x7b" ++ lowerHex c.toNat ++ "\x7d"
      else c.toString

def quote (name : String) : String :=
  "\"" ++ String.join (name.toList.map escape) ++ "\""

end TorusEngine.Quoted
