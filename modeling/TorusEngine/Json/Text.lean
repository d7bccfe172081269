import TorusEngine.Json.Reader

/-!
# Strings in JSON text

Between quotes, control characters are not allowed and a backslash begins an escape. Characters
beyond the first plane are escaped as two units, a leading and a trailing one. A string that is
passed over need not pair its units; one whose value is used has to.
-/

namespace TorusEngine.Json

namespace Text

def hexValue? (c : Char) : Option Nat :=
  if c.isDigit then some (c.toNat - 48)
  else if 'a' ≤ c ∧ c ≤ 'f' then some (c.toNat - 87)
  else if 'A' ≤ c ∧ c ≤ 'F' then some (c.toNat - 55)
  else none

def unit? (a b c d : Char) : Option Nat := do
  return (((← hexValue? a) * 16 + (← hexValue? b)) * 16 + (← hexValue? c)) * 16 + (← hexValue? d)

def isLeading (unit : Nat) : Bool := 0xD800 ≤ unit && unit ≤ 0xDBFF

def isTrailing (unit : Nat) : Bool := 0xDC00 ≤ unit && unit ≤ 0xDFFF

def combine (leading trailing : Nat) : Char :=
  Char.ofNat (0x10000 + (leading - 0xD800) * 0x400 + (trailing - 0xDC00))

def escaped? : Char → Option Char
  | '"' => some '"'
  | '\\' => some '\\'
  | '/' => some '/'
  | 'b' => some '\x08'
  | 'f' => some '\x0c'
  | 'n' => some '\n'
  | 'r' => some '\r'
  | 't' => some '\t'
  | _ => none

/-- What is wrong with a unit of which fewer than four characters are left. Four bytes would have
been taken for its digits. -/
def shortUnit (rest : List Char) : Problem :=
  if (String.ofList rest).utf8ByteSize < 4 then .truncated else .malformed

def push (c : Char) : List Char × List Char → List Char × List Char
  | (cs, rest) => (c :: cs, rest)

def scan (paired : Bool) : List Char → Except Problem (List Char × List Char)
  | [] => .error .truncated
  | '"' :: rest => .ok ([], rest)
  | '\\' :: 'u' :: a :: b :: c :: d :: rest =>
      match unit? a b c d with
      | none => .error .malformed
      | some unit =>
          if !paired then push (Char.ofNat unit) <$> scan paired rest
          else if isTrailing unit then .error .malformed
          else if !isLeading unit then push (Char.ofNat unit) <$> scan paired rest
          else match rest with
            | [] | ['\\'] => .error .truncated
            | '\\' :: 'u' :: a' :: b' :: c' :: d' :: rest =>
                match unit? a' b' c' d' with
                | none => .error .malformed
                | some second =>
                    if isTrailing second then push (combine unit second) <$> scan paired rest
                    else .error .malformed
            | '\\' :: 'u' :: short => .error (shortUnit short)
            | _ => .error .malformed
  | '\\' :: 'u' :: short => .error (shortUnit short)
  | ['\\'] => .error .truncated
  | '\\' :: c :: rest =>
      match escaped? c with
      | some c => push c <$> scan paired rest
      | none => .error .malformed
  | c :: rest => if c < ' ' then .error .malformed else push c <$> scan paired rest

end Text

namespace Reader

def stringBody (paired : Bool) : Reader String := fun text => do
  let (cs, rest) ← Text.scan paired text
  return (String.ofList cs, rest)

def string : Reader String := do
  mark '"'
  stringBody true

def skipString : Reader Unit := do
  mark '"'
  let _ ← stringBody false

end Reader

end TorusEngine.Json
