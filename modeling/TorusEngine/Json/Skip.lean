import TorusEngine.Json.Number
import TorusEngine.Json.Text

/-!
# Passing over values

The value of a member that nobody asked for is checked for its form only. The brackets that are open
are kept on a stack, so nesting has no bound.
-/

namespace TorusEngine.Json

inductive Bracket where
  | square
  | curly
deriving DecidableEq, Repr

def Bracket.closing : Bracket → Char
  | square => ']'
  | curly => '}'

/-- What may come next: a value, the first item behind an opening bracket or its closing, or what
follows an item. -/
inductive Expected where
  | value
  | first
  | more
deriving DecidableEq, Repr

namespace Reader

private def skipKey : Reader Unit := do
  if (← peek) ≠ '"' then throw .malformed
  skipString
  mark ':'

private def skipStep : List Bracket → Expected → Reader (Option (List Bracket × Expected))
  | stack, .value => do
      let c ← peek
      let scalar : Reader (Option (List Bracket × Expected)) :=
        return if stack.isEmpty then none else some (stack, .more)
      match c with
      | '[' => do advance; return some (.square :: stack, .first)
      | '{' => do advance; return some (.curly :: stack, .first)
      | 'n' => do word "null".toList; scalar
      | 't' => do word "true".toList; scalar
      | 'f' => do word "false".toList; scalar
      | '"' => do skipString; scalar
      | c =>
          if c = '-' || c.isDigit then do
            let _ ← numberText .malformed
            scalar
          else throw .malformed
  | [], _ => return none
  | bracket :: outer, expected => do
      let c ← peek
      if c = bracket.closing then do
        advance
        return if outer.isEmpty then none else some (outer, .more)
      else if expected = .more && c ≠ ',' then throw .malformed
      else do
        if expected = .more then advance
        if bracket = .curly then skipKey
        return some (bracket :: outer, .value)

private def skipLoop : Nat → List Bracket → Expected → Reader Unit
  | 0, _, _ => throw .malformed
  | fuel + 1, stack, expected => do
      match ← skipStep stack expected with
      | none => return
      | some (stack, expected) => skipLoop fuel stack expected

/-- Passes over one value. Two steps at most are taken for each character. -/
def skipValue : Reader Unit := do
  skipLoop (2 * (← get).length + 2) [] .value

end Reader

end TorusEngine.Json
