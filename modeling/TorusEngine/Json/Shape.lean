import TorusEngine.Json.Skip

/-!
# Reading types

Readers for the shapes of types: numbers, texts, sequences, records and choices. A record is written
as an object, whose members come in any order and may be accompanied by unknown ones, or as an array
of its fields in their order. A choice is a name alone, or an object with the name as its only key.
-/

namespace TorusEngine.Json

structure Member (σ : Type) where
  name : String
  read : σ → Reader σ
  required : Bool

inductive Case (α : Type) where
  | plain (value : α)
  | carrying (read : Reader α)

namespace Reader

variable {α σ : Type}

def wrongType : Reader α := do
  match ← peek with
  | 'n' => word "null".toList
  | 't' => word "true".toList
  | 'f' => word "false".toList
  | '"' => let _ ← string
  | '[' | '{' => return ← throw .mistyped
  | c =>
      if c = '-' || c.isDigit then do
        let _ ← (← numberText .truncated).value
      else throw .malformed
  throw .mistyped

def number : Reader Number := do
  let c ← peek
  if c = '-' || c.isDigit then do
    (← numberText .truncated).value
  else wrongType

def expectSome : Option α → Reader α
  | some a => return a
  | none => throw .mistyped

def sizeBelow (limit : Nat) : Reader Nat := do expectSome ((← number).toSize? limit)

def intBetween (least greatest : Int) : Reader Int := do expectSome ((← number).toInt? least greatest)

def float : Reader Float := return (← number).toFloat

def text : Reader String := do
  if (← peek) = '"' then string else wrongType

def null : Reader Unit := do
  if (← peek) = 'n' then word "null".toList else wrongType

/-! ## Sequences -/

def nextElement (first : Bool) : Reader Bool := do
  let c ← peek
  if c = ']' then return false
  else if first then return true
  else if c ≠ ',' then throw .malformed
  else do
    advance
    if (← peek) = ']' then throw .malformed else return true

/-- Consumes the end of an array of which enough was read. -/
def endArray : Reader Unit := do
  if (← peek) = ']' then advance else throw .malformed

def elements (item : Reader α) : Nat → Bool → Reader (List α)
  | 0, _ => throw .malformed
  | fuel + 1, first => do
      if ← nextElement first then
        let head ← item
        return head :: (← elements item fuel false)
      else return []

def list (item : Reader α) : Reader (List α) := do
  if (← peek) = '[' then do
    advance
    let items ← elements item ((← get).length + 1) true
    endArray
    return items
  else wrongType

/-! ## Records -/

def positional : List (Member σ) → Bool → σ → Reader σ
  | [], _, record => return record
  | member :: rest, first, record => do
      if ← nextElement first then do
        let record ← member.read record
        positional rest false record
      else if member.required then throw .mistyped
      else positional rest first record

def nextKey (first : Bool) : Reader (Option String) := do
  let c ← peek
  if c = '}' then return none
  else if !first && c ≠ ',' then throw .malformed
  else do
    if !first then advance
    if (← peek) = '"' then return some (← string) else throw .malformed

def named (members : List (Member σ)) : Nat → Bool → List String → σ → Reader σ
  | 0, _, _, _ => throw .malformed
  | fuel + 1, first, seen, record => do
      match ← nextKey first with
      | none =>
          if members.any fun member => member.required && member.name ∉ seen then throw .mistyped
          else return record
      | some key =>
          match members.find? (·.name = key) with
          | none => do
              mark ':'
              skipValue
              named members fuel false seen record
          | some member => do
              if key ∈ seen then throw .mistyped
              mark ':'
              let record ← member.read record
              named members fuel false (key :: seen) record

/-- Reads a record from the values that its fields have when they are not given. -/
def record (members : List (Member σ)) (start : σ) : Reader σ := do
  match ← peek with
  | '[' => do
      advance
      let record ← positional members true start
      endArray
      return record
  | '{' => do
      advance
      let record ← named members ((← get).length + 1) true [] start
      mark '}'
      return record
  | _ => wrongType

/-! ## Choices -/

def caseOf (cases : List (String × Case α)) (name : String) : Reader (Case α) :=
  expectSome ((cases.find? (·.1 = name)).map Prod.snd)

def choice (cases : List (String × Case α)) : Reader α := do
  match ← peek with
  | '"' => do
      match ← caseOf cases (← string) with
      | .plain value => return value
      | .carrying _ => throw .mistyped
  | '{' => do
      advance
      let chosen ← caseOf cases (← string)
      mark ':'
      let value ← match chosen with
        | .plain value => do null; pure value
        | .carrying read => read
      mark '}'
      return value
  | _ => throw .malformed

end Reader

end TorusEngine.Json
