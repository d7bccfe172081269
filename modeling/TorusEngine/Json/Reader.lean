/-!
# Reading JSON text

A reader consumes characters from the front of a text. It fails in one of three ways: the text is no
JSON, it is JSON that says no value of the type that was asked for, or it ends too early. Types are
read straight from the text, so the first thing that is wrong decides.
-/

namespace TorusEngine.Json

inductive Problem where
  | malformed
  | mistyped
  | truncated
deriving DecidableEq, Repr

abbrev Reader (α : Type) := StateT (List Char) (Except Problem) α

namespace Reader

variable {α : Type}

def isBlank (c : Char) : Bool := c = ' ' || c = '\n' || c = '\t' || c = '\r'

def peek? : Reader (Option Char) := do
  modify (·.dropWhile isBlank)
  return (← get).head?

def peek : Reader Char := do
  match ← peek? with
  | some c => return c
  | none => throw .truncated

def advance : Reader Unit := modify List.tail

def mark (expected : Char) : Reader Unit := do
  if (← peek) = expected then advance else throw .malformed

def word : List Char → Reader Unit
  | [] => return
  | expected :: rest => do
      match (← get).head? with
      | none => throw .truncated
      | some c => if c = expected then advance else throw .malformed
      word rest

def run (reader : Reader α) (text : String) : Except Problem α := do
  let (answer, rest) ← reader text.toList
  if rest.all isBlank then return answer else throw .malformed

end Reader

end TorusEngine.Json
