import TorusEngine.Numeral.Style

/-!
# Printing JSON documents

Documents are printed with one member on a line and two blanks for each level. Keys are printed as
they are, and so must not need escapes.
-/

namespace TorusEngine.Json

inductive Document where
  | natural (n : Nat)
  | real (x : Float)
  | object (members : List (String × Document))

namespace Document

def margin (depth : Nat) : String := String.ofList (List.replicate (2 * depth) ' ')

mutual

def print (depth : Nat) : Document → String
  | natural n => toString n
  | real x => if x.isFinite then Numeral.Style.document.render x else "null"
  | object [] => "\x7b\x7d"
  | object (first :: rest) =>
      "\x7b\n" ++ printMembers (depth + 1) (first :: rest) ++ "\n" ++ margin depth ++ "\x7d"

def printMembers (depth : Nat) : List (String × Document) → String
  | [] => ""
  | [(key, value)] => margin depth ++ "\"" ++ key ++ "\": " ++ print depth value
  | (key, value) :: rest =>
      margin depth ++ "\"" ++ key ++ "\": " ++ print depth value ++ ",\n" ++ printMembers depth rest

end

def pretty (document : Document) : String := print 0 document

end Document

end TorusEngine.Json
