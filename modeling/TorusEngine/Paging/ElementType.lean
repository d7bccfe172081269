/-!
# Element types

A record is made of elements of four machine types. Everything the paging layer knows about a type
is its width in bytes; a value of the type is the word of that width that memory holds.
-/

namespace TorusEngine.Paging

inductive ElementType where
  | byte
  | short
  | int
  | float
deriving DecidableEq, Repr

namespace ElementType

def name : ElementType → String
  | byte => "U8"
  | short => "I16"
  | int => "I32"
  | float => "F32"

def size : ElementType → Nat
  | byte => 1
  | short => 2
  | int => 4
  | float => 4

abbrev Word (type : ElementType) := BitVec (8 * type.size)

theorem size_pos (type : ElementType) : 0 < type.size := by
  cases type <;> decide

end ElementType

end TorusEngine.Paging
