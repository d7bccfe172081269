import TorusEngine.Paging.ElementType
import TorusEngine.Paging.MemoryConfig

/-!
# Record layouts

A schema lists the fields of a record and says where each begins. `Schema.build` lays the fields out
one after the other without gaps; a record must have at least one byte.
-/

namespace TorusEngine.Paging

inductive FieldKind where
  | byte
  | short
  | int
  | float
  | byteArray (count : Nat)
  | shortArray (count : Nat)
  | intArray (count : Nat)
  | floatArray (count : Nat)
  | vec4Array (count : Nat)
deriving DecidableEq, Repr

namespace FieldKind

def tag : FieldKind → String
  | byte => "Byte"
  | short => "Short"
  | int => "Int"
  | float => "Float"
  | byteArray _ => "ByteArray"
  | shortArray _ => "ShortArray"
  | intArray _ => "IntArray"
  | floatArray _ => "FloatArray"
  | vec4Array _ => "Vec4Array"

def declaredCount? : FieldKind → Option Nat
  | byte | short | int | float => none
  | byteArray count | shortArray count | intArray count | floatArray count | vec4Array count =>
      some count

def describe (kind : FieldKind) : String :=
  match kind.declaredCount? with
  | none => kind.tag
  | some count => s!"{kind.tag}({count})"

def elementType : FieldKind → ElementType
  | byte | byteArray _ => .byte
  | short | shortArray _ => .short
  | int | intArray _ => .int
  | float | floatArray _ | vec4Array _ => .float

def length : FieldKind → Except Fault Nat
  | byte | short | int | float => .ok 1
  | byteArray count | shortArray count | intArray count | floatArray count => .ok count
  | vec4Array count => Size.mul count (bytesPerVec4 / 4)

def isEmpty (kind : FieldKind) : Except Fault Bool := do
  return (← kind.length) == 0

def sizeInBytes (kind : FieldKind) : Except Fault Nat := do
  Size.mul kind.elementType.size (← kind.length)

end FieldKind

structure Field where
  name : String
  kind : FieldKind
  offset : Nat
deriving DecidableEq, Repr

structure Schema where
  fields : List Field
  objectSize : Nat
deriving DecidableEq, Repr

namespace Schema

def layOut : Nat → List (String × FieldKind) → Except Fault (List Field × Nat)
  | offset, [] => return ([], offset)
  | offset, (name, kind) :: rest => do
      let next ← Size.add offset (← kind.sizeInBytes)
      let (fields, stop) ← layOut next rest
      return (⟨name, kind, offset⟩ :: fields, stop)

def build (declared : List (String × FieldKind)) : Except Fault Schema := do
  let (fields, objectSize) ← layOut 0 declared
  if objectSize = 0 then throw (.refused .emptySchema)
  return { fields, objectSize }

def field? (schema : Schema) (name : String) : Option Field :=
  schema.fields.find? (·.name = name)

end Schema

end TorusEngine.Paging
