import TorusEngine.LittleEndian
import TorusEngine.Paging.Arena
import TorusEngine.Paging.Schema

/-!
# Variables

A variable is one field of all the records of a window. It knows the buffer that holds the records,
so it stays usable as long as the buffer does. Elements are stored little-endian. The type under
which an element is read or written has to be the one that the schema declares.
-/

namespace TorusEngine.Paging

structure Variable where
  buffer : BufferId
  objectSize : Nat
  offset : Nat
  kind : FieldKind
deriving DecidableEq, Repr

namespace ElementType

def bytes (type : ElementType) (word : type.Word) : List UInt8 :=
  LittleEndian.encode type.size word.toNat

def ofBytes (type : ElementType) (bytes : List UInt8) : type.Word :=
  BitVec.ofNat _ (LittleEndian.decode bytes)

def words (type : ElementType) : Nat → List UInt8 → List type.Word
  | 0, _ => []
  | count + 1, bytes =>
      type.ofBytes (bytes.take type.size) :: words type count (bytes.drop type.size)

@[simp] theorem length_bytes (type : ElementType) (word : type.Word) :
    (type.bytes word).length = type.size := by
  simp [bytes]

theorem ofBytes_bytes (type : ElementType) (word : type.Word) :
    type.ofBytes (type.bytes word) = word := by
  apply BitVec.eq_of_toNat_eq
  simp only [ofBytes, bytes, LittleEndian.decode_encode, BitVec.toNat_ofNat]
  rw [show (256 : Nat) = Nat.pow 2 8 by decide, Nat.pow_eq, Nat.pow_eq, ← Nat.pow_mul]
  simp [Nat.mod_eq_of_lt word.isLt]

end ElementType

namespace Variable

def describe (field : Variable) : String :=
  s!"Variable \x7b offset: {field.offset}, kind: {field.kind.describe} \x7d"

def address (field : Variable) (used : ElementType) (index element : Nat) : Except Fault Nat := do
  if used ≠ field.kind.elementType then
    throw (.violated (.wrongElementType used field.kind.elementType))
  let length ← field.kind.length
  if length ≤ element then throw (.violated (.elementOutOfRange element length))
  let record ← Size.mul index field.objectSize
  let start ← Size.add field.offset record
  Size.add start (← Size.mul element field.kind.elementType.size)

def setElement (field : Variable) (type : ElementType) (index element : Nat) (word : type.Word) :
    Action Arena Unit := do
  let address ← field.address type index element
  Arena.put field.buffer address (type.bytes word)

def getElement (field : Variable) (type : ElementType) (index element : Nat) (arena : Arena) :
    Except Fault type.Word := do
  let address ← field.address type index element
  return type.ofBytes (← arena.read field.buffer address type.size)

/-- Writes the first elements of a record's field; the elements after them stay as they are. -/
def setSlice (field : Variable) (type : ElementType) (index : Nat) (words : List type.Word) :
    Action Arena Unit := do
  let length ← field.kind.length
  if length < words.length then throw (.violated (.tooManyValues words.length length))
  if words.isEmpty then return
  let address ← field.address type index 0
  Arena.put field.buffer address (words.flatMap type.bytes)

def getSlice (field : Variable) (type : ElementType) (index : Nat) (arena : Arena) :
    Except Fault (List type.Word) := do
  let length ← field.kind.length
  if length = 0 then return []
  let address ← field.address type index 0
  Size.checkBlock length type.size
  return type.words length (← arena.read field.buffer address (length * type.size))

end Variable

end TorusEngine.Paging
