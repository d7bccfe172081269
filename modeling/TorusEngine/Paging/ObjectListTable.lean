import TorusEngine.Paging.Memory

/-!
# Object list tables

An object list is a record with a count and as many object numbers as the table's capacity says. A
list that is longer than the capacity is cut. Whatever a record holds, its count is read as a number
between zero and the capacity.
-/

namespace TorusEngine.Paging

structure ObjectListTable where
  window : WindowId
  count : Variable
  ids : Variable
  capacity : Nat
deriving DecidableEq, Repr

namespace ObjectListTable

abbrev ObjectId := ElementType.int.Word

def make (capacity : Nat) (config : MemoryConfig) : Action Memory ObjectListTable := do
  let schema ← Schema.build [("count", .int), ("ids", .intArray capacity)]
  let window ← Memory.makeWindow "object-lists" schema config
  let made ← (← get).window window
  match made.fieldVariable? "count", made.fieldVariable? "ids" with
  | some count, some ids => return { window, count, ids, capacity }
  | _, _ => throw .unknownField

private def setCount (table : ObjectListTable) (index count : Nat) : Action Memory Unit :=
  Memory.onArena (table.count.setElement .int index 0 (BitVec.ofNat _ count))

def create (table : ObjectListTable) : Action Memory Nat := do
  let index ← Memory.onWindow table.window Hosted.create
  table.setCount index 0
  return index

def tryCreate (table : ObjectListTable) : Action Memory Nat := do
  let index ← Memory.onWindow table.window Hosted.tryCreate
  table.setCount index 0
  return index

/-- Stores the first object numbers that fit, and answers how many were stored. -/
def write (table : ObjectListTable) (index : Nat) (ids : List ObjectId) : Action Memory Nat := do
  let kept := ids.take table.capacity
  Memory.onArena (table.ids.setSlice .int index kept)
  table.setCount index kept.length
  return kept.length

def length (table : ObjectListTable) (index : Nat) (memory : Memory) : Except Fault Nat := do
  let count ← table.count.getElement .int index 0 memory.arena
  return min count.toInt.toNat table.capacity

def read (table : ObjectListTable) (index : Nat) (memory : Memory) : Except Fault (List ObjectId) := do
  let length ← table.length index memory
  return (← table.ids.getSlice .int index memory.arena).take length

def physicalAddress (table : ObjectListTable) (index : Nat) (memory : Memory) : Except Fault Nat := do
  (← memory.hosted table.window).physicalAddress index

def freeLater (table : ObjectListTable) (index : Nat) : Action Memory Unit :=
  Memory.freeLater table.window [index]

end ObjectListTable

end TorusEngine.Paging
