import TorusEngine.Paging.Pending
import TorusEngine.Paging.Variable

/-!
# Windows

A window lays records of one schema over a buffer. Its pool hands out record indices, and its buffer
has room for as many records as the pool's capacity says: when the pool grows by the records of one
page, the buffer grows with it. When the arena cannot give the pages, the capacity goes back to what
the present pages hold, and the new record is kept only if it fits there.

A window is worked on together with the arena that backs it; the two are a `Hosted` window.
-/

namespace TorusEngine.Paging

structure Window where
  name : String
  schema : Schema
  buffer : BufferId
  pool : IndexPool
  objectsPerPage : Nat
  pending : Pending := {}
  minDelay : Nat
  maxDelay : Nat

structure Hosted where
  window : Window
  arena : Arena

structure PageMapEntry where
  logical : Nat
  physical : Nat
  offset : Nat
deriving DecidableEq, Repr

namespace Window

/-- The growth rule of a window's pool: the records of one page more. -/
def recordGrowth (objectsPerPage : Nat) : Growth := fun capacity => Size.add capacity objectsPerPage

def make (name : String) (schema : Schema) (config : MemoryConfig) : Action Arena Window := do
  let objectsPerPage ← Size.ceilDiv (← get).pageSize schema.objectSize
  let capacity := max config.initialCapacity 1
  let bytes ← Size.mul schema.objectSize capacity
  let buffer ← Arena.createBuffer name bytes
  return {
    name, schema, buffer, objectsPerPage
    pool := .withCapacity capacity (recordGrowth objectsPerPage)
    minDelay := config.minFreeDelay
    maxDelay := config.maxFreeDelay }

def objectSize (window : Window) : Nat := window.schema.objectSize

def fieldVariable? (window : Window) (name : String) : Option Variable :=
  (window.schema.field? name).map fun field =>
    ⟨window.buffer, window.objectSize, field.offset, field.kind⟩

end Window

namespace Hosted

variable {α : Type}

def onPool : Action IndexPool α → Action Hosted α :=
  Action.within (·.window.pool) fun pool hosted =>
    { hosted with window := { hosted.window with pool } }

def onArena : Action Arena α → Action Hosted α :=
  Action.within (·.arena) fun arena hosted => { hosted with arena }

def sizeInPages (hosted : Hosted) : Except Fault Nat := hosted.arena.sizeInPages hosted.window.buffer

def sizeInBytes (hosted : Hosted) : Except Fault Nat := hosted.arena.sizeInBytes hosted.window.buffer

def describe (hosted : Hosted) : Except Fault String := do
  let pages ← hosted.sizeInPages
  let window := hosted.window
  return s!"MemoryWindow \x7b name: {Quoted.quote window.name}, object_size: {window.objectSize}, capacity: {window.pool.capacity}, pages: {pages} \x7d"

/-! ## Records -/

def fitBuffer : Action Hosted Unit := do
  let hosted ← get
  let needed ← Size.mul hosted.window.pool.capacity hosted.window.objectSize
  if (← hosted.sizeInBytes) < needed then onArena (Arena.resize hosted.window.buffer needed)

def tryCreate : Action Hosted Nat := do
  let index ← onPool IndexPool.pop
  match ← Action.refusal? fitBuffer with
  | none => return index
  | some why =>
      let hosted ← get
      let fits := (← hosted.sizeInBytes) / hosted.window.objectSize
      if index < fits then do
        let _ ← onPool (IndexPool.compact fun _ _ => .ok fits)
        return index
      else do
        onPool (IndexPool.giveBack index)
        let _ ← onPool (IndexPool.compact fun _ _ => .ok fits)
        throw (.refused why)

/-- Makes a record; a full arena breaks the caller's promise that there is room. -/
def create : Action Hosted Nat := fun hosted =>
  match tryCreate hosted with
  | .error (.refused why) after => .error (.violated (.createRefused why)) after
  | result => result

def createInto : Nat → List Nat → Action Hosted (List Nat)
  | 0, made => return made.reverse
  | count + 1, made => do
      let index ← create
      createInto count (index :: made)

def createMany (count : Nat) : Action Hosted (List Nat) := do
  Size.checkBlock count 8
  createInto count []

def tryCreateInto : Nat → List Nat → Action Hosted (List Nat)
  | 0, made => return made.reverse
  | count + 1, made => fun hosted =>
      match tryCreate hosted with
      | .ok index after => tryCreateInto count (index :: made) after
      | .error (.refused why) after =>
          (do
            onPool (IndexPool.giveBackMany made.reverse)
            throw (Fault.refused why)) after
      | .error fault after => .error fault after

/-- Makes several records, or none: what was made before a refusal is given back. -/
def tryCreateMany (count : Nat) : Action Hosted (List Nat) := do
  Size.checkBlock count 8
  tryCreateInto count []

def free (index : Nat) : Action Hosted Unit := onPool (IndexPool.giveBack index)

def freeMany (indices : List Nat) : Action Hosted Unit := onPool (IndexPool.giveBackMany indices)

def fittingCapacity (pageSize objectSize : Nat) : IndexPool.Shrink := fun needed _ => do
  let bytes ← Size.mul needed objectSize
  let pages := max (← Size.ceilDiv bytes pageSize) 1
  return (← Size.mul pages pageSize) / objectSize

def compact : Action Hosted Nat := do
  let hosted ← get
  let objectSize := hosted.window.objectSize
  let before ← hosted.sizeInPages
  let capacity ← onPool (IndexPool.compact (fittingCapacity hosted.arena.pageSize objectSize))
  onArena (Arena.resize hosted.window.buffer (← Size.mul capacity objectSize))
  return before - (← (← get).sizeInPages)

/-! ## Addresses -/

def physicalAddress (hosted : Hosted) (index : Nat) : Except Fault Nat := do
  hosted.arena.toPhysical hosted.window.buffer (← Size.mul index hosted.window.objectSize)

def pageMap (hosted : Hosted) : Except Fault (List PageMapEntry) := do
  let pages := (← hosted.arena.buffer hosted.window.buffer).pages
  pages.zipIdx.mapM fun (physical, logical) => do
    return ⟨logical, physical, ← Size.mul physical hosted.arena.pageSize⟩

end Hosted

end TorusEngine.Paging
