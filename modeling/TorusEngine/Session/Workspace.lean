import TorusEngine.Paging.MatrixTable
import TorusEngine.Paging.ObjectListTable
import TorusEngine.Session.View

/-!
# Workspaces

A workspace gives names to buffers, windows and variables of one memory. Several names may lead to
one window. A window lives as long as a name leads to it, and a buffer as long as a name, a window or
a named variable does; `sweep` drops what no name leads to any more.

Commands that name something which does not exist fault with `Fault.unknownName`.
-/

namespace TorusEngine.Session

open TorusEngine.Paging

inductive Table where
  | plain
  | matrices (table : MatrixTable)
  | lists (table : ObjectListTable)

structure NamedWindow where
  window : WindowId
  table : Table

structure Workspace where
  memory : Memory
  buffers : Dictionary String BufferId := {}
  windows : Dictionary String NamedWindow := {}
  heldVariables : Dictionary String Variable := {}
  /-- Whether the freeing service is still kept, so that it can be asked for its counts. -/
  serviceKept : Bool := true

inductive VariableName where
  | ofField (window field : String)
  | held (name : String)
deriving DecidableEq, Repr

structure WindowSummary where
  name : String
  objectSize : Nat
  objectsPerPage : Nat
  pages : Nat
  fields : Nat
deriving DecidableEq, Repr

namespace Workspace

variable {α : Type}

def make (config : MemoryConfig) : Except Fault Workspace := do
  return { memory := ← Memory.make config }

def onMemory : Action Memory α → Action Workspace α :=
  Action.within (·.memory) fun memory workspace => { workspace with memory }

def onArena (action : Action Arena α) : Action Workspace α := onMemory (Memory.onArena action)

/-! ## Names -/

def findWindow (workspace : Workspace) (name : String) : Except Fault NamedWindow :=
  match workspace.windows.get? name with
  | some named => .ok named
  | none => .error .unknownName

def findBuffer (workspace : Workspace) (name : String) : Except Fault BufferId :=
  match workspace.windows.get? name, workspace.buffers.get? name with
  | some named, _ => return (← workspace.memory.window named.window).buffer
  | none, some id => .ok id
  | none, none => .error .unknownName

def findVariable (workspace : Workspace) : VariableName → Except Fault Variable
  | .held name => match workspace.heldVariables.get? name with
      | some found => .ok found
      | none => .error .unknownName
  | .ofField name field => do
      let window ← workspace.memory.window (← workspace.findWindow name).window
      match window.fieldVariable? field with
      | some found => return found
      | none => throw .unknownField

def findMatrices (workspace : Workspace) (name : String) : Except Fault MatrixTable := do
  match (← workspace.findWindow name).table with
  | .matrices table => return table
  | _ => throw .unknownName

def findLists (workspace : Workspace) (name : String) : Except Fault ObjectListTable := do
  match (← workspace.findWindow name).table with
  | .lists table => return table
  | _ => throw .unknownName

def onWindow (name : String) (action : Action Hosted α) : Action Workspace α := do
  let named ← (← get).findWindow name
  onMemory (Memory.onWindow named.window action)

def view (workspace : Workspace) (name : String) : Except Fault (Option View) := do
  match workspace.windows.get? name, workspace.buffers.get? name with
  | some named, _ => return some (← View.ofWindow workspace.memory named.window)
  | none, some id => return some (← View.ofBuffer workspace.memory id)
  | none, none => return none

/-! ## Lifetimes -/

def unnamedWindows (workspace : Workspace) : List WindowId :=
  workspace.memory.windows.keys.filter fun id =>
    workspace.windows.values.all (·.window ≠ id)

def unusedBuffers (workspace : Workspace) : List BufferId :=
  workspace.memory.arena.buffers.keys.filter fun id =>
    workspace.buffers.values.all (· ≠ id) && workspace.memory.windows.values.all (·.buffer ≠ id) &&
      workspace.heldVariables.values.all (·.buffer ≠ id)

def sweep : Action Workspace Unit := do
  modify fun workspace =>
    { workspace with memory := workspace.unnamedWindows.foldl Memory.dropWindow workspace.memory }
  for id in (← get).unusedBuffers do
    onArena (Arena.dropBuffer id)

/-- Forgets a name and answers whether it led to anything. A variable of that name goes first, and a
buffer that it alone led to is free before the one that the name leads to otherwise. -/
def drop (name : String) : Action Workspace Bool := do
  let workspace ← get
  set { workspace with heldVariables := workspace.heldVariables.erase name }
  sweep
  modify fun workspace => { workspace with
    buffers := workspace.buffers.erase name
    windows := workspace.windows.erase name }
  sweep
  return workspace.buffers.contains name || workspace.windows.contains name ||
    workspace.heldVariables.contains name

/-! ## Buffers -/

def makeBuffer (name : String) (bytes : Nat) : Action Workspace Unit := do
  let id ← onArena (Arena.createBuffer name bytes)
  modify fun workspace => { workspace with buffers := workspace.buffers.insert name id }
  sweep

def onBuffer (name : String) (action : BufferId → Action Arena α) : Action Workspace α := do
  let id ← (← get).findBuffer name
  onArena (action id)

def read (name : String) (address length : Nat) : Action Workspace (List UInt8) := do
  let id ← (← get).findBuffer name
  Size.checkBlock length 1
  onArena (Action.inspect (·.read id address length))

def putElement (name : String) (address : Nat) (type : ElementType) (word : type.Word) :
    Action Workspace Unit :=
  onBuffer name fun id => Arena.put id address (type.bytes word)

def getElement (name : String) (address : Nat) (type : ElementType) : Action Workspace type.Word := do
  return type.ofBytes (← onBuffer name fun id => Action.inspect (·.read id address type.size))

def flushBuffer (name : String) (sink : Sink) : Action Workspace FlushReport :=
  onBuffer name (Arena.flushBuffer sink {})

def describe (name : Option String) (workspace : Workspace) : Except Fault String := do
  match name with
  | none => workspace.memory.arena.describe
  | some name => match workspace.windows.get? name with
      | some named => (← workspace.memory.hosted named.window).describe
      | none => return (← workspace.memory.arena.buffer (← workspace.findBuffer name)).describe

/-! ## Windows -/

private def checkService : Action Workspace Unit := do
  if !(← get).serviceKept then throw .serviceStopped

private def nameWindow (name : String) (window : WindowId) (table : Table) : Action Workspace Unit := do
  modify fun workspace => { workspace with windows := workspace.windows.insert name ⟨window, table⟩ }
  sweep

def makeWindow (name : String) (schema : Except Fault Schema) (config : MemoryConfig) :
    Action Workspace WindowSummary := do
  let schema ← schema
  checkService
  let id ← onMemory (Memory.makeWindow name schema config)
  nameWindow name id .plain
  let hosted ← (← get).memory.hosted id
  let window := hosted.window
  return ⟨window.name, window.objectSize, window.objectsPerPage, ← hosted.sizeInPages,
    window.schema.fields.length⟩

def makeMatrices (name : String) (config : MemoryConfig) : Action Workspace Unit := do
  checkService
  let table ← onMemory (MatrixTable.make config)
  nameWindow name table.window (.matrices table)

def makeLists (name : String) (capacity : Nat) (config : MemoryConfig) : Action Workspace Nat := do
  checkService
  let table ← onMemory (ObjectListTable.make capacity config)
  nameWindow name table.window (.lists table)
  return table.capacity

def clone (name copy : String) : Action Workspace Unit := do
  let named ← (← get).findWindow name
  nameWindow copy named.window named.table

def create (name : String) : Action Workspace Nat := do
  match (← (← get).findWindow name).table with
  | .lists table => onMemory table.create
  | _ => onWindow name Hosted.create

def tryCreate (name : String) : Action Workspace Nat := do
  match (← (← get).findWindow name).table with
  | .lists table => onMemory table.tryCreate
  | _ => onWindow name Hosted.tryCreate

/-! ## Deferred frees -/

def stats (workspace : Workspace) : Option FreeingStats :=
  if workspace.serviceKept then some workspace.memory.service.stats else none

private def settle : Action Workspace Unit :=
  modify fun workspace => { workspace with memory := workspace.memory.settle }

def freeLater (name : String) (indices : List Nat) : Action Workspace (Option FreeingStats) := do
  let named ← (← get).findWindow name
  onMemory (Memory.freeLater named.window indices)
  settle
  return (← get).stats

private def awaitBatch (window : WindowId) (memory : Memory) : Memory :=
  match (memory.windows.get? window).bind (·.pending.deadline) with
  | some deadline => { memory with clock := max memory.clock deadline }
  | none => memory

/-- Frees records later one by one, and waits until their batch is released. -/
def freeLaterBurst (name : String) (indices : List Nat) : Action Workspace (Option FreeingStats) := do
  let named ← (← get).findWindow name
  for index in indices do
    let _ ← freeLater name [index]
  modify fun workspace => { workspace with memory := awaitBatch named.window workspace.memory }
  settle
  return (← get).stats

def stopService : Action Workspace Unit :=
  modify fun workspace =>
    { workspace with memory := workspace.memory.stopService, serviceKept := false }

/-! ## Variables -/

def describeVariable (name : VariableName) (workspace : Workspace) : Except Fault Variable :=
  workspace.findVariable name

def hold (name : VariableName) (held : String) : Action Workspace Unit := do
  let found ← (← get).findVariable name
  modify fun workspace => { workspace with heldVariables := workspace.heldVariables.insert held found }
  sweep

def onVariable (name : VariableName) (action : Variable → Action Arena α) : Action Workspace α := do
  let found ← (← get).findVariable name
  onArena (action found)

/-! ## Tables -/

def writeList (name : String) (index : Nat) (ids : List ObjectListTable.ObjectId) :
    Action Workspace Nat := do
  let table ← (← get).findLists name
  onMemory (table.write index ids)

def readList (name : String) (index : Nat) (workspace : Workspace) :
    Except Fault (Nat × List ObjectListTable.ObjectId) := do
  let table ← workspace.findLists name
  return (← table.length index workspace.memory, ← table.read index workspace.memory)

def setMatrix (name : String) (index : Nat) (columns : List MatrixTable.Entry) :
    Action Workspace Unit := do
  let table ← (← get).findMatrices name
  onMemory (table.set index columns)

def setMatrixTransposed (name : String) (index : Nat) (rows : List MatrixTable.Entry) :
    Action Workspace Unit := do
  let table ← (← get).findMatrices name
  onMemory (table.setTransposed index rows)

def getMatrix (name : String) (index : Nat) (workspace : Workspace) :
    Except Fault (List MatrixTable.Entry) := do
  (← workspace.findMatrices name).get index workspace.memory

end Workspace

end TorusEngine.Session
