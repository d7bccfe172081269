import TorusEngine.Paging.FreeingService
import TorusEngine.Paging.Window

/-!
# Memory

Memory is the arena, the windows on it, and the freeing service, at a point in time. A window parks
the indices it frees later and posts a wakeup to the service; `settle` lets the service do all that
can be done at the present time. Once the service takes no more messages, what is parked is released
at once by the caller.
-/

namespace TorusEngine.Paging

structure Memory where
  arena : Arena
  windows : Dictionary WindowId Window := {}
  nextWindow : WindowId := 0
  service : FreeingService := {}
  clock : Nat := 0

namespace Memory

variable {α : Type}

def make (config : MemoryConfig) : Except Fault Memory := do
  return { arena := ← Arena.make config }

def onArena : Action Arena α → Action Memory α :=
  Action.within (·.arena) fun arena memory => { memory with arena }

def window (memory : Memory) (id : WindowId) : Except Fault Window :=
  match memory.windows.get? id with
  | some window => .ok window
  | none => .error .unknownName

def hosted (memory : Memory) (id : WindowId) : Except Fault Hosted := do
  return ⟨← memory.window id, memory.arena⟩

def putHosted (memory : Memory) (id : WindowId) (hosted : Hosted) : Memory :=
  { memory with
    arena := hosted.arena
    windows := memory.windows.modify id fun _ => hosted.window }

def changeWindow (memory : Memory) (id : WindowId) (change : Window → Window) : Memory :=
  { memory with windows := memory.windows.modify id change }

def onWindow (id : WindowId) (action : Action Hosted α) : Action Memory α := fun memory =>
  match memory.hosted id with
  | .error fault => .error fault memory
  | .ok hosted => match action hosted with
    | .ok answer after => .ok answer (memory.putHosted id after)
    | .error fault after => .error fault (memory.putHosted id after)

def makeWindow (name : String) (schema : Schema) (config : MemoryConfig) : Action Memory WindowId := do
  let window ← onArena (Window.make name schema config)
  modifyGet fun memory =>
    (memory.nextWindow, { memory with
      windows := memory.windows.insert memory.nextWindow window
      nextWindow := memory.nextWindow + 1 })

/-- Forgets a window. Its buffer stays, and what it has pending is never freed. -/
def dropWindow (memory : Memory) (id : WindowId) : Memory :=
  { memory with windows := memory.windows.erase id }

/-! ## Deferred frees -/

def changeService (memory : Memory) (change : FreeingService → FreeingService) : Memory :=
  { memory with service := change memory.service }

def release (memory : Memory) (id : WindowId) (batch : List Nat) : Memory :=
  match onWindow id (Hosted.freeMany batch) memory with
  | .ok _ after => after.changeService (·.countBatch batch.length)
  | .error _ after => after.changeService (·.finish .broken)

def wake (memory : Memory) (wakeup : Wakeup) : Memory :=
  if !memory.service.isRunning then memory
  else match memory.windows.get? wakeup.window with
    | none => memory
    | some window =>
        let (found, pending) := window.pending.takeDue memory.clock
        let taken := memory.changeWindow wakeup.window ({ · with pending })
        match found with
        | .nothing => taken
        | .early deadline => taken.changeService (·.queue wakeup.window deadline)
        | .batch indices => taken.release wakeup.window indices

def wakeDue (memory : Memory) : Memory :=
  let (due, service) := memory.service.takeDue memory.clock
  due.foldl wake { memory with service }

def releaseAll (memory : Memory) (wakeup : Wakeup) : Memory :=
  if !memory.service.isRunning then memory
  else match memory.windows.get? wakeup.window with
    | none => memory
    | some window =>
        let (batch, pending) := window.pending.takeAll
        let taken := memory.changeWindow wakeup.window ({ · with pending })
        if batch.isEmpty then taken else taken.release wakeup.window batch

/-- Handles one message of the service's inbox. A shutdown releases everything that a queued wakeup
leads to, and only then ends the service. -/
def receive (memory : Memory) (message : Message) : Memory :=
  if !memory.service.isRunning then memory
  else match message with
    | .schedule window deadline =>
        (memory.changeService fun service => service.countSchedule.queue window deadline).wakeDue
    | .shutdown =>
        let drained := memory.service.wakeups.foldl releaseAll memory
        if drained.service.isRunning then drained.changeService (·.finish .stopped) else drained

/-- Lets the service work until it has no message and no wakeup that is due. -/
def settle (memory : Memory) : Memory :=
  let received := memory.service.inbox.foldl receive
    (memory.changeService ({ · with inbox := [] }))
  received.wakeDue

def freeLater (id : WindowId) (indices : List Nat) : Action Memory Unit := do
  let memory ← get
  let window ← memory.window id
  let (pending, wakeup) := window.pending.park memory.clock window.minDelay window.maxDelay indices
  match wakeup with
  | none => set (memory.changeWindow id ({ · with pending }))
  | some deadline =>
      match memory.service.post (.schedule id deadline) with
      | some service => set { memory.changeWindow id ({ · with pending }) with service }
      | none => do
          set (memory.changeWindow id ({ · with pending := {} }))
          onWindow id (Hosted.freeMany pending.indices)

def stopService (memory : Memory) : Memory :=
  match memory.service.post .shutdown with
  | some service => settle { memory with service }
  | none => memory

end Memory

end TorusEngine.Paging
