import TorusEngine.Proofs.Paging.Awaiting

/-!
# The freeing thread beside its callers

`Memory.settle` lets the service work alone. In a running program a thread does its work beside the
callers: it takes one message or one wakeup at a time, and between any two of its steps the owners of
windows make and free records, free more of them later, or drop windows. `Step` has one constructor for
each thing that can happen next. Freeing later is one step, since it holds the lock of the pending batch
throughout.

A system also remembers, for each window, which records were freed later and which of these its pool has
taken back. The latter are read off the pools, before and after the step.
-/

namespace TorusEngine.Paging

/-- What the thread has in its hands. A window whose wakeup it holds cannot go away. -/
inductive Hand where
  | idle
  | holding (wakeup : Wakeup)
  | requeueing (window : WindowId) (deadline : Nat)
  | releasing (window : WindowId) (batch : List Nat)

/-- A pass over the wakeups: over those due at a time, or over all of them after a shutdown. -/
inductive Pass where
  | sweeping (now : Nat)
  | draining

inductive Stage where
  | waiting
  | timing
  | working (pass : Pass) (hand : Hand)
  | exited

namespace Hand

def window? : Hand → Option WindowId
  | idle => none
  | holding wakeup => some wakeup.window
  | requeueing window _ => some window
  | releasing window _ => some window

def batch (id : WindowId) : Hand → List Nat
  | releasing window batch => if window = id then batch else []
  | _ => []

def Carries (id : WindowId) (time : Nat) : Hand → Prop
  | holding wakeup => wakeup.window = id ∧ wakeup.deadline = time
  | requeueing window deadline => window = id ∧ deadline = time
  | _ => False

def ofFound (id : WindowId) : Found → Hand
  | .nothing => idle
  | .early deadline => requeueing id deadline
  | .batch indices => releasing id indices

end Hand

namespace Pass

def Reaches (wakeup : Wakeup) : Pass → Prop
  | sweeping now => wakeup.deadline ≤ now
  | draining => True

def take (pending : Pending) : Pass → Found × Pending
  | sweeping now => pending.takeDue now
  | draining =>
      let (batch, rest) := pending.takeAll
      (if batch.isEmpty then .nothing else .batch batch, rest)

end Pass

namespace Stage

def hand : Stage → Hand
  | working _ hand => hand
  | _ => .idle

def Closing : Stage → Prop
  | working .draining _ => True
  | exited => True
  | _ => False

end Stage

structure FreeingSystem where
  memory : Memory
  stage : Stage := .waiting
  deferred : WindowId → List Nat := fun _ => []
  returned : WindowId → List Nat := fun _ => []
  lost : List Message := []

def Memory.isLive (memory : Memory) (id : WindowId) (index : Nat) : Bool :=
  (memory.windows.get? id).any (·.pool.outstanding.contains index)

def Memory.takenBack (before after : Memory) (id : WindowId) (indices : List Nat) : List Nat :=
  indices.filter fun index => before.isLive id index && !after.isLive id index

namespace FreeingSystem

def note (history : WindowId → List Nat) (id : WindowId) (indices : List Nat) :
    WindowId → List Nat := fun other =>
  if id = other then history other ++ indices else history other

def pending (system : FreeingSystem) (id : WindowId) : List Nat :=
  (system.memory.windows.get? id).elim [] (·.pending.indices)

def taken (system : FreeingSystem) (id : WindowId) : List Nat := system.stage.hand.batch id

def awaiting (system : FreeingSystem) (id : WindowId) : List Nat :=
  system.pending id ++ system.taken id

/-- A wakeup of a window for a time is in the channel, in the queue, or in the thread's hands. -/
def Queued (system : FreeingSystem) (id : WindowId) (time : Nat) : Prop :=
  .schedule id time ∈ system.memory.service.inbox ∨
    (∃ wakeup ∈ system.memory.service.wakeups, wakeup.window = id ∧ wakeup.deadline = time) ∨
    system.stage.hand.Carries id time

/-- A caller frees records later that are outstanding, each once, and not yet freed later. -/
structure Owns (system : FreeingSystem) (id : WindowId) (indices : List Nat) : Prop where
  distinct : indices.Nodup
  live : ∃ window, system.memory.windows.get? id = some window ∧
    ∀ index ∈ indices, index ∈ window.pool.outstanding
  once : ∀ index ∈ indices, index ∉ system.awaiting id

/-- The calls that leave the service to the thread and do not free what awaits its release. -/
def Permits (system : FreeingSystem) : Memory.Call → Prop
  | .dropWindow id => system.stage.hand.window? ≠ some id
  | .window id call => ∀ index ∈ call.freed, index ∉ system.awaiting id
  | .freeLater _ _ | .receive _ | .wake _ | .settle | .stopService => False
  | _ => True

def freeLater (system : FreeingSystem) (id : WindowId) (indices : List Nat) : FreeingSystem :=
  let after := Action.after (Memory.freeLater id indices) system.memory
  { system with
    memory := after
    deferred := note system.deferred id indices
    returned := note system.returned id
      (system.memory.takenBack after id (system.pending id ++ indices)) }

/-- Releases the batch in hand. An index in it that is not outstanding ends the thread, with all that it
had queued. -/
def release (system : FreeingSystem) (pass : Pass) (id : WindowId) (batch : List Nat) :
    FreeingSystem :=
  let after := system.memory.release id batch
  { system with
    memory := after
    stage := if after.service.isRunning then .working pass .idle else .exited
    returned := note system.returned id (system.memory.takenBack after id batch)
    lost := if after.service.isRunning then system.lost
      else system.lost ++ system.memory.service.inbox }

inductive Step (system : FreeingSystem) : FreeingSystem → Prop where
  | call (call : Memory.Call) (permitted : system.Permits call) :
      Step system { system with memory := call.after system.memory }
  | freeLater {id : WindowId} {indices : List Nat} (owned : system.Owns id indices) :
      Step system (system.freeLater id indices)
  | ask {service : FreeingService} (posted : system.memory.service.post .shutdown = some service) :
      Step system { system with memory := { system.memory with service } }
  | schedule {id : WindowId} {deadline : Nat} {rest : List Message}
      (waiting : system.stage = .waiting)
      (first : system.memory.service.inbox = .schedule id deadline :: rest) :
      Step system { system with
        memory := system.memory.changeService fun service =>
          { service with inbox := rest }.countSchedule.queue id deadline
        stage := .timing }
  | shutdown {rest : List Message} (waiting : system.stage = .waiting)
      (first : system.memory.service.inbox = .shutdown :: rest) :
      Step system { system with
        memory := system.memory.changeService ({ · with inbox := rest })
        stage := .working .draining .idle }
  | timeout {first : Wakeup} {rest : List Wakeup} (waiting : system.stage = .waiting)
      (queued : system.memory.service.wakeups = first :: rest)
      (due : first.deadline ≤ system.memory.clock) :
      Step system { system with stage := .timing }
  | look (timing : system.stage = .timing) :
      Step system { system with stage := .working (.sweeping system.memory.clock) .idle }
  | pop {pass : Pass} {first : Wakeup} {rest : List Wakeup}
      (idle : system.stage = .working pass .idle)
      (queued : system.memory.service.wakeups = first :: rest) (reached : pass.Reaches first) :
      Step system { system with
        memory := system.memory.changeService ({ · with wakeups := rest })
        stage := .working pass
          (if (system.memory.windows.get? first.window).isSome then .holding first else .idle) }
  | take {pass : Pass} {wakeup : Wakeup} {window : Window}
      (holding : system.stage = .working pass (.holding wakeup))
      (found : system.memory.windows.get? wakeup.window = some window) :
      Step system { system with
        memory := system.memory.changeWindow wakeup.window
          ({ · with pending := (pass.take window.pending).2 })
        stage := .working pass (.ofFound wakeup.window (pass.take window.pending).1) }
  | requeue {pass : Pass} {id : WindowId} {deadline : Nat}
      (holding : system.stage = .working pass (.requeueing id deadline)) :
      Step system { system with
        memory := system.memory.changeService (·.queue id deadline)
        stage := .working pass .idle }
  | release {pass : Pass} {id : WindowId} {batch : List Nat}
      (holding : system.stage = .working pass (.releasing id batch)) :
      Step system (system.release pass id batch)
  | rest {now : Nat} (idle : system.stage = .working (.sweeping now) .idle)
      (later : ∀ first ∈ system.memory.service.wakeups.head?, now < first.deadline) :
      Step system { system with stage := .waiting }
  | exit (idle : system.stage = .working .draining .idle)
      (drained : system.memory.service.wakeups = []) :
      Step system { system with
        memory := system.memory.changeService (·.finish .stopped)
        stage := .exited
        lost := system.memory.service.inbox }

inductive Reachable : FreeingSystem → Prop where
  | start {config : MemoryConfig} {memory : Memory} (made : Memory.make config = .ok memory) :
      Reachable { memory }
  | step {system after : FreeingSystem} (reachable : Reachable system) (step : Step system after) :
      Reachable after

end FreeingSystem

end TorusEngine.Paging
