import TorusEngine.Paging.Memory

/-!
# Views

What can be seen of a buffer or a window at rest.
-/

namespace TorusEngine.Session

open TorusEngine.Paging

inductive View where
  | buffer (pages : List Nat) (bytes stale : Nat)
  | window (capacity live pending : Nat) (pages : List Nat) (stale : Nat)
deriving DecidableEq, Repr

namespace View

def ofBuffer (memory : Memory) (id : BufferId) : Except Fault View := do
  let buffer ← memory.arena.buffer id
  return .buffer buffer.pages (← memory.arena.sizeInBytes id) buffer.staleCount

def ofWindow (memory : Memory) (id : WindowId) : Except Fault View := do
  let window ← memory.window id
  let buffer ← memory.arena.buffer window.buffer
  return .window window.pool.capacity (← window.pool.outstandingCount)
    window.pending.indices.length buffer.pages buffer.staleCount

end View

end TorusEngine.Session
