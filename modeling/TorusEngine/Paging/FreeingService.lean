/-!
# The freeing service

One service wakes the windows whose pending frees come due. Windows post messages to its inbox; it
keeps the wakeups ordered by time and, among equal times, by the order in which they were queued. The
service takes messages as long as it runs. It stops when it is told to, or when a batch it releases
turns out to hold an index that is not outstanding; what it still had queued is then lost.
-/

namespace TorusEngine.Paging

abbrev WindowId := Nat

structure Wakeup where
  deadline : Nat
  order : Nat
  window : WindowId
deriving DecidableEq, Repr

inductive Message where
  | schedule (window : WindowId) (deadline : Nat)
  | shutdown
deriving DecidableEq, Repr

structure FreeingStats where
  batches : Nat := 0
  indices : Nat := 0
  scheduled : Nat := 0
deriving DecidableEq, Repr

inductive ServicePhase where
  | running
  | stopped
  | broken
deriving DecidableEq, Repr

structure FreeingService where
  phase : ServicePhase := .running
  inbox : List Message := []
  wakeups : List Wakeup := []
  order : Nat := 0
  stats : FreeingStats := {}
deriving Repr

namespace Wakeup

def before (a b : Wakeup) : Bool :=
  a.deadline < b.deadline || (a.deadline = b.deadline && a.order ≤ b.order)

def enqueue (wakeup : Wakeup) : List Wakeup → List Wakeup
  | [] => [wakeup]
  | first :: rest =>
      if before first wakeup then first :: enqueue wakeup rest else wakeup :: first :: rest

end Wakeup

namespace FreeingService

def isRunning (service : FreeingService) : Bool := service.phase = .running

def post (service : FreeingService) (message : Message) : Option FreeingService :=
  if service.isRunning then some { service with inbox := service.inbox ++ [message] } else none

def queue (service : FreeingService) (window : WindowId) (deadline : Nat) : FreeingService :=
  let order := service.order + 1
  { service with order, wakeups := Wakeup.enqueue ⟨deadline, order, window⟩ service.wakeups }

def takeDue (service : FreeingService) (now : Nat) : List Wakeup × FreeingService :=
  (service.wakeups.filter (·.deadline ≤ now),
    { service with wakeups := service.wakeups.filter (now < ·.deadline) })

def countBatch (service : FreeingService) (size : Nat) : FreeingService :=
  { service with stats := { service.stats with
      batches := service.stats.batches + 1
      indices := service.stats.indices + size } }

def countSchedule (service : FreeingService) : FreeingService :=
  { service with stats := { service.stats with scheduled := service.stats.scheduled + 1 } }

def finish (service : FreeingService) (phase : ServicePhase) : FreeingService :=
  { service with phase, inbox := [], wakeups := [] }

end FreeingService

end TorusEngine.Paging
