/-!
# Pending frees

Records whose memory may still be in use are freed later, in batches. The first index that is parked
starts a batch and sets its deadline to the longest delay; every later index moves the deadline to
the shortest delay from now, but never past the longest delay from the start.

A wakeup is asked for when none is queued at or before the deadline. Times are in milliseconds.
-/

namespace TorusEngine.Paging

structure Pending where
  indices : List Nat := []
  started : Option Nat := none
  deadline : Option Nat := none
  scheduled : Option Nat := none
deriving DecidableEq, Repr

inductive Found where
  | nothing
  | early (deadline : Nat)
  | batch (indices : List Nat)
deriving DecidableEq, Repr

namespace Pending

/-- The deadline of a batch to which indices are added at time `now`, and the start of that batch. -/
def deadlineAt (pending : Pending) (now minDelay maxDelay : Nat) : Nat × Nat :=
  match pending.indices, pending.started with
  | _ :: _, some started => (started, min (now + minDelay) (started + maxDelay))
  | _, _ => (now, now + maxDelay)

/-- Adds indices to the batch. The second answer is the time for which a wakeup has to be queued, if
one is needed. -/
def park (pending : Pending) (now minDelay maxDelay : Nat) (indices : List Nat) :
    Pending × Option Nat :=
  if indices.isEmpty then (pending, none)
  else
    let (started, deadline) := pending.deadlineAt now minDelay maxDelay
    let parked : Pending := { pending with
      indices := pending.indices ++ indices
      started := some started
      deadline := some deadline }
    if pending.scheduled.any (· ≤ deadline) then (parked, none)
    else ({ parked with scheduled := some deadline }, some deadline)

/-- Takes the batch if its deadline has come. If it has not, the caller queues a wakeup for it. -/
def takeDue (pending : Pending) (now : Nat) : Found × Pending :=
  match pending.deadline with
  | none => (.nothing, pending)
  | some deadline =>
      if now < deadline then (.early deadline, { pending with scheduled := some deadline })
      else (.batch pending.indices, {})

def takeAll (pending : Pending) : List Nat × Pending := (pending.indices, {})

end Pending

end TorusEngine.Paging
