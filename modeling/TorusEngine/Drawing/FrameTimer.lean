import TorusEngine.Size

/-!
# Frame timers

A timer remembers the durations of the latest frames, at most as many as its capacity. A duration is
a number of nanoseconds. The slots are filled one after the other, and then the oldest is replaced.
-/

namespace TorusEngine.Drawing

abbrev Duration := Nat

def nanosecondsPerSecond : Nat := 1000000000

def Duration.limit : Nat := Size.limit * nanosecondsPerSecond

def Duration.seconds (duration : Duration) : Float :=
  Float.ofNat (duration / nanosecondsPerSecond) +
    Float.ofNat (duration % nanosecondsPerSecond) / Float.ofNat nanosecondsPerSecond

/-- The duration divided by a count and rounded down. The count becomes a word of 32 bits first. -/
def Duration.divide (duration : Duration) (count : Nat) : Except Fault Duration :=
  let word := count % 0x100000000
  if word = 0 then .error (.violated .durationDividedByZero) else .ok (duration / word)

/-- A ring of as many durations as the capacity. Slots that were never written are left out, where a ring of
fixed length would hold zeros and a flag that it has gone round: its first `next` slots count, and all of
them once the flag is set, which are the ones in `slots`. -/
structure FrameTimer where
  capacity : Nat
  slots : Array Duration := #[]
  next : Nat := 0

structure FrameTimes where
  count : Nat
  least : Duration
  greatest : Duration
  average : Duration
  framesPerSecond : Float

namespace FrameTimer

def make (capacity : Nat) : Except Fault FrameTimer := do
  let capacity := max capacity 1
  Size.checkBlock capacity 16
  return { capacity }

def record (timer : FrameTimer) (duration : Duration) : FrameTimer :=
  { timer with
    slots := if timer.slots.size ≤ timer.next then timer.slots.push duration
      else timer.slots.setIfInBounds timer.next duration
    next := (timer.next + 1) % timer.capacity }

def count (timer : FrameTimer) : Nat := timer.slots.size

def least (timer : FrameTimer) : Duration := timer.slots.toList.min?.getD 0

def greatest (timer : FrameTimer) : Duration := timer.slots.toList.max?.getD 0

def average (timer : FrameTimer) : Except Fault Duration := do
  if timer.slots.isEmpty then return 0
  let sum := timer.slots.toList.foldl (· + ·) 0
  if Duration.limit ≤ sum then throw (.violated .durationSumOverflow)
  Duration.divide sum timer.slots.size

def framesPerSecond (timer : FrameTimer) : Except Fault Float := do
  let seconds := (← timer.average).seconds
  return if 0 < seconds then 1 / seconds else 0

def times (timer : FrameTimer) : Except Fault FrameTimes := do
  return ⟨timer.count, timer.least, timer.greatest, ← timer.average, ← timer.framesPerSecond⟩

end FrameTimer

end TorusEngine.Drawing
