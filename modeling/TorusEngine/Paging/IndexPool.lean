import Std.Data.TreeSet
import TorusEngine.Action
import TorusEngine.Fifo
import TorusEngine.Size

/-!
# Index pools

A pool hands out small numbers. A number that was given back is handed out again before any fresh
one, the longest-waiting first; otherwise the high-water mark moves up, and when it has reached the
capacity the growth rule sets a larger capacity.

The pool keeps the set of numbers that are handed out, so it notices when a number is given back
that was not outstanding. Compaction drops the free numbers at the top and then lowers the capacity
as far as a shrink rule asks, but never below the high-water mark.
-/

namespace TorusEngine.Paging

abbrev Growth := Nat → Except Fault Nat

structure IndexPool where
  free : Fifo Nat
  capacity : Nat
  highWater : Nat
  growth : Growth
  outstanding : Std.TreeSet Nat

namespace IndexPool

def doubling : Growth := fun capacity => .ok (Size.saturate (capacity * 2))

def withCapacity (capacity : Nat) (growth : Growth := doubling) : IndexPool :=
  { free := {}, capacity, highWater := 0, growth, outstanding := ∅ }

def outstandingCount (pool : IndexPool) : Except Fault Nat :=
  Size.sub pool.highWater pool.free.length

def describe (pool : IndexPool) : String :=
  s!"IndexPool \x7b capacity: {pool.capacity}, high_water: {pool.highWater}, free: {pool.free.length} \x7d"

/-- Raises the capacity to what the growth rule proposes, and by at least one. -/
def grow : Action IndexPool Unit := do
  let pool ← get
  let proposed ← pool.growth pool.capacity
  let least ← Size.add pool.capacity 1
  set { pool with capacity := max proposed least }

theorem grow_eq_ok {pool after : IndexPool} (grown : grow pool = .ok () after) :
    after.highWater = pool.highWater ∧ pool.capacity < after.capacity := by
  cases proposal : pool.growth pool.capacity with
  | error fault => simp [grow, proposal] at grown
  | ok proposed =>
      by_cases fits : pool.capacity + 1 < Size.limit
      · simp [grow, proposal, Size.add_eq_ok fits] at grown
        subst grown
        exact ⟨rfl, Nat.lt_of_lt_of_le (Nat.lt_succ_self _) (Nat.le_max_right _ _)⟩
      · simp [grow, proposal, Size.add, fits] at grown

def takeFresh : Action IndexPool Nat := do
  let pool ← get
  set { pool with
    highWater := pool.highWater + 1
    outstanding := pool.outstanding.insert pool.highWater }
  return pool.highWater

def pop : Action IndexPool Nat := do
  let pool ← get
  match pool.free.pop? with
  | some (index, rest) =>
      set { pool with free := rest, outstanding := pool.outstanding.insert index }
      return index
  | none =>
      if pool.highWater < pool.capacity then takeFresh
      else do
        grow
        takeFresh

def popInto : Nat → List Nat → Action IndexPool (List Nat)
  | 0, popped => return popped.reverse
  | count + 1, popped => do
      let index ← pop
      popInto count (index :: popped)

def popMany (count : Nat) : Action IndexPool (List Nat) := do
  Size.checkBlock count 8
  popInto count []

def reserve (count : Nat) : Action IndexPool Unit := fun pool =>
  match Size.add pool.highWater count with
  | .error fault => .error fault pool
  | .ok _ =>
      if pool.highWater + count ≤ pool.capacity then .ok () pool
      else match _grown : grow pool with
        | .error fault after => .error fault after
        | .ok _ after => reserve count after
termination_by pool => pool.highWater + count - pool.capacity
decreasing_by
  have := grow_eq_ok _grown
  omega

/-- Hands out `count` fresh indices in a row and answers the first; indices that were given back are
passed over. -/
def popConsecutive (count : Nat) : Action IndexPool Nat := do
  reserve count
  let pool ← get
  let first := pool.highWater
  set { pool with
    highWater := first + count
    outstanding := (List.range' first count).foldl (·.insert ·) pool.outstanding }
  return first

def giveBack (index : Nat) : Action IndexPool Unit := do
  let pool ← get
  if pool.outstanding.contains index then
    set { pool with free := pool.free.push index, outstanding := pool.outstanding.erase index }
  else throw (.violated (.notOutstanding index))

def giveBackMany : List Nat → Action IndexPool Unit
  | [] => return
  | index :: rest => do
      giveBack index
      giveBackMany rest

/-- The high-water mark once the free indices right below it are dropped. -/
def trimmed (free : List Nat) : Nat → Nat
  | 0 => 0
  | top + 1 => if top ∈ free then trimmed free top else top + 1

/-- A rule that proposes a smaller capacity from the high-water mark and the present capacity. -/
abbrev Shrink := Nat → Nat → Except Fault Nat

/-- Drops the free indices at the top, then lowers the capacity to what the shrink rule proposes,
held between the high-water mark and the old capacity. -/
def compact (shrink : Shrink) : Action IndexPool Nat := do
  modify fun pool =>
    let top := trimmed pool.free.toList pool.highWater
    if top = pool.highWater then pool
    else { pool with
      free := pool.free.filter (· < top)
      highWater := top
      outstanding := pool.outstanding.filter (· < top) }
  let pool ← get
  let proposed ← shrink pool.highWater pool.capacity
  if pool.capacity < pool.highWater then throw (.violated .reversedBounds)
  let capacity := max pool.highWater (min proposed pool.capacity)
  set { pool with capacity }
  return capacity

end IndexPool

end TorusEngine.Paging
