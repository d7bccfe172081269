import TorusEngine.Paging.IndexPool

/-!
# Capacity rules

The ways in which a pool's capacity is usually made to grow and to shrink, as data.
-/

namespace TorusEngine.Paging

inductive GrowthRule where
  | double
  | add (amount : Nat)
  | multiply (factor : Nat)
  | constant (capacity : Nat)
  | unchanged
deriving DecidableEq, Repr

inductive ShrinkRule where
  | constant (capacity : Nat)
  | needed (spare : Nat)
  | halfway
  | unchanged
deriving DecidableEq, Repr

/-- The capacity that a rule proposes; a proposal that is no size is held at the largest one. -/
def GrowthRule.growth : GrowthRule → Growth
  | double => IndexPool.doubling
  | add amount => fun capacity => .ok (Size.saturate (capacity + amount))
  | multiply factor => fun capacity => .ok (Size.saturate (capacity * factor))
  | constant capacity => fun _ => .ok capacity
  | unchanged => fun capacity => .ok capacity

def ShrinkRule.shrink : ShrinkRule → IndexPool.Shrink
  | constant capacity => fun _ _ => .ok capacity
  | needed spare => fun least _ => Size.add least spare
  | halfway => fun least capacity => do
      Size.add least ((← Size.sub capacity least) / 2)
  | unchanged => fun _ capacity => .ok capacity

end TorusEngine.Paging
