import TorusEngine.Numeral.Binary64

/-!
# Scalars

The geometry of the world needs little of its numbers: the four operations, absolute values, the
remainder toward zero, square roots, comparisons and the nearest integer. It is written once over
this class. The engine runs it on doubles, and exact numbers are scalars as well.
-/

namespace TorusEngine

class Scalar (α : Type) extends Add α, Sub α, Mul α, Div α, Neg α where
  ofInt : Int → α
  abs : α → α
  /-- The rest of a division rounded toward zero. -/
  remainder : α → α → α
  sqrt : α → α
  lt : α → α → Bool
  le : α → α → Bool
  isFinite : α → Bool
  /-- The nearest integer, a half to the even neighbour, held between two bounds. -/
  nearest : (low high : Int) → α → Int
  sqrtTwo : α

instance : Scalar Float where
  ofInt := Float.ofInt
  abs := Float.abs
  remainder := Numeral.Binary64.remainder
  sqrt := Float.sqrt
  lt a b := a < b
  le a b := a ≤ b
  isFinite := Float.isFinite
  nearest := Numeral.Binary64.nearest
  sqrtTwo := Float.ofBits 0x3FF6A09E667F3BCD

structure Vec3 (α : Type) where
  x : α
  y : α
  z : α
deriving Repr

end TorusEngine
