import TorusEngine.Scalar

/-!
# Cells

Space is cut into cubes of equal size, the cells. A cell is named by three 32-bit coordinates, and a
position belongs to the cell whose coordinates are nearest to it. One name is kept apart for things
without a place, such as the sky: `everywhere`. No position belongs to it, because a coordinate never
goes below `lowest`.
-/

namespace TorusEngine.Torus

structure Cell where
  x : Int
  y : Int
  z : Int
deriving DecidableEq, Repr

namespace Cell

def sentinel : Int := -0x80000000

/-- The least coordinate of a cell that holds positions. -/
def lowest : Int := sentinel + 1

def highest : Int := 0x7fffffff

def everywhere : Cell := ⟨sentinel, sentinel, sentinel⟩

def isEverywhere (cell : Cell) : Bool := cell = everywhere

variable {α : Type} [Scalar α]

private def coordinate (size v : α) : Int := Scalar.nearest lowest highest (v / size)

/-- The cell that a position belongs to: on each axis the nearest multiple of the cell size, a half
to the even neighbour. -/
def ofPosition (position : Vec3 α) (size : α) : Cell :=
  ⟨coordinate size position.x, coordinate size position.y, coordinate size position.z⟩

end Cell

end TorusEngine.Torus
