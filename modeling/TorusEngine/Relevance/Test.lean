import TorusEngine.Torus.Cell
import TorusEngine.Torus.Rollover

/-!
# The relevance test

A cell is relevant to an observer's cell when its centre lies within a radius on the ground, on the
shortest way round. The taxicab distance rejects most cells before a square root is taken.
-/

namespace TorusEngine.Relevance

open Torus (Cell)

variable {α : Type} [Scalar α]

/-- Whether a cell is within `radius` cells of the observer's cell on a world of `width` cells. What
is visible from everywhere is always relevant; nothing else is under a radius that is negative or not
finite. -/
def isRelevant (center cell : Cell) (radius width : α) : Bool :=
  if cell.isEverywhere then true
  else if !Scalar.isFinite radius || Scalar.lt radius (Scalar.ofInt 0) then false
  else
    let dx := Torus.Rollover.distance (Scalar.ofInt cell.x - Scalar.ofInt center.x) width
    let dz := Torus.Rollover.distance (Scalar.ofInt cell.z - Scalar.ofInt center.z) width
    if Scalar.le (radius * Scalar.sqrtTwo) (dx + dz) then false
    else Scalar.lt (Scalar.sqrt (dx * dx + dz * dz)) radius

end TorusEngine.Relevance
