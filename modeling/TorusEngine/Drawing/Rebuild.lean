import TorusEngine.Drawing.DrawList
import TorusEngine.Torus.Geometry

/-!
# Rebuilds

A rebuild fills a draw list with the objects that an observer can see: those that are visible from
everywhere, at distance zero, and those whose position is within the radius. Positions are read while
the rebuild runs; it fails if one cannot be read.
-/

namespace TorusEngine.Drawing

open Relevance (MarkerId)

structure Candidate where
  marker : MarkerId
  objectId : BitVec 32
  global : Bool
deriving DecidableEq, Repr

structure Rebuild where
  candidates : List Candidate
  observer : Vec3 Float

abbrev Positions := MarkerId → Option (Vec3 Float)

namespace Rebuild

variable (geometry : Torus.Geometry Float) (radius : Float) (positions : Positions)

/-- Adds a candidate to a list if it is visible. Where its position cannot be read, the list stays as
it is and the rebuild ends. -/
def consider (observer : Vec3 Float) (list : DrawList) (candidate : Candidate) :
    Except DrawList DrawList :=
  let entry (distance : Float) : Entry := ⟨candidate.marker, candidate.objectId, distance.toBits⟩
  if candidate.global then .ok (list.push (entry 0))
  else match positions candidate.marker with
    | none => .error list
    | some position =>
        let distance := geometry.distance .euclidean position observer
        .ok (if distance < radius then list.push (entry distance) else list)

/-- The list that a rebuild makes of an old one, or what it has made when it fails. -/
def run (rebuild : Rebuild) (old : DrawList) : Except DrawList DrawList := do
  let filled ← rebuild.candidates.foldlM (consider geometry radius positions rebuild.observer) old.reset
  return filled.sort

def readsPositions (rebuild : Rebuild) : Bool := rebuild.candidates.any (!·.global)

end Rebuild

end TorusEngine.Drawing
