import TorusEngine.Scalar

/-!
# Markers

A marker stands for an object of the world. The object number is what drawing knows it by; the
position may change at any time, and whoever keeps the marker has to look again.
-/

namespace TorusEngine.Relevance

/-- The number under which a marker is known, whatever its object number is. -/
abbrev MarkerId := Nat

structure Marker where
  objectId : BitVec 32
  position : Vec3 Float

end TorusEngine.Relevance
