import TorusEngine.Torus.Geometry

/-!
# Drawing configuration

How far objects are visible, and the sizes of what drawing works with.
-/

namespace TorusEngine.Drawing

structure DrawingConfig where
  visibilityRadius : Float := Torus.mapSquareSize * Torus.viewDiameterMapSquares / 2
  workerThreads : Nat := 2
  listCapacity : Nat := 1024
  reportInterval : Nat := 20
deriving BEq

end TorusEngine.Drawing
