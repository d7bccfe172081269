import TorusEngine.Torus.Geometry

/-!
# Relevance configuration

The world's geometry and the radius, in cells, within which cells are relevant.
-/

namespace TorusEngine.Relevance

structure RelevanceConfig where
  geometry : Torus.Geometry Float := .standard
  radius : Float := Torus.viewDiameterMapSquares / Torus.mapSquaresPerCell
deriving BEq

def RelevanceConfig.worldRadius (config : RelevanceConfig) : Float :=
  config.radius * config.geometry.cellSize

end TorusEngine.Relevance
