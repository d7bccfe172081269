import TorusEngine.Torus.Rollover

/-!
# Geometry of the world

The world is a torus of `cells` cells on each axis. Distances between positions are taken on the
shortest way round, under the taxicab norm for coarse tests and the Euclidean norm for exact ones.
-/

namespace TorusEngine.Torus

inductive Norm where
  | taxicab
  | euclidean
deriving DecidableEq, Repr

def Norm.name : Norm → String
  | taxicab => "Taxicab"
  | euclidean => "Euclidean"

structure Geometry (α : Type) where
  cellSize : α
  cells : Nat
deriving BEq, Repr

namespace Geometry

variable {α : Type} [Scalar α]

def widthCells (geometry : Geometry α) : α := Scalar.ofInt geometry.cells

def width (geometry : Geometry α) : α := geometry.cellSize * geometry.widthCells

def delta (geometry : Geometry α) (a b : Vec3 α) : Vec3 α :=
  let width := geometry.width
  ⟨Rollover.delta (a.x - b.x) width, Rollover.delta (a.y - b.y) width,
    Rollover.delta (a.z - b.z) width⟩

def length : Norm → Vec3 α → α
  | .taxicab, d => Scalar.abs d.x + Scalar.abs d.y + Scalar.abs d.z
  | .euclidean, d => Scalar.sqrt (d.x * d.x + d.y * d.y + d.z * d.z)

def distance (geometry : Geometry α) (norm : Norm) (a b : Vec3 α) : α :=
  length norm (geometry.delta a b)

def groundDistance (geometry : Geometry α) (a b : Vec3 α) : α :=
  let width := geometry.width
  Rollover.distance (a.x - b.x) width + Rollover.distance (a.z - b.z) width

end Geometry

def mapSquareSize : Float := 65536

def mapSquaresPerWorld : Float := 256

def mapSquaresPerCell : Float := 8

def viewDiameterMapSquares : Float := 27

def Geometry.standard : Geometry Float :=
  ⟨mapSquareSize * mapSquaresPerCell, (mapSquaresPerWorld / mapSquaresPerCell).toUInt32.toNat⟩

end TorusEngine.Torus
