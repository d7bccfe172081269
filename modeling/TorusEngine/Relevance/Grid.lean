import TorusEngine.Action
import TorusEngine.Dictionary
import TorusEngine.Numeral.Style
import TorusEngine.Relevance.Graph
import TorusEngine.Torus.Cell

/-!
# Grids

A grid sorts markers into buckets, one for each cell that holds any, and remembers the cell of each
marker. The two views always agree. Cameras subscribe to a grid; every operation answers the changes
that the subscribers have to hear of, in the order in which they happened.
-/

namespace TorusEngine.Relevance

open Torus (Cell)

abbrev CameraId := Nat

structure Grid where
  cellSize : Float
  cells : Dictionary Cell (List MarkerId) := {}
  locations : Dictionary MarkerId Cell := {}
  subscribers : List CameraId := []

inductive Change where
  | entered (cell : Cell) (marker : MarkerId)
  | left (cell : Cell) (marker : MarkerId)
deriving DecidableEq, Repr

namespace Grid

def make (cellSize : Float) : Except Fault Grid :=
  if 0 < cellSize then .ok { cellSize } else .error (.violated .cellSizeNotPositive)

def cellAt (grid : Grid) (position : Vec3 Float) : Cell := Cell.ofPosition position grid.cellSize

def cellOf? (grid : Grid) (marker : MarkerId) : Option Cell := grid.locations.get? marker

def membersOf (grid : Grid) (cell : Cell) : List MarkerId := (grid.cells.get? cell).getD []

def contents (grid : Grid) : List (Cell × MarkerId) :=
  grid.cells.entries.flatMap fun (cell, members) => members.map (cell, ·)

def size (grid : Grid) : Nat := grid.locations.size

def describe (grid : Grid) : String :=
  s!"SpacePartitioningGrid \x7b id: ID, cell_size: {Numeral.Style.listing.render grid.cellSize}, cells: {grid.cells.size}, renderables: {grid.size} \x7d"

def place (grid : Grid) (cell : Cell) (marker : MarkerId) : Grid × List Change :=
  let members := grid.membersOf cell
  ({ grid with
      locations := grid.locations.insert marker cell
      cells := grid.cells.insert cell (if marker ∈ members then members else members ++ [marker]) },
    [.entered cell marker])

def takeOut (grid : Grid) (cell : Cell) (marker : MarkerId) : Grid × List Change :=
  let located := { grid with locations := grid.locations.erase marker }
  let members := grid.membersOf cell
  if marker ∈ members then
    let rest := members.erase marker
    ({ located with
        cells := if rest.isEmpty then grid.cells.erase cell else grid.cells.insert cell rest },
      [.left cell marker])
  else (located, [])

def addAt (grid : Grid) (cell : Cell) (marker : MarkerId) : Grid × List Change :=
  match grid.cellOf? marker with
  | none => grid.place cell marker
  | some old =>
      let (without, gone) := grid.takeOut old marker
      let (placed, come) := without.place cell marker
      (placed, gone ++ come)

def remove (grid : Grid) (marker : MarkerId) : Grid × List Change :=
  match grid.cellOf? marker with
  | none => (grid, [])
  | some cell => grid.takeOut cell marker

/-- The cell that a marker has to move to, now that it is at a position. What is visible from
everywhere stays so. -/
def newCell? (grid : Grid) (marker : MarkerId) (position : Vec3 Float) : Option Cell := do
  let cell ← grid.cellOf? marker
  let target := grid.cellAt position
  if cell.isEverywhere || marker ∉ grid.membersOf cell || target = cell then none else some target

def relocate (grid : Grid) (marker : MarkerId) (position : Vec3 Float) : Grid × List Change :=
  match grid.newCell? marker position with
  | none => (grid, [])
  | some cell => grid.addAt cell marker

def subscribe (grid : Grid) (camera : CameraId) : Grid :=
  { grid with subscribers := grid.subscribers.filter (· ≠ camera) ++ [camera] }

def unsubscribe (grid : Grid) (camera : CameraId) : Grid :=
  { grid with subscribers := grid.subscribers.erase camera }

end Grid

end TorusEngine.Relevance
