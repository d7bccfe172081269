import TorusEngine.Relevance.Executor
import TorusEngine.Relevance.RelevanceConfig

/-!
# Scenes

A scene is all that relevance is about: markers, grids, cameras, and the executor that keeps each
camera's set. Grids and cameras only submit commands; `settle` lets the executor catch up.
-/

namespace TorusEngine.Relevance

open Torus (Cell)

structure Camera where
  config : RelevanceConfig
  position : Vec3 Float
  cell : Cell
  grids : List GridId := []

structure Scene where
  markers : Array Marker := #[]
  grids : Dictionary GridId Grid := {}
  cameras : Dictionary CameraId Camera := {}
  executor : Executor := {}
  nextGrid : GridId := 0
  nextCamera : CameraId := 0

namespace Scene

variable {α : Type}

def marker (scene : Scene) (id : MarkerId) : Except Fault Marker :=
  match scene.markers[id]? with
  | some marker => .ok marker
  | none => .error .unknownName

def grid (scene : Scene) (id : GridId) : Except Fault Grid :=
  match scene.grids.get? id with
  | some grid => .ok grid
  | none => .error .unknownName

def camera (scene : Scene) (id : CameraId) : Except Fault Camera :=
  match scene.cameras.get? id with
  | some camera => .ok camera
  | none => .error .unknownName

def published (scene : Scene) (id : CameraId) : PublishedSet := scene.executor.published id

def describeCamera (scene : Scene) (id : CameraId) : Except Fault String := do
  let camera ← scene.camera id
  let cell := camera.cell
  return s!"Camera \x7b id: ID, cell: CellCoord \x7b x: {cell.x}, y: {cell.y}, z: {cell.z} \x7d, relevant: {(scene.published id).size} \x7d"

def onExecutor : Action Executor α → Action Scene α :=
  Action.within (·.executor) fun executor scene => { scene with executor }

def submit (command : Command) : Action Scene Unit := onExecutor (Executor.submit command)

def settle (scene : Scene) : Scene := { scene with executor := scene.executor.settle }

/-- Waits until the executor has carried out what was submitted. -/
def sync : Action Scene Unit := do
  if !(← get).executor.running then throw (.executor .stopped)
  modify settle

def stopExecutor (scene : Scene) : Scene :=
  { scene with executor := (scene.executor.notify .shutdown).settle }

/-! ## Markers and grids -/

def addMarker (marker : Marker) : Action Scene MarkerId := modifyGet fun scene =>
  (scene.markers.size, { scene with markers := scene.markers.push marker })

def moveMarker (id : MarkerId) (position : Vec3 Float) : Action Scene Unit := do
  let _ ← (← get).marker id
  modify fun scene =>
    { scene with markers := scene.markers.modify id fun marker => { marker with position } }

def makeGrid (cellSize : Float) : Action Scene GridId := do
  let grid ← Grid.make cellSize
  modifyGet fun scene =>
    (scene.nextGrid, { scene with
      grids := scene.grids.insert scene.nextGrid grid
      nextGrid := scene.nextGrid + 1 })

def report (grid : GridId) (change : Change) (camera : CameraId) : Command :=
  match change with
  | .entered cell marker => .insert camera grid cell marker
  | .left cell marker => .remove camera grid cell marker

def changeGrid (id : GridId) (change : Grid → Grid × List Change) : Action Scene (List Change) := do
  let (changed, changes) := change (← (← get).grid id)
  let commands := changes.flatMap fun change => changed.subscribers.map (report id change)
  modify fun scene => { scene with
    grids := scene.grids.insert id changed
    executor := commands.foldl Executor.notify scene.executor }
  return changes

def addAt (grid : GridId) (cell : Cell) (marker : MarkerId) : Action Scene Unit := do
  let _ ← (← get).marker marker
  let _ ← changeGrid grid (·.addAt cell marker)

def add (grid : GridId) (marker : MarkerId) : Action Scene Cell := do
  let scene ← get
  let cell := (← scene.grid grid).cellAt (← scene.marker marker).position
  addAt grid cell marker
  return cell

def remove (grid : GridId) (marker : MarkerId) : Action Scene Bool := do
  return !(← changeGrid grid (·.remove marker)).isEmpty

def relocate (grid : GridId) (marker : MarkerId) : Action Scene Bool := do
  let position := (← (← get).marker marker).position
  return !(← changeGrid grid (·.relocate marker position)).isEmpty

/-! ## Cameras -/

def makeCamera (config : RelevanceConfig) (position : Vec3 Float) : Action Scene CameraId := do
  let cell := Cell.ofPosition position config.geometry.cellSize
  let id := (← get).nextCamera
  submit (.register id { center := cell, radius := config.radius, width := config.geometry.widthCells })
  modifyGet fun scene =>
    (id, { scene with
      cameras := scene.cameras.insert id { config, position, cell }
      nextCamera := id + 1 })

def changeCamera (id : CameraId) (change : Camera → Camera) : Action Scene Unit :=
  modify fun scene => { scene with cameras := scene.cameras.modify id change }

def moveCamera (id : CameraId) (position : Vec3 Float) : Action Scene Bool := do
  let camera ← (← get).camera id
  let cell := Cell.ofPosition position camera.config.geometry.cellSize
  changeCamera id ({ · with position, cell })
  if cell = camera.cell then return false
  submit (.recenter id cell)
  return true

def attach (camera : CameraId) (grid : GridId) : Action Scene Unit := do
  let scene ← get
  let seen := (← scene.camera camera).grids
  let target ← scene.grid grid
  if grid ∈ seen then return
  submit (.attach camera grid target.contents)
  modify fun scene => { scene with grids := scene.grids.insert grid (target.subscribe camera) }
  changeCamera camera fun camera => { camera with grids := camera.grids ++ [grid] }
  sync

private def unsubscribe (camera : CameraId) (grid : GridId) : Action Scene Unit := do
  let target ← (← get).grid grid
  if camera ∉ target.subscribers then return
  modify fun scene => { scene with grids := scene.grids.insert grid (target.unsubscribe camera) }
  submit (.detach camera grid)

def detach (camera : CameraId) (grid : GridId) : Action Scene Unit := do
  let scene ← get
  let seen := (← scene.camera camera).grids
  let _ ← scene.grid grid
  if grid ∉ seen then return
  changeCamera camera fun camera => { camera with grids := camera.grids.erase grid }
  unsubscribe camera grid
  sync

/-- Drops a camera. That nobody may be left to hear of it is no fault. -/
def dropCamera (id : CameraId) (scene : Scene) : Scene :=
  let seen := match scene.cameras.get? id with
    | some camera => camera.grids
    | none => []
  let detached := seen.foldl (fun scene grid => ((unsubscribe id grid).outcome scene).2) scene
  { detached with
    cameras := detached.cameras.erase id
    executor := detached.executor.notify (.drop id) }

end Scene

end TorusEngine.Relevance
