import TorusEngine.Settings.EngineConfig
import TorusEngine.Drawing.Pipeline
import TorusEngine.Relevance.Scene

/-!
# Engines

An engine is one grid, one camera that sees it, and a pipeline that draws what the camera sees.
-/

namespace TorusEngine

open Settings (EngineConfig)
open Drawing (Backend FrameReport ListPair Pipeline Positions Rebuild Stage)
open Paging (Memory Sink)
open Relevance (CameraId GridId Marker MarkerId PublishedSet RelevanceConfig Scene)
open Torus (Cell)

structure Engine where
  stage : Stage
  scene : Scene
  grid : GridId
  camera : CameraId

namespace Engine

variable {α : Type}

private def makeScene (config : RelevanceConfig) : Action Scene (GridId × CameraId) := do
  let grid ← Scene.makeGrid config.geometry.cellSize
  let camera ← Scene.makeCamera config ⟨0, 0, 0⟩
  Scene.attach camera grid
  return (grid, camera)

def make (config : EngineConfig) (prepare : Action Memory α) : Except Fault (α × Engine) := do
  let memory ← Memory.make config.memory
  let ((grid, camera), scene) ← succeed ((makeScene config.relevance).outcome {})
  let build := do
    let prepared ← prepare
    return (prepared, ← Pipeline.make config.drawing config.relevance.geometry config.memory)
  let ((prepared, pipeline), memory) ← succeed (build.outcome memory)
  return (prepared, { stage := { pipeline, memory }, scene, grid, camera })
where
  succeed {α σ : Type} : Except Fault α × σ → Except Fault (α × σ)
    | (.ok answer, state) => .ok (answer, state)
    | (.error fault, _) => .error fault

def onScene : Action Scene α → Action Engine α :=
  Action.within (·.scene) fun scene engine => { engine with scene }

def onStage : Action Stage α → Action Engine α :=
  Action.within (·.stage) fun stage engine => { engine with stage }

def onMemory (action : Action Memory α) : Action Engine α := onStage (Stage.onMemory action)

def published (engine : Engine) : PublishedSet := engine.scene.published engine.camera

def positions (engine : Engine) : Positions := fun marker =>
  (engine.scene.markers[marker]?).map (·.position)

def rebuild (engine : Engine) (observer : Vec3 Float) : Rebuild :=
  { observer
    candidates := engine.published.members.filterMap fun (marker, global) => do
      let objectId := (← engine.scene.markers[marker]?).objectId
      return { marker, objectId, global } }

def settle (engine : Engine) : Engine := { engine with scene := engine.scene.settle }

def work (positions : Positions) (engine : Engine) : Engine :=
  { engine with stage := { engine.stage with pipeline := engine.stage.pipeline.work positions } }

def cameraCell (engine : Engine) : Except Fault Cell := do
  return (← engine.scene.camera engine.camera).cell

def addMarker (marker : Marker) : Action Engine MarkerId := do
  let grid := (← get).grid
  onScene do
    let id ← Scene.addMarker marker
    let _ ← Scene.add grid id
    return id

def addGlobal (marker : Marker) : Action Engine MarkerId := do
  let grid := (← get).grid
  onScene do
    let id ← Scene.addMarker marker
    Scene.addAt grid .everywhere id
    return id

def cellOf? (engine : Engine) (marker : MarkerId) : Except Fault (Option Cell) := do
  return (← engine.scene.grid engine.grid).cellOf? marker

def moveMarker (marker : MarkerId) (position : Vec3 Float) : Action Engine Bool := do
  let grid := (← get).grid
  onScene do
    Scene.moveMarker marker position
    Scene.relocate grid marker

def removeMarker (marker : MarkerId) : Action Engine Bool := do
  let grid := (← get).grid
  onScene do
    let _ ← (← get).marker marker
    Scene.remove grid marker

def observe (position : Vec3 Float) : Action Engine Bool := do
  let camera := (← get).camera
  onScene (Scene.moveCamera camera position)

def request (observer : Vec3 Float) : Action Engine Bool := do
  let rebuild := (← get).rebuild observer
  onStage (Stage.onPipeline (Pipeline.request rebuild))

def swap : Action Engine Bool := onStage (Stage.onPipeline (Pipeline.onLists ListPair.trySwap))

def frame (observer : Vec3 Float) (backend : Backend) (sink : Sink) : Action Engine FrameReport := do
  let rebuild := (← get).rebuild observer
  onStage (Stage.frame backend sink rebuild)

end Engine

end TorusEngine
