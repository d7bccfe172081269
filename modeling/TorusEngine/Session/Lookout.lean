import TorusEngine.Relevance.Scene

/-!
# Lookouts

A lookout gives names to the grids and cameras of a scene. The name of a camera leads to its
published set even after the camera was dropped. Where a command names a camera and a grid, the
camera is looked for first.
-/

namespace TorusEngine.Session

open TorusEngine.Relevance
open Torus (Cell)

structure Lookout where
  scene : Scene := {}
  grids : Dictionary String GridId := {}
  cameras : Dictionary String CameraId := {}
  sets : Dictionary String CameraId := {}
  /-- Whether the executor is still kept, so that it can take new cameras. -/
  executorKept : Bool := true

namespace Lookout

variable {α : Type}

def onScene : Action Scene α → Action Lookout α :=
  Action.within (·.scene) fun scene lookout => { lookout with scene }

private def find (names : Dictionary String Nat) (name : String) : Except Fault Nat :=
  match names.get? name with
  | some id => .ok id
  | none => .error .unknownName

def grid (lookout : Lookout) (name : String) : Except Fault Grid := do
  lookout.scene.grid (← find lookout.grids name)

def camera (lookout : Lookout) (name : String) : Except Fault Camera := do
  lookout.scene.camera (← find lookout.cameras name)

def published (lookout : Lookout) (name : String) : Except Fault PublishedSet := do
  return lookout.scene.published (← find lookout.sets name)

def describeCamera (lookout : Lookout) (name : String) : Except Fault String := do
  lookout.scene.describeCamera (← find lookout.cameras name)

def onGrid (name : String) (action : GridId → Action Scene α) : Action Lookout α := do
  let id ← find (← get).grids name
  onScene (action id)

def onCamera (name : String) (action : CameraId → Action Scene α) : Action Lookout α := do
  let id ← find (← get).cameras name
  onScene (action id)

def onCameraAndGrid (camera grid : String) (action : CameraId → GridId → Action Scene α) :
    Action Lookout α := do
  let camera ← find (← get).cameras camera
  let grid ← find (← get).grids grid
  onScene (action camera grid)

def makeGrid (name : String) (cellSize : Float) : Action Lookout Unit := do
  let id ← onScene (Scene.makeGrid cellSize)
  modify fun lookout => { lookout with grids := lookout.grids.insert name id }

def dropGrid (name : String) : Action Lookout Bool := modifyGet fun lookout =>
  (lookout.grids.contains name, { lookout with grids := lookout.grids.erase name })

/-- Drops a camera and answers whether there was one; its set can still be read. -/
def dropCamera (name : String) : Action Lookout Bool := modifyGet fun lookout =>
  match lookout.cameras.get? name with
  | none => (false, lookout)
  | some id =>
      (true, { lookout with
        scene := lookout.scene.dropCamera id
        cameras := lookout.cameras.erase name })

/-- Makes a camera; an old camera of the name is dropped once the new one exists. -/
def makeCamera (name : String) (config : RelevanceConfig) (position : Vec3 Float) :
    Action Lookout Camera := do
  if !(← get).executorKept then throw .unknownName
  let id ← onScene (Scene.makeCamera config position)
  let _ ← dropCamera name
  modify fun lookout => { lookout with
    cameras := lookout.cameras.insert name id
    sets := lookout.sets.insert name id }
  (← get).scene.camera id

def stopExecutor (lookout : Lookout) : Lookout :=
  { lookout with scene := lookout.scene.stopExecutor, executorKept := false }

def settle (lookout : Lookout) : Lookout := { lookout with scene := lookout.scene.settle }

end Lookout

end TorusEngine.Session
