import Mathlib.Logic.Function.Basic
import TorusEngine.Proofs.Action
import TorusEngine.Proofs.Relevance.Executor
import TorusEngine.Proofs.Relevance.Grid
import TorusEngine.Relevance.Scene

/-!
# A scene in use

In a running program several threads use one scene, and the executor works beside them. An operation on
a grid locks the grid until the last of its commands is sent; other threads send theirs in between. A
camera that is dropped leaves its grids one after the other, and its executor last. `Step` has one
constructor for each thing that can happen next.
-/

namespace TorusEngine.Relevance

/-- What happens to a scene at one stroke, whatever else is going on. -/
inductive Scene.Call where
  | addMarker (marker : Marker)
  | moveMarker (id : MarkerId) (position : Vec3 Float)
  | makeCamera (config : RelevanceConfig) (position : Vec3 Float)

def Scene.Call.perform : Scene.Call → Action Scene Unit
  | addMarker marker => (fun _ => ()) <$> Scene.addMarker marker
  | moveMarker id position => Scene.moveMarker id position
  | makeCamera config position => (fun _ => ()) <$> Scene.makeCamera config position

namespace Scene

def notify (scene : Scene) (command : Command) : Scene :=
  { scene with executor := scene.executor.notify command }

def reports (id : GridId) (subscribers : List CameraId) (changes : List Change) : List Command :=
  changes.flatMap fun change => subscribers.map (report id change)

def join (scene : Scene) (camera : CameraId) (id : GridId) (grid : Grid) : Scene :=
  { scene with
    grids := scene.grids.insert id (grid.subscribe camera)
    cameras := scene.cameras.modify camera fun view => { view with grids := view.grids ++ [id] }
    executor := scene.executor.notify (.attach camera id grid.contents) }

def part (scene : Scene) (camera : CameraId) (id : GridId) (grid : Grid) : Scene :=
  if camera ∈ grid.subscribers then
    { scene with
      grids := scene.grids.insert id (grid.unsubscribe camera)
      executor := scene.executor.notify (.detach camera id) }
  else scene

end Scene

/-- A scene, the commands of each grid operation that is under way, and the grids that each camera which
is being dropped has yet to leave. -/
structure BusyScene where
  scene : Scene := {}
  unsent : GridId → List Command := fun _ => []
  leaving : CameraId → Option (List GridId) := fun _ => none

namespace BusyScene

/-- The steps of all threads. Whether a cell size is refused makes no difference to the others, so the
step that makes a grid takes any. -/
inductive Step (busy : BusyScene) : BusyScene → Prop where
  | call (call : Scene.Call) :
      Step busy { busy with scene := Action.after call.perform busy.scene }
  | makeGrid (cellSize : Float) :
      Step busy { busy with scene := { busy.scene with
        grids := busy.scene.grids.insert busy.scene.nextGrid { cellSize }
        nextGrid := busy.scene.nextGrid + 1 } }
  | change {id : GridId} {grid : Grid} (operation : Grid.Operation)
      (found : busy.scene.grids.get? id = some grid) (unlocked : busy.unsent id = []) :
      Step busy { busy with
        scene := { busy.scene with
          grids := busy.scene.grids.insert id (operation.perform grid).1 }
        unsent := Function.update busy.unsent id
          (Scene.reports id (operation.perform grid).1.subscribers (operation.perform grid).2) }
  | send {id : GridId} {command : Command} {rest : List Command}
      (first : busy.unsent id = command :: rest) :
      Step busy { busy with
        scene := busy.scene.notify command
        unsent := Function.update busy.unsent id rest }
  | move {camera : CameraId} (position : Vec3 Float) (stays : busy.leaving camera = none) :
      Step busy { busy with scene := Action.after (Scene.moveCamera camera position) busy.scene }
  | attach {camera : CameraId} {view : Camera} {id : GridId} {grid : Grid}
      (present : busy.scene.cameras.get? camera = some view) (stays : busy.leaving camera = none)
      (found : busy.scene.grids.get? id = some grid) (unlocked : busy.unsent id = [])
      (unseen : id ∉ view.grids) :
      Step busy { busy with scene := busy.scene.join camera id grid }
  | detach {camera : CameraId} {view : Camera} {id : GridId} {grid : Grid}
      (present : busy.scene.cameras.get? camera = some view) (stays : busy.leaving camera = none)
      (found : busy.scene.grids.get? id = some grid) (unlocked : busy.unsent id = [])
      (seen : id ∈ view.grids) :
      Step busy { busy with
        scene := Scene.part { busy.scene with
          cameras := busy.scene.cameras.modify camera fun view =>
            { view with grids := view.grids.erase id } } camera id grid }
  | drop {camera : CameraId} {view : Camera}
      (present : busy.scene.cameras.get? camera = some view) (stays : busy.leaving camera = none) :
      Step busy { busy with leaving := Function.update busy.leaving camera (some view.grids) }
  | leave {camera : CameraId} {id : GridId} {rest : List GridId} {grid : Grid}
      (going : busy.leaving camera = some (id :: rest))
      (found : busy.scene.grids.get? id = some grid) (unlocked : busy.unsent id = []) :
      Step busy { busy with
        scene := busy.scene.part camera id grid
        leaving := Function.update busy.leaving camera (some rest) }
  | gone {camera : CameraId} (going : busy.leaving camera = some []) :
      Step busy { busy with
        scene := Scene.notify { busy.scene with cameras := busy.scene.cameras.erase camera }
          (.drop camera)
        leaving := Function.update busy.leaving camera none }
  | apply {command : Command} {rest : List Command}
      (first : busy.scene.executor.inbox = command :: rest) :
      Step busy { busy with scene := { busy.scene with
        executor := Executor.apply { busy.scene.executor with inbox := rest } command } }

inductive Run (busy : BusyScene) : BusyScene → Prop where
  | refl : Run busy busy
  | step {middle after : BusyScene} (run : Run busy middle) (step : Step middle after) :
      Run busy after

def Reachable (busy : BusyScene) : Prop := Run {} busy

end BusyScene

end TorusEngine.Relevance
