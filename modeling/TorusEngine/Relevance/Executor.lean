import TorusEngine.Relevance.Grid

/-!
# The relevance executor

One executor keeps the graphs of all cameras. It is told of every change by a command, takes the
commands in the order in which they were submitted, and takes none once it has stopped. The set of a
camera that was dropped can still be read; it is empty, and stays so, because commands for dropped
cameras are passed over.
-/

namespace TorusEngine.Relevance

open Torus (Cell)

inductive Command where
  | register (camera : CameraId) (graph : Graph)
  | drop (camera : CameraId)
  | attach (camera : CameraId) (grid : GridId) (members : List (Cell × MarkerId))
  | detach (camera : CameraId) (grid : GridId)
  | insert (camera : CameraId) (grid : GridId) (cell : Cell) (marker : MarkerId)
  | remove (camera : CameraId) (grid : GridId) (cell : Cell) (marker : MarkerId)
  | recenter (camera : CameraId) (cell : Cell)
  | shutdown

structure Registration where
  graph : Graph
  live : Bool := true

structure Executor where
  running : Bool := true
  inbox : List Command := []
  registrations : Dictionary CameraId Registration := {}

namespace Executor

/-- Submits a command, if there is still someone to take it. -/
def submit (command : Command) : Action Executor Unit := do
  let executor ← get
  if !executor.running then throw (.executor .stopped)
  set { executor with inbox := executor.inbox ++ [command] }

/-- Submits a command without asking whether it is taken. -/
def notify (executor : Executor) (command : Command) : Executor :=
  if executor.running then { executor with inbox := executor.inbox ++ [command] } else executor

def graph? (executor : Executor) (camera : CameraId) : Option Graph := do
  let registration ← executor.registrations.get? camera
  if registration.live then some registration.graph else none

def putGraph (executor : Executor) (camera : CameraId) (graph : Graph) : Executor :=
  { executor with registrations := executor.registrations.insert camera { graph } }

def stop (executor : Executor) : Executor := { executor with running := false, inbox := [] }

/-- Changes the graph of a camera that exists; a change that faults ends the executor. -/
def change (executor : Executor) (camera : CameraId) (change : Graph → Except Fault Graph) :
    Executor :=
  match executor.graph? camera with
  | none => executor
  | some graph => match change graph with
    | .ok changed => executor.putGraph camera changed
    | .error _ => executor.stop

def retire (executor : Executor) (camera : CameraId) : Executor :=
  match executor.graph? camera with
  | none => executor
  | some graph =>
      { executor with
        registrations := executor.registrations.insert camera ⟨graph.clear, false⟩ }

def apply (executor : Executor) (command : Command) : Executor :=
  if !executor.running then executor
  else match command with
    | .register camera graph => executor.putGraph camera graph
    | .drop camera => executor.retire camera
    | .attach camera grid members => executor.change camera fun graph => .ok (graph.attach grid members)
    | .detach camera grid => executor.change camera (·.detach grid)
    | .insert camera grid cell marker =>
        executor.change camera fun graph => .ok (graph.insert grid cell marker)
    | .remove camera grid cell marker => executor.change camera (·.remove grid cell marker)
    | .recenter camera cell => executor.change camera fun graph => do
        return (← graph.recenter cell).2
    | .shutdown => executor.stop

def settle (executor : Executor) : Executor :=
  executor.inbox.foldl apply { executor with inbox := [] }

def published (executor : Executor) (camera : CameraId) : PublishedSet :=
  match executor.registrations.get? camera with
  | some registration => registration.graph.published
  | none => {}

end Executor

end TorusEngine.Relevance
