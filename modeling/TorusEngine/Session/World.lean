import TorusEngine.Engine
import TorusEngine.Session.DrawLists

/-!
# Worlds

A world is an engine whose rebuilds can be held and made to fail. A pending rebuild runs at the next
opportunity: at once, or, while the gate is closed and positions have to be read, when the gate
opens. A rebuild that reads the position of an unreadable marker fails. Accepted draw calls are
recorded.
-/

namespace TorusEngine.Session

open TorusEngine.Drawing
open Settings (EngineConfig)
open Paging (Sink)
open Relevance (Marker MarkerId)
open Torus (Cell)

structure World where
  engine : Engine
  recording : Recording := {}
  gateClosed : Bool := false
  unreadable : List MarkerId := []

namespace World

variable {α : Type}

def make (config : EngineConfig) : Except Fault World := do
  return { engine := (← Engine.make config (pure ())).2 }

def onEngine : Action Engine α → Action World α :=
  Action.within (·.engine) fun engine world => { world with engine }

def positions (world : World) : Positions := fun marker =>
  if marker ∈ world.unreadable then none else world.engine.positions marker

def isHeld (world : World) : Bool :=
  match world.engine.stage.pipeline.pending with
  | some rebuild => world.gateClosed && rebuild.readsPositions
  | none => false

/-- Lets the executor catch up and the pending rebuild run, unless it is held. -/
def settle (world : World) : World :=
  let rested := { world with engine := world.engine.settle }
  if rested.isHeld then rested
  else { rested with engine := rested.engine.work rested.positions }

def addMarker (marker : Marker) (global : Bool) : Action World (Option Cell) := do
  let id ← onEngine (if global then Engine.addGlobal marker else Engine.addMarker marker)
  (← get).engine.cellOf? id

def frame (observer : Vec3 Float) (backend : Backend) (sink : Sink) : Action World FrameReport := do
  let report ← onEngine (Engine.frame observer backend sink)
  if let some call := report.call then
    modify fun world => { world with recording := world.recording.add call }
  return report

def setGate (closed : Bool) (world : World) : World := { world with gateClosed := closed }

def setUnreadable (marker : MarkerId) (unreadable : Bool) : Action World Unit := do
  let _ ← (← get).engine.scene.marker marker
  modify fun world =>
    let others := world.unreadable.filter (· ≠ marker)
    { world with unreadable := if unreadable then marker :: others else others }

def frontView (world : World) : Except Fault ListView :=
  ListView.ofList world.engine.stage.pipeline.lists.front world.engine.stage.memory

end World

end TorusEngine.Session
