import TorusEngine.Drawing.DrawingConfig
import TorusEngine.Drawing.ListPair
import TorusEngine.Drawing.Rebuild

/-!
# The drawing pipeline

Each frame swaps the lists if a rebuild was finished, requests the next rebuild, sends the front
list, flushes the arena, and draws. A frame whose draw call is rejected has done all that, but is not
counted. At most one rebuild is pending; `work` runs it.

A pipeline is worked on together with the memory that stores its lists; the two are a `Stage`.
-/

namespace TorusEngine.Drawing

open Paging

structure Pipeline where
  config : DrawingConfig
  geometry : Torus.Geometry Float
  lists : ListPair
  pending : Option Rebuild := none
  rebuilds : Nat := 0
  frames : Nat := 0

structure Stage where
  pipeline : Pipeline
  memory : Memory

structure FrameReport where
  frame : Nat
  swapped : Bool
  rebuildStarted : Bool
  visible : Nat
  sent : Nat
  flush : FlushReport
  call : Option DrawCall

namespace Pipeline

variable {α : Type}

def make (config : DrawingConfig) (geometry : Torus.Geometry Float) (memory : MemoryConfig) :
    Action Memory Pipeline := do
  let table ← ObjectListTable.make config.listCapacity memory
  let first ← DrawList.make table
  let second ← DrawList.make table
  return { config, geometry, lists := { first, second } }

def onLists : Action ListPair α → Action Pipeline α :=
  Action.within (·.lists) fun lists pipeline => { pipeline with lists }

def request (rebuild : Rebuild) : Action Pipeline Bool := do
  let begun ← onLists ListPair.begin
  if begun then modify ({ · with pending := some rebuild })
  return begun

/-- Runs the pending rebuild to its end. One that fails is abandoned and not counted. -/
def work (positions : Positions) (pipeline : Pipeline) : Pipeline :=
  match pipeline.pending with
  | none => pipeline
  | some rebuild =>
      let lists := pipeline.lists
      let back := lists.frontSide.other
      match rebuild.run pipeline.geometry pipeline.config.visibilityRadius positions (lists.list back) with
      | .error unfinished =>
          { pipeline with pending := none, lists := (lists.put back unfinished).abandon }
      | .ok built =>
          { pipeline with
            pending := none
            lists := (ListPair.finish.outcome (lists.put back built)).2
            rebuilds := pipeline.rebuilds + 1 }

end Pipeline

namespace Stage

variable {α : Type}

def onPipeline : Action Pipeline α → Action Stage α :=
  Action.within (·.pipeline) fun pipeline stage => { stage with pipeline }

def onMemory : Action Memory α → Action Stage α :=
  Action.within (·.memory) fun memory stage => { stage with memory }

def sendFront : Action Stage Nat := do
  let (sent, list) ← onMemory (← get).pipeline.lists.front.send
  modify fun stage => { stage with
    pipeline := { stage.pipeline with lists := stage.pipeline.lists.putFront list } }
  return sent

def renderFront (backend : Backend) : Action Stage (Option DrawCall) :=
  Action.inspect fun stage => stage.pipeline.lists.front.render backend stage.memory

def frame (backend : Backend) (sink : Sink) (rebuild : Rebuild) : Action Stage FrameReport := do
  let swapped ← onPipeline (Pipeline.onLists ListPair.trySwap)
  let rebuildStarted ← onPipeline (Pipeline.request rebuild)
  let sent ← sendFront
  let flush ← onMemory (Memory.onArena (Arena.flush sink))
  let call ← renderFront backend
  modify fun stage =>
    { stage with pipeline := { stage.pipeline with frames := stage.pipeline.frames + 1 } }
  let pipeline := (← get).pipeline
  let visible := pipeline.lists.front.entries.length
  return { frame := pipeline.frames, swapped, rebuildStarted, visible, sent, flush, call }

end Stage

end TorusEngine.Drawing
