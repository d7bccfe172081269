import TorusEngine.Engine
import TorusEngine.Paging.MatrixTable
import TorusEngine.Simulation.Report

/-!
# Simulations

A simulation scatters objects over the world, each with a marker and a matrix, and lets the camera
fly over them, frame by frame. Between frames the gameplay ticks: every object moves a little, and
one of them is replaced. All objects are removed at the end.
-/

namespace TorusEngine

open Settings (EngineConfig)
open Drawing (Backend DrawCall)
open Paging (MatrixTable Memory Sink)
open Relevance (Marker MarkerId)

namespace Simulation

structure Parameters where
  frames : Nat
  objects : Nat
  /-- Cells that the camera travels from one frame to the next. -/
  speed : Float
  ticksBefore : Nat → Nat

structure Body where
  marker : MarkerId
  matrix : Nat
  objectId : BitVec 32
  velocity : Vec3 Float

end Simulation

structure Simulation where
  engine : Engine
  matrices : MatrixTable
  bodies : Array Simulation.Body := #[]
  report : Simulation.Report := {}
  calls : List DrawCall := []
  uploadedBytes : Nat := 0

namespace Simulation

variable {α : Type}

def make (config : EngineConfig) : Except Fault Simulation := do
  let (matrices, engine) ← Engine.make config (MatrixTable.make config.memory)
  return { engine, matrices }

def onEngine : Action Engine α → Action Simulation α :=
  Action.within (·.engine) fun engine simulation => { simulation with engine }

def geometry (simulation : Simulation) : Torus.Geometry Float :=
  simulation.engine.stage.pipeline.geometry

def pagesInUse (simulation : Simulation) : Except Fault Nat :=
  simulation.engine.stage.memory.arena.pagesInUse

/-! ## Objects -/

private def single (number : Float) : MatrixTable.Entry :=
  BitVec.ofNat _ number.toFloat32.toBits.toNat

/-- The matrix that moves the origin to a position, column by column. -/
def placement (position : Vec3 Float) : List MatrixTable.Entry :=
  [1, 0, 0, 0, 0, 1, 0, 0, 0, 0, 1, 0].map single ++
    [single position.x, single position.y, single position.z, single 1]

private def fraction (number : Float) : Float := number - number.floor

def wrap (number width : Float) : Float :=
  let rest := Numeral.Binary64.remainder number width
  if rest < 0 then rest + width.abs else rest

/-- Where an object starts: the numbers of the objects scatter evenly over the world. -/
def startOf (geometry : Torus.Geometry Float) (number : Float) : Vec3 Float :=
  let width := geometry.width
  ⟨fraction (number * 0.618034) * width, 0, fraction (number * 0.754878) * width⟩

def velocityOf (geometry : Torus.Geometry Float) (number : Float) : Vec3 Float :=
  let angle := number * 2.399963
  ⟨angle.cos * geometry.cellSize * 0.01, 0 * geometry.cellSize * 0.01,
    angle.sin * geometry.cellSize * 0.01⟩

def spawn (objectId : BitVec 32) : Action Simulation Body := do
  let simulation ← get
  let number := Float.ofNat objectId.toNat
  let position := startOf simulation.geometry number
  let velocity := velocityOf simulation.geometry number
  let matrix ← onEngine (Engine.onMemory simulation.matrices.create)
  onEngine (Engine.onMemory (simulation.matrices.set matrix (placement position)))
  let marker ← onEngine (Engine.addMarker { objectId, position })
  return { marker, matrix, objectId, velocity }

def despawn (body : Body) : Action Simulation Unit := do
  let window := (← get).matrices.window
  let _ ← onEngine (Engine.removeMarker body.marker)
  onEngine (Engine.onMemory (Memory.freeLater window [body.matrix]))
  modify fun simulation =>
    let stage := simulation.engine.stage
    { simulation with engine := { simulation.engine with
      stage := { stage with memory := stage.memory.settle } } }

private def moveBody (body : Body) : Action Simulation Unit := do
  let simulation ← get
  let width := simulation.geometry.width
  let old := (← simulation.engine.scene.marker body.marker).position
  let position : Vec3 Float := ⟨wrap (old.x + body.velocity.x) width, old.y + body.velocity.y,
    wrap (old.z + body.velocity.z) width⟩
  let _ ← onEngine (Engine.moveMarker body.marker position)
  onEngine (Engine.onMemory (simulation.matrices.set body.matrix (placement position)))

def tick : Action Simulation Unit := do
  let bodies := (← get).bodies
  for body in bodies do
    moveBody body
  let slot := (← get).report.ticks % bodies.size
  if let some old := bodies[slot]? then
    despawn old
    let fresh ← spawn old.objectId
    modify fun simulation => { simulation with bodies := simulation.bodies.setIfInBounds slot fresh }
  modify fun simulation =>
    { simulation with report := { simulation.report with ticks := simulation.report.ticks + 1 } }

/-! ## Frames -/

def observerAt (geometry : Torus.Geometry Float) (speed : Float) (frame : Nat) : Vec3 Float :=
  let width := geometry.width
  ⟨wrap (Float.ofNat frame * (speed * geometry.cellSize)) width, 0, width / 2⟩

def frame (speed : Float) (backend : Backend) (sink : Sink) (number : Nat) :
    Action Simulation Unit := do
  let observer := observerAt (← get).geometry speed number
  let _ ← onEngine (Engine.observe observer)
  modify fun simulation => { simulation with engine := simulation.engine.settle }
  let drawn ← onEngine (Engine.frame observer backend sink)
  modify fun simulation =>
    let report := simulation.report
    { simulation with
      engine := simulation.engine.work simulation.engine.positions
      calls := simulation.calls ++ drawn.call.toList
      uploadedBytes := drawn.flush.uploads.foldl (· + ·.bytes.length) simulation.uploadedBytes
      report := { report with
        frames := report.frames + 1
        swaps := report.swaps + drawn.swapped.toNat
        lastVisible := drawn.visible
        maxVisible := max report.maxVisible drawn.visible
        pagesUploaded := report.pagesUploaded + drawn.flush.uploads.length
        pagesFailed := report.pagesFailed + drawn.flush.failures.length } }

private def populate (objects : Nat) : Action Simulation Unit := do
  for number in List.range objects do
    let body ← spawn (BitVec.ofNat 32 number)
    modify fun simulation => { simulation with bodies := simulation.bodies.push body }
  let _ ← onEngine (Engine.addGlobal { objectId := BitVec.allOnes 32, position := ⟨0, 0, 0⟩ })
  modify fun simulation => { simulation with engine := simulation.engine.settle }

private def clear : Action Simulation Unit := do
  for body in (← get).bodies do
    despawn body
  modify fun simulation => { simulation with engine := simulation.engine.settle }

def run (parameters : Parameters) (backend : Backend) (sink : Sink) : Action Simulation Report := do
  populate parameters.objects
  for number in List.range parameters.frames do
    for _ in List.range (parameters.ticksBefore number) do
      tick
    frame parameters.speed backend sink number
  clear
  let simulation ← get
  let stats := simulation.engine.stage.memory.service.stats
  return { simulation.report with
    rebuilds := simulation.engine.stage.pipeline.rebuilds
    relevant := simulation.engine.published.size
    pagesInUse := ← simulation.pagesInUse
    batches := stats.batches
    indices := stats.indices }

end Simulation

end TorusEngine
