import TorusEngine.CommandLine.Invocation
import TorusEngine.CommandLine.Text
import TorusEngine.Paging.ObjectListTable
import TorusEngine.Simulation.Run

/-!
# The program

The outcome of a command line: an exit code, what was printed, and a complaint if something went
wrong. A planned fault ends the program with code 1, a broken contract with 101, and arguments that
make no command with 2. What was printed before stays.
-/

namespace TorusEngine.CommandLine

open Settings (EngineConfig LoadFailure)
open Paging (Hosted MatrixTable Memory ObjectListTable WindowId)

structure Outcome where
  code : Nat
  output : String
  complaint : Option String := none
deriving DecidableEq, Repr

namespace Outcome

def success (output : String) : Outcome := ⟨0, output, none⟩

def ofFault (output : String) (fault : Fault) : Outcome :=
  if fault.isPlanned then ⟨1, output, some s!"Error: {fault.message}"⟩
  else ⟨101, output, some fault.message⟩

def ofStop : Stop → Outcome
  | .misuse => ⟨2, "", some usageText⟩
  | .help => success usageText

def ofLoadFailure (path : String) (failure : LoadFailure) : Outcome :=
  ⟨1, "", some s!"Error: {failure.message path}"⟩

end Outcome

private def layoutWindow (config : EngineConfig) : WindowKind → Action Memory WindowId
  | .matrices => do return (← MatrixTable.make config.memory).window
  | .objectLists => do
      return (← ObjectListTable.make config.drawing.listCapacity config.memory).window

private def layoutAction (config : EngineConfig) (window : WindowKind) (records : Nat) :
    Action Memory String := do
  let id ← layoutWindow config window
  let made ← Memory.onWindow id (Hosted.tryCreateMany records)
  layoutText (← (← get).hosted id) made

def layout (config : EngineConfig) (window : WindowKind) (records : Nat) : Except Fault String := do
  ((layoutAction config window records).outcome (← Memory.make config.memory)).1

/-- The ticks that fall between a frame and the one before it. -/
def ticksBefore (options : SimulateOptions) (frame : Nat) : Nat :=
  let interval := max options.tickInterval 1
  let ticks := fun frame => frame * options.frameInterval / interval
  if frame = 0 then 1 else ticks frame - ticks (frame - 1)

def simulate (config : EngineConfig) (options : SimulateOptions) : Except Fault String := do
  let drawing := { config.drawing with
    workerThreads := options.workers.getD config.drawing.workerThreads }
  let simulation ← Simulation.make { config with drawing }
  if options.device then throw (.device .noAdapter)
  let parameters : Simulation.Parameters :=
    { frames := options.frames, objects := options.objects, speed := options.speed
      ticksBefore := ticksBefore options }
  match (Simulation.run parameters Drawing.acceptAll fun _ => none).outcome simulation with
  | (.error fault, _) => throw fault
  | (.ok report, after) =>
      let recording : Drawing.Recording := ⟨after.calls⟩
      return lines [s!"backend: {← recording.summary}",
        s!"uploaded: {report.pagesUploaded} pages, {after.uploadedBytes} bytes", report.render]

def perform (config : EngineConfig) : Command → Outcome
  | .info => .success (infoText config)
  | .layout window records => match layout config window records with
      | .ok text => .success text
      | .error fault => .ofFault "" fault
  | .simulate options =>
      let announced := lines [s!"Simulating {options.objects} objects for {options.frames} frames"]
      match simulate config options with
      | .ok text => .success (announced ++ text)
      | .error fault => .ofFault announced fault

/-- Runs the program; `files` gives the texts of the files that can be read. -/
def run (arguments : List String) (files : String → Option String) : Outcome :=
  match Invocation.ofArguments arguments with
  | .error stop => .ofStop stop
  | .ok invocation => match invocation.config with
    | none => perform {} invocation.command
    | some path => match EngineConfig.load (files path) with
      | .ok config => perform config invocation.command
      | .error failure => .ofLoadFailure path failure

def configPath? (arguments : List String) : Option String :=
  match Invocation.ofArguments arguments with
  | .ok invocation => invocation.config
  | .error _ => none

end TorusEngine.CommandLine
