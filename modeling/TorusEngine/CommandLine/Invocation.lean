import TorusEngine.CommandLine.Grammar
import TorusEngine.Numeral.Text

/-!
# Invocations

The commands of the program and their arguments. A configuration file may be named before and after
the subcommand; the later place counts.
-/

namespace TorusEngine.CommandLine

inductive WindowKind where
  | matrices
  | objectLists
deriving DecidableEq, Repr

structure SimulateOptions where
  frames : Nat := 240
  objects : Nat := 2000
  /-- Milliseconds between two gameplay ticks. -/
  tickInterval : Nat := 16
  /-- Milliseconds between two frames. -/
  frameInterval : Nat := 4
  speed : Float := 0.25
  workers : Option Nat := none
  device : Bool := false

inductive Command where
  | info
  | simulate (options : SimulateOptions)
  | layout (window : WindowKind) (records : Nat)

structure Invocation where
  config : Option String
  verbose : Bool
  command : Command

namespace Invocation

private def switch (name : String) (letter : Option Char) : OptionRule := ⟨name, letter, none⟩

private def size (name : String) (letter : Option Char) : OptionRule :=
  ⟨name, letter, some fun text => (Numeral.Text.size? text).isSome⟩

private def configFile : OptionRule := ⟨"config", some 'c', some fun path => !path.isEmpty⟩

private def windowKind? : String → Option WindowKind
  | "matrices" => some .matrices
  | "object-lists" => some .objectLists
  | _ => none

def program : CommandRule :=
  { options := [switch "verbose" (some 'v'), configFile]
    positional := none
    subcommands := ["info", "simulate", "layout", "help"] }

def infoRule : CommandRule := { options := [configFile], positional := none, subcommands := [] }

def simulateRule : CommandRule :=
  { options := [size "frames" (some 'f'), size "objects" (some 'o'), size "tick-ms" none,
      size "frame-ms" none, ⟨"speed", none, some fun text => (Numeral.Text.double? text).isSome⟩,
      size "workers" none, switch "gpu" none, configFile]
    positional := none
    subcommands := [] }

def layoutRule : CommandRule :=
  { options := [size "records" (some 'r'), configFile]
    positional := some fun text => (windowKind? text).isSome
    subcommands := [] }

private def sizeOf (parsed : Parsed) (name : String) : Option Nat :=
  (parsed.value? name).bind Numeral.Text.size?

private def simulateOptions (parsed : Parsed) : SimulateOptions :=
  let standard : SimulateOptions := {}
  { frames := (sizeOf parsed "frames").getD standard.frames
    objects := (sizeOf parsed "objects").getD standard.objects
    tickInterval := (sizeOf parsed "tick-ms").getD standard.tickInterval
    frameInterval := (sizeOf parsed "frame-ms").getD standard.frameInterval
    speed := ((parsed.value? "speed").bind Numeral.Text.double?).getD standard.speed
    workers := sizeOf parsed "workers"
    device := parsed.has "gpu" }

private def layoutCommand (parsed : Parsed) : Command :=
  .layout ((parsed.positional.bind windowKind?).getD .matrices) ((sizeOf parsed "records").getD 64)

private def helpAbout : List String → Stop
  | [] => .help
  | [name] => if name ∈ program.subcommands then .help else .misuse
  | _ => .misuse

def ofArguments (arguments : List String) : Except Stop Invocation := do
  let outer ← program.parse arguments
  let finish (rule : CommandRule) (rest : List String) (command : Parsed → Command) :
      Except Stop Invocation := do
    let inner ← rule.parse rest
    return {
      config := inner.value? "config" <|> outer.value? "config"
      verbose := outer.has "verbose"
      command := command inner }
  match outer.subcommand with
  | some ("info", rest) => finish infoRule rest fun _ => .info
  | some ("simulate", rest) => finish simulateRule rest fun parsed => .simulate (simulateOptions parsed)
  | some ("layout", rest) => finish layoutRule rest layoutCommand
  | some (_, rest) => throw (helpAbout rest)
  | none => throw .misuse

end Invocation

end TorusEngine.CommandLine
