import TorusEngine.Settings.Writing
import TorusEngine.Paging.Window

/-!
# What the program prints
-/

namespace TorusEngine.CommandLine

open Settings (EngineConfig)
open Paging (Hosted PageMapEntry Field)

private def padding (width : Nat) (text : String) : String :=
  String.ofList (List.replicate (width - text.length) ' ')

def alignRight (width : Nat) (text : String) : String := padding width text ++ text

def alignLeft (width : Nat) (text : String) : String := text ++ padding width text

def hexadecimal (n : Nat) : String := "0x" ++ String.ofList (Nat.toDigits 16 n)

def lines (texts : List String) : String := String.join (texts.map (· ++ "\n"))

def components : List (String × String) := [
  ("common", "wrapworld-common v0.1.0"),
  ("mem", "wrapworld-mem v0.1.0"),
  ("stream", "wrapworld-stream v0.1.0"),
  ("render", "wrapworld-render v0.1.0"),
  ("gpu", "wrapworld-gpu v0.1.0")]

def infoText (config : EngineConfig) : String :=
  let geometry := config.relevance.geometry
  let cellSize := Numeral.Style.plain.render geometry.cellSize
  let memory := config.memory
  lines <|
    ["wrapworld-cli v0.1.0"] ++ components.map (fun (name, version) => s!"{name}: {version}") ++
    [s!"world: {geometry.cells} cells of {cellSize} units per edge, arena {memory.maxPages} pages x {memory.pageSize} bytes",
      config.print]

private def fieldLine (field : Field) : String :=
  s!"  {alignRight 6 (toString field.offset)}  {alignLeft 10 field.name} {field.kind.describe}"

private def pageLine (entry : PageMapEntry) : String :=
  let logical := alignRight 4 (toString entry.logical)
  let physical := alignRight 5 (toString entry.physical)
  s!"  logical {logical} -> physical {physical} @ {hexadecimal entry.offset}"

private def recordLines (hosted : Hosted) (records : List Nat) : Except Fault (List String) := do
  match records.head?, records.getLast? with
  | some first, some last =>
      let start := hexadecimal (← hosted.physicalAddress first)
      let stop := hexadecimal (← hosted.physicalAddress last)
      return [s!"record {first} at {start}, record {last} at {stop}"]
  | _, _ => return []

def layoutText (hosted : Hosted) (records : List Nat) : Except Fault String := do
  let window := hosted.window
  let pages ← hosted.sizeInPages
  return lines <|
    [s!"window '{window.name}': {window.objectSize} bytes per record, {window.objectsPerPage} records per page, capacity {window.pool.capacity}"] ++
    window.schema.fields.map fieldLine ++ [s!"pages: {pages}"] ++
    (← hosted.pageMap).map pageLine ++ (← recordLines hosted records)

def usageText : String := lines [
  "CLI for the wrapworld paging and visibility core",
  "",
  "Usage: wrapworld-cli [OPTIONS] <COMMAND>",
  "",
  "Commands: info, simulate, layout, help"]

end TorusEngine.CommandLine
