import TorusEngine.Settings.EngineConfig
import TorusEngine.Json.Shape
import TorusEngine.Paging.Schema
import TorusEngine.Torus.Cell

/-!
# Reading configurations

The JSON forms of configurations and of the values in them. A configuration may leave fields out,
which then have their standard values; the values inside one have to be complete.
-/

namespace TorusEngine.Settings

open Json (Case Member Problem Reader)
open Paging (Field FieldKind MemoryConfig Schema)
open Relevance (RelevanceConfig)
open Drawing (DrawingConfig)
open Torus (Cell Geometry Norm)

namespace Form

def size : Reader Nat := Reader.sizeBelow Size.limit

def word : Reader Nat := Reader.sizeBelow 0x100000000

def coordinate : Reader Int := Reader.intBetween Cell.sentinel Cell.highest

def field {σ α : Type} (required : Bool) (name : String) (value : Reader α)
    (put : σ → α → σ) : Member σ :=
  { name, required, read := fun record => return put record (← value) }

def given {σ α : Type} : String → Reader α → (σ → α → σ) → Member σ := field false

def needed {σ α : Type} : String → Reader α → (σ → α → σ) → Member σ := field true

def memory : Reader MemoryConfig := Reader.record [
  given "page_size_bytes" size ({ · with pageSize := · }),
  given "max_pages" size ({ · with maxPages := · }),
  given "min_free_delay_ms" size ({ · with minFreeDelay := · }),
  given "max_free_delay_ms" size ({ · with maxFreeDelay := · }),
  given "initial_capacity" size ({ · with initialCapacity := · })] {}

def geometry : Reader (Geometry Float) := Reader.record [
  needed "cell_size" Reader.float ({ · with cellSize := · }),
  needed "world_width_cells" word ({ · with cells := · })] ⟨0, 0⟩

def relevance : Reader RelevanceConfig := Reader.record [
  given "geometry" geometry ({ · with geometry := · }),
  given "relevance_radius_cells" Reader.float ({ · with radius := · })] {}

def drawing : Reader DrawingConfig := Reader.record [
  given "visibility_radius" Reader.float ({ · with visibilityRadius := · }),
  given "worker_threads" size ({ · with workerThreads := · }),
  given "object_list_capacity" size ({ · with listCapacity := · }),
  given "report_interval" word ({ · with reportInterval := · })] {}

def engine : Reader EngineConfig := Reader.record [
  given "memory" memory ({ · with memory := · }),
  given "relevance" relevance ({ · with relevance := · }),
  given "render" drawing ({ · with drawing := · })] {}

def cell : Reader Cell := Reader.record [
  needed "x" coordinate ({ · with x := · }),
  needed "y" coordinate ({ · with y := · }),
  needed "z" coordinate ({ · with z := · })] ⟨0, 0, 0⟩

def norm : Reader Norm := Reader.choice [
  (Norm.taxicab.name, .plain .taxicab),
  (Norm.euclidean.name, .plain .euclidean)]

def plainKind (kind : FieldKind) : String × Case FieldKind := (kind.tag, .plain kind)

def arrayKind (kind : Nat → FieldKind) : String × Case FieldKind :=
  ((kind 0).tag, .carrying do return kind (← size))

def kind : Reader FieldKind := Reader.choice [
  plainKind .byte, plainKind .short, plainKind .int, plainKind .float,
  arrayKind .byteArray, arrayKind .shortArray, arrayKind .intArray, arrayKind .floatArray,
  arrayKind .vec4Array]

def schemaField : Reader Field := Reader.record [
  needed "name" Reader.text ({ · with name := · }),
  needed "kind" kind ({ · with kind := · }),
  needed "offset" size ({ · with offset := · })] ⟨"", .byte, 0⟩

/-- A schema with the offsets and the size that the text gives, whatever they are. -/
def schema : Reader Schema := Reader.record [
  needed "fields" (Reader.list schemaField) ({ · with fields := · }),
  needed "object_size" size ({ · with objectSize := · })] ⟨[], 0⟩

end Form

inductive LoadFailure where
  | unreadable
  | unparsable (why : Problem)
deriving DecidableEq, Repr

def LoadFailure.message (path : String) : LoadFailure → String
  | unreadable => s!"reading {path}"
  | unparsable _ => s!"parsing {path}"

/-- The configuration that a file says; there is no text if the file cannot be read. -/
def EngineConfig.load (text : Option String) : Except LoadFailure EngineConfig :=
  match text with
  | none => .error .unreadable
  | some text => (Form.engine.run text).mapError .unparsable

end TorusEngine.Settings
