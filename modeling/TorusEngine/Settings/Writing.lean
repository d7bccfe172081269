import TorusEngine.Settings.Reading
import TorusEngine.Json.Printer

/-!
# Writing configurations

A configuration is written with all its fields, in the order in which an array would list them.
-/

namespace TorusEngine.Settings

open Json (Document)

def memoryDocument (config : Paging.MemoryConfig) : Document := .object [
  ("page_size_bytes", .natural config.pageSize),
  ("max_pages", .natural config.maxPages),
  ("min_free_delay_ms", .natural config.minFreeDelay),
  ("max_free_delay_ms", .natural config.maxFreeDelay),
  ("initial_capacity", .natural config.initialCapacity)]

def geometryDocument (geometry : Torus.Geometry Float) : Document := .object [
  ("cell_size", .real geometry.cellSize),
  ("world_width_cells", .natural geometry.cells)]

def relevanceDocument (config : Relevance.RelevanceConfig) : Document := .object [
  ("geometry", geometryDocument config.geometry),
  ("relevance_radius_cells", .real config.radius)]

def drawingDocument (config : Drawing.DrawingConfig) : Document := .object [
  ("visibility_radius", .real config.visibilityRadius),
  ("worker_threads", .natural config.workerThreads),
  ("object_list_capacity", .natural config.listCapacity),
  ("report_interval", .natural config.reportInterval)]

def EngineConfig.document (config : EngineConfig) : Document := .object [
  ("memory", memoryDocument config.memory),
  ("relevance", relevanceDocument config.relevance),
  ("render", drawingDocument config.drawing)]

def EngineConfig.print (config : EngineConfig) : String := config.document.pretty

def EngineConfig.roundTrips (config : EngineConfig) : Bool :=
  match EngineConfig.load (some config.print) with
  | .ok back => back == config
  | .error _ => false

end TorusEngine.Settings
