import TorusEngine.Drawing.DrawingConfig
import TorusEngine.Paging.MemoryConfig
import TorusEngine.Relevance.RelevanceConfig

/-!
# The configuration of an engine

One configuration for memory, relevance and drawing. Two configurations are equal if their numbers
are; zero has one value here, whatever its sign.
-/

namespace TorusEngine.Settings

structure EngineConfig where
  memory : Paging.MemoryConfig := {}
  relevance : Relevance.RelevanceConfig := {}
  drawing : Drawing.DrawingConfig := {}
deriving BEq

end TorusEngine.Settings
