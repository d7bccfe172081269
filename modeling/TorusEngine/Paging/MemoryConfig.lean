import TorusEngine.Size

/-!
# Memory configuration

The sizes of the arena and of the windows on it, and the delays of deferred frees in milliseconds.
-/

namespace TorusEngine.Paging

def bytesPerVec4 : Nat := 16

def verticesPerBlock : Nat := 96

def standardPageSize : Nat := bytesPerVec4 * verticesPerBlock

structure MemoryConfig where
  pageSize : Nat := standardPageSize
  maxPages : Nat := 16384
  minFreeDelay : Nat := 100
  maxFreeDelay : Nat := 500
  initialCapacity : Nat := 1
deriving DecidableEq, Repr

def MemoryConfig.arenaBytes (config : MemoryConfig) : Except Fault Nat :=
  Size.mul config.pageSize config.maxPages

end TorusEngine.Paging
