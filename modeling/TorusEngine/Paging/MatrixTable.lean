import TorusEngine.Paging.Memory

/-!
# Matrix tables

A matrix table is a window whose records are 4 × 4 matrices of floats, stored column by column.
-/

namespace TorusEngine.Paging

structure MatrixTable where
  window : WindowId
  matrix : Variable
deriving DecidableEq, Repr

namespace MatrixTable

abbrev Entry := ElementType.float.Word

def make (config : MemoryConfig) : Action Memory MatrixTable := do
  let schema ← Schema.build [("matrix", .floatArray 16)]
  let window ← Memory.makeWindow "matrices" schema config
  match (← (← get).window window).fieldVariable? "matrix" with
  | some matrix => return { window, matrix }
  | none => throw .unknownField

def create (table : MatrixTable) : Action Memory Nat := Memory.onWindow table.window Hosted.create

def set (table : MatrixTable) (index : Nat) (columns : List Entry) : Action Memory Unit :=
  Memory.onArena (table.matrix.setSlice .float index columns)

def transpose (rows : List Entry) : List Entry :=
  (List.range 4).flatMap fun column => (List.range 4).map fun row => rows.getD (row * 4 + column) 0

def setTransposed (table : MatrixTable) (index : Nat) (rows : List Entry) : Action Memory Unit :=
  table.set index (transpose rows)

def get (table : MatrixTable) (index : Nat) (memory : Memory) : Except Fault (List Entry) :=
  table.matrix.getSlice .float index memory.arena

end MatrixTable

end TorusEngine.Paging
