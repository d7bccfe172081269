import TorusEngine.Dictionary
import TorusEngine.Paging.ByteStore
import TorusEngine.Paging.IndexPool
import TorusEngine.Paging.MemoryConfig
import TorusEngine.Quoted

/-!
# The page arena

One arena owns a block of bytes cut into pages of equal size, of which at most `maxPages` exist. A
buffer is a byte array stitched together from pages of the arena: its table lists physical pages in
logical order, together with a mark for each page that was written since it was last flushed. Pages
are handed out by an index pool and go back to it when a buffer shrinks or is dropped.

Bytes are put and read page by page at logical addresses. Where the table ends in the middle of a
put, the bytes before the end have been written and their pages marked; that is the state which
remains after the fault.

A flush hands the marked pages to a sink, in the order in which the buffers were made and, within a
buffer, in logical order. Every mark is cleared, whether or not the sink takes the page.
-/

namespace TorusEngine.Paging

structure PageEntry where
  physical : Nat
  stale : Bool := false
deriving DecidableEq, Repr

structure Buffer where
  name : String
  table : Array PageEntry

abbrev BufferId := Nat

structure Arena where
  pageSize : Nat
  maxPages : Nat
  pool : IndexPool
  store : ByteStore := {}
  buffers : Dictionary BufferId Buffer := {}
  nextBuffer : BufferId := 0

/-- What a sink says about a physical page: the reason why it does not take the page, if any. -/
abbrev Sink := Nat → Option String

structure Upload where
  page : Nat
  offset : Nat
  bytes : List UInt8
deriving DecidableEq, Repr

structure FlushReport where
  visited : Nat := 0
  uploads : List Upload := []
  failures : List UploadFailure := []

namespace Buffer

def pages (buffer : Buffer) : List Nat := buffer.table.toList.map (·.physical)

def staleCount (buffer : Buffer) : Nat := buffer.table.toList.countP (·.stale)

def entry (buffer : Buffer) (page : Nat) : Except Fault PageEntry :=
  match buffer.table[page]? with
  | some entry => .ok entry
  | none => .error (.outOfBounds buffer.table.size page)

def setStale (buffer : Buffer) (page : Nat) (stale : Bool) : Buffer :=
  { buffer with table := buffer.table.modify page fun entry => { entry with stale } }

def append (buffer : Buffer) (pages : List Nat) : Buffer :=
  { buffer with table := pages.foldl (fun table physical => table.push { physical }) buffer.table }

def describe (buffer : Buffer) : String :=
  s!"PagedByteBuffer \x7b name: {Quoted.quote buffer.name}, pages: {buffer.pages} \x7d"

end Buffer

namespace Arena

/-! ## Pages -/

/-- The growth rule of the page pool: doubling, up to all pages that exist. -/
def pageGrowth (maxPages : Nat) : Growth := fun capacity =>
  .ok (min (Size.saturate (capacity * 2)) maxPages)

def make (config : MemoryConfig) : Except Fault Arena := do
  if config.pageSize = 0 then throw (.refused .zeroPageSize)
  let bytes ← config.arenaBytes
  Size.checkMemory bytes
  return {
    pageSize := config.pageSize
    maxPages := config.maxPages
    pool := .withCapacity (min config.maxPages 1) (pageGrowth config.maxPages) }

def pagesInUse (arena : Arena) : Except Fault Nat := arena.pool.outstandingCount

/-- The pages that hold `bytes` bytes; a buffer has at least one. -/
def pagesFor (arena : Arena) (bytes : Nat) : Except Fault Nat := do
  return max (← Size.ceilDiv bytes arena.pageSize) 1

def describe (arena : Arena) : Except Fault String := do
  let used ← arena.pagesInUse
  return s!"PageArena \x7b page_size: {arena.pageSize}, max_pages: {arena.maxPages}, pages_in_use: {used} \x7d"

def onPool {α : Type} : Action IndexPool α → Action Arena α :=
  Action.within (·.pool) fun pool arena => { arena with pool }

def takePages (count : Nat) : Action Arena (List Nat) := do
  let arena ← get
  let used ← arena.pagesInUse
  let requested ← Size.add used count
  if arena.maxPages < requested then throw (.refused (.arenaExhausted requested arena.maxPages))
  onPool (IndexPool.popMany count)

/-! ## Buffers -/

def buffer (arena : Arena) (id : BufferId) : Except Fault Buffer :=
  match arena.buffers.get? id with
  | some buffer => .ok buffer
  | none => .error .unknownName

def changeBuffer (id : BufferId) (change : Buffer → Buffer) : Action Arena Unit :=
  modify fun arena => { arena with buffers := arena.buffers.modify id change }

def sizeInPages (arena : Arena) (id : BufferId) : Except Fault Nat := do
  return (← arena.buffer id).table.size

def sizeInBytes (arena : Arena) (id : BufferId) : Except Fault Nat := do
  Size.mul (← arena.sizeInPages id) arena.pageSize

def createBuffer (name : String) (bytes : Nat) : Action Arena BufferId := do
  let arena ← get
  let pages ← takePages (← arena.pagesFor bytes)
  modifyGet fun arena =>
    (arena.nextBuffer, { arena with
      buffers := arena.buffers.insert arena.nextBuffer (Buffer.append ⟨name, #[]⟩ pages)
      nextBuffer := arena.nextBuffer + 1 })

/-- Sets the number of pages of a buffer to what `bytes` bytes need. New pages come last, and the
last pages go first. -/
def resize (id : BufferId) (bytes : Nat) : Action Arena Unit := do
  let arena ← get
  let wanted ← arena.pagesFor bytes
  let current ← arena.sizeInPages id
  if current < wanted then do
    let pages ← takePages (wanted - current)
    changeBuffer id (·.append pages)
  else if wanted < current then do
    let released := (← arena.buffer id).pages.drop wanted
    changeBuffer id fun buffer => { buffer with table := buffer.table.take wanted }
    onPool (IndexPool.giveBackMany released)

def dropBuffer (id : BufferId) : Action Arena Unit := do
  let buffer ← (← get).buffer id
  modify fun arena => { arena with buffers := arena.buffers.erase id }
  onPool (IndexPool.giveBackMany buffer.pages)

/-! ## Bytes -/

def locate (arena : Arena) (buffer : Buffer) (address : Nat) : Except Fault Nat := do
  if arena.pageSize = 0 then throw .divisionByZero
  let entry ← buffer.entry (address / arena.pageSize)
  let base ← Size.mul entry.physical arena.pageSize
  Size.add base (address % arena.pageSize)

def checkRange (arena : Arena) (offset length : Nat) : Except Fault Unit := do
  let stop ← Size.add offset length
  if arena.pageSize * arena.maxPages < stop then throw .badRange

def room (arena : Arena) (address : Nat) : Nat := arena.pageSize - address % arena.pageSize

def putOnPage (id : BufferId) (address : Nat) (data : List UInt8) : Action Arena Unit := do
  let arena ← get
  let offset ← arena.locate (← arena.buffer id) address
  arena.checkRange offset data.length
  modify fun arena => { arena with
    store := arena.store.write offset data
    buffers := arena.buffers.modify id (·.setStale (address / arena.pageSize) true) }

/-- Stores bytes at a logical address, page by page, up to the first page that the buffer lacks. -/
def put (id : BufferId) (address : Nat) (data : List UInt8) : Action Arena Unit := do
  if _nonempty : data = [] then return
  else
    let arena ← get
    if _sized : arena.pageSize = 0 then throw .divisionByZero
    else
      let room := arena.room address
      putOnPage id address (data.take room)
      let next ← Size.add address (min data.length room)
      put id next (data.drop room)
termination_by data.length
decreasing_by
  have := Nat.mod_lt address (Nat.pos_of_ne_zero _sized)
  have := List.length_pos_iff.mpr _nonempty
  simp only [List.length_drop, Arena.room]
  omega

def readFrom (arena : Arena) (buffer : Buffer) (address length : Nat) :
    Except Fault (List UInt8) := do
  if _nonempty : length = 0 then return []
  else if _sized : arena.pageSize = 0 then throw .divisionByZero
  else
    let count := min length (arena.room address)
    let offset ← arena.locate buffer address
    arena.checkRange offset count
    let next ← Size.add address count
    let rest ← readFrom arena buffer next (length - count)
    return arena.store.read offset count ++ rest
termination_by length
decreasing_by
  have := Nat.mod_lt address (Nat.pos_of_ne_zero _sized)
  have := Nat.pos_of_ne_zero _nonempty
  simp only [Arena.room]
  omega

def read (arena : Arena) (id : BufferId) (address length : Nat) : Except Fault (List UInt8) := do
  arena.readFrom (← arena.buffer id) address length

def toPhysical (arena : Arena) (id : BufferId) (address : Nat) : Except Fault Nat := do
  arena.locate (← arena.buffer id) address

def pageToPhysical (arena : Arena) (id : BufferId) (page : Nat) : Except Fault Nat := do
  return (← (← arena.buffer id).entry page).physical

def markStale (id : BufferId) (address : Nat) : Action Arena Unit := do
  let arena ← get
  if arena.pageSize = 0 then throw .divisionByZero
  let _ ← (← arena.buffer id).entry (address / arena.pageSize)
  changeBuffer id (·.setStale (address / arena.pageSize) true)

/-! ## Flushing -/

def upload (arena : Arena) (page : Nat) : Except Fault Upload := do
  let offset ← Size.mul page arena.pageSize
  arena.checkRange offset arena.pageSize
  return ⟨page, offset, arena.store.read offset arena.pageSize⟩

def flushPage (sink : Sink) (id : BufferId) (report : FlushReport) (page : Nat) :
    Action Arena FlushReport := do
  let arena ← get
  let entry ← (← arena.buffer id).entry page
  if !entry.stale then return report
  changeBuffer id (·.setStale page false)
  let upload ← arena.upload entry.physical
  match sink entry.physical with
  | none => return { report with uploads := report.uploads ++ [upload] }
  | some reason =>
      return { report with failures := report.failures ++ [⟨entry.physical, reason⟩] }

def flushBuffer (sink : Sink) (report : FlushReport) (id : BufferId) : Action Arena FlushReport := do
  let count ← (← get).sizeInPages id
  (List.range count).foldlM (flushPage sink id) { report with visited := report.visited + 1 }

def flush (sink : Sink) : Action Arena FlushReport := do
  (← get).buffers.keys.foldlM (flushBuffer sink) {}

end Arena

end TorusEngine.Paging
