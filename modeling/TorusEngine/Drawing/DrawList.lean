import TorusEngine.Drawing.DrawCall
import TorusEngine.Numeral.Binary64
import TorusEngine.Paging.ObjectListTable
import TorusEngine.Relevance.Marker

/-!
# Draw lists

A draw list collects objects with their distances and has a record in an object list table. Sending
stores the object numbers in the record, as many as fit; a list that was not changed since is not
stored again. Rendering draws what was sent.
-/

namespace TorusEngine.Drawing

open Paging
open Relevance (MarkerId)

/-- An object on a draw list. The distance is kept as its bit pattern, which orders every value. -/
structure Entry where
  marker : MarkerId
  objectId : BitVec 32
  distance : UInt64
deriving DecidableEq, Repr

def Entry.precedes (a b : Entry) : Bool :=
  let (near, far) := (Numeral.Binary64.rank a.distance, Numeral.Binary64.rank b.distance)
  near < far || (near == far && a.objectId.toNat ≤ b.objectId.toNat)

structure DrawList where
  table : ObjectListTable
  record : Nat
  entries : List Entry := []
  sent : Nat := 0
  dirty : Bool := false

namespace DrawList

def make (table : ObjectListTable) : Action Memory DrawList := do
  return { table, record := ← table.tryCreate }

def contains (list : DrawList) (marker : MarkerId) : Bool := list.entries.any (·.marker = marker)

def reset (list : DrawList) : DrawList := { list with entries := [], sent := 0, dirty := true }

def push (list : DrawList) (entry : Entry) : DrawList :=
  { list with entries := list.entries ++ [entry], dirty := true }

def sort (list : DrawList) : DrawList :=
  { list with entries := list.entries.mergeSort Entry.precedes, dirty := true }

/-- Stores the list if it was changed, and answers how many objects are stored. -/
def send (list : DrawList) : Action Memory (Nat × DrawList) := do
  if !list.dirty then return (list.sent, list)
  let sent ← list.table.write list.record (list.entries.map (·.objectId))
  return (sent, { list with sent, dirty := false })

def sentIds (list : DrawList) (memory : Memory) : Except Fault (List ObjectListTable.ObjectId) :=
  list.table.read list.record memory

def physicalAddress (list : DrawList) (memory : Memory) : Except Fault Nat :=
  list.table.physicalAddress list.record memory

def call? (list : DrawList) (memory : Memory) : Except Fault (Option DrawCall) := do
  if list.sent = 0 then return none
  return some ⟨← list.physicalAddress memory, list.sent⟩

def render (list : DrawList) (backend : Backend) (memory : Memory) : Except Fault (Option DrawCall) := do
  let call ← list.call? memory
  if let some call := call then call.submit backend
  return call

def release (list : DrawList) : Action Memory Unit := list.table.freeLater list.record

end DrawList

end TorusEngine.Drawing
