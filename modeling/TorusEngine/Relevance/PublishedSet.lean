import TorusEngine.Action
import TorusEngine.Dictionary
import TorusEngine.Relevance.Marker
import TorusEngine.Size

/-!
# Published sets

The markers that are relevant to a camera, each with the number of reasons for which it is there: the
pairs of a grid and a cell that hold it. A marker is published as long as there is a reason, and it
is global as long as one of the reasons is the cell that is visible from everywhere. The version
grows whenever the published markers change.
-/

namespace TorusEngine.Relevance

structure Reasons where
  total : Nat := 0
  global : Nat := 0
deriving DecidableEq, Repr

/-- The markers in reach of a camera. `version` stands for a counter of 64 bits: a run publishes fewer than
`2 ^ 64` changes. -/
structure PublishedSet where
  slots : Dictionary MarkerId Reasons := {}
  version : Nat := 0

namespace Reasons

def add (reasons : Reasons) (global : Bool) : Reasons :=
  ⟨reasons.total + 1, reasons.global + global.toNat⟩

def remove (reasons : Reasons) (global : Bool) : Except Fault Reasons := do
  return ⟨← Size.sub reasons.total 1, ← Size.sub reasons.global global.toNat⟩

end Reasons

namespace PublishedSet

def size (set : PublishedSet) : Nat := set.slots.size

def isEmpty (set : PublishedSet) : Bool := set.slots.isEmpty

def contains (set : PublishedSet) (marker : MarkerId) : Bool := set.slots.contains marker

def members (set : PublishedSet) : List (MarkerId × Bool) :=
  set.slots.entries.map fun (marker, reasons) => (marker, decide (0 < reasons.global))

def describe (set : PublishedSet) : String :=
  s!"RelevantSet \x7b len: {set.size}, version: {set.version} \x7d"

/-- The set with other slots, and with a new version if their number differs. -/
private def publish (set : PublishedSet) (slots : Dictionary MarkerId Reasons) : PublishedSet :=
  { slots, version := if slots.size = set.slots.size then set.version else set.version + 1 }

def addReason (global : Bool) (slots : Dictionary MarkerId Reasons) (marker : MarkerId) :
    Dictionary MarkerId Reasons :=
  slots.insert marker (((slots.get? marker).getD {}).add global)

def removeReason (global : Bool) (slots : Dictionary MarkerId Reasons) (marker : MarkerId) :
    Except Fault (Dictionary MarkerId Reasons) := do
  match slots.get? marker with
  | none => return slots
  | some reasons =>
      let left ← reasons.remove global
      return if left.total = 0 then slots.erase marker else slots.insert marker left

def addMany (set : PublishedSet) (global : Bool) (markers : List MarkerId) : PublishedSet :=
  set.publish (markers.foldl (addReason global) set.slots)

def removeMany (set : PublishedSet) (global : Bool) (markers : List MarkerId) :
    Except Fault PublishedSet := do
  return set.publish (← markers.foldlM (removeReason global) set.slots)

def clear (set : PublishedSet) : PublishedSet := ⟨{}, set.version + 1⟩

end PublishedSet

end TorusEngine.Relevance
