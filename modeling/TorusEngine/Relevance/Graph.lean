import TorusEngine.Relevance.PublishedSet
import TorusEngine.Relevance.Test

/-!
# Relevance graphs

A graph keeps the markers of the attached grids in pairs of a grid and a cell. A pair is relevant if
its cell is relevant to the center, and the members of the relevant pairs are published. The graph is
kept up to date change by change: a pair decides its relevance when it is made, and again when the
center moves; only the pairs whose relevance flips then touch the published set.
-/

namespace TorusEngine.Relevance

open Torus (Cell)

abbrev GridId := Nat

structure Pair where
  members : List MarkerId := []
  relevant : Bool
deriving DecidableEq, Repr

structure Graph where
  center : Cell
  radius : Float
  width : Float
  pairs : Dictionary (GridId × Cell) Pair := {}
  published : PublishedSet := {}

namespace Graph

def isRelevant (graph : Graph) (cell : Cell) : Bool :=
  Relevance.isRelevant graph.center cell graph.radius graph.width

def pairCount (graph : Graph) : Nat := graph.pairs.size

def relevantPairCount (graph : Graph) : Nat := graph.pairs.values.countP (·.relevant)

def withdraw (set : PublishedSet) (entry : (GridId × Cell) × Pair) : Except Fault PublishedSet :=
  if entry.2.relevant then set.removeMany entry.1.2.isEverywhere entry.2.members else .ok set

def insert (grid : GridId) (cell : Cell) (marker : MarkerId) (graph : Graph) : Graph :=
  let pair := (graph.pairs.get? (grid, cell)).getD ⟨[], graph.isRelevant cell⟩
  if marker ∈ pair.members then graph
  else { graph with
    pairs := graph.pairs.insert (grid, cell) { pair with members := pair.members ++ [marker] }
    published :=
      if pair.relevant then graph.published.addMany cell.isEverywhere [marker] else graph.published }

def remove (grid : GridId) (cell : Cell) (marker : MarkerId) (graph : Graph) : Except Fault Graph :=
  match graph.pairs.get? (grid, cell) with
  | none => .ok graph
  | some pair =>
      if marker ∈ pair.members then do
        let published ← withdraw graph.published ((grid, cell), { pair with members := [marker] })
        let left := pair.members.erase marker
        return { graph with
          published
          pairs := if left.isEmpty then graph.pairs.erase (grid, cell)
            else graph.pairs.insert (grid, cell) { pair with members := left } }
      else .ok graph

def attach (grid : GridId) (members : List (Cell × MarkerId)) (graph : Graph) : Graph :=
  members.foldl (fun graph (cell, marker) => graph.insert grid cell marker) graph

def detach (grid : GridId) (graph : Graph) : Except Fault Graph := do
  let gone := graph.pairs.entries.filter (·.1.1 = grid)
  return { graph with
    published := ← gone.foldlM withdraw graph.published
    pairs := graph.pairs.filterKeys (·.1 ≠ grid) }

/-- Publishes a pair that became relevant, or withdraws one that is so no more. The cell visible from
everywhere is always relevant, so its pairs never flip. -/
private def flip (set : PublishedSet) (pair : Pair) : Except Fault PublishedSet :=
  if pair.relevant then set.removeMany false pair.members
  else .ok (set.addMany false pair.members)

def recenter (center : Cell) (graph : Graph) : Except Fault (Nat × Graph) := do
  let moved := { graph with center }
  let flipped := graph.pairs.entries.filter fun (key, pair) => moved.isRelevant key.2 ≠ pair.relevant
  let published ← flipped.foldlM (fun set entry => flip set entry.2) graph.published
  let pairs := graph.pairs.mapValues fun key pair =>
    { pair with relevant := moved.isRelevant key.2 }
  return (flipped.length, { moved with published, pairs })

def clear (graph : Graph) : Graph :=
  { graph with pairs := {}, published := graph.published.clear }

end Graph

end TorusEngine.Relevance
