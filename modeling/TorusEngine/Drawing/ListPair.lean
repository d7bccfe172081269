import TorusEngine.Drawing.DrawList

/-!
# Pairs of draw lists

Two draw lists take turns: the front list is drawn while the back list is rebuilt. A rebuild is begun
from the idle state only, ends by being finished or abandoned, and a finished one waits for the swap
that makes its list the front.
-/

namespace TorusEngine.Drawing

inductive Side where
  | first
  | second
deriving DecidableEq, Repr

def Side.other : Side → Side
  | first => second
  | second => first

def Side.index : Side → Nat
  | first => 0
  | second => 1

/-- Two lists and which of them is the front. `swaps` stands for a counter of 64 bits: a run makes fewer than
`2 ^ 64` swaps. -/
structure ListPair where
  first : DrawList
  second : DrawList
  frontSide : Side := .first
  state : BuildState := .idle
  swaps : Nat := 0

namespace ListPair

def list (pair : ListPair) : Side → DrawList
  | .first => pair.first
  | .second => pair.second

def put (pair : ListPair) (side : Side) (list : DrawList) : ListPair :=
  match side with
  | .first => { pair with first := list }
  | .second => { pair with second := list }

def front (pair : ListPair) : DrawList := pair.list pair.frontSide

def putFront (pair : ListPair) (list : DrawList) : ListPair := pair.put pair.frontSide list

def back (pair : ListPair) : Except Fault DrawList :=
  if pair.state = .building then .ok (pair.list pair.frontSide.other)
  else .error (.violated (.backOutsideRebuild pair.state))

def changeBack (change : DrawList → DrawList) : Action ListPair Unit := do
  let pair ← get
  set (pair.put pair.frontSide.other (change (← pair.back)))

def begin : Action ListPair Bool := modifyGet fun pair =>
  if pair.state = .idle then (true, { pair with state := .building }) else (false, pair)

/-- Declares the back list finished. To do so outside a rebuild breaks the contract, but only after
the state has changed. -/
def finish : Action ListPair Unit := do
  let pair ← get
  set { pair with state := .ready }
  if pair.state ≠ .building then throw (.violated (.finishOutsideRebuild pair.state))

def abandon (pair : ListPair) : ListPair :=
  if pair.state = .building then { pair with state := .idle } else pair

def trySwap : Action ListPair Bool := modifyGet fun pair =>
  if pair.state = .ready then
    (true, { pair with frontSide := pair.frontSide.other, swaps := pair.swaps + 1, state := .idle })
  else (false, pair)

end ListPair

end TorusEngine.Drawing
