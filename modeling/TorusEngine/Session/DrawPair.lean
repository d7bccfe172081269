import TorusEngine.Drawing.ListPair
import TorusEngine.Session.DrawLists

/-!
# A pair of draw lists in memory

The calls of a renderer and a builder on one pair of lists, in any order.
-/

namespace TorusEngine.Session

open TorusEngine.Drawing TorusEngine.Paging

structure DrawPair where
  memory : Memory
  lists : ListPair

namespace DrawPair

variable {α : Type}

private def makeLists (capacity : Nat) (config : MemoryConfig) : Action Memory ListPair := do
  let table ← ObjectListTable.make capacity config
  let first ← DrawList.make table
  let second ← DrawList.make table
  return { first, second }

def make (capacity : Nat) (config : MemoryConfig) : Except Fault DrawPair := do
  match (makeLists capacity config).outcome (← Memory.make config) with
  | (.ok lists, memory) => return { memory, lists }
  | (.error fault, _) => throw fault

def onLists : Action ListPair α → Action DrawPair α :=
  Action.within (·.lists) fun lists session => { session with lists }

def push (objectId : BitVec 32) (distance : UInt64) : Action DrawPair Unit :=
  onLists (ListPair.changeBack (·.push { marker := 0, objectId, distance }))

def send : Action DrawPair Nat := do
  let session ← get
  match session.lists.front.send.outcome session.memory with
  | (.ok (sent, list), memory) =>
      set { session with memory, lists := session.lists.putFront list }
      return sent
  | (.error fault, memory) =>
      set { session with memory }
      throw fault

def render (backend : Backend) (session : DrawPair) : Except Fault (Option DrawCall) :=
  session.lists.front.render backend session.memory

def backView (session : DrawPair) : Except Fault ListView := do
  ListView.ofList (← session.lists.back) session.memory

def frontView (session : DrawPair) : Except Fault ListView :=
  ListView.ofList session.lists.front session.memory

end DrawPair

end TorusEngine.Session
