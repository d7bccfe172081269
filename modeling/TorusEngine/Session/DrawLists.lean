import TorusEngine.Drawing.DrawList
import TorusEngine.Session.View

/-!
# Named draw lists

Draw lists of one table under names. Every push counts as a new marker, whatever list it goes to. A
list that is dropped or replaced gives its record up.
-/

namespace TorusEngine.Session

open TorusEngine.Drawing TorusEngine.Paging

structure ListView where
  entries : List Entry
  sent : Nat
  sentIds : List ObjectListTable.ObjectId

def ListView.ofList (list : DrawList) (memory : Memory) : Except Fault ListView := do
  return ⟨list.entries, list.sent, ← list.sentIds memory⟩

structure DrawLists where
  memory : Memory
  table : ObjectListTable
  lists : Dictionary String DrawList := {}
  pushed : Nat := 0

namespace DrawLists

variable {α : Type}

def make (capacity : Nat) (config : MemoryConfig) : Except Fault DrawLists := do
  match (ObjectListTable.make capacity config).outcome (← Memory.make config) with
  | (.ok table, memory) => return { memory, table }
  | (.error fault, _) => throw fault

def onMemory : Action Memory α → Action DrawLists α :=
  Action.within (·.memory) fun memory session => { session with memory }

def find (session : DrawLists) (name : String) : Except Fault DrawList :=
  match session.lists.get? name with
  | some list => .ok list
  | none => .error .unknownName

def put (name : String) (list : DrawList) : Action DrawLists Unit :=
  modify fun session => { session with lists := session.lists.insert name list }

def change (name : String) (change : DrawList → DrawList) : Action DrawLists Unit := do
  put name (change (← (← get).find name))

def drop (name : String) : Action DrawLists Bool := do
  match (← get).lists.get? name with
  | none => return false
  | some list =>
      modify fun session => { session with lists := session.lists.erase name }
      onMemory list.release
      modify fun session => { session with memory := session.memory.settle }
      return true

def create (name : String) : Action DrawLists (Nat × Nat) := do
  let list ← onMemory (DrawList.make (← get).table)
  let _ ← drop name
  put name list
  return (list.record, ← list.physicalAddress (← get).memory)

def push (name : String) (objectId : BitVec 32) (distance : UInt64) : Action DrawLists Unit := do
  let marker := (← get).pushed
  change name (·.push { marker, objectId, distance })
  modify fun session => { session with pushed := marker + 1 }

def send (name : String) : Action DrawLists Nat := do
  let (sent, list) ← onMemory (← (← get).find name).send
  put name list
  return sent

def render (name : String) (backend : Backend) (session : DrawLists) :
    Except Fault (Option DrawCall) := do
  (← session.find name).render backend session.memory

def flush (sink : Sink) : Action DrawLists FlushReport := onMemory (Memory.onArena (Arena.flush sink))

def listView (session : DrawLists) (name : String) : Except Fault ListView := do
  ListView.ofList (← session.find name) session.memory

def windowView (session : DrawLists) : Except Fault View :=
  View.ofWindow session.memory session.table.window

end DrawLists

end TorusEngine.Session
