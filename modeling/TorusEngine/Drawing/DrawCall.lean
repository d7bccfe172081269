import TorusEngine.Action
import TorusEngine.Size

/-!
# Draw calls

A draw call names the place of a stored object list and the number of objects on it. A backend takes
calls or rejects them; a recording is a backend that keeps what it took.
-/

namespace TorusEngine.Drawing

structure DrawCall where
  address : Nat
  count : Nat
deriving DecidableEq, Repr

/-- What a backend says about a call: why it does not take it, if so. -/
abbrev Backend := DrawCall → Option Rejection

structure DrawWords where
  address : BitVec 32
  count : BitVec 32
deriving DecidableEq, Repr

namespace DrawCall

/-- The first number that no device word holds. -/
def wordLimit : Nat := 0x100000000

def pack (call : DrawCall) : Except Fault DrawWords :=
  if wordLimit ≤ call.address then .error (.drawing (.rejected (.addressTooWide call.address)))
  else if wordLimit ≤ call.count then .error (.drawing (.rejected (.countTooWide call.count)))
  else .ok ⟨BitVec.ofNat 32 call.address, BitVec.ofNat 32 call.count⟩

def submit (call : DrawCall) (backend : Backend) : Except Fault Unit :=
  match backend call with
  | none => .ok ()
  | some why => .error (.drawing (.rejected why))

end DrawCall

def rejectAll : Backend := fun _ => some .always

def acceptAll : Backend := fun _ => none

structure Recording where
  calls : List DrawCall := []

namespace Recording

def add (recording : Recording) (call : DrawCall) : Recording := ⟨recording.calls ++ [call]⟩

def draw (backend : Backend) (call : DrawCall) : Action Recording Unit := do
  call.submit backend
  modify (·.add call)

def last? (recording : Recording) : Option DrawCall := recording.calls.getLast?

def objectsDrawn (recording : Recording) : Except Fault Nat :=
  recording.calls.foldlM (fun sum call => Size.add sum call.count) 0

def summary (recording : Recording) : Except Fault String := do
  return s!"draws={recording.calls.length} objects={← recording.objectsDrawn}"

end Recording

end TorusEngine.Drawing
