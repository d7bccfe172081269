/-!
# Build states

A pair of draw lists is idle, has its back list under construction, or has a finished back list that
waits for the next swap.
-/

namespace TorusEngine.Drawing

inductive BuildState where
  | idle
  | building
  | ready
deriving DecidableEq, Repr

namespace BuildState

def name : BuildState → String
  | idle => "Idle"
  | building => "Building"
  | ready => "Ready"

def code : BuildState → Nat
  | idle => 0
  | building => 1
  | ready => 2

end BuildState

end TorusEngine.Drawing
