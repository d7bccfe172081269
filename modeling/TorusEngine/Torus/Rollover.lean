import TorusEngine.Scalar

/-!
# Rollover

The world repeats after `width` on every axis. `delta` folds a difference of two coordinates onto the
shortest way round, and `distance` is the length of that way.
-/

namespace TorusEngine.Torus.Rollover

variable {α : Type} [Scalar α]

/-- The shortest signed way round for a difference `v`. A difference of at most half a width is its
own shortest way. -/
def delta (v width : α) : α :=
  let half := width / Scalar.ofInt 2
  if Scalar.le (-half) v && Scalar.le v half then v
  else
    let rest := Scalar.remainder (Scalar.abs v) width
    let folded := if Scalar.lt half rest then rest - width else rest
    if Scalar.lt v (Scalar.ofInt 0) then -folded else folded

def distance (v width : α) : α := Scalar.abs (delta v width)

end TorusEngine.Torus.Rollover
