/-!
# Ranges of code points

A class of characters is a list of closed ranges of code points, ascending and apart.
-/

namespace TorusEngine.Characters

abbrev Ranges := List (Nat × Nat)

namespace Ranges

def contains (ranges : Ranges) (c : Char) : Bool :=
  ranges.any fun (first, last) => first ≤ c.toNat && c.toNat ≤ last

end Ranges

end TorusEngine.Characters
