import TorusEngine.Size

/-!
# The copy on the device

A device keeps a copy of the arena in one block. Pages are copied in units of `copyAlignment` bytes.
-/

namespace TorusEngine.Drawing

def copyAlignment : Nat := 4

def copySize (pageSize maxPages limit : Nat) : Except Fault Nat := do
  if pageSize = 0 ∨ pageSize % copyAlignment ≠ 0 then throw (.device (.unalignedPage pageSize))
  let bytes ← Size.mul pageSize maxPages
  if limit < bytes then throw (.device (.arenaTooLarge bytes limit))
  return bytes

end TorusEngine.Drawing
