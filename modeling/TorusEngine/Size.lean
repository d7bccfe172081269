import TorusEngine.Fault

/-!
# Sizes

Sizes, addresses and indices are natural numbers below `2 ^ 64`. The operations below are exact where
the result fits and fault where it does not, so no size ever wraps around.
-/

namespace TorusEngine.Size

/-- The first number that is no size. -/
def limit : Nat := 0x10000000000000000

def largest : Nat := limit - 1

/-- The largest number of bytes that one block of memory may have. -/
def largestBlock : Nat := 0x7fffffffffffffff

/-- The bytes that a process can address at most: the widest page tables in use translate 57 bits. -/
def addressSpace : Nat := 0x200000000000000

def add (a b : Nat) : Except Fault Nat :=
  if a + b < limit then .ok (a + b) else .error (.overflow .add)

def sub (a b : Nat) : Except Fault Nat :=
  if b ≤ a then .ok (a - b) else .error (.overflow .subtract)

def mul (a b : Nat) : Except Fault Nat :=
  if a * b < limit then .ok (a * b) else .error (.overflow .multiply)

def ceilDiv (a b : Nat) : Except Fault Nat :=
  if b = 0 then .error .divisionByZero
  else .ok (a / b + if a % b = 0 then 0 else 1)

def saturate (n : Nat) : Nat := min n largest

def checkBlock (count width : Nat) : Except Fault Unit :=
  if count * width ≤ largestBlock then .ok () else .error .outOfAddressSpace

def checkMemory (bytes : Nat) : Except Fault Unit :=
  if bytes ≤ addressSpace then .ok () else .error .outOfAddressSpace

theorem add_eq_ok {a b : Nat} (fits : a + b < limit) : add a b = .ok (a + b) := if_pos fits

theorem sub_eq_ok {a b : Nat} (fits : b ≤ a) : sub a b = .ok (a - b) := if_pos fits

theorem mul_eq_ok {a b : Nat} (fits : a * b < limit) : mul a b = .ok (a * b) := if_pos fits

end TorusEngine.Size
