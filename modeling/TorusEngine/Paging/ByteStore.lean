import Std.Data.TreeMap

/-!
# Byte stores

A byte store gives a byte for every offset. It begins with zeros everywhere, and only offsets that
were written take up room, so a store may stand for far more memory than is used.
-/

namespace TorusEngine.Paging

/-- A byte for every offset; offsets that were never written hold zero. -/
structure ByteStore where
  written : Std.TreeMap Nat UInt8 := ∅

namespace ByteStore

def get (store : ByteStore) (offset : Nat) : UInt8 := store.written.getD offset 0

def set (store : ByteStore) (offset : Nat) (byte : UInt8) : ByteStore :=
  ⟨store.written.insert offset byte⟩

def write (store : ByteStore) (offset : Nat) : List UInt8 → ByteStore
  | [] => store
  | byte :: rest => (store.set offset byte).write (offset + 1) rest

def read (store : ByteStore) (offset length : Nat) : List UInt8 :=
  (List.range' offset length).map store.get

@[simp] theorem get_empty (offset : Nat) : ({} : ByteStore).get offset = 0 := by
  simp [get]

theorem get_set (store : ByteStore) (offset other : Nat) (byte : UInt8) :
    (store.set offset byte).get other = if offset = other then byte else store.get other := by
  simp [get, set, Std.TreeMap.getD_insert]

theorem get_write (store : ByteStore) (offset other : Nat) (bytes : List UInt8) :
    (store.write offset bytes).get other =
      if offset ≤ other then bytes.getD (other - offset) (store.get other) else store.get other := by
  induction bytes generalizing store offset with
  | nil => simp [write]
  | cons byte rest ih =>
      rw [write, ih, get_set]
      rcases Nat.lt_trichotomy other offset with before | rfl | after
      · simp [show ¬offset ≤ other by omega, show ¬offset + 1 ≤ other by omega,
          show offset ≠ other by omega]
      · simp [show ¬other + 1 ≤ other by omega]
      · obtain ⟨distance, rfl⟩ : ∃ distance, other = offset + distance + 1 :=
          ⟨other - offset - 1, by omega⟩
        rw [if_pos (show offset + 1 ≤ offset + distance + 1 by omega),
          if_neg (show ¬offset = offset + distance + 1 by omega),
          if_pos (show offset ≤ offset + distance + 1 by omega),
          show offset + distance + 1 - (offset + 1) = distance by omega,
          show offset + distance + 1 - offset = distance + 1 by omega]
        simp

@[simp] theorem length_read (store : ByteStore) (offset length : Nat) :
    (store.read offset length).length = length := by
  simp [read]

end ByteStore

end TorusEngine.Paging
