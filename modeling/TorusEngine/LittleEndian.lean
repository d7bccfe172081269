/-!
# Little-endian words

A word of `n` bytes is stored with its least significant byte first. Decoding undoes encoding for
every number that fits, and encoding undoes decoding for every list of bytes.
-/

namespace TorusEngine.LittleEndian

def encode : (count : Nat) → (number : Nat) → List UInt8
  | 0, _ => []
  | count + 1, number => UInt8.ofNat number :: encode count (number / 256)

def decode : List UInt8 → Nat
  | [] => 0
  | byte :: rest => byte.toNat + 256 * decode rest

@[simp] theorem length_encode (count number : Nat) : (encode count number).length = count := by
  induction count generalizing number with
  | zero => rfl
  | succ count ih => simp [encode, ih]

theorem decode_encode (count number : Nat) : decode (encode count number) = number % Nat.pow 256 count := by
  induction count generalizing number with
  | zero => simp [encode, decode, Nat.pow, Nat.mod_one]
  | succ count ih =>
      rw [encode, decode, ih, Nat.pow_eq, Nat.pow_eq, Nat.pow_succ', Nat.mod_mul]
      simp

theorem encode_decode (bytes : List UInt8) : encode bytes.length (decode bytes) = bytes := by
  induction bytes with
  | nil => rfl
  | cons byte rest ih =>
      have low : (byte.toNat + 256 * decode rest) / 256 = decode rest := by
        have := byte.toNat_lt
        omega
      have first : UInt8.ofNat (byte.toNat + 256 * decode rest) = byte := by
        apply UInt8.toNat_inj.mp
        have := byte.toNat_lt
        simp
      simp [encode, decode, low, first, ih]

end TorusEngine.LittleEndian
