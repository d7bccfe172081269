import Mathlib.Algebra.Order.Floor.Div
import TorusEngine.Size

/-!
# Sizes that are answered

A computation on sizes that answers has answered at every step. Where nothing is divided by zero,
`Size.ceilDiv` is the ceiling of the library's ordered semirings, so bounds on it are bounds on
products.
-/

namespace TorusEngine

theorem bind_eq_ok {α β : Type} {first : Except Fault α} {next : α → Except Fault β} {answer : β} :
    first >>= next = .ok answer ↔ ∃ middle, first = .ok middle ∧ next middle = .ok answer := by
  cases first <;> simp [bind, Except.bind]

/-- What every step of a loop does, the loop does, if it can be done in sequence. -/
theorem foldlM_relates {σ α : Type} {relates : σ → σ → Prop} (refl : ∀ state, relates state state)
    (trans : ∀ state middle left, relates state middle → relates middle left → relates state left)
    {step : σ → α → Except Fault σ}
    (each : ∀ state item left, step state item = .ok left → relates state left) {items : List α}
    {state left : σ} (answered : items.foldlM step state = .ok left) : relates state left := by
  induction items generalizing state with
  | nil =>
      cases answered
      exact refl _
  | cons item rest ih =>
      rw [List.foldlM_cons, bind_eq_ok] at answered
      obtain ⟨middle, first, answered⟩ := answered
      exact trans _ _ _ (each _ _ _ first) (ih answered)

namespace Size

theorem eq_of_add_eq_ok {a b sum : Nat} (answered : add a b = .ok sum) :
    sum = a + b ∧ sum < limit := by
  unfold add at answered
  split at answered
  · rename_i fits
    cases answered
    exact ⟨rfl, fits⟩
  · cases answered

theorem eq_of_mul_eq_ok {a b product : Nat} (answered : mul a b = .ok product) :
    product = a * b ∧ product < limit := by
  unfold mul at answered
  split at answered
  · rename_i fits
    cases answered
    exact ⟨rfl, fits⟩
  · cases answered

theorem ceilDiv_eq {a b : Nat} (positive : 0 < b) : ceilDiv a b = .ok (a ⌈/⌉ b) := by
  have division := Nat.div_add_mod a b
  have remainder := Nat.mod_lt a positive
  rw [ceilDiv, if_neg (Nat.pos_iff_ne_zero.mp positive), Except.ok.injEq]
  refine eq_of_forall_ge_iff fun bound => ?_
  rw [ceilDiv_le_iff_le_mul positive]
  split
  · rename_i exact
    rw [← division, exact, Nat.add_zero, Nat.add_zero, Nat.mul_le_mul_left_iff positive]
    simp [positive]
  · rename_i inexact
    constructor
    · intro above
      have := Nat.mul_le_mul_left b above
      rw [Nat.mul_succ] at this
      omega
    · intro above
      by_contra below
      have := Nat.mul_le_mul_left b (Nat.lt_succ_iff.mp (Nat.not_le.mp below))
      omega

theorem max_ceilDiv_le_iff {bytes size count : Nat} (positive : 0 < size) :
    max (bytes ⌈/⌉ size) 1 ≤ count ↔ bytes ≤ count * size ∧ 1 ≤ count := by
  rw [Nat.max_le, ceilDiv_le_iff_le_mul positive, Nat.mul_comm]

theorem le_max_ceilDiv_mul {size : Nat} (positive : 0 < size) (bytes : Nat) :
    bytes ≤ max (bytes ⌈/⌉ size) 1 * size :=
  ((max_ceilDiv_le_iff positive).mp (Nat.le_refl _)).1

theorem max_ceilDiv_le_max_ceilDiv {few many size : Nat} (positive : 0 < size) (le : few ≤ many) :
    max (few ⌈/⌉ size) 1 ≤ max (many ⌈/⌉ size) 1 :=
  (max_ceilDiv_le_iff positive).mpr
    ⟨le.trans (le_max_ceilDiv_mul positive many), Nat.le_max_right _ _⟩

end Size

end TorusEngine
