import TorusEngine.Json.Shape
import Mathlib.Tactic

/-!
# Reading the texts of numbers

A number is written in parts: a sign, the digits before and behind the point, and an exponent (`Parts`).
The reader takes such a text (`Parts.Valid.takes`), and what it says is the significand without the point
at the exponent that is left (`Parts.value_whole`, `Parts.value_real`).
-/

namespace TorusEngine.Json

namespace Reader

variable {α β : Type}

theorem bind_ok {reader : Reader α} {next : α → Reader β} {text rest : List Char} {value : α}
    (read : reader text = .ok (value, rest)) : (reader >>= next) text = next value rest := by
  change (reader text >>= fun said => next said.1 said.2) = _
  rw [read]
  rfl

/-- What may stand behind a value: nothing, or what ends a member of an object. -/
def Ends (rest : List Char) : Prop := ∀ c ∈ rest.head?, c = ',' ∨ c = '\n'

theorem ends_comma (rest : List Char) : Ends (',' :: rest) :=
  fun _ first => .inl (Option.some.inj first).symm

theorem ends_newline (rest : List Char) : Ends ('\n' :: rest) :=
  fun _ first => .inr (Option.some.inj first).symm

/-- A reader takes a text and gives a value for it, whatever ends the text. -/
def Takes (reader : Reader α) (text : List Char) (value : α) : Prop :=
  ∀ ⦃rest⦄, Ends rest → reader (text ++ rest) = .ok (value, rest)

/-! ## Steps -/

theorem eq_zero_of_isDigit {c : Char} (digit : c.isDigit = true) (zero : c.toNat - 48 = 0) :
    c = '0' := by
  rw [Char.isDigit, Bool.and_eq_true, decide_eq_true_eq, decide_eq_true_eq] at digit
  have low : 48 ≤ c.toNat := digit.1
  exact Char.toNat_inj.mp (by omega : c.toNat = 48)

theorem accept_of {test : Char → Bool} {c : Char} (accepted : test c = true) (rest : List Char) :
    accept test (c :: rest) = .ok (true, rest) := by
  change Except.ok (if test c then (true, rest) else (false, c :: rest)) = _
  rw [if_pos accepted]

theorem accept_of_not {test : Char → Bool} {text : List Char}
    (refused : ∀ c ∈ text.head?, test c = false) : accept test text = .ok (false, text) := by
  cases text with
  | nil => rfl
  | cons c rest =>
      change Except.ok (if test c then (true, rest) else (false, c :: rest)) = _
      rw [refused c rfl, if_neg Bool.false_ne_true]

theorem someDigits_of {cs rest : List Char} (digits : ∀ c ∈ cs, c.isDigit = true) (nonempty : cs ≠ [])
    (ends : ∀ c ∈ rest.head?, c.isDigit = false) (atEnd : Problem) :
    someDigits atEnd (cs ++ rest) = .ok (cs.map (·.toNat - 48), rest) := by
  have stops : rest.takeWhile Char.isDigit = [] ∧ rest.dropWhile Char.isDigit = rest := by
    cases rest with
    | nil => exact ⟨rfl, rfl⟩
    | cons c rest =>
        have stop := ends c rfl
        simp [stop]
  have found : Reader.digits (cs ++ rest) = .ok (cs.map (·.toNat - 48), rest) := by
    change Except.ok (_, _) = _
    rw [List.takeWhile_append_of_pos digits, List.dropWhile_append_of_pos digits, stops.1, stops.2,
      List.append_nil]
  rw [someDigits, bind_ok found]
  cases cs with
  | nil => exact absurd rfl nonempty
  | cons c cs => rfl

end Reader

structure Parts where
  negative : Bool
  integer : List Char
  fraction : List Char
  exponent : Option (Bool × List Char)

namespace Parts

def fractionText (parts : Parts) : List Char :=
  if parts.fraction = [] then [] else '.' :: parts.fraction

def exponentText (parts : Parts) : List Char :=
  match parts.exponent with
  | none => []
  | some (down, digits) => 'e' :: (if down then '-' else '+') :: digits

def text (parts : Parts) : List Char :=
  (if parts.negative then ['-'] else []) ++ (parts.integer ++ (parts.fractionText ++ parts.exponentText))

def said (parts : Parts) : NumberText where
  negative := parts.negative
  integer := parts.integer.map (·.toNat - 48)
  fraction := parts.fraction.map (·.toNat - 48)
  exponent := parts.exponent.map fun (down, digits) => (down, digits.map (·.toNat - 48))

structure Valid (parts : Parts) : Prop where
  integer : ∀ c ∈ parts.integer, c.isDigit = true
  nonempty : parts.integer ≠ []
  noZero : 1 < parts.integer.length → parts.integer.head? ≠ some '0'
  fraction : ∀ c ∈ parts.fraction, c.isDigit = true
  exponent : ∀ e ∈ parts.exponent, e.2 ≠ [] ∧ ∀ c ∈ e.2, c.isDigit = true

variable {parts : Parts} {rest : List Char}

open Reader

theorem head?_exponentText (ends : Ends rest) :
    ∀ c ∈ (parts.exponentText ++ rest).head?, c = 'e' ∨ c = ',' ∨ c = '\n' := by
  rw [exponentText]
  split
  · exact fun c first => .inr (ends c first)
  · exact fun c first => .inl (Option.some.inj first).symm

theorem head?_fractionText (ends : Ends rest) :
    ∀ c ∈ (parts.fractionText ++ (parts.exponentText ++ rest)).head?,
      c = '.' ∨ c = 'e' ∨ c = ',' ∨ c = '\n' := by
  rw [fractionText]
  split
  · exact fun c first => .inr (head?_exponentText ends c first)
  · exact fun c first => .inl (Option.some.inj first).symm

namespace Valid

variable (valid : parts.Valid) (atEnd : Problem)

include valid

theorem takes_exponent : Takes (Reader.exponentText atEnd) parts.exponentText parts.said.exponent := by
  intro rest ends
  have powers := valid.exponent
  rw [Reader.exponentText, exponentText, said]
  generalize parts.exponent = exponent at *
  cases exponent with
  | none =>
      rw [bind_ok (accept_of_not fun c first => ?_)]
      · rfl
      · rcases ends c first with rfl | rfl <;> decide
  | some pair =>
      obtain ⟨down, digits⟩ := pair
      obtain ⟨nonempty, places⟩ := powers _ rfl
      have found := someDigits_of places nonempty (fun c first => by
        rcases ends c first with rfl | rfl <;> decide) atEnd
      rw [List.cons_append, List.cons_append, bind_ok (accept_of (by decide) _)]
      cases down with
      | true =>
          rw [if_pos rfl, if_pos rfl, bind_ok (accept_of (by decide) _)]
          exact bind_ok found
      | false =>
          have refused : ∀ c ∈ ('+' :: (digits ++ rest)).head?, decide (c = '-') = false := by
            rintro c ⟨⟩
            decide
          rw [if_pos rfl, if_neg Bool.false_ne_true, bind_ok (accept_of_not refused)]
          exact (bind_ok (accept_of (by decide) _)).trans (bind_ok found)

theorem takes_fraction (ends : Ends rest) : Reader.fractionText atEnd (parts.fractionText ++
    (parts.exponentText ++ rest)) = .ok (parts.said.fraction, parts.exponentText ++ rest) := by
  have next := @head?_exponentText parts rest ends
  have places := valid.fraction
  rw [Reader.fractionText, fractionText, said]
  split
  · rename_i none
    rw [none, bind_ok (accept_of_not fun c first => ?_)]
    · rfl
    · rcases next c first with rfl | rfl | rfl <;> decide
  · rename_i some
    rw [List.cons_append, bind_ok (accept_of (by decide) _)]
    refine someDigits_of places some (fun c first => ?_) atEnd
    rcases next c first with rfl | rfl | rfl <;> decide

theorem noZero_said :
    (parts.said.integer.length > 1 && parts.said.integer.head? = some 0) = false := by
  have whole := valid.integer
  have noZero := valid.noZero
  simp only [said, List.length_map, List.head?_map]
  cases integer : parts.integer with
  | nil => rfl
  | cons c cs =>
      rw [integer] at whole noZero
      have digit := whole c (.head _)
      rw [Bool.eq_false_iff, Ne, Bool.and_eq_true, decide_eq_true_eq, decide_eq_true_eq]
      rintro ⟨long, zero⟩
      exact noZero long (congrArg some (eq_zero_of_isDigit digit (Option.some.inj zero)))

theorem takes : Takes (Reader.numberText atEnd) parts.text parts.said := by
  intro rest ends
  have next := @head?_fractionText parts rest ends
  have signed : accept (· = '-') (parts.text ++ rest) = .ok (parts.negative,
      parts.integer ++ (parts.fractionText ++ (parts.exponentText ++ rest))) := by
    rw [text, List.append_assoc, List.append_assoc, List.append_assoc]
    cases parts.negative with
    | true =>
        rw [if_pos rfl]
        exact accept_of (decide_eq_true rfl) _
    | false =>
        obtain ⟨c, cs, integer⟩ := List.exists_cons_of_ne_nil valid.nonempty
        have digit := valid.integer c (integer ▸ .head _)
        rw [if_neg Bool.false_ne_true, List.nil_append, integer]
        refine accept_of_not fun d first => decide_eq_false ?_
        cases first
        rintro rfl
        exact absurd digit (by decide)
  have whole : someDigits atEnd (parts.integer ++ (parts.fractionText ++ (parts.exponentText ++ rest))) =
      .ok (parts.said.integer, parts.fractionText ++ (parts.exponentText ++ rest)) :=
    someDigits_of valid.integer valid.nonempty (fun c first => by
      rcases next c first with rfl | rfl | rfl | rfl <;> decide) atEnd
  rw [Reader.numberText, bind_ok signed, bind_ok whole]
  simp only [valid.noZero_said, Bool.false_eq_true, if_false]
  rw [bind_ok (valid.takes_fraction atEnd ends), bind_ok (valid.takes_exponent atEnd ends)]
  rfl

end Valid

/-! ## Values -/

def significand (parts : Parts) : Nat := Nat.ofDigitChars 10 (parts.integer ++ parts.fraction) 0

def power (parts : Parts) : Int :=
  match parts.exponent with
  | none => 0
  | some (down, digits) =>
      if down then -(Nat.ofDigitChars 10 digits 0 : Int) else Nat.ofDigitChars 10 digits 0

theorem ofDigitChars_cons (c : Char) (digits : List Char) (n : Nat) :
    Nat.ofDigitChars 10 (c :: digits) n = Nat.ofDigitChars 10 digits (n * 10 + (c.toNat - 48)) := by
  rw [Nat.ofDigitChars_cons, Nat.mul_comm]
  rfl

theorem le_ofDigitChars (digits : List Char) (n : Nat) : n ≤ Nat.ofDigitChars 10 digits n := by
  induction digits generalizing n with
  | nil => exact le_rfl
  | cons c digits ih =>
      rw [ofDigitChars_cons]
      exact le_trans (by omega) (ih _)

theorem absorb_eq {digits : List Char} {n : Nat}
    (short : Nat.ofDigitChars 10 digits n < 2 ^ 64) :
    NumberText.absorb n (digits.map (·.toNat - 48)) = (Nat.ofDigitChars 10 digits n, 0) := by
  induction digits generalizing n with
  | nil => rfl
  | cons c digits ih =>
      rw [ofDigitChars_cons] at short ⊢
      have room : n * 10 + (c.toNat - 48) < 0x10000000000000000 := (le_ofDigitChars _ _).trans_lt short
      rw [List.map_cons, NumberText.absorb, if_pos room, ih short]

theorem foldl_eq (digits : List Char) (n : Nat) :
    (digits.map (·.toNat - 48)).foldl (fun n digit => n * 10 + digit) n =
      Nat.ofDigitChars 10 digits n := by
  rw [List.foldl_map, Nat.ofDigitChars]
  congr 1
  funext n c
  rw [Nat.mul_comm]
  rfl

theorem absorb_said (short : parts.significand < 2 ^ 64) :
    NumberText.absorb 0 parts.said.integer = (Nat.ofDigitChars 10 parts.integer 0, 0) ∧
      NumberText.absorb (Nat.ofDigitChars 10 parts.integer 0) parts.said.fraction =
        (parts.significand, 0) := by
  rw [significand, Nat.ofDigitChars_append] at short
  constructor
  · exact absorb_eq ((le_ofDigitChars _ _).trans_lt short)
  · rw [said, absorb_eq short, significand, Nat.ofDigitChars_append]

theorem value_whole (short : parts.significand < 2 ^ 64) (whole : parts.fraction = [])
    (plain : parts.exponent = none) :
    parts.said.value = .ok (NumberText.integerValue parts.negative parts.significand) := by
  obtain ⟨first, second⟩ := absorb_said short
  have none : parts.said.exponent = none := by rw [said, plain, Option.map_none]
  have empty : parts.said.fraction = [] := by rw [said, whole, List.map_nil]
  simp only [NumberText.value, first, second, none]
  rw [empty]
  rfl

theorem value_real (short : parts.significand < 2 ^ 64)
    (real : parts.fraction ≠ [] ∨ parts.exponent ≠ none) (small : parts.power.natAbs < 2 ^ 31) :
    parts.said.value =
      NumberText.toDouble parts.negative parts.significand (parts.power - parts.fraction.length) := by
  obtain ⟨first, second⟩ := absorb_said short
  have length : parts.said.fraction.length = parts.fraction.length := List.length_map ..
  simp only [NumberText.value, first, second, length]
  cases exponent : parts.exponent with
  | none =>
      have none : parts.said.exponent = none := by rw [said, exponent, Option.map_none]
      have full : parts.said.fraction.isEmpty = false := by
        rw [said, List.isEmpty_map]
        exact List.isEmpty_eq_false_iff.mpr (real.resolve_right (not_not_intro exponent))
      simp only [none, full, Bool.false_and, Bool.false_eq_true, if_false, power, exponent]
      congr 1
  | some pair =>
      obtain ⟨down, digits⟩ := pair
      have some : parts.said.exponent = some (down, digits.map (·.toNat - 48)) := by
        rw [said, exponent, Option.map_some]
      simp only [some, foldl_eq]
      simp only [power, exponent] at small ⊢
      rw [if_pos (by split at small <;> omega)]
      congr 1
      split <;> push_cast <;> ring

end Parts

end TorusEngine.Json
