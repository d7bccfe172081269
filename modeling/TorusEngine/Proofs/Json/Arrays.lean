import TorusEngine.Proofs.Json.Records

/-!
# Texts of names, arrays and choices

Every name can be written between quotes (`text_item`). An array is read from the texts of its items,
either as a list (`list_item`) or as the fields of a record in their order (`ordered_item`). A choice is
read from the name of its case (`plain_item`, `tagged_item`). Arrays and objects end on a line of their
own, so that each value in them stands before something that ends it.
-/

namespace TorusEngine.Json

/-! ## Names -/

namespace Text

def escape (c : Char) : List Char :=
  if c = '"' ∨ c = '\\' then ['\\', c]
  else if c < ' ' then ['\\', 'u', '0', '0', (c.toNat / 16).digitChar, (c.toNat % 16).digitChar]
  else [c]

def quoted (name : String) : List Char := '"' :: (name.toList.flatMap escape ++ ['"'])

theorem unit?_control : ∀ n < 32, unit? '0' '0' (n / 16).digitChar (n % 16).digitChar = some n := by
  decide

theorem scan_escape (c : Char) (rest : List Char) :
    scan true (escape c ++ rest) = push c <$> scan true rest := by
  rw [escape]
  split_ifs with special control
  · rcases special with rfl | rfl <;> rfl
  · have small : c.toNat < 32 := control
    have unit := unit?_control c.toNat small
    have trailing : isTrailing c.toNat = false := by
      simp only [isTrailing, Bool.and_eq_false_iff, decide_eq_false_iff_not]
      omega
    have leading : isLeading c.toNat = false := by
      simp only [isLeading, Bool.and_eq_false_iff, decide_eq_false_iff_not]
      omega
    simp [scan, unit, trailing, leading]
  · rw [not_or] at special
    exact Reader.scan_visible special.1 special.2 (Char.not_lt.mp control) rest

theorem scan_escaped (cs rest : List Char) :
    scan true (cs.flatMap escape ++ '"' :: rest) = .ok (cs, rest) := by
  induction cs with
  | nil => rfl
  | cons c cs ih =>
      rw [List.flatMap_cons, List.append_assoc, scan_escape, ih]
      rfl

/-! ## Arrays and choices -/

/-- What is written behind an item: each later one behind a comma, and the end on a line of its own. -/
def items : List (List Char) → List Char
  | [] => ['\n', ']']
  | text :: later => ',' :: (text ++ items later)

def inside : List (List Char) → List Char
  | [] => [']']
  | text :: later => text ++ items later

def array (texts : List (List Char)) : List Char := '[' :: inside texts

def tagged (name : String) (text : List Char) : List Char :=
  '\x7b' :: (quoted name ++ ':' :: (text ++ ['\n', '\x7d']))

theorem length_lt_items (texts : List (List Char)) : texts.length < (items texts).length := by
  induction texts with
  | nil => exact Nat.zero_lt_two
  | cons text later ih =>
      rw [items, List.length_cons, List.length_cons, List.length_append]
      omega

end Text

namespace Reader

open Text

variable {α σ : Type}

theorem string_quoted (name : String) {blanks : List Char} (blank : ∀ c ∈ blanks, isBlank c = true)
    (rest : List Char) : string (blanks ++ (quoted name ++ rest)) = .ok (name, rest) := by
  have written : quoted name ++ rest = '"' :: (name.toList.flatMap escape ++ '"' :: rest) := by
    simp [quoted]
  have body : stringBody true (name.toList.flatMap escape ++ '"' :: rest) = .ok (name, rest) := by
    rw [stringBody, scan_escaped]
    exact congrArg (fun name => Except.ok (name, rest)) String.ofList_toList
  rw [written, string, bind_ok (mark_of blank rfl _), body]

/-- A text that can be an item of an array: it is read, and begins with a character that is neither
blank nor the end of the array. -/
structure Item (reader : Reader α) (text : List Char) (value : α) : Prop where
  begins : ∃ c later, text = c :: later ∧ isBlank c = false ∧ c ≠ ']'
  reads : Reads reader text value

theorem text_item (name : String) : Item Reader.text (quoted name) name where
  begins := ⟨_, _, rfl, rfl, by decide⟩
  reads := by
    intro blanks rest blank ends
    have next := string_quoted name no_blank rest
    rw [quoted, List.cons_append] at next ⊢
    rw [Reader.text, bind_ok (peek_of blank rfl _), if_pos rfl]
    exact next

theorem sizeBelow_item {n limit : Nat} (small : n < limit) (short : limit ≤ 2 ^ 64) :
    Item (sizeBelow limit) (toString n).toList n where
  begins := by
    obtain ⟨c, later, digits⟩ := List.exists_cons_of_ne_nil (Nat.toDigits_ne_nil (n := n) (b := 10))
    have digit : c.isDigit = true := isDigit_toDigits (n := n) (digits ▸ .head _)
    refine ⟨c, later, ?_, isBlank_of_isDigit digit, ?_⟩
    · rw [Nat.toString_eq_repr, Nat.toList_repr, digits]
    · rintro rfl
      exact absurd digit (by decide)
  reads := sizeBelow_reads small short

/-! ## Sequences -/

section Sequences

variable {item : Reader α} {text : List Char} {value : α}

theorem peek_here {c : Char} (visible : isBlank c = false) (rest : List Char) :
    peek (c :: rest) = .ok (c, c :: rest) := peek_of no_blank visible rest

theorem blank_newline : ∀ c ∈ ['\n'], isBlank c = true := by
  simp [isBlank]

theorem Item.nextElement_first (given : Item item text value) (rest : List Char) :
    nextElement true (text ++ rest) = .ok (true, text ++ rest) := by
  obtain ⟨c, later, rfl, visible, inner⟩ := given.begins
  rw [nextElement, List.cons_append, bind_ok (peek_here visible _), if_neg inner, if_pos rfl]
  rfl

theorem Item.nextElement_later (given : Item item text value) (rest : List Char) :
    nextElement false (',' :: (text ++ rest)) = .ok (true, text ++ rest) := by
  obtain ⟨c, later, rfl, visible, inner⟩ := given.begins
  rw [nextElement, bind_ok (peek_here rfl _), if_neg (by decide), if_neg (by decide),
    if_neg (by decide), bind_ok (advance_of _ _), List.cons_append, bind_ok (peek_here visible _), if_neg inner]
  rfl

theorem nextElement_last {blanks : List Char} (blank : ∀ c ∈ blanks, isBlank c = true) (first : Bool)
    (rest : List Char) : nextElement first (blanks ++ ']' :: rest) = .ok (false, ']' :: rest) := by
  rw [nextElement, bind_ok (peek_of blank rfl _), if_pos rfl]
  rfl

theorem endArray_of {blanks : List Char} (blank : ∀ c ∈ blanks, isBlank c = true) (rest : List Char) :
    endArray (blanks ++ ']' :: rest) = .ok ((), rest) := by
  rw [endArray, bind_ok (peek_of blank rfl _), if_pos rfl]
  rfl

theorem ends_items (texts : List (List Char)) (rest : List Char) : Ends (items texts ++ rest) := by
  cases texts with
  | nil => exact ends_newline _
  | cons text later => exact ends_comma _

theorem Item.reads_before (given : Item item text value) (texts : List (List Char)) (rest : List Char) :
    item (text ++ (items texts ++ rest)) = .ok (value, items texts ++ rest) :=
  given.reads no_blank (ends_items texts rest)

section Lists

variable {texts : List (List Char)} {values : List α}

theorem elements_items (given : List.Forall₂ (Item item) texts values) {fuel : Nat}
    (enough : texts.length < fuel) (rest : List Char) :
    elements item fuel false (items texts ++ rest) = .ok (values, ']' :: rest) := by
  induction given generalizing fuel with
  | nil =>
      obtain ⟨fuel, rfl⟩ := Nat.exists_eq_succ_of_ne_zero (Nat.ne_zero_of_lt enough)
      exact bind_ok (nextElement_last blank_newline false rest)
  | @cons text value texts values first later ih =>
      obtain ⟨fuel, rfl⟩ := Nat.exists_eq_succ_of_ne_zero (Nat.ne_zero_of_lt enough)
      rw [items, List.cons_append, List.append_assoc, elements, bind_ok (first.nextElement_later _)]
      refine (bind_ok (first.reads_before texts rest)).trans ?_
      rw [bind_ok (ih (Nat.lt_of_succ_lt_succ enough))]
      rfl

/-- All items are read up to the closing bracket; there are more characters than items. -/
theorem elements_inside (given : List.Forall₂ (Item item) texts values) (rest : List Char) :
    elements item ((inside texts ++ rest).length + 1) true (inside texts ++ rest) =
      .ok (values, ']' :: rest) := by
  cases given with
  | nil => exact bind_ok (nextElement_last no_blank true rest)
  | @cons text value texts values first later =>
      have enough : texts.length < (text ++ items texts ++ rest).length := by
        have few := length_lt_items texts
        rw [List.length_append, List.length_append]
        omega
      rw [elements, inside, List.append_assoc, bind_ok (first.nextElement_first _)]
      refine (bind_ok (first.reads_before texts rest)).trans ?_
      rw [bind_ok (elements_items later (List.append_assoc text _ rest ▸ enough) rest)]
      rfl

theorem list_item (given : List.Forall₂ (Item item) texts values) :
    Item (list item) (array texts) values where
  begins := ⟨_, _, rfl, rfl, by decide⟩
  reads := by
    intro blanks rest blank ends
    have closed : endArray (']' :: rest) = .ok ((), rest) := endArray_of no_blank rest
    rw [list, array, List.cons_append, bind_ok (peek_of blank rfl _), if_pos rfl,
      bind_ok (advance_of _ _), bind_ok (get_of _), bind_ok (elements_inside given rest), bind_ok closed]
    rfl

end Lists

end Sequences

/-! ## Records in order -/

section Records

variable {members : List (Member σ)} {record final : σ} {texts : List (List Char)}

inductive Ordered : List (Member σ) → σ → List (List Char) → σ → Prop where
  | done {record : σ} : Ordered [] record [] record
  | next {member : Member σ} {members : List (Member σ)} {record record' final : σ} {text : List Char}
      {texts : List (List Char)} (item : Item (member.read record) text record')
      (later : Ordered members record' texts final) :
      Ordered (member :: members) record (text :: texts) final

theorem positional_items (ordered : Ordered members record texts final) (rest : List Char) :
    positional members false record (items texts ++ rest) = .ok (final, '\n' :: ']' :: rest) := by
  induction ordered with
  | done => rfl
  | @next member members record record' final text texts item later ih =>
      rw [items, List.cons_append, List.append_assoc, positional, bind_ok (item.nextElement_later _)]
      refine (bind_ok (item.reads_before texts rest)).trans ?_
      exact ih

theorem ordered_item (nonempty : members ≠ []) (ordered : Ordered members record texts final) :
    Item (Reader.record members record) (array texts) final where
  begins := ⟨_, _, rfl, rfl, by decide⟩
  reads := by
    intro blanks rest blank ends
    have fields : positional members true record (inside texts ++ rest) =
        .ok (final, '\n' :: ']' :: rest) := by
      cases ordered with
      | done => exact absurd rfl nonempty
      | @next member members _ record' _ text texts item later =>
          rw [inside, List.append_assoc, positional, bind_ok (item.nextElement_first _)]
          refine (bind_ok (item.reads_before texts rest)).trans ?_
          exact positional_items later rest
    have closed : endArray ('\n' :: ']' :: rest) = .ok ((), rest) := endArray_of blank_newline rest
    rw [Reader.record, array, List.cons_append, bind_ok (peek_of blank rfl _)]
    show (advance >>= fun _ => positional members true record >>= fun record =>
      endArray >>= fun _ => pure record) ('[' :: (inside texts ++ rest)) = _
    rw [bind_ok (advance_of _ _), bind_ok fields, bind_ok closed]
    rfl

end Records

/-! ## Choices -/

section Choices

variable {cases : List (String × Case α)} {name : String} {value : α}

theorem plain_item (found : caseOf cases name = pure (.plain value)) :
    Item (choice cases) (quoted name) value where
  begins := ⟨_, _, rfl, rfl, by decide⟩
  reads := by
    intro blanks rest blank ends
    have said := string_quoted name no_blank rest
    rw [quoted, List.cons_append] at said ⊢
    rw [choice, bind_ok (peek_of blank rfl _)]
    refine (bind_ok said).trans ?_
    rw [found]
    rfl

theorem tagged_item {read : Reader α} (found : caseOf cases name = pure (.carrying read))
    {text : List Char} (reads : Reads read text value) :
    Item (choice cases) (tagged name text) value where
  begins := ⟨_, _, rfl, rfl, by decide⟩
  reads := by
    intro blanks rest blank ends
    generalize behind : '\n' :: '\x7d' :: rest = closing
    have written : tagged name text ++ rest = '\x7b' :: (quoted name ++ ':' :: (text ++ closing)) := by
      simp [tagged, ← behind]
    have said := string_quoted name no_blank (':' :: (text ++ closing))
    have colon : mark ':' (':' :: (text ++ closing)) = .ok ((), text ++ closing) :=
      mark_of no_blank rfl _
    have carried : read (text ++ closing) = .ok (value, closing) :=
      reads no_blank (behind ▸ ends_newline _)
    have closed : mark '\x7d' closing = .ok ((), rest) := behind ▸ mark_of blank_newline rfl rest
    rw [written, choice, bind_ok (peek_of blank rfl _)]
    refine (bind_ok (advance_of _ _)).trans ((bind_ok said).trans ?_)
    rw [found]
    show (mark ':' >>= fun _ => read >>= fun value => mark '\x7d' >>= fun _ => pure value)
      (':' :: (text ++ closing)) = _
    rw [bind_ok colon, bind_ok carried, bind_ok closed]
    rfl

end Choices

end Reader

end TorusEngine.Json
