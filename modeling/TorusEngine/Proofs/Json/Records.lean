import TorusEngine.Proofs.Json.Spelling

/-!
# Reading printed documents

A reader passes over the blanks in front of a value and takes what was printed for it (`Reads`). A
record is read from its printed members if each member is (`Filled`).
-/

namespace TorusEngine.Json

namespace Reader

variable {α σ : Type}

/-- A reader passes over blanks, takes a text and gives a value for it, whatever ends the text. -/
def Reads (reader : Reader α) (text : List Char) (value : α) : Prop :=
  ∀ ⦃blanks rest⦄, (∀ c ∈ blanks, isBlank c = true) → Ends rest →
    reader (blanks ++ (text ++ rest)) = .ok (value, rest)

theorem Reads.run {reader : Reader α} {text : String} {value : α}
    (reads : Reads reader text.toList value) : reader.run text = .ok value := by
  have read := @reads [] [] nofun nofun
  rw [List.nil_append, List.append_nil] at read
  rw [Reader.run, read]
  rfl

/-! ## Marks -/

section Marks

variable {blanks : List Char} {c : Char}

theorem peek_of (blank : ∀ c ∈ blanks, isBlank c = true) (mark : isBlank c = false) (rest : List Char) :
    peek (blanks ++ c :: rest) = .ok (c, c :: rest) := by
  have dropped : (blanks ++ c :: rest).dropWhile isBlank = c :: rest := by
    rw [List.dropWhile_append_of_pos blank, List.dropWhile_cons_of_neg (by simp [mark])]
  have found : peek? (blanks ++ c :: rest) = .ok (some c, c :: rest) := by
    change Except.ok (((blanks ++ c :: rest).dropWhile isBlank).head?,
      (blanks ++ c :: rest).dropWhile isBlank) = _
    rw [dropped]
    rfl
  rw [peek, bind_ok found]
  rfl

theorem mark_of (blank : ∀ c ∈ blanks, isBlank c = true) (mark : isBlank c = false) (rest : List Char) :
    Reader.mark c (blanks ++ c :: rest) = .ok ((), rest) := by
  rw [Reader.mark, bind_ok (peek_of blank mark rest), if_pos rfl]
  rfl

theorem advance_of (c : Char) (rest : List Char) : advance (c :: rest) = .ok ((), rest) := rfl

theorem get_of (text : List Char) : (get : Reader (List Char)) text = .ok (text, text) := rfl

end Marks

/-! ## Numbers -/

theorem isBlank_of_isDigit {c : Char} (digit : c.isDigit = true) : isBlank c = false := by
  rw [isBlank]
  have different (d : Char) (other : d.isDigit = false) : (c = d : Bool) = false := by
    rw [decide_eq_false_iff_not]
    rintro rfl
    rw [digit] at other
    cases other
  rw [different ' ' rfl, different '\n' rfl, different '\t' rfl, different '\r' rfl]
  rfl

theorem number_reads {parts : Parts} {said : Number} (valid : parts.Valid)
    (value : parts.said.value = .ok said) : Reads number parts.text said := by
  intro blanks rest blank ends
  obtain ⟨c, text, first, digit⟩ : ∃ c text, parts.text = c :: text ∧ (c = '-' ∨ c.isDigit = true) := by
    rw [Parts.text]
    cases parts.negative with
    | true => exact ⟨'-', _, rfl, .inl rfl⟩
    | false =>
        obtain ⟨c, cs, integer⟩ := List.exists_cons_of_ne_nil valid.nonempty
        rw [integer]
        exact ⟨c, _, rfl, .inr (valid.integer c (integer ▸ .head _))⟩
  have mark : isBlank c = false := by
    rcases digit with rfl | digit
    · rfl
    · exact isBlank_of_isDigit digit
  have taken := valid.takes .truncated ends
  rw [first, List.cons_append] at taken ⊢
  have number : (c = '-' || c.isDigit) = true := by simpa using digit
  rw [Reader.number, bind_ok (peek_of blank mark _), if_pos number, bind_ok taken, value]
  rfl

def wholeParts (n : Nat) : Parts := ⟨false, Nat.toDigits 10 n, [], none⟩

theorem toList_natural (n : Nat) : (toString n).toList = (wholeParts n).text := by
  rw [Nat.toString_eq_repr, Nat.toList_repr]
  simp [wholeParts, Parts.text, Parts.fractionText, Parts.exponentText]

theorem valid_wholeParts (n : Nat) : (wholeParts n).Valid := by
  refine ⟨fun _ => isDigit_toDigits, Nat.toDigits_ne_nil, fun long => ?_, by simp [wholeParts],
    by simp [wholeParts]⟩
  rcases Nat.eq_zero_or_pos n with rfl | positive
  · exact absurd long (by decide)
  · exact head?_toDigits positive

theorem sizeBelow_reads {n limit : Nat} (small : n < limit) (short : limit ≤ 2 ^ 64) :
    Reads (sizeBelow limit) (toString n).toList n := by
  intro blanks rest blank ends
  have significand : (wholeParts n).significand = n := by simp [Parts.significand, wholeParts]
  have said := Parts.value_whole (significand.trans_lt (small.trans_le short)) rfl rfl
  have size : (NumberText.integerValue (wholeParts n).negative n).toSize? limit = some n := if_pos small
  rw [significand] at said
  rw [toList_natural, sizeBelow, bind_ok (number_reads (valid_wholeParts n) said blank ends), size]
  rfl

theorem float_reads {number : Float} (finite : number.isFinite = true) (depth : Nat) : ∃ back,
    Reads float ((Document.real number).print depth).toList back ∧ Reread number back := by
  obtain ⟨size, read⟩ := Numeral.Binary64.exists_magnitude finite
  obtain ⟨back, said, reread⟩ := value_printed read
  refine ⟨back, fun blanks rest blank ends => ?_, reread⟩
  rw [Document.print, if_pos finite, toList_render read, float,
    bind_ok (number_reads (valid_spelled _ _) said blank ends)]
  rfl

/-! ## Keys -/

def Plain (key : String) : Prop := ∀ c ∈ key.toList, c ≠ '"' ∧ c ≠ '\\' ∧ ' ' ≤ c

theorem scan_visible {c : Char} (noQuote : c ≠ '"') (noEscape : c ≠ '\\') (visible : ' ' ≤ c)
    (rest : List Char) : Text.scan true (c :: rest) = Text.push c <$> Text.scan true rest := by
  rw [Text.scan, if_neg (Char.not_lt.mpr visible)]
  · exact noQuote
  all_goals simp [noEscape]

theorem scan_of_plain {cs : List Char} (plain : ∀ c ∈ cs, c ≠ '"' ∧ c ≠ '\\' ∧ ' ' ≤ c)
    (rest : List Char) : Text.scan true (cs ++ '"' :: rest) = .ok (cs, rest) := by
  induction cs with
  | nil => rfl
  | cons c cs ih =>
      obtain ⟨noQuote, noEscape, visible⟩ := plain c (.head _)
      have later := ih fun c belongs => plain c (.tail _ belongs)
      rw [List.cons_append, scan_visible noQuote noEscape visible, later]
      rfl

theorem string_of {key : String} (plain : Plain key) {blanks : List Char}
    (blank : ∀ c ∈ blanks, isBlank c = true) (rest : List Char) :
    string (blanks ++ '"' :: (key.toList ++ '"' :: rest)) = .ok (key, rest) := by
  have body : stringBody true (key.toList ++ '"' :: rest) = .ok (key, rest) := by
    rw [stringBody, scan_of_plain plain]
    exact congrArg (fun key => Except.ok (key, rest)) String.ofList_toList
  rw [string, bind_ok (mark_of blank rfl _), body]

theorem no_blank : ∀ c ∈ ([] : List Char), isBlank c = true := nofun

section Keys

variable {key : String} {blanks : List Char}

theorem someKey_of (plain : Plain key) (blank : ∀ c ∈ blanks, isBlank c = true) (rest : List Char) :
    (do if (← peek) = '"' then return some (← string) else throw .malformed : Reader (Option String))
      (blanks ++ '"' :: (key.toList ++ '"' :: rest)) = .ok (some key, rest) := by
  rw [bind_ok (peek_of blank rfl _), if_pos rfl]
  exact bind_ok (string_of plain no_blank rest)

theorem nextKey_first (plain : Plain key) (blank : ∀ c ∈ blanks, isBlank c = true) (rest : List Char) :
    nextKey true (blanks ++ '"' :: (key.toList ++ '"' :: rest)) = .ok (some key, rest) := by
  rw [nextKey, bind_ok (peek_of blank rfl _), if_neg (by decide), if_neg (by decide),
    if_neg (by decide)]
  exact someKey_of plain no_blank rest

theorem nextKey_later (plain : Plain key) (blank : ∀ c ∈ blanks, isBlank c = true) (rest : List Char) :
    nextKey false (',' :: (blanks ++ '"' :: (key.toList ++ '"' :: rest))) = .ok (some key, rest) := by
  refine (bind_ok (peek_of no_blank rfl _)).trans ?_
  rw [if_neg (by decide), if_neg (by decide), if_pos (by decide)]
  exact someKey_of plain blank rest

end Keys

theorem nextKey_last {blanks : List Char} (blank : ∀ c ∈ blanks, isBlank c = true) (first : Bool)
    (rest : List Char) : nextKey first (blanks ++ '\x7d' :: rest) = .ok (none, '\x7d' :: rest) := by
  rw [nextKey, bind_ok (peek_of blank rfl _), if_pos rfl]
  rfl

/-! ## Records -/

section Records

variable {members : List (Member σ)} {depth : Nat}

theorem named_step {fuel : Nat} {first : Bool} {seen : List String} {record record' : σ} {key : String}
    {member : Member σ} {text valueText behind : List Char}
    (next : nextKey first text = .ok (some key, ':' :: ' ' :: (valueText ++ behind)))
    (found : members.find? (·.name = key) = some member) (new : key ∉ seen)
    (reads : Reads (member.read record) valueText record') (ends : Ends behind) :
    named members (fuel + 1) first seen record text =
      named members fuel false (key :: seen) record' behind := by
  have colon : mark ':' (':' :: ' ' :: (valueText ++ behind)) = .ok ((), ' ' :: (valueText ++ behind)) :=
    mark_of no_blank rfl _
  have value : member.read record (' ' :: (valueText ++ behind)) = .ok (record', behind) :=
    reads (by simp [isBlank] : ∀ c ∈ [' '], isBlank c = true) ends
  rw [named, bind_ok next]
  simp only [found]
  rw [if_neg new, bind_ok colon, bind_ok value]

inductive Filled (members : List (Member σ)) (depth : Nat) :
    List String → σ → List (String × Document) → σ → Prop where
  | done {seen : List String} {record : σ}
      (complete : (members.any fun member => member.required && member.name ∉ seen) = false) :
      Filled members depth seen record [] record
  | next {seen : List String} {record record' final : σ} {key : String} {document : Document}
      {rest : List (String × Document)} {member : Member σ} (plain : Plain key)
      (found : members.find? (·.name = key) = some member) (new : key ∉ seen)
      (reads : Reads (member.read record) (document.print depth).toList record')
      (later : Filled members depth (key :: seen) record' rest final) :
      Filled members depth seen record ((key, document) :: rest) final

def behind (depth : Nat) (closing : List Char) : List (String × Document) → List Char
  | [] => closing
  | member :: rest =>
      ',' :: '\n' :: ((Document.printMembers depth (member :: rest)).toList ++ closing)

theorem printMembers_append (key : String) (document : Document) (rest : List (String × Document))
    (closing : List Char) :
    (Document.printMembers depth ((key, document) :: rest)).toList ++ closing =
      (Document.margin depth).toList ++ '"' :: (key.toList ++ '"' :: ':' :: ' ' ::
        ((document.print depth).toList ++ behind depth closing rest)) := by
  cases rest with
  | nil => simp [Document.printMembers, behind]
  | cons member rest => simp [Document.printMembers, behind]

theorem blank_line (depth : Nat) : ∀ c ∈ '\n' :: (Document.margin depth).toList, isBlank c = true := by
  rintro c (_ | ⟨_, belongs⟩)
  · rfl
  · rw [Document.margin, String.toList_ofList] at belongs
    rw [List.eq_of_mem_replicate belongs]
    rfl

theorem length_le_behind (docs : List (String × Document)) (closing : List Char) :
    docs.length ≤ (behind depth closing docs).length := by
  induction docs with
  | nil => exact Nat.zero_le _
  | cons member docs ih =>
      rw [behind, printMembers_append]
      simp only [List.length_cons, List.length_append]
      omega

theorem ends_behind (docs : List (String × Document)) {closing : List Char} (ends : Ends closing) :
    Ends (behind depth closing docs) := by
  cases docs with
  | nil => exact ends
  | cons member rest => exact ends_comma _

section Closing

variable {docs : List (String × Document)} {final : σ} {blanks rest : List Char}

theorem named_behind {seen : List String} {record : σ}
    (filled : Filled members depth seen record docs final) (blank : ∀ c ∈ blanks, isBlank c = true)
    (ends : Ends (blanks ++ '\x7d' :: rest)) {fuel : Nat} (enough : docs.length < fuel) :
    named members fuel false seen record (behind depth (blanks ++ '\x7d' :: rest) docs) =
      .ok (final, '\x7d' :: rest) := by
  induction filled generalizing fuel with
  | done complete =>
      obtain ⟨fuel, rfl⟩ := Nat.exists_eq_succ_of_ne_zero (Nat.ne_zero_of_lt enough)
      rw [named, behind, bind_ok (nextKey_last blank false rest)]
      simp only [complete]
      rfl
  | @next seen record record' final key document docs member plain found new reads later ih =>
      obtain ⟨fuel, rfl⟩ := Nat.exists_eq_succ_of_ne_zero (Nat.ne_zero_of_lt enough)
      rw [behind, printMembers_append, ← List.cons_append,
        named_step (nextKey_later plain (blank_line depth) _) found new reads (ends_behind docs ends)]
      exact ih (Nat.lt_of_succ_lt_succ enough)

/-- All members are read up to the closing bracket; there are more characters than members. -/
theorem named_printed {start : σ} (nonempty : docs ≠ []) (filled : Filled members depth [] start docs final)
    (blank : ∀ c ∈ blanks, isBlank c = true) (ends : Ends (blanks ++ '\x7d' :: rest)) {text : List Char}
    (printed : text =
      '\n' :: ((Document.printMembers depth docs).toList ++ (blanks ++ '\x7d' :: rest))) :
    named members (text.length + 1) true [] start text = .ok (final, '\x7d' :: rest) := by
  cases filled with
  | done => exact absurd rfl nonempty
  | @next _ _ record' _ key document docs member plain found new reads later =>
      rw [printMembers_append, ← List.cons_append] at printed
      have enough : docs.length < text.length := by
        have few := @length_le_behind depth docs (blanks ++ '\x7d' :: rest)
        rw [printed]
        simp only [List.length_append, List.length_cons] at few ⊢
        omega
      have first := nextKey_first plain (blank_line depth) (':' :: ' ' ::
        ((document.print depth).toList ++ behind depth (blanks ++ '\x7d' :: rest) docs))
      rw [← printed] at first
      rw [named_step first found new reads (ends_behind docs ends)]
      exact named_behind later blank ends enough

end Closing

theorem record_reads {start final : σ} {docs : List (String × Document)} (nonempty : docs ≠ [])
    (filled : Filled members (depth + 1) [] start docs final) :
    Reads (record members start) ((Document.object docs).print depth).toList final := by
  intro blanks rest blank ends
  generalize inside : '\n' :: ((Document.printMembers (depth + 1) docs).toList ++
    (('\n' :: (Document.margin depth).toList) ++ '\x7d' :: rest)) = text
  have printed : ((Document.object docs).print depth).toList ++ rest = '\x7b' :: text := by
    obtain ⟨member, docs, rfl⟩ := List.exists_cons_of_ne_nil nonempty
    rw [← inside]
    simp [Document.print]
  have closes : Ends (('\n' :: (Document.margin depth).toList) ++ '\x7d' :: rest) := ends_newline _
  have filled := named_printed nonempty filled (blank_line depth) closes inside.symm
  have closed : mark '\x7d' ('\x7d' :: rest) = .ok ((), rest) := mark_of no_blank rfl rest
  rw [printed, record, bind_ok (peek_of blank rfl _)]
  show (advance >>= fun _ => get >>= fun text => named members (text.length + 1) true [] start >>=
    fun record => mark '\x7d' >>= fun _ => pure record) ('\x7b' :: text) = _
  rw [bind_ok (advance_of _ _), bind_ok (get_of _), bind_ok filled, bind_ok closed]
  rfl

end Records

end Reader

end TorusEngine.Json
