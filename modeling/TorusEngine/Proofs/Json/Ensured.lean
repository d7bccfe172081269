import TorusEngine.Json.Shape
import TorusEngine.Proofs.Json.Scaling

/-!
# What readers ensure

Whatever a reader is given, the value that it gives has the form of its type (`Ensures`): a size is
below its limit, and a double is finite (`Reader.float_ensures`). A record has a property that its
standard values have and that no field destroys (`Reader.record_ensures`).
-/

namespace TorusEngine.Json

open Numeral.Binary64

/-! ## Numbers -/

inductive Number.Sayable : Number → Prop where
  | natural {n : Nat} (short : n < 2 ^ 64) : Sayable (.natural n)
  | negative {n : Int} (short : -2 ^ 63 ≤ n) (negative : n < 0) : Sayable (.negative n)
  | real {x : Float} (finite : x.isFinite = true) : Sayable (.real x)

namespace NumberText

theorem absorb_lt {significand : Nat} (short : significand < 2 ^ 64) (digits : List Nat) :
    (absorb significand digits).1 < 2 ^ 64 := by
  induction digits generalizing significand with
  | nil => exact short
  | cons digit digits ih =>
      rw [absorb]
      split_ifs with room
      · exact ih room
      · exact short

theorem toDouble_sayable {negative : Bool} {significand : Nat} {exponent : Int} {number : Number}
    (short : significand < 2 ^ 64) (said : toDouble negative significand exponent = .ok number) :
    number.Sayable := by
  obtain ⟨size, stands, nonneg⟩ := exists_standsFor_ofNat short
  rw [toDouble] at said
  cases scaled : scale 4 (UInt64.ofNat significand).toFloat exponent with
  | error problem =>
      rw [scaled] at said
      cases said
  | ok magnitude =>
      rw [scaled] at said
      cases said
      have finite := scale_finite stands nonneg scaled
      refine .real ?_
      split
      · exact (StandsFor.neg ⟨finite, rfl⟩).finite
      · exact finite

theorem integerValue_sayable {negative : Bool} {significand : Nat} (short : significand < 2 ^ 64) :
    (integerValue negative significand).Sayable := by
  obtain ⟨size, stands, -⟩ := exists_standsFor_ofNat short
  rw [integerValue]
  split_ifs with positive large
  · exact .natural short
  · exact .real stands.neg.finite
  · simp only [Bool.or_eq_true, decide_eq_true_eq] at large
    exact .negative (by omega) (by omega)

theorem value_sayable {text : NumberText} {number : Number} (said : text.value = .ok number) :
    number.Sayable := by
  have short : (absorb (absorb 0 text.integer).1 text.fraction).1 < 2 ^ 64 :=
    absorb_lt (absorb_lt (by norm_num) _) _
  simp only [value] at said
  split at said
  · split at said
    · cases said
      exact integerValue_sayable short
    · exact toDouble_sayable short said
  · split at said
    · exact toDouble_sayable short said
    · split at said
      · cases said
      · cases said
        refine .real ?_
        split
        · exact standsFor_zero.neg.finite
        · exact standsFor_zero.finite

end NumberText

namespace Number

variable {number : Number}

theorem Sayable.isFinite_toFloat (sayable : number.Sayable) : number.toFloat.isFinite = true := by
  cases sayable with
  | natural short =>
      obtain ⟨size, stands, -⟩ := exists_standsFor_ofNat short
      exact stands.finite
  | negative short negative => exact isFinite_ofInt short negative
  | real finite => exact finite

theorem lt_of_toSize? {limit size : Nat} (said : number.toSize? limit = some size) : size < limit := by
  cases number with
  | natural n =>
      rw [toSize?] at said
      split_ifs at said with small
      cases said
      exact small
  | negative | real => cases said

end Number

namespace Reader

variable {α β σ : Type}

/-! ## Postconditions -/

def Ensures (reader : Reader α) (good : α → Prop) : Prop :=
  ∀ ⦃text value rest⦄, reader text = .ok (value, rest) → good value

namespace Ensures

variable {reader : Reader α} {next : α → Reader β} {good : α → Prop} {good' : β → Prop}

theorem bind (first : Ensures reader good) (second : ∀ value, good value → Ensures (next value) good') :
    Ensures (reader >>= next) good' := by
  intro text value rest read
  change (reader text >>= fun said => next said.1 said.2) = _ at read
  cases step : reader text with
  | error problem =>
      rw [step] at read
      cases read
  | ok pair =>
      rw [step] at read
      exact second pair.1 (first step) read

theorem after (second : ∀ value, Ensures (next value) good') : Ensures (reader >>= next) good' :=
  bind (fun _ _ _ _ => trivial : Ensures reader fun _ => True) fun value _ => second value

theorem throw (problem : Problem) : Ensures (MonadExceptOf.throw problem : Reader α) good := by
  intro text value rest read
  cases read

theorem throw_bind (problem : Problem) :
    Ensures ((MonadExceptOf.throw problem : Reader α) >>= next) good' := by
  intro text value rest read
  cases read

theorem pure {value : α} (holds : good value) : Ensures (Pure.pure value : Reader α) good := by
  intro text found rest read
  cases read
  exact holds

theorem lift {outcome : Except Problem α} (holds : ∀ value, outcome = .ok value → good value) :
    Ensures (liftM outcome : Reader α) good := by
  intro text value rest read
  cases outcome with
  | error problem => cases read
  | ok found =>
      cases read
      exact holds _ rfl

end Ensures

theorem Ensures.run {reader : Reader α} {good : α → Prop} {text : String} {value : α}
    (ensured : Ensures reader good) (read : reader.run text = .ok value) : good value := by
  rw [Reader.run] at read
  cases found : reader text.toList with
  | error problem =>
      rw [found] at read
      cases read
  | ok pair =>
      rw [found] at read
      change (if pair.2.all isBlank then Except.ok pair.1 else .error Problem.malformed) = _ at read
      split at read <;> cases read
      exact ensured found

theorem wrongType_ensures {good : α → Prop} : Ensures (wrongType : Reader α) good := by
  unfold wrongType
  refine .after fun c => ?_
  split
  case h_5 | h_6 => exact .throw _
  case h_7 =>
    split
    · exact .after fun _ => .after fun _ => .throw _
    · exact .after fun _ => .throw _
  all_goals exact .after fun _ => .throw _

theorem number_ensures : Ensures number Number.Sayable := by
  unfold number
  refine .after fun c => ?_
  split
  · exact .after fun _ => .lift fun _ said => NumberText.value_sayable said
  · exact wrongType_ensures

theorem expectSome_ensures {good : α → Prop} {found : Option α}
    (holds : ∀ value, found = some value → good value) : Ensures (expectSome found) good := by
  cases found with
  | none => exact .throw _
  | some value => exact .pure (holds value rfl)

theorem sizeBelow_ensures (limit : Nat) : Ensures (sizeBelow limit) (· < limit) :=
  .after fun _ => expectSome_ensures fun _ said => Number.lt_of_toSize? said

theorem float_ensures : Ensures float (·.isFinite = true) :=
  number_ensures.bind fun _ sayable => .pure sayable.isFinite_toFloat

/-! ## Records -/

section Records

variable {good : σ → Prop} {members : List (Member σ)}

theorem positional_ensures (kept : ∀ member ∈ members, ∀ record, good record →
    Ensures (member.read record) good) (first : Bool) {record : σ} (holds : good record) :
    Ensures (positional members first record) good := by
  induction members generalizing first record with
  | nil => exact .pure holds
  | cons member members ih =>
      have later := ih fun member belongs => kept member (.tail _ belongs)
      rw [positional]
      refine .after fun more => ?_
      split
      · exact (kept member (.head _) record holds).bind fun record holds => later false holds
      · split
        · exact .throw _
        · exact later first holds

theorem named_ensures (kept : ∀ member ∈ members, ∀ record, good record →
    Ensures (member.read record) good) (fuel : Nat) (first : Bool) (seen : List String) {record : σ}
    (holds : good record) : Ensures (named members fuel first seen record) good := by
  induction fuel generalizing first seen record with
  | zero => exact .throw _
  | succ fuel ih =>
      rw [named]
      refine .after fun key => ?_
      split
      · split
        · exact .throw _
        · exact .pure holds
      · split
        · exact .after fun _ => .after fun _ => ih false _ holds
        · rename_i member found
          split
          · exact .throw_bind _
          · exact .after fun _ => (kept member (List.mem_of_find?_eq_some found) record holds).bind
              fun record holds => ih false _ holds

theorem record_ensures (kept : ∀ member ∈ members, ∀ record, good record →
    Ensures (member.read record) good) {start : σ} (holds : good start) :
    Ensures (record members start) good := by
  unfold record
  refine .after fun c => ?_
  split
  · exact .after fun _ => (positional_ensures kept true holds).bind fun record holds =>
      .after fun _ => .pure holds
  · exact .after fun _ => .after fun text => (named_ensures kept (text.length + 1) true [] holds).bind
      fun record holds => .after fun _ => .pure holds
  · exact wrongType_ensures

end Records

/-! ## Sequences and choices -/

section Sequences

variable {item : Reader α} {good : α → Prop}

theorem elements_ensures (ensured : Ensures item good) (fuel : Nat) (first : Bool) :
    Ensures (elements item fuel first) (∀ value ∈ ·, good value) := by
  induction fuel generalizing first with
  | zero => exact .throw _
  | succ fuel ih =>
      rw [elements]
      refine .after fun more => ?_
      split
      · exact ensured.bind fun head holds => (ih false).bind fun others all =>
          .pure (List.forall_mem_cons.mpr ⟨holds, all⟩)
      · exact .pure nofun

theorem list_ensures (ensured : Ensures item good) : Ensures (list item) (∀ value ∈ ·, good value) := by
  unfold list
  refine .after fun c => ?_
  split
  · exact .after fun _ => .after fun text => (elements_ensures ensured (text.length + 1) true).bind
      fun items all => .after fun _ => .pure all
  · exact wrongType_ensures

end Sequences

section Choices

variable {cases : List (String × Case α)} {good : α → Prop}

def CaseEnsures (good : α → Prop) : Case α → Prop
  | .plain value => good value
  | .carrying read => Ensures read good

theorem caseOf_ensures (all : ∀ entry ∈ cases, CaseEnsures good entry.2) (name : String) :
    Ensures (caseOf cases name) (CaseEnsures good) := by
  refine expectSome_ensures fun chosen found => ?_
  obtain ⟨entry, first, rfl⟩ := Option.map_eq_some_iff.mp found
  exact all entry (List.mem_of_find?_eq_some first)

theorem choice_ensures (all : ∀ entry ∈ cases, CaseEnsures good entry.2) :
    Ensures (choice cases) good := by
  have chosen := caseOf_ensures all
  unfold choice
  refine .after fun c => ?_
  split
  · refine .after fun name => (chosen name).bind fun chosen holds => ?_
    cases chosen with
    | plain value => exact .pure holds
    | carrying read => exact .throw _
  · refine .after fun _ => .after fun name => (chosen name).bind fun chosen holds => .after fun _ => ?_
    cases chosen with
    | plain value =>
        have known : good value := holds
        exact .after fun _ => (Ensures.pure known).bind fun value known => .after fun _ => .pure known
    | carrying read => exact Ensures.bind holds fun value holds => .after fun _ => .pure holds
  · exact .throw _

end Choices

end Reader

end TorusEngine.Json
