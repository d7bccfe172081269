import Mathlib.Data.List.Forall2
import TorusEngine.Drawing.Pipeline
import TorusEngine.Proofs.Action

/-!
# Rebuilds of the back list

A rebuild that is finished has considered every candidate once, in order, and sorted what they add. It
writes to the back of a pair of lists, which leaves the front as it is.
-/

namespace TorusEngine.Drawing

/-! ## Complete rebuilds -/

namespace Rebuild

variable (geometry : Torus.Geometry Float) (radius : Float)

/-- What a candidate adds to a list, unless its position is needed and cannot be read. -/
def admitted (positions : Positions) (observer : Vec3 Float) (candidate : Candidate) :
    Option (List Entry) :=
  let entry (distance : Float) : Entry := ⟨candidate.marker, candidate.objectId, distance.toBits⟩
  if candidate.global then some [entry 0]
  else (positions candidate.marker).map fun position =>
    let distance := geometry.distance .euclidean position observer
    if distance < radius then [entry distance] else []

/-- What candidates add one after the other, each with the positions at its turn. -/
def Collects (observer : Vec3 Float) (candidates : List Candidate) (entries : List Entry) : Prop :=
  ∃ parts : List (List Entry), parts.flatten = entries ∧ List.Forall₂ (fun candidate part =>
    ∃ positions, admitted geometry radius positions observer candidate = some part) candidates parts

def Completes (rebuild : Rebuild) (entries : List Entry) : Prop :=
  ∃ collected, Collects geometry radius rebuild.observer rebuild.candidates collected ∧
    entries = collected.mergeSort Entry.precedes

variable {geometry radius} {positions : Positions} {observer : Vec3 Float} {candidate : Candidate}
  {list considered : DrawList}

theorem considered_entries
    (answered : consider geometry radius positions observer list candidate = .ok considered) :
    ∃ added, admitted geometry radius positions observer candidate = some added ∧
      considered.entries = list.entries ++ added := by
  unfold consider at answered
  unfold admitted
  dsimp only at answered ⊢
  split at answered
  · rename_i global
    cases answered
    exact ⟨_, if_pos global, rfl⟩
  · rename_i placed
    rw [if_neg placed]
    cases read : positions candidate.marker with
    | none =>
        rw [read] at answered
        cases answered
    | some position =>
        rw [read] at answered
        cases answered
        refine ⟨_, rfl, ?_⟩
        dsimp only
        split
        · rfl
        · exact (List.append_nil _).symm

theorem consider_error {left : DrawList}
    (failed : consider geometry radius positions observer list candidate = .error left) :
    left = list := by
  unfold consider at failed
  dsimp only at failed
  split at failed
  · cases failed
  · split at failed
    · cases failed
      rfl
    · cases failed

theorem run_ok {rebuild : Rebuild} {old built : DrawList}
    (ran : run geometry radius positions rebuild old = .ok built) : ∃ filled,
    rebuild.candidates.foldlM (consider geometry radius positions rebuild.observer) old.reset =
      .ok filled ∧ built = filled.sort := by
  unfold run at ran
  cases folded : rebuild.candidates.foldlM (consider geometry radius positions rebuild.observer)
      old.reset with
  | error unfinished =>
      rw [folded] at ran
      cases ran
  | ok filled =>
      rw [folded] at ran
      cases ran
      exact ⟨filled, rfl, rfl⟩

theorem run_error {rebuild : Rebuild} {old unfinished : DrawList}
    (ran : run geometry radius positions rebuild old = .error unfinished) :
    rebuild.candidates.foldlM (consider geometry radius positions rebuild.observer) old.reset =
      .error unfinished := by
  unfold run at ran
  cases folded : rebuild.candidates.foldlM (consider geometry radius positions rebuild.observer)
      old.reset with
  | error left =>
      rw [folded] at ran
      cases ran
      rfl
  | ok filled =>
      rw [folded] at ran
      cases ran

theorem Collects.nil : Collects geometry radius observer [] [] := ⟨[], rfl, .nil⟩

theorem Collects.eq_nil {entries : List Entry}
    (collects : Collects geometry radius observer [] entries) : entries = [] := by
  obtain ⟨parts, rfl, each⟩ := collects
  cases each
  rfl

theorem Collects.snoc {candidates : List Candidate}
    (collects : Collects geometry radius observer candidates list.entries)
    (answered : consider geometry radius positions observer list candidate = .ok considered) :
    Collects geometry radius observer (candidates ++ [candidate]) considered.entries := by
  obtain ⟨parts, flat, each⟩ := collects
  obtain ⟨added, admitted, entries⟩ := considered_entries answered
  refine ⟨parts ++ [added], ?_, ?_⟩
  · rw [entries, ← flat, List.flatten_append, List.flatten_singleton]
  · exact List.rel_append each (.cons ⟨positions, admitted⟩ .nil)

end Rebuild

/-! ## Two lists -/

namespace ListPair

variable {pair : ListPair} {side other : Side} {list : DrawList}

@[simp] theorem list_put_self (pair : ListPair) (side : Side) (list : DrawList) :
    (pair.put side list).list side = list := by
  cases side <;> rfl

theorem list_put_of_ne (different : other ≠ side) :
    (pair.put side list).list other = pair.list other := by
  cases side <;> cases other <;> first | rfl | exact absurd rfl different

@[simp] theorem put_frontSide : (pair.put side list).frontSide = pair.frontSide := by
  cases side <;> rfl

@[simp] theorem put_state : (pair.put side list).state = pair.state := by
  cases side <;> rfl

@[simp] theorem put_swaps : (pair.put side list).swaps = pair.swaps := by
  cases side <;> rfl

theorem put_list (pair : ListPair) (side : Side) : pair.put side (pair.list side) = pair := by
  cases side <;> rfl

theorem put_put {last : DrawList} : (pair.put side list).put side last = pair.put side last := by
  cases side <;> rfl

theorem other_ne (side : Side) : side.other ≠ side := by
  cases side <;> nofun

@[simp] theorem other_other (side : Side) : side.other.other = side := by
  cases side <;> rfl

theorem front_put_back : (pair.put pair.frontSide.other list).front = pair.front := by
  rw [front, put_frontSide, list_put_of_ne (other_ne pair.frontSide).symm, front]

theorem front_putFront : (pair.putFront list).front = list := by
  rw [front, putFront, put_frontSide, list_put_self]

theorem back_putFront :
    (pair.putFront list).list pair.frontSide.other = pair.list pair.frontSide.other :=
  list_put_of_ne (other_ne pair.frontSide)

theorem finish_ok (building : pair.state = .building) :
    finish pair = .ok () { pair with state := .ready } := by
  simp [finish, building]

theorem trySwap_of_ready (ready : pair.state = .ready) : trySwap pair = .ok true { pair with
    frontSide := pair.frontSide.other, swaps := pair.swaps + 1, state := .idle } := by
  simp [trySwap, Action.modifyGet_apply, ready]

theorem trySwap_of_unready (unready : pair.state ≠ .ready) : trySwap pair = .ok false pair := by
  simp [trySwap, Action.modifyGet_apply, unready]

theorem trySwap_ok {swapped : Bool} {left : ListPair} (ran : trySwap pair = .ok swapped left) :
    pair.state = .ready ∧ left = { pair with
        frontSide := pair.frontSide.other, swaps := pair.swaps + 1, state := .idle } ∨
      left = pair := by
  by_cases ready : pair.state = .ready
  · cases ran.symm.trans (trySwap_of_ready ready)
    exact .inl ⟨ready, rfl⟩
  · cases ran.symm.trans (trySwap_of_unready ready)
    exact .inr rfl

theorem trySwap_answers (pair : ListPair) : ∃ swapped left, trySwap pair = .ok swapped left := by
  by_cases ready : pair.state = .ready
  · exact ⟨_, _, trySwap_of_ready ready⟩
  · exact ⟨_, _, trySwap_of_unready ready⟩

theorem begin_of_idle (idle : pair.state = .idle) :
    begin pair = .ok true { pair with state := .building } := by
  simp [begin, Action.modifyGet_apply, idle]

theorem begin_of_busy (busy : pair.state ≠ .idle) : begin pair = .ok false pair := by
  simp [begin, Action.modifyGet_apply, busy]

theorem begin_ok {begun : Bool} {left : ListPair} (ran : begin pair = .ok begun left) :
    pair.state = .idle ∧ begun = true ∧ left = { pair with state := .building } ∨
      pair.state ≠ .idle ∧ begun = false ∧ left = pair := by
  by_cases idle : pair.state = .idle
  · cases ran.symm.trans (begin_of_idle idle)
    exact .inl ⟨idle, rfl, rfl⟩
  · cases ran.symm.trans (begin_of_busy idle)
    exact .inr ⟨idle, rfl, rfl⟩

end ListPair

end TorusEngine.Drawing
