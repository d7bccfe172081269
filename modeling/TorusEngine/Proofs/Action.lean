import TorusEngine.Action

/-!
# States that actions leave

An action leaves a state behind whether it answers or faults. `Respects` says that an action ties every
state to the state it leaves by a given relation; a transitive relation passes through sequences, loops
and actions on parts.
-/

namespace TorusEngine.Action

variable {σ τ α β : Type}

def after (action : Action σ α) (state : σ) : σ := (outcome action state).2

def answer (action : Action σ α) (state : σ) : Except Fault α := (outcome action state).1

def left : EStateM.Result Fault σ α → σ
  | .ok _ state => state
  | .error _ state => state

theorem after_eq_left (action : Action σ α) (state : σ) : after action state = left (action state) := by
  cases ran : action state <;> simp [after, outcome, ran, left]

theorem after_of_ok {action : Action σ α} {state left : σ} {value : α}
    (ran : action state = .ok value left) : after action state = left := by
  simp [after, outcome, ran]

theorem after_of_error {action : Action σ α} {state left : σ} {fault : Fault}
    (ran : action state = .error fault left) : after action state = left := by
  simp [after, outcome, ran]

theorem modifyGet_apply (change : σ → α × σ) (state : σ) :
    (modifyGet change : Action σ α) state = .ok (change state).1 (change state).2 := rfl

theorem ok_of_answer {action : Action σ α} {state : σ} {value : α}
    (answered : answer action state = .ok value) : action state = .ok value (after action state) := by
  cases ran : action state <;> simp [answer, after, outcome, ran] at answered ⊢
  exact answered

theorem error_of_answer {action : Action σ α} {state : σ} {fault : Fault}
    (answered : answer action state = .error fault) :
    action state = .error fault (after action state) := by
  cases ran : action state <;> simp [answer, after, outcome, ran] at answered ⊢
  exact answered

theorem after_bind (action : Action σ α) (next : α → Action σ β) (state : σ) :
    after (action >>= next) state = match action state with
      | .ok value middle => after (next value) middle
      | .error _ middle => middle := by
  cases ran : action state <;> simp [after, outcome, ran]

theorem bind_ok {action : Action σ α} {next : α → Action σ β} {state left : σ} {value : β} :
    (action >>= next) state = .ok value left ↔
      ∃ first middle, action state = .ok first middle ∧ next first middle = .ok value left := by
  cases ran : action state <;> simp [ran, and_assoc]

theorem liftM_ok {result : Except Fault α} {state left : σ} {value : α} :
    (liftM result : Action σ α) state = .ok value left ↔ result = .ok value ∧ state = left := by
  cases result <;> simp

theorem within_ok {part : σ → τ} {replace : τ → σ → σ} {action : Action τ α} {state left : σ}
    {value : α} : within part replace action state = .ok value left ↔
      ∃ middle, action (part state) = .ok value middle ∧ replace middle state = left := by
  cases ran : action (part state) <;> simp [within, ran, and_assoc]

theorem after_map (change : α → β) (action : Action σ α) (state : σ) :
    after (change <$> action) state = after action state := by
  cases ran : action state <;> simp [after, outcome, ran]

theorem after_inspect (compute : σ → Except Fault α) (state : σ) :
    after (inspect compute) state = state := by
  cases computed : compute state <;> simp [after, outcome, inspect_apply, computed]

theorem after_ofExcept (result : Except Fault α) (state : σ) :
    after (liftM result : Action σ α) state = state := by
  cases result <;> simp [after, outcome]

theorem after_within (part : σ → τ) (replace : τ → σ → σ) (action : Action τ α) (state : σ) :
    after (within part replace action) state = replace (after action (part state)) state := by
  cases ran : action (part state) <;> simp [after, outcome, within, ran]

def Respects (relation : σ → σ → Prop) (action : Action σ α) : Prop :=
  ∀ state, relation state (after action state)

namespace Respects

variable {relation : σ → σ → Prop}

theorem of_ok {action : Action σ α} {state left : σ} {value : α}
    (respects : Respects relation action) (ran : action state = .ok value left) :
    relation state left := by
  rw [← after_of_ok ran]
  exact respects state

theorem of_error {action : Action σ α} {state left : σ} {fault : Fault}
    (respects : Respects relation action) (ran : action state = .error fault left) :
    relation state left := by
  rw [← after_of_error ran]
  exact respects state

theorem pure [Std.Refl relation] (value : α) : Respects relation (pure value : Action σ α) :=
  fun state => Std.Refl.refl state

theorem throw [Std.Refl relation] (fault : Fault) : Respects relation (throw fault : Action σ α) :=
  fun state => Std.Refl.refl state

theorem bind [Trans relation relation relation] {action : Action σ α} {next : α → Action σ β}
    (first : Respects relation action) (second : ∀ value, Respects relation (next value)) :
    Respects relation (action >>= next) := by
  intro state
  have reached := first state
  rw [after_bind]
  cases ran : action state with
  | ok value middle =>
      rw [after_of_ok ran] at reached
      exact Trans.trans reached (second value middle)
  | error fault middle =>
      rw [after_of_error ran] at reached
      exact reached

theorem ofExcept [Std.Refl relation] (result : Except Fault α) :
    Respects relation (liftM result : Action σ α) := by
  intro state
  rw [after_ofExcept]
  exact Std.Refl.refl state

theorem modify {change : σ → σ} (keeps : ∀ state, relation state (change state)) :
    Respects relation (modify change : Action σ PUnit) := by
  intro state
  rw [after_of_ok (Action.modify_apply change state)]
  exact keeps state

theorem get_bind {next : σ → Action σ α}
    (reads : ∀ state, relation state (after (next state) state)) :
    Respects relation (get >>= next) := by
  intro state
  rw [after_bind]
  exact reads state

theorem refusal? {action : Action σ Unit} (respects : Respects relation action) :
    Respects relation (Action.refusal? action) := by
  intro state
  have reached := respects state
  rw [after_eq_left] at reached ⊢
  unfold Action.refusal?
  generalize action state = ended at reached
  cases ended with
  | ok value state => exact reached
  | error fault state => cases fault <;> exact reached

theorem foldlM [Std.Refl relation] [Trans relation relation relation]
    {step : β → α → Action σ β} (keeps : ∀ folded item, Respects relation (step folded item))
    (folded : β) (items : List α) : Respects relation (items.foldlM step folded) := by
  induction items generalizing folded with
  | nil => exact Respects.pure folded
  | cons item rest ih =>
      rw [List.foldlM_cons]
      exact (keeps folded item).bind ih

end Respects

theorem foldlM_ok {keeps : σ → Prop} {step : β → α → Action σ β} {items : List α}
    (answers : ∀ item ∈ items, ∀ folded state, keeps state →
      ∃ value left, step folded item state = .ok value left ∧ keeps left)
    (folded : β) {state : σ} (kept : keeps state) :
    ∃ value left, items.foldlM step folded state = .ok value left ∧ keeps left := by
  induction items generalizing folded state with
  | nil => exact ⟨folded, state, rfl, kept⟩
  | cons item rest ih =>
      obtain ⟨value, middle, first, still⟩ := answers item List.mem_cons_self folded state kept
      obtain ⟨last, left, others, final⟩ :=
        ih (fun item member => answers item (List.mem_cons_of_mem _ member)) value still
      exact ⟨last, left, by simp [first, others], final⟩

end TorusEngine.Action
