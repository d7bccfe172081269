import TorusEngine.Fault

/-!
# Actions

An action works on a state and either answers or faults. In both cases it leaves a state behind: a
fault in the middle of an operation keeps what the operation has done so far, so what remains after
a fault is part of every action's meaning.
-/

namespace TorusEngine

/-- A computation on a state that may fault; the state that it reaches is kept either way. -/
abbrev Action (σ α : Type) := EStateM Fault σ α

namespace Action

variable {σ τ α β : Type}

def ofExcept : Except Fault α → Action σ α
  | .ok answer => pure answer
  | .error fault => throw fault

instance : MonadLift (Except Fault) (EStateM Fault σ) := ⟨ofExcept⟩

def outcome (action : Action σ α) (state : σ) : Except Fault α × σ :=
  match action state with
  | .ok answer after => (.ok answer, after)
  | .error fault after => (.error fault, after)

def within (part : σ → τ) (replace : τ → σ → σ) (action : Action τ α) : Action σ α := fun state =>
  match action (part state) with
  | .ok answer after => .ok answer (replace after state)
  | .error fault after => .error fault (replace after state)

/-- Runs an action and answers the refusal that ended it, if one did; other faults pass. -/
def refusal? (action : Action σ Unit) : Action σ (Option Refusal) := fun state =>
  match action state with
  | .ok _ after => .ok none after
  | .error (.refused why) after => .ok (some why) after
  | .error fault after => .error fault after

def inspect (compute : σ → Except Fault α) : Action σ α := fun state =>
  match compute state with
  | .ok answer => .ok answer state
  | .error fault => .error fault state

/-! ## How actions run -/

@[simp] theorem pure_apply (answer : α) (state : σ) :
    (pure answer : Action σ α) state = .ok answer state := rfl

@[simp] theorem throw_apply (fault : Fault) (state : σ) :
    (throw fault : Action σ α) state = .error fault state := rfl

@[simp] theorem bind_apply (action : Action σ α) (next : α → Action σ β) (state : σ) :
    (action >>= next) state = match action state with
      | .ok answer after => next answer after
      | .error fault after => .error fault after := by
  simp only [bind, EStateM.bind]
  cases action state <;> rfl

@[simp] theorem map_apply (change : α → β) (action : Action σ α) (state : σ) :
    (change <$> action) state = match action state with
      | .ok answer after => .ok (change answer) after
      | .error fault after => .error fault after := by
  simp only [Functor.map, EStateM.map]
  cases action state <;> rfl

@[simp] theorem get_apply (state : σ) : (get : Action σ σ) state = .ok state state := rfl

@[simp] theorem set_apply (after state : σ) :
    (set after : Action σ PUnit) state = .ok ⟨⟩ after := rfl

@[simp] theorem modify_apply (change : σ → σ) (state : σ) :
    (modify change : Action σ PUnit) state = .ok ⟨⟩ (change state) := rfl

@[simp] theorem liftM_apply (result : Except Fault α) (state : σ) :
    (liftM result : Action σ α) state = match result with
      | .ok answer => .ok answer state
      | .error fault => .error fault state := by
  cases result <;> rfl

theorem within_apply (part : σ → τ) (replace : τ → σ → σ) (action : Action τ α) (state : σ) :
    within part replace action state = match action (part state) with
      | .ok answer after => .ok answer (replace after state)
      | .error fault after => .error fault (replace after state) := rfl

theorem inspect_apply (compute : σ → Except Fault α) (state : σ) :
    inspect compute state = match compute state with
      | .ok answer => .ok answer state
      | .error fault => .error fault state := rfl

end Action

end TorusEngine
