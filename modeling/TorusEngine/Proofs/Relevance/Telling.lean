import TorusEngine.Proofs.Relevance.BusyScene

/-!
# What commands tell about one grid

The commands on one grid say nothing about the others, and nothing about the center. So what a camera is
told about a grid can be followed along the inbox and the unsent commands of that grid alone, wherever
other commands come between.
-/

namespace TorusEngine.Relevance

open Torus (Cell)

structure Sight where
  center : Cell
  radius : Float
  width : Float
  holds : Cell → MarkerId → Prop

def Outlook.at (outlook : Outlook) (grid : GridId) : Sight :=
  ⟨outlook.center, outlook.radius, outlook.width, outlook.holds grid⟩

def Sight.change (change : Change) (sight : Sight) : Sight :=
  { sight with holds := change.follow sight.holds }

namespace Command

variable {camera : CameraId} {id other : GridId} {command : Command} {commands : List Command}
  {first second outlook : Option Outlook}

def grid? : Command → Option GridId
  | attach _ grid _ | detach _ grid | insert _ grid _ _ | remove _ grid _ _ => some grid
  | _ => none

theorem admissible_of_grid? (about : command.grid? = some id) : command.Admissible := by
  cases command with
  | register | shutdown => cases about
  | _ => trivial

theorem follow_none (about : command.grid? = some id) : follow camera none command = none := by
  unfold follow
  split
  · cases command with
    | register => cases about
    | _ => rfl
  · rfl

def followAll (camera : CameraId) (commands : List Command) (outlook : Option Outlook) :
    Option Outlook := commands.foldl (follow camera) outlook

theorem followAll_append (camera : CameraId) (commands others : List Command)
    (outlook : Option Outlook) : followAll camera (commands ++ others) outlook =
      followAll camera others (followAll camera commands outlook) := List.foldl_append

def sight? (camera : CameraId) (id : GridId) (commands : List Command) (outlook : Option Outlook) :
    Option Sight := (followAll camera commands outlook).map (·.at id)

theorem follow_congr (same : first.map (·.at id) = second.map (·.at id)) (command : Command) :
    (follow camera first command).map (·.at id) = (follow camera second command).map (·.at id) := by
  unfold follow
  split
  · cases first with
    | none =>
        cases second with
        | none => rfl
        | some second => cases same
    | some first =>
        cases second with
        | none => cases same
        | some second =>
            simp only [Option.map_some, Option.some.injEq, Outlook.at, Sight.mk.injEq] at same
            obtain ⟨center, radius, width, holds⟩ := same
            cases command <;>
              simp [tell, Outlook.at, Outlook.join, Outlook.part, Outlook.enter, Outlook.leave,
                center, radius, width, holds]
  · exact same

theorem sight?_congr (same : first.map (·.at id) = second.map (·.at id)) (commands : List Command) :
    sight? camera id commands first = sight? camera id commands second := by
  induction commands generalizing first second with
  | nil => exact same
  | cons command rest ih => exact ih (follow_congr same command)

theorem follow_elsewhere (about : command.grid? = some other) (different : other ≠ id) :
    (follow camera outlook command).map (·.at id) = outlook.map (·.at id) := by
  unfold follow
  split
  · cases outlook with
    | none => cases command <;> simp_all [grid?, tell]
    | some outlook =>
        cases command <;> simp_all [grid?, tell, Outlook.at, Outlook.join, Outlook.part,
          Outlook.enter, Outlook.leave, Ne.symm different]
  · rfl

theorem follow_center (about : command.grid? = some id) (center : Cell) :
    follow camera (outlook.map ({ · with center })) command =
      (follow camera outlook command).map ({ · with center }) := by
  unfold follow
  split
  · cases command <;> cases outlook <;> first | rfl | cases about
  · rfl

theorem followAll_center (about : ∀ command ∈ commands, command.grid? = some id) (center : Cell) :
    followAll camera commands (outlook.map ({ · with center })) =
      (followAll camera commands outlook).map ({ · with center }) := by
  induction commands generalizing outlook with
  | nil => rfl
  | cons command rest ih =>
      obtain ⟨first, others⟩ := List.forall_mem_cons.mp about
      rw [followAll, List.foldl_cons, follow_center first]
      exact ih others

theorem followAll_stranger (stranger : ∀ command ∈ commands, command.camera? ≠ some camera) :
    followAll camera commands outlook = outlook := by
  induction commands generalizing outlook with
  | nil => rfl
  | cons command rest ih =>
      obtain ⟨first, others⟩ := List.forall_mem_cons.mp stranger
      rw [followAll, List.foldl_cons, follow, if_neg first]
      exact ih others

/-- A command that says nothing about a grid can come between others. -/
theorem sight?_between (silent : ∀ outlook,
      (follow camera outlook command).map (·.at id) = outlook.map (·.at id))
    (commands others : List Command) (outlook : Option Outlook) :
    sight? camera id (commands ++ [command] ++ others) outlook =
      sight? camera id (commands ++ others) outlook := by
  simp only [sight?, followAll_append]
  exact sight?_congr (silent _) others

/-! ## Reports of changes -/

theorem report_grid? (id : GridId) (change : Change) (camera : CameraId) :
    (Scene.report id change camera).grid? = some id := by
  cases change <;> rfl

theorem report_camera? (id : GridId) (change : Change) (camera : CameraId) :
    (Scene.report id change camera).camera? = some camera := by
  cases change <;> rfl

theorem mem_reports {subscribers : List CameraId} {changes : List Change}
    (member : command ∈ Scene.reports id subscribers changes) :
    ∃ change, ∃ camera ∈ subscribers, command = Scene.report id change camera := by
  obtain ⟨change, -, reported⟩ := List.mem_flatMap.mp member
  obtain ⟨camera, subscribed, rfl⟩ := List.mem_map.mp reported
  exact ⟨change, camera, subscribed, rfl⟩

theorem follow_report (id : GridId) (change : Change) (outlook : Option Outlook) :
    (follow camera outlook (Scene.report id change camera)).map (·.at id) =
      (outlook.map (·.at id)).map (Sight.change change) := by
  rw [follow_self (report_camera? id change camera)]
  cases outlook with
  | none => cases change <;> rfl
  | some outlook =>
      cases change <;>
        simp [Scene.report, tell, Outlook.at, Outlook.enter, Outlook.leave, Sight.change, Change.follow]

theorem change_idempotent (change : Change) (sight : Sight) :
    (sight.change change).change change = sight.change change := by
  cases change <;> simp only [Sight.change, Change.follow, Sight.mk.injEq, true_and] <;>
    funext place item <;> exact propext (by tauto)

/-- A subscriber that hears of a change any number of times is told it once. -/
theorem sight?_reported (id : GridId) (change : Change) (subscribers : List CameraId)
    (outlook : Option Outlook) :
    sight? camera id (subscribers.map (Scene.report id change)) outlook =
      if camera ∈ subscribers then (outlook.map (·.at id)).map (Sight.change change)
      else outlook.map (·.at id) := by
  induction subscribers generalizing outlook with
  | nil => rfl
  | cons subscriber rest ih =>
      refine (ih (follow camera outlook (Scene.report id change subscriber))).trans ?_
      by_cases same : subscriber = camera
      · subst same
        rw [follow_report]
        simp [Function.comp_def, change_idempotent]
      · rw [follow_other (report_camera? id change subscriber) same]
        simp [Ne.symm same]

theorem sight?_reports (id : GridId) (subscribers : List CameraId) (changes : List Change)
    (outlook : Option Outlook) :
    sight? camera id (Scene.reports id subscribers changes) outlook =
      if camera ∈ subscribers then (outlook.map (·.at id)).map fun sight =>
        { sight with holds := changes.foldl Change.follow sight.holds }
      else outlook.map (·.at id) := by
  induction changes generalizing outlook with
  | nil => split <;> cases outlook <;> rfl
  | cons change rest ih =>
      have split : Scene.reports id subscribers (change :: rest) =
          subscribers.map (Scene.report id change) ++ Scene.reports id subscribers rest := rfl
      rw [split, sight?, followAll_append]
      refine (ih _).trans ?_
      have first : ((followAll camera (subscribers.map (Scene.report id change)) outlook).map
          (·.at id)) = _ := sight?_reported id change subscribers outlook
      rw [first]
      split
      · simp [Function.comp_def, Sight.change]
      · rfl

end Command

end TorusEngine.Relevance
