import TorusEngine.Proofs.Relevance.Graph
import TorusEngine.Relevance.Executor

/-!
# The executor follows its commands

A command tells the executor something about the outlook of one camera. None of them makes the executor
stop, apart from a shutdown, so after the commands in its inbox each graph has the outlook that they
tell.
-/

namespace TorusEngine.Relevance

open Torus (Cell)

namespace Command

def camera? : Command → Option CameraId
  | register camera _ | drop camera | attach camera _ _ | detach camera _ | insert camera _ _ _
  | remove camera _ _ _ | recenter camera _ => some camera
  | shutdown => none

def tell : Command → Option Outlook → Option Outlook
  | register _ graph, _ => some graph.outlook
  | drop _, _ => none
  | attach _ grid members, outlook => outlook.map (·.join grid members)
  | detach _ grid, outlook => outlook.map (·.part grid)
  | insert _ grid cell marker, outlook => outlook.map (·.enter grid cell marker)
  | remove _ grid cell marker, outlook => outlook.map (·.leave grid cell marker)
  | recenter _ center, outlook => outlook.map ({ · with center })
  | shutdown, outlook => outlook

def follow (camera : CameraId) (outlook : Option Outlook) (command : Command) : Option Outlook :=
  if command.camera? = some camera then command.tell outlook else outlook

theorem follow_self {command : Command} {camera : CameraId} (about : command.camera? = some camera)
    (outlook : Option Outlook) : follow camera outlook command = command.tell outlook := if_pos about

theorem follow_other {command : Command} {camera other : CameraId}
    (about : command.camera? = some camera) (different : camera ≠ other)
    (outlook : Option Outlook) : follow other outlook command = outlook :=
  if_neg fun same => different (Option.some_inj.mp (about.symm.trans same))

def Admissible : Command → Prop
  | register _ graph => graph.WellFormed
  | shutdown => False
  | _ => True

end Command

namespace Executor

variable {executor : Executor} {camera other : CameraId}

def outlook? (executor : Executor) (camera : CameraId) : Option Outlook :=
  (executor.graph? camera).map Graph.outlook

structure Sound (executor : Executor) : Prop where
  running : executor.running = true
  graphs : ∀ camera graph, executor.graph? camera = some graph → graph.WellFormed
  emptied : ∀ camera, executor.graph? camera = none → (executor.published camera).slots = {}

theorem graph?_put (executor : Executor) (camera other : CameraId) (registration : Registration) :
    graph? { executor with registrations := executor.registrations.insert camera registration } other =
      if camera = other then (if registration.live then some registration.graph else none)
      else executor.graph? other := by
  unfold graph?
  rw [Dictionary.get?_insert]
  split <;> rfl

theorem published_put (executor : Executor) (camera other : CameraId) (registration : Registration) :
    published { executor with registrations := executor.registrations.insert camera registration } other =
      if camera = other then registration.graph.published else executor.published other := by
  unfold published
  rw [Dictionary.get?_insert]
  by_cases same : camera = other <;> simp [same]

theorem Sound.putGraph (sound : executor.Sound) {graph : Graph} (wellFormed : graph.WellFormed) :
    (executor.putGraph camera graph).Sound where
  running := sound.running
  graphs := by
    intro other found here
    rw [Executor.putGraph, graph?_put] at here
    split at here
    · cases here
      exact wellFormed
    · exact sound.graphs other found here
  emptied := by
    intro other none
    rw [Executor.putGraph, graph?_put] at none
    rw [Executor.putGraph, published_put]
    split
    · rename_i same
      simp [same] at none
    · rename_i different
      rw [if_neg different] at none
      exact sound.emptied other none

theorem outlook?_putGraph (executor : Executor) (camera other : CameraId) (graph : Graph) :
    (executor.putGraph camera graph).outlook? other =
      if camera = other then some graph.outlook else executor.outlook? other := by
  rw [outlook?, putGraph, graph?_put]
  split <;> rfl

structure Follows (executor : Executor) (command : Command) (after : Executor) : Prop where
  sound : after.Sound
  inbox : after.inbox = executor.inbox
  outlook : ∀ camera, after.outlook? camera = Command.follow camera (executor.outlook? camera) command

theorem Sound.change (sound : executor.Sound) {command : Command}
    (about : command.camera? = some camera) {change : Graph → Except Fault Graph}
    {view : Outlook → Outlook} (tells : ∀ outlook, command.tell outlook = outlook.map view)
    (changes : ∀ graph, graph.WellFormed → ∃ changed, change graph = .ok changed ∧
      changed.WellFormed ∧ changed.outlook = view graph.outlook) :
    executor.Follows command (executor.change camera change) := by
  unfold Executor.change
  cases found : executor.graph? camera with
  | none =>
      refine ⟨sound, rfl, fun other => ?_⟩
      by_cases same : camera = other
      · cases same
        rw [Command.follow_self about, tells, outlook?, found]
        rfl
      · rw [Command.follow_other about same]
  | some graph =>
      obtain ⟨changed, ended, wellFormed, shown⟩ := changes graph (sound.graphs camera graph found)
      simp only [ended]
      refine ⟨sound.putGraph wellFormed, rfl, fun other => ?_⟩
      rw [outlook?_putGraph]
      by_cases same : camera = other
      · cases same
        rw [if_pos rfl, Command.follow_self about, tells, outlook?, found, shown]
        rfl
      · rw [if_neg same, Command.follow_other about same]

theorem Sound.retire (sound : executor.Sound) (camera : CameraId) :
    executor.Follows (.drop camera) (executor.retire camera) := by
  unfold Executor.retire
  cases found : executor.graph? camera with
  | none =>
      refine ⟨sound, rfl, fun other => ?_⟩
      by_cases same : camera = other
      · cases same
        rw [Command.follow_self rfl, outlook?, found]
        rfl
      · rw [Command.follow_other rfl same]
  | some graph =>
      refine ⟨⟨sound.running, ?_, ?_⟩, rfl, ?_⟩
      · intro other changed here
        rw [graph?_put] at here
        split at here
        · cases here
        · exact sound.graphs other changed here
      · intro other none
        rw [graph?_put] at none
        rw [published_put]
        split
        · rfl
        · rename_i different
          rw [if_neg different] at none
          exact sound.emptied other none
      · intro other
        rw [outlook?, graph?_put]
        by_cases same : camera = other
        · cases same
          rw [if_pos rfl, Command.follow_self rfl]
          rfl
        · rw [if_neg same, Command.follow_other rfl same]
          rfl

theorem Sound.apply (sound : executor.Sound) {command : Command} (admissible : command.Admissible) :
    executor.Follows command (executor.apply command) := by
  have runs : (!executor.running) = false := by simp [sound.running]
  unfold Executor.apply
  rw [runs]
  cases command with
  | register camera graph =>
      refine ⟨sound.putGraph admissible, rfl, fun other => ?_⟩
      rw [if_neg Bool.false_ne_true, outlook?_putGraph]
      by_cases same : camera = other
      · cases same
        rw [if_pos rfl, Command.follow_self rfl]
        rfl
      · rw [if_neg same, Command.follow_other rfl same]
  | drop camera => exact sound.retire camera
  | attach camera grid members =>
      exact sound.change rfl (fun _ => rfl) fun graph wellFormed =>
        ⟨_, rfl, graph.attach_wellFormed wellFormed grid members, graph.attach_outlook grid members⟩
  | detach camera grid =>
      exact sound.change rfl (fun _ => rfl) fun graph wellFormed => graph.detach_ok wellFormed grid
  | insert camera grid cell marker =>
      exact sound.change rfl (fun _ => rfl) fun graph wellFormed =>
        ⟨_, rfl, graph.insert_wellFormed wellFormed grid cell marker,
          graph.insert_outlook grid cell marker⟩
  | remove camera grid cell marker =>
      exact sound.change rfl (fun _ => rfl) fun graph wellFormed =>
        graph.remove_ok wellFormed grid cell marker
  | recenter camera center =>
      refine sound.change rfl (fun _ => rfl) fun graph wellFormed => ?_
      obtain ⟨count, changed, ended, still, shown⟩ := graph.recenter_ok wellFormed center
      exact ⟨changed, by rw [ended]; rfl, still, shown⟩
  | shutdown => exact admissible.elim

theorem Sound.applyAll (sound : executor.Sound) {commands : List Command}
    (admissible : ∀ command ∈ commands, command.Admissible) :
    (commands.foldl Executor.apply executor).Sound ∧
      (commands.foldl Executor.apply executor).inbox = executor.inbox ∧
      ∀ camera, (commands.foldl Executor.apply executor).outlook? camera =
        commands.foldl (Command.follow camera) (executor.outlook? camera) := by
  induction commands generalizing executor with
  | nil => exact ⟨sound, rfl, fun _ => rfl⟩
  | cons command rest ih =>
      have follows := sound.apply (admissible command List.mem_cons_self)
      obtain ⟨still, inbox, outlook⟩ := ih follows.sound
        fun other member => admissible other (List.mem_cons_of_mem _ member)
      refine ⟨still, inbox.trans follows.inbox, fun camera => ?_⟩
      rw [List.foldl_cons, List.foldl_cons, outlook camera, follows.outlook camera]

theorem change_inbox (inbox : List Command) {change : Graph → Except Fault Graph}
    (changes : ∀ graph, executor.graph? camera = some graph → ∃ changed, change graph = .ok changed) :
    Executor.change { executor with inbox } camera change =
      { executor.change camera change with inbox } := by
  have same : graph? { executor with inbox } camera = executor.graph? camera := rfl
  unfold Executor.change
  rw [same]
  cases found : executor.graph? camera with
  | none => rfl
  | some graph =>
      obtain ⟨changed, ended⟩ := changes graph found
      simp only [ended]
      rfl

theorem Sound.apply_inbox (sound : executor.Sound) {command : Command}
    (admissible : command.Admissible) (inbox : List Command) :
    Executor.apply { executor with inbox } command = { executor.apply command with inbox } := by
  have runs : (!executor.running) = false := by simp [sound.running]
  unfold Executor.apply
  simp only [runs, Bool.false_eq_true, if_false]
  cases command with
  | register camera graph => rfl
  | drop camera =>
      have same : graph? { executor with inbox } camera = executor.graph? camera := rfl
      dsimp only
      unfold Executor.retire
      rw [same]
      cases executor.graph? camera <;> rfl
  | attach camera grid members => exact change_inbox inbox fun graph _ => ⟨_, rfl⟩
  | detach camera grid =>
      refine change_inbox inbox fun graph found => ?_
      obtain ⟨changed, ended, -⟩ := graph.detach_ok (sound.graphs camera graph found) grid
      exact ⟨changed, ended⟩
  | insert camera grid cell marker => exact change_inbox inbox fun graph _ => ⟨_, rfl⟩
  | remove camera grid cell marker =>
      refine change_inbox inbox fun graph found => ?_
      obtain ⟨changed, ended, -⟩ :=
        graph.remove_ok (sound.graphs camera graph found) grid cell marker
      exact ⟨changed, ended⟩
  | recenter camera center =>
      refine change_inbox inbox fun graph found => ?_
      obtain ⟨count, changed, ended, -⟩ := graph.recenter_ok (sound.graphs camera graph found) center
      exact ⟨changed, by rw [ended]; rfl⟩
  | shutdown => exact admissible.elim

theorem settle_of_empty (empty : executor.inbox = []) : executor.settle = executor := by
  rcases executor with ⟨running, inbox, registrations⟩
  cases empty
  rfl

theorem Sound.settle_apply (sound : executor.Sound) {command : Command} {rest : List Command}
    (admissible : command.Admissible) (first : executor.inbox = command :: rest) :
    (Executor.apply { executor with inbox := rest } command).settle = executor.settle := by
  calc (Executor.apply { executor with inbox := rest } command).settle
      = rest.foldl Executor.apply { executor.apply command with inbox := [] } := by
        rw [sound.apply_inbox admissible rest]
        rfl
    _ = rest.foldl Executor.apply (Executor.apply { executor with inbox := [] } command) := by
        rw [sound.apply_inbox admissible []]
    _ = executor.settle := by
        rw [settle, first]
        rfl

structure Ready (executor : Executor) : Prop where
  sound : executor.Sound
  admissible : ∀ command ∈ executor.inbox, command.Admissible

@[simp] theorem outlook?_notify (executor : Executor) (command : Command) (camera : CameraId) :
    (executor.notify command).outlook? camera = executor.outlook? camera := by
  unfold notify
  split <;> rfl

theorem Ready.inbox_notify (ready : executor.Ready) (command : Command) :
    (executor.notify command).inbox = executor.inbox ++ [command] := by
  rw [notify, if_pos ready.sound.running]

theorem Ready.notify (ready : executor.Ready) {command : Command} (admissible : command.Admissible) :
    (executor.notify command).Ready where
  sound := by
    rw [Executor.notify, if_pos ready.sound.running]
    exact ⟨ready.sound.running, ready.sound.graphs, ready.sound.emptied⟩
  admissible := by
    rw [ready.inbox_notify]
    exact List.forall_mem_append.mpr ⟨ready.admissible, by simpa using admissible⟩

theorem Ready.settle (ready : executor.Ready) :
    executor.settle.Sound ∧ executor.settle.inbox = [] ∧
      ∀ camera, executor.settle.outlook? camera =
        executor.inbox.foldl (Command.follow camera) (executor.outlook? camera) := by
  have emptied : Executor.Sound { executor with inbox := [] } :=
    ⟨ready.sound.running, ready.sound.graphs, ready.sound.emptied⟩
  exact emptied.applyAll ready.admissible

theorem Ready.apply (ready : executor.Ready) {command : Command} {rest : List Command}
    (first : executor.inbox = command :: rest) :
    (apply { executor with inbox := rest } command).Ready ∧
      (apply { executor with inbox := rest } command).inbox = rest ∧
      ∀ camera, (apply { executor with inbox := rest } command).outlook? camera =
        Command.follow camera (executor.outlook? camera) command := by
  have admissible := ready.admissible
  rw [first] at admissible
  obtain ⟨this, others⟩ := List.forall_mem_cons.mp admissible
  have before : Executor.Sound { executor with inbox := rest } :=
    ⟨ready.sound.running, ready.sound.graphs, ready.sound.emptied⟩
  have follows := before.apply this
  exact ⟨⟨follows.sound, by rw [follows.inbox]; exact others⟩, follows.inbox, follows.outlook⟩

end Executor

end TorusEngine.Relevance
