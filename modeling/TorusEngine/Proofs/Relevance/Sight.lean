import TorusEngine.Proofs.Relevance.ReachableScenes

/-!
# Cameras see what their grids hold

Once the executor has caught up, a camera's set is exactly what the grids that it is attached to hold in
relevant cells.
-/

namespace TorusEngine.Relevance

open Torus (Cell)

namespace Scene

def HoldsFor (scene : Scene) (view : Camera) (cell : Cell) (marker : MarkerId) : Prop :=
  ∃ id ∈ view.grids, ∃ grid, scene.grids.get? id = some grid ∧ grid.cellOf? marker = some cell

structure ShowsExactly (scene : Scene) (camera : CameraId) (view : Camera) : Prop where
  once : ((scene.published camera).members.map (·.1)).Nodup
  shown : ∀ marker, marker ∈ (scene.published camera).members.map (·.1) ↔
    ∃ cell, scene.HoldsFor view cell marker ∧
      isRelevant view.cell cell view.config.radius view.config.geometry.widthCells = true
  global : ∀ marker global, (marker, global) ∈ (scene.published camera).members →
    (global = true ↔ scene.HoldsFor view Cell.everywhere marker)

end Scene

theorem Executor.published_of_graph? {executor : Executor} {camera : CameraId} {graph : Graph}
    (found : executor.graph? camera = some graph) : executor.published camera = graph.published := by
  obtain ⟨registration, present, live⟩ := Option.bind_eq_some_iff.mp found
  split at live
  · cases live
    simp [published, present]
  · cases live

namespace BusyScene

variable {busy after : BusyScene} {camera : CameraId} {view : Camera}

def settled (busy : BusyScene) : BusyScene := { busy with scene := busy.scene.settle }

theorem Run.trans {middle : BusyScene} (first : Run busy middle) (second : Run middle after) :
    Run busy after := by
  induction second with
  | refl => exact first
  | step _ step run => exact run.step step

theorem Sound.settled_run (sound : busy.Sound) : Run busy busy.settled := by
  generalize queued : busy.scene.executor.inbox = commands
  induction commands generalizing busy with
  | nil =>
      have same : busy.settled = busy := by
        rw [settled, Scene.settle, Executor.settle_of_empty queued]
      rw [same]
      exact .refl
  | cons command rest ih =>
      have step : Step busy _ := .apply queued
      have inbox := (sound.ready.apply queued).2.1
      have run := ih (step.sound sound) inbox
      have admissible := sound.ready.admissible command (by rw [queued]; exact List.mem_cons_self)
      have caught : BusyScene.settled { busy with scene := { busy.scene with
          executor := Executor.apply { busy.scene.executor with inbox := rest } command } } =
          busy.settled := by
        simp only [settled, Scene.settle, sound.ready.sound.settle_apply admissible queued]
      rw [caught] at run
      exact (Run.refl.step step).trans run

theorem Sound.holdsFor_iff (sound : busy.Sound)
    (present : busy.scene.cameras.get? camera = some view) (stays : busy.leaving camera = none)
    (cell : Cell) (marker : MarkerId) :
    (∃ id, busy.scene.heldFor camera id cell marker) ↔ busy.scene.HoldsFor view cell marker := by
  constructor
  · rintro ⟨id, grid, found, subscribed, held⟩
    refine ⟨id, ?_, grid, found, ((sound.grids id grid found).1.located marker cell).mpr held⟩
    rwa [sound.subscribed_iff present found, attached_of_stays stays] at subscribed
  · rintro ⟨id, seen, grid, found, located⟩
    refine ⟨id, grid, found, ?_, ((sound.grids id grid found).1.located marker cell).mp located⟩
    rwa [sound.subscribed_iff present found, attached_of_stays stays]

theorem Sound.told_settled (sound : busy.Sound)
    (present : busy.scene.cameras.get? camera = some view) (stays : busy.leaving camera = none)
    (sent : ∀ id ∈ view.grids, busy.unsent id = []) (id : GridId) :
    (busy.scene.executor.settle.outlook? camera).map (·.at id) =
      some (busy.scene.shown camera view id) := by
  obtain ⟨-, -, outlooks⟩ := sound.ready.settle
  -- The grids of other cameras may have commands left, but none about this camera.
  have stranger : ∀ command ∈ busy.unsent id, command.camera? ≠ some camera := by
    intro command member about
    obtain ⟨-, grid, found, other, subscribed, same⟩ := sound.unsent id command member
    cases same.symm.trans about
    rw [sound.subscribed_iff present found, attached_of_stays stays] at subscribed
    rw [sent id subscribed] at member
    cases member
  rw [outlooks, ← sound.told camera view present id, BusyScene.told, Command.sight?,
    Command.followAll_append, Command.followAll_stranger stranger]
  rfl

theorem Sound.settled_graph (sound : busy.Sound)
    (present : busy.scene.cameras.get? camera = some view) (stays : busy.leaving camera = none)
    (sent : ∀ id ∈ view.grids, busy.unsent id = []) :
    ∃ graph, busy.scene.executor.settle.graph? camera = some graph ∧
      ∀ marker global, (marker, global) ∈ Graph.reasons graph.pairs.entries ↔
        ∃ cell, busy.scene.HoldsFor view cell marker ∧
          isRelevant view.cell cell view.config.radius view.config.geometry.widthCells = true ∧
          cell.isEverywhere = global := by
  have told := sound.told_settled present stays sent
  cases found : busy.scene.executor.settle.graph? camera with
  | none => simp [Executor.outlook?, found] at told
  | some graph =>
      have same : ∀ id, graph.outlook.at id = busy.scene.shown camera view id := fun id => by
        simpa [Executor.outlook?, found] using told id
      have center : graph.center = view.cell := congrArg Sight.center (same 0)
      have radius : graph.radius = view.config.radius := congrArg Sight.radius (same 0)
      have width : graph.width = view.config.geometry.widthCells := congrArg Sight.width (same 0)
      have holds : ∀ id, graph.outlook.holds id = busy.scene.heldFor camera id := fun id =>
        congrArg Sight.holds (same id)
      refine ⟨graph, rfl, fun marker global => ?_⟩
      rw [Graph.mem_reasons_iff (sound.ready.settle.1.graphs camera graph found), ← center, ← radius,
        ← width, exists_comm]
      refine exists_congr fun cell => ?_
      rw [← sound.holdsFor_iff present stays]
      simp only [holds, exists_and_right]
      rfl

theorem Sound.showsExactly (sound : busy.Sound)
    (present : busy.scene.cameras.get? camera = some view) (stays : busy.leaving camera = none)
    (sent : ∀ id ∈ view.grids, busy.unsent id = []) :
    busy.scene.settle.ShowsExactly camera view := by
  obtain ⟨graph, found, reasons⟩ := sound.settled_graph present stays sent
  have tallied := (sound.ready.settle.1.graphs camera graph found).tallied
  have published : busy.scene.settle.published camera = graph.published :=
    Executor.published_of_graph? found
  refine ⟨?_, ?_, ?_⟩
  · exact PublishedSet.members_nodup _
  · intro marker
    rw [published]
    constructor
    · intro member
      obtain ⟨⟨item, global⟩, listed, rfl⟩ := List.mem_map.mp member
      obtain ⟨⟨reason, given⟩, -⟩ := tallied.mem_members_iff.mp listed
      obtain ⟨cell, held, relevant, -⟩ := (reasons _ _).mp given
      exact ⟨cell, held, relevant⟩
    · rintro ⟨cell, held, relevant⟩
      have given := (reasons marker cell.isEverywhere).mpr ⟨cell, held, relevant, rfl⟩
      refine List.mem_map.mpr ⟨(marker, decide ((marker, true) ∈ Graph.reasons graph.pairs.entries)),
        tallied.mem_members_iff.mpr ⟨⟨_, given⟩, decide_eq_true_iff⟩, rfl⟩
  · intro marker global listed
    rw [published] at listed
    rw [(tallied.mem_members_iff.mp listed).2, reasons]
    constructor
    · rintro ⟨cell, held, -, everywhere⟩
      rwa [← of_decide_eq_true everywhere]
    · intro held
      exact ⟨Cell.everywhere, held, isRelevant_everywhere rfl .., rfl⟩

/-! ## Dropped cameras -/

/-- A camera that is gone, also for the executor, and that no command brings back. -/
structure Silent (busy : BusyScene) (camera : CameraId) : Prop where
  made : camera < busy.scene.nextCamera
  gone : busy.scene.cameras.get? camera = none
  blind : busy.scene.executor.outlook? camera = none
  unregistered : ∀ command ∈ busy.scene.executor.inbox, command.follow camera none = none

theorem Silent.step (silent : busy.Silent camera) (sound : busy.Sound) (step : Step busy after) :
    after.Silent camera := by
  obtain ⟨made, gone, blind, unregistered⟩ := silent
  have kept : ∀ {scene : Scene} {unsent leaving}, camera < scene.nextCamera →
      scene.cameras.get? camera = none → scene.executor = busy.scene.executor →
      Silent ⟨scene, unsent, leaving⟩ camera := fun made gone same =>
    ⟨made, gone, by rw [same]; exact blind, by rw [same]; exact unregistered⟩
  have posted : ∀ {scene : Scene} {unsent leaving command}, camera < scene.nextCamera →
      scene.cameras.get? camera = none → scene.executor = busy.scene.executor.notify command →
      Command.follow camera none command = none → Silent ⟨scene, unsent, leaving⟩ camera := by
    intro scene unsent leaving command made gone same mute
    refine ⟨made, gone, ?_, ?_⟩
    · rw [same, Executor.outlook?_notify, blind]
    · rw [same, sound.ready.inbox_notify]
      exact List.forall_mem_append.mpr ⟨unregistered, by simpa using mute⟩
  have modified : ∀ {other change}, (busy.scene.cameras.modify other change).get? camera = none := by
    intro other change
    rw [Dictionary.get?_modify, gone, Option.map_none, ite_self]
  -- Only `makeCamera` registers anyone, and its camera is a new one.
  cases step with
  | call call =>
      cases call with
      | addMarker marker => exact kept made gone rfl
      | moveMarker id position =>
          rw [Scene.Call.perform, Action.after_eq_left]
          cases found : busy.scene.marker id <;>
            simp only [Scene.moveMarker, Action.bind_apply, Action.get_apply, Action.liftM_apply, found]
          · exact ⟨made, gone, blind, unregistered⟩
          · exact kept made gone rfl
      | makeCamera config position =>
          rw [Scene.Call.perform, Action.after_map, after_makeCamera sound.ready.sound.running]
          refine posted (Nat.lt_succ_of_lt made) ?_ rfl (Command.follow_other rfl (Nat.ne_of_gt made) none)
          rw [Dictionary.get?_insert, if_neg (Nat.ne_of_gt made), gone]
  | makeGrid cellSize => exact kept made gone rfl
  | change operation found unlocked => exact kept made gone rfl
  | @send id command rest first =>
      have listed : command ∈ busy.unsent id := by rw [first]; exact List.mem_cons_self
      exact posted made gone rfl (Command.follow_none (sound.unsent id command listed).1)
  | @move other position stays =>
      cases present : busy.scene.cameras.get? other with
      | none =>
          rw [after_moveCamera_absent present]
          exact ⟨made, gone, blind, unregistered⟩
      | some view =>
          rw [after_moveCamera sound.ready.sound.running present]
          have different : other ≠ camera := by
            rintro rfl
            cases gone.symm.trans present
          dsimp only
          split
          · exact kept made modified rfl
          · exact posted made modified rfl (Command.follow_other rfl different none)
  | attach present stays found unlocked unseen => exact posted made modified rfl (Command.follow_none rfl)
  | detach present stays found unlocked seen =>
      unfold Scene.part
      split
      · exact posted made modified rfl (Command.follow_none rfl)
      · exact kept made modified rfl
  | drop present stays => exact kept made gone rfl
  | leave going found unlocked =>
      unfold Scene.part
      split
      · exact posted made gone rfl (Command.follow_none rfl)
      · exact kept made gone rfl
  | @gone other going =>
      refine posted made ?_ rfl ?_
      · simp only [Scene.notify, Dictionary.get?_erase, gone, ite_self]
      · unfold Command.follow
        split <;> rfl
  | @apply command rest first =>
      obtain ⟨-, inbox, outlook⟩ := sound.ready.apply first
      rw [first] at unregistered
      obtain ⟨this, others⟩ := List.forall_mem_cons.mp unregistered
      exact ⟨made, gone, by rw [outlook, blind, this], by rw [inbox]; exact others⟩

theorem Silent.published (silent : busy.Silent camera) (sound : busy.Sound) :
    (busy.scene.published camera).members = [] := by
  have blind := silent.blind
  rw [Executor.outlook?, Option.map_eq_none_iff] at blind
  have empty : (busy.scene.published camera).slots = {} := sound.ready.sound.emptied camera blind
  rw [PublishedSet.members, empty]
  rfl

theorem Run.silent (run : Run busy after) (sound : busy.Sound) (silent : busy.Silent camera) :
    after.Silent camera := by
  induction run with
  | refl => exact silent
  | step run step silent => exact silent.step (run.sound sound) step

theorem Sound.settled_silent (sound : busy.Sound) (made : camera < busy.scene.nextCamera)
    (gone : busy.scene.cameras.get? camera = none) : busy.settled.Silent camera := by
  obtain ⟨-, inbox, outlooks⟩ := sound.ready.settle
  refine ⟨made, gone, ?_, ?_⟩
  · exact (outlooks camera).trans (sound.dropped camera made gone)
  · intro command member
    have empty : busy.settled.scene.executor.inbox = [] := inbox
    rw [empty] at member
    cases member

end BusyScene

end TorusEngine.Relevance
