import TorusEngine.Proofs.Relevance.Told

/-!
# Every reachable scene tells its cameras what they are to see

The other steps: making grids and cameras, moving cameras, and dropping them.
-/

namespace TorusEngine.Relevance

open Torus (Cell)

namespace BusyScene

variable {busy after : BusyScene} {camera : CameraId} {view : Camera} {id : GridId} {grid : Grid}

theorem Sound.drop (sound : busy.Sound) (present : busy.scene.cameras.get? camera = some view)
    (stays : busy.leaving camera = none) :
    Sound { busy with leaving := Function.update busy.leaving camera (some view.grids) } := by
  have same : ∀ other seen, busy.scene.cameras.get? other = some seen →
      BusyScene.attached { busy with
        leaving := Function.update busy.leaving camera (some view.grids) } other seen =
      busy.attached other seen := by
    intro other seen here
    by_cases same : other = camera
    · cases same
      cases present.symm.trans here
      simp [BusyScene.attached, stays]
    · simp [BusyScene.attached, Function.update_of_ne same]
  refine ⟨sound.ready, sound.grids, sound.unsent, ?_, ?_, ?_, ?_, sound.told,
    sound.dropped⟩
  · intro other seen here
    rw [same other seen here]
    exact sound.cameras other seen here
  · intro other going
    by_cases same : other = camera
    · cases same
      rw [present]
      exact Option.some_ne_none view
    · refine sound.leaving other ?_
      simpa only [Function.update_of_ne same] using going
  · intro place grid other here
    refine (sound.subscribed place grid other here).trans (exists_congr fun seen => ?_)
    refine and_congr_right fun found => ?_
    rw [same other seen found]
  · intro other seen here
    rw [same other seen here]
    exact sound.known other seen here

theorem Sound.gone (sound : busy.Sound) (going : busy.leaving camera = some []) :
    Sound { busy with
      scene := Scene.notify { busy.scene with cameras := busy.scene.cameras.erase camera }
        (.drop camera)
      leaving := Function.update busy.leaving camera none } := by
  have posted := sound.ready.inbox_notify (.drop camera)
  have others : ∀ other view, (busy.scene.cameras.erase camera).get? other = some view →
      camera ≠ other ∧ busy.scene.cameras.get? other = some view := by
    intro other view here
    rw [Dictionary.get?_erase] at here
    split at here
    · cases here
    · exact ⟨‹_›, here⟩
  have attached : ∀ {other} view, camera ≠ other →
      (Function.update busy.leaving camera none other).getD view.grids = busy.attached other view := by
    intro other view different
    rw [Function.update_of_ne (Ne.symm different)]
    rfl
  refine ⟨sound.ready.notify trivial, sound.grids, sound.unsent, ?_, ?_, ?_, ?_, ?_, ?_⟩
  · intro other view here
    obtain ⟨different, before⟩ := others other view here
    simp only [BusyScene.attached, attached view different]
    exact sound.cameras other view before
  · intro other leaves
    by_cases same : other = camera
    · cases same
      simp at leaves
    · simp only [Function.update_of_ne same] at leaves
      simp only [Scene.notify, Dictionary.get?_erase, if_neg (Ne.symm same)]
      exact sound.leaving other leaves
  · intro place grid other here
    rw [sound.subscribed place grid other here]
    constructor
    · rintro ⟨view, present, seen⟩
      have different : camera ≠ other := by
        rintro rfl
        simp [BusyScene.attached, going] at seen
      refine ⟨view, ?_, ?_⟩
      · simp only [Scene.notify, Dictionary.get?_erase, if_neg different]
        exact present
      · simpa only [BusyScene.attached, attached view different] using seen
    · rintro ⟨view, present, seen⟩
      obtain ⟨different, before⟩ := others other view present
      refine ⟨view, before, ?_⟩
      simpa only [BusyScene.attached, attached view different] using seen
  · intro other view here place among
    obtain ⟨different, before⟩ := others other view here
    simp only [BusyScene.attached, attached view different] at among
    exact sound.known other view before place among
  · intro other view here place
    obtain ⟨different, before⟩ := others other view here
    refine Eq.trans ?_ (sound.told other view before place)
    simp only [BusyScene.told, Scene.notify, posted, Executor.outlook?_notify]
    exact Command.sight?_between (fun outlook => by rw [Command.follow_other rfl different]) ..
  · intro other made absent
    simp only [Scene.notify, posted, Executor.outlook?_notify, Command.followAll_append]
    by_cases same : camera = other
    · cases same
      exact Command.follow_self rfl _
    · simp only [Scene.notify, Dictionary.get?_erase, if_neg same] at absent
      rw [sound.dropped other made absent]
      exact Command.follow_other rfl same none

theorem Sound.changeView (sound : busy.Sound) (change : Camera → Camera)
    (grids : ∀ view, (change view).grids = view.grids) {executor : Executor} (ready : executor.Ready)
    (told : ∀ other view, busy.scene.cameras.get? other = some view → ∀ place,
      Command.sight? other place (executor.inbox ++ busy.unsent place) (executor.outlook? other) =
        some (busy.scene.shown other (if camera = other then change view else view) place))
    (dropped : ∀ other < busy.scene.nextCamera, busy.scene.cameras.get? other = none →
      Command.followAll other executor.inbox (executor.outlook? other) = none) :
    Sound { busy with scene := { busy.scene with
      cameras := busy.scene.cameras.modify camera change
      executor } } := by
  have cameras : ∀ other, (busy.scene.cameras.modify camera change).get? other =
      (busy.scene.cameras.get? other).map fun view => if camera = other then change view else view := by
    intro other
    rw [Dictionary.get?_modify]
    split <;> simp
  have attached : ∀ other view, busy.attached other (if camera = other then change view else view) =
      busy.attached other view := by
    intro other view
    rw [BusyScene.attached, BusyScene.attached]
    split
    · rw [grids]
    · rfl
  refine ⟨ready, sound.grids, sound.unsent, ?_, ?_, ?_, ?_, ?_, ?_⟩
  · intro other left here
    rw [cameras] at here
    obtain ⟨view, before, rfl⟩ := Option.map_eq_some_iff.mp here
    refine ⟨(sound.cameras other view before).1, ?_⟩
    exact (attached other view).symm ▸ (sound.cameras other view before).2
  · intro other leaves gone
    rw [cameras, Option.map_eq_none_iff] at gone
    exact sound.leaving other leaves gone
  · intro place grid other here
    rw [sound.subscribed place grid other here]
    constructor
    · rintro ⟨view, before, among⟩
      refine ⟨if camera = other then change view else view, ?_, (attached other view).symm ▸ among⟩
      rw [cameras, before]
      rfl
    · rintro ⟨left, now, among⟩
      rw [cameras] at now
      obtain ⟨view, before, rfl⟩ := Option.map_eq_some_iff.mp now
      exact ⟨view, before, (attached other view) ▸ among⟩
  · intro other left here place among
    rw [cameras] at here
    obtain ⟨view, before, rfl⟩ := Option.map_eq_some_iff.mp here
    exact sound.known other view before place ((attached other view) ▸ among)
  · intro other left here place
    rw [cameras] at here
    obtain ⟨view, before, rfl⟩ := Option.map_eq_some_iff.mp here
    exact told other view before place
  · intro other made gone
    rw [cameras, Option.map_eq_none_iff] at gone
    exact dropped other made gone

theorem Sound.told_recentered (sound : busy.Sound)
    (present : busy.scene.cameras.get? camera = some view) (cell : Cell) (place : GridId) :
    Command.sight? camera place
        (busy.scene.executor.inbox ++ [.recenter camera cell] ++ busy.unsent place)
        (busy.scene.executor.outlook? camera) =
      some (busy.scene.shown camera { view with cell } place) := by
  have about := fun command member => (sound.unsent place command member).1
  have told := sound.told camera view present place
  simp only [BusyScene.told, Command.sight?, Command.followAll_append] at told
  have recentered : Command.followAll camera [.recenter camera cell]
      (Command.followAll camera busy.scene.executor.inbox (busy.scene.executor.outlook? camera)) =
      (Command.followAll camera busy.scene.executor.inbox
        (busy.scene.executor.outlook? camera)).map ({ · with center := cell }) :=
    Command.follow_self rfl _
  -- The grid's own commands come behind the camera's, but none of them moves the center.
  simp only [Command.sight?, Command.followAll_append]
  rw [recentered, Command.followAll_center about, Option.map_map]
  have center := congrArg (Option.map fun sight : Sight => { sight with center := cell }) told
  rw [Option.map_map] at center
  exact center

theorem Sound.moveTo (sound : busy.Sound) (present : busy.scene.cameras.get? camera = some view)
    (position : Vec3 Float) (cell : Cell) :
    Sound { busy with scene := { busy.scene with
      cameras := busy.scene.cameras.modify camera ({ · with position, cell })
      executor := if cell = view.cell then busy.scene.executor
        else busy.scene.executor.notify (.recenter camera cell) } } := by
  by_cases stays : cell = view.cell
  · rw [if_pos stays]
    refine sound.changeView ({ · with position, cell }) (fun _ => rfl) sound.ready ?_ sound.dropped
    intro other seen here place
    refine (sound.told other seen here place).trans ?_
    split
    · rename_i same
      cases same
      cases present.symm.trans here
      rw [stays]
      rfl
    · rfl
  · rw [if_neg stays]
    have ready : (busy.scene.executor.notify (.recenter camera cell)).Ready :=
      sound.ready.notify trivial
    refine sound.changeView ({ · with position, cell }) (fun _ => rfl) ready ?_ ?_
    · intro other seen here place
      rw [sound.ready.inbox_notify, Executor.outlook?_notify]
      by_cases same : camera = other
      · cases same
        cases present.symm.trans here
        rw [if_pos rfl]
        exact sound.told_recentered present cell place
      · rw [if_neg same]
        refine Eq.trans ?_ (sound.told other seen here place)
        exact Command.sight?_between (fun outlook => by rw [Command.follow_other rfl same]) ..
    · intro other made gone
      have different : camera ≠ other := fun same => by
        cases same
        cases present.symm.trans gone
      rw [sound.ready.inbox_notify, Executor.outlook?_notify, Command.followAll_append,
        sound.dropped other made gone]
      exact Command.follow_other rfl different Option.none

theorem moveCamera_apply (running : busy.scene.executor.running = true)
    (present : busy.scene.cameras.get? camera = some view) (position : Vec3 Float) :
    Scene.moveCamera camera position busy.scene =
      let cell := Cell.ofPosition position view.config.geometry.cellSize
      .ok (decide (cell ≠ view.cell)) { busy.scene with
        cameras := busy.scene.cameras.modify camera ({ · with position, cell })
        executor := if cell = view.cell then busy.scene.executor
          else busy.scene.executor.notify (.recenter camera cell) } := by
  by_cases same : Cell.ofPosition position view.config.geometry.cellSize = view.cell
  · simp [Scene.moveCamera, Scene.camera, present, Scene.changeCamera, same]
  · simp [Scene.moveCamera, Scene.camera, present, Scene.changeCamera, same, Scene.submit,
      Scene.onExecutor, Action.within_apply, Executor.submit, Executor.notify, running]

theorem after_moveCamera (running : busy.scene.executor.running = true)
    (present : busy.scene.cameras.get? camera = some view) (position : Vec3 Float) :
    Action.after (Scene.moveCamera camera position) busy.scene =
      let cell := Cell.ofPosition position view.config.geometry.cellSize
      { busy.scene with
        cameras := busy.scene.cameras.modify camera ({ · with position, cell })
        executor := if cell = view.cell then busy.scene.executor
          else busy.scene.executor.notify (.recenter camera cell) } :=
  Action.after_of_ok (moveCamera_apply running present position)

theorem after_moveCamera_absent (absent : busy.scene.cameras.get? camera = none)
    (position : Vec3 Float) :
    Action.after (Scene.moveCamera camera position) busy.scene = busy.scene := by
  rw [Action.after_eq_left]
  simp [Scene.moveCamera, Scene.camera, absent, Action.left]

theorem Sound.move (sound : busy.Sound) (camera : CameraId) (position : Vec3 Float) :
    Sound { busy with scene := Action.after (Scene.moveCamera camera position) busy.scene } := by
  cases present : busy.scene.cameras.get? camera with
  | none =>
      rw [after_moveCamera_absent present]
      exact sound
  | some view =>
      rw [after_moveCamera sound.ready.sound.running present]
      exact sound.moveTo present position _

theorem Sound.leaving_new (sound : busy.Sound) :
    busy.leaving busy.scene.nextCamera = none := by
  by_contra going
  obtain ⟨view, present⟩ := Option.ne_none_iff_exists'.mp (sound.leaving _ going)
  exact Nat.lt_irrefl _ (sound.cameras _ view present).1

theorem makeCamera_apply (running : busy.scene.executor.running = true) (config : RelevanceConfig)
    (position : Vec3 Float) : Scene.makeCamera config position busy.scene =
      let cell := Cell.ofPosition position config.geometry.cellSize
      .ok busy.scene.nextCamera { busy.scene with
        cameras := busy.scene.cameras.insert busy.scene.nextCamera { config, position, cell }
        nextCamera := busy.scene.nextCamera + 1
        executor := busy.scene.executor.notify (.register busy.scene.nextCamera
          { center := cell, radius := config.radius, width := config.geometry.widthCells }) } := by
  simp [Scene.makeCamera, Scene.submit, Scene.onExecutor, Action.within_apply, Executor.submit,
    Executor.notify, running, Action.modifyGet_apply]

theorem after_makeCamera (running : busy.scene.executor.running = true) (config : RelevanceConfig)
    (position : Vec3 Float) : Action.after (Scene.makeCamera config position) busy.scene =
      let cell := Cell.ofPosition position config.geometry.cellSize
      { busy.scene with
        cameras := busy.scene.cameras.insert busy.scene.nextCamera { config, position, cell }
        nextCamera := busy.scene.nextCamera + 1
        executor := busy.scene.executor.notify (.register busy.scene.nextCamera
          { center := cell, radius := config.radius, width := config.geometry.widthCells }) } :=
  Action.after_of_ok (makeCamera_apply running config position)

theorem new_wellFormed (center : Cell) (radius width : Float) :
    Graph.WellFormed { center, radius, width } :=
  ⟨by simp, by simp, Tallied.empty⟩

theorem Sound.makeCamera (sound : busy.Sound) (config : RelevanceConfig) (position : Vec3 Float) :
    Sound { busy with scene := Action.after (Scene.makeCamera config position) busy.scene } := by
  rw [after_makeCamera sound.ready.sound.running]
  dsimp only
  generalize Cell.ofPosition position config.geometry.cellSize = cell
  have fresh := sound.leaving_new
  have apart : ∀ other view, busy.scene.cameras.get? other = some view →
      busy.scene.nextCamera ≠ other := fun other view here =>
    Nat.ne_of_gt (sound.cameras other view here).1
  have unheard : ∀ place grid, busy.scene.grids.get? place = some grid →
      busy.scene.nextCamera ∉ grid.subscribers := by
    intro place grid found subscribed
    obtain ⟨view, present, -⟩ := (sound.subscribed place grid _ found).mp subscribed
    exact apart _ view present rfl
  have posted := sound.ready.inbox_notify (.register busy.scene.nextCamera
    { center := cell, radius := config.radius, width := config.geometry.widthCells })
  refine ⟨sound.ready.notify (new_wellFormed ..), sound.grids, sound.unsent, ?_, ?_, ?_, ?_, ?_, ?_⟩
  · intro other view here
    obtain ⟨rfl, rfl⟩ | before := Dictionary.get?_of_insert here
    · exact ⟨Nat.lt_succ_self _, by simp [BusyScene.attached, fresh]⟩
    · obtain ⟨made, distinct⟩ := sound.cameras other view before
      exact ⟨Nat.lt_succ_of_lt made, distinct⟩
  · intro other going
    rw [Dictionary.get?_insert]
    split
    · exact Option.some_ne_none _
    · exact sound.leaving other going
  · intro place grid other found
    rw [sound.subscribed place grid other found]
    constructor
    · rintro ⟨view, present, among⟩
      refine ⟨view, ?_, among⟩
      rw [Dictionary.get?_insert, if_neg (apart other view present), present]
    · rintro ⟨view, here, among⟩
      obtain ⟨rfl, rfl⟩ | before := Dictionary.get?_of_insert here
      · simp [BusyScene.attached, fresh] at among
      · exact ⟨view, before, among⟩
  · intro other view here place among
    obtain ⟨rfl, rfl⟩ | before := Dictionary.get?_of_insert here
    · simp [BusyScene.attached, fresh] at among
    · exact sound.known other view before place among
  · intro other view here place
    simp only [BusyScene.told, posted, Executor.outlook?_notify]
    obtain ⟨rfl, rfl⟩ | before := Dictionary.get?_of_insert here
    · have stranger : ∀ command ∈ busy.unsent place,
          command.camera? ≠ some busy.scene.nextCamera := by
        intro command member same
        obtain ⟨-, grid, found, other, subscribed, equal⟩ := sound.unsent place command member
        cases equal.symm.trans same
        exact unheard place grid found subscribed
      rw [Command.sight?, Command.followAll_append, Command.followAll_append,
        Command.followAll_stranger stranger]
      refine (congrArg _ (Command.follow_self rfl _)).trans ?_
      have nothing : ∀ scene : Scene, scene.grids = busy.scene.grids →
          scene.heldFor busy.scene.nextCamera place = fun _ _ => False := by
        intro scene same
        funext cell marker
        refine eq_false ?_
        rintro ⟨grid, found, subscribed, -⟩
        exact unheard place grid (same ▸ found) subscribed
      simp only [Command.tell, Option.map_some, Scene.shown, Option.some.injEq]
      rw [nothing]
      · simp [Outlook.at, Graph.outlook, Graph.membersOf]
      · rfl
    · refine (Command.sight?_between (fun outlook => ?_) ..).trans (sound.told other view before place)
      rw [Command.follow_other rfl (apart other view before)]
  · intro other made absent
    rw [Dictionary.get?_insert] at absent
    split at absent
    · cases absent
    · rename_i different
      have older : other < busy.scene.nextCamera :=
        Nat.lt_of_le_of_ne (Nat.le_of_lt_succ made) (Ne.symm different)
      simp only [posted, Executor.outlook?_notify, Command.followAll_append]
      rw [sound.dropped other older absent]
      exact Command.follow_other rfl different none

theorem Sound.makeGrid (sound : busy.Sound) (cellSize : Float) :
    Sound { busy with scene := { busy.scene with
      grids := busy.scene.grids.insert busy.scene.nextGrid { cellSize }
      nextGrid := busy.scene.nextGrid + 1 } } := by
  have none : busy.scene.grids.get? busy.scene.nextGrid = none := by
    by_contra present
    obtain ⟨grid, found⟩ := Option.ne_none_iff_exists'.mp present
    exact Nat.lt_irrefl _ (sound.grids _ grid found).2
  refine ⟨sound.ready, ?_, ?_, sound.cameras, sound.leaving, ?_, ?_, ?_, sound.dropped⟩
  · intro other present here
    obtain ⟨rfl, rfl⟩ | before := Dictionary.get?_of_insert here
    · exact ⟨Grid.new_wellFormed cellSize, Nat.lt_succ_self _⟩
    · obtain ⟨wellFormed, numbered⟩ := sound.grids other present before
      exact ⟨wellFormed, Nat.lt_succ_of_lt numbered⟩
  · intro other command member
    obtain ⟨about, grid, found, subscribed⟩ := sound.unsent other command member
    refine ⟨about, grid, ?_, subscribed⟩
    rw [Dictionary.get?_insert, if_neg (Nat.ne_of_gt (sound.grids other grid found).2)]
    exact found
  · intro other present camera here
    obtain ⟨rfl, rfl⟩ | before := Dictionary.get?_of_insert here
    · refine iff_of_false List.not_mem_nil ?_
      rintro ⟨view, found, among⟩
      exact sound.known camera view found _ among none
    · exact sound.subscribed other present camera before
  · intro camera view present other among
    rw [Dictionary.get?_insert]
    split
    · exact Option.some_ne_none _
    · exact sound.known camera view present other among
  · intro camera view present other
    refine (sound.told camera view present other).trans ?_
    rw [Scene.shown, Scene.shown]
    by_cases same : busy.scene.nextGrid = other
    · cases same
      congr 2
      funext cell marker
      simp [Scene.heldFor, Dictionary.get?_insert, none]
    · have elsewhere : ({ busy.scene with
          grids := busy.scene.grids.insert busy.scene.nextGrid { cellSize }
          nextGrid := busy.scene.nextGrid + 1 } : Scene).grids.get? other =
          busy.scene.grids.get? other := by
        rw [Dictionary.get?_insert, if_neg same]
      rw [heldFor_congr elsewhere]

theorem Step.sound (step : Step busy after) (sound : busy.Sound) : after.Sound := by
  have remarked : ∀ markers, Sound { busy with scene := { busy.scene with markers } } := fun markers =>
    ⟨sound.ready, sound.grids, sound.unsent, sound.cameras, sound.leaving,
      sound.subscribed, sound.known, sound.told, sound.dropped⟩
  cases step with
  | call call =>
      cases call with
      | addMarker marker => exact remarked _
      | moveMarker id position =>
          rw [Scene.Call.perform, Action.after_eq_left]
          cases found : busy.scene.marker id with
          | error fault =>
              simp only [Scene.moveMarker, Action.bind_apply, Action.get_apply, Action.liftM_apply, found]
              exact sound
          | ok marker =>
              simp only [Scene.moveMarker, Action.bind_apply, Action.get_apply, Action.liftM_apply, found]
              exact remarked _
      | makeCamera config position =>
          rw [Scene.Call.perform, Action.after_map]
          exact sound.makeCamera config position
  | makeGrid cellSize => exact sound.makeGrid cellSize
  | change operation found unlocked => exact sound.change operation found unlocked
  | send first => exact sound.send first
  | move position stays => exact sound.move _ position
  | attach present stays found unlocked unseen =>
      exact sound.attach present stays found unlocked unseen
  | detach present stays found unlocked seen => exact sound.detach present stays found unlocked seen
  | drop present stays => exact sound.drop present stays
  | leave going found unlocked => exact sound.leave going found unlocked
  | gone going => exact sound.gone going
  | apply first => exact sound.apply first

theorem Run.sound (run : Run busy after) (sound : busy.Sound) : after.Sound := by
  induction run with
  | refl => exact sound
  | step _ step sound => exact step.sound sound

theorem Reachable.sound (reachable : Reachable busy) : busy.Sound := by
  refine Run.sound reachable ?_
  have executor : Executor.Sound {} := ⟨rfl, by simp [Executor.graph?], fun _ _ => rfl⟩
  exact ⟨⟨executor, by simp⟩, by simp, by simp, by simp, by simp, by simp, by simp, by simp, by simp⟩

end BusyScene

end TorusEngine.Relevance
