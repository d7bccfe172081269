import TorusEngine.Proofs.Relevance.Sight

/-!
# Scenes used by one thread

A thread that has a scene to itself finishes each operation before it begins the next. What it does is a
run of the scene in use, so its cameras see what their grids hold too.
-/

namespace TorusEngine.Relevance

open Torus (Cell)

namespace Scene

inductive Request where
  | addMarker (marker : Marker)
  | moveMarker (id : MarkerId) (position : Vec3 Float)
  | makeGrid (cellSize : Float)
  | addAt (grid : GridId) (cell : Cell) (marker : MarkerId)
  | add (grid : GridId) (marker : MarkerId)
  | remove (grid : GridId) (marker : MarkerId)
  | relocate (grid : GridId) (marker : MarkerId)
  | makeCamera (config : RelevanceConfig) (position : Vec3 Float)
  | moveCamera (camera : CameraId) (position : Vec3 Float)
  | attach (camera : CameraId) (grid : GridId)
  | detach (camera : CameraId) (grid : GridId)
  | dropCamera (camera : CameraId)
  | settle

namespace Request

def perform : Request → Action Scene Unit
  | addMarker marker => (fun _ => ()) <$> Scene.addMarker marker
  | moveMarker id position => Scene.moveMarker id position
  | makeGrid cellSize => (fun _ => ()) <$> Scene.makeGrid cellSize
  | addAt grid cell marker => Scene.addAt grid cell marker
  | add grid marker => (fun _ => ()) <$> Scene.add grid marker
  | remove grid marker => (fun _ => ()) <$> Scene.remove grid marker
  | relocate grid marker => (fun _ => ()) <$> Scene.relocate grid marker
  | makeCamera config position => (fun _ => ()) <$> Scene.makeCamera config position
  | moveCamera camera position => (fun _ => ()) <$> Scene.moveCamera camera position
  | attach camera grid => Scene.attach camera grid
  | detach camera grid => Scene.detach camera grid
  | dropCamera camera => do
      let _ ← (← get).camera camera
      modify (Scene.dropCamera camera)
  | settle => modify Scene.settle

def after (request : Request) (scene : Scene) : Scene := Action.after request.perform scene

def afterAll (requests : List Request) (scene : Scene) : Scene :=
  requests.foldl (fun scene request => request.after scene) scene

end Request

def changed (scene : Scene) (id : GridId) (result : Grid × List Change) : Scene :=
  { scene with
    grids := scene.grids.insert id result.1
    executor := (reports id result.1.subscribers result.2).foldl Executor.notify scene.executor }

theorem changeGrid_apply {scene : Scene} {id : GridId} {grid : Grid}
    (found : scene.grids.get? id = some grid) (change : Grid → Grid × List Change) :
    changeGrid id change scene = .ok (change grid).2 (scene.changed id (change grid)) := by
  simp [changeGrid, Scene.grid, found, changed, reports]

theorem changeGrid_unknown {scene : Scene} {id : GridId} (absent : scene.grids.get? id = none)
    (change : Grid → Grid × List Change) :
    changeGrid id change scene = .error .unknownName scene := by
  simp [changeGrid, Scene.grid, absent]

end Scene

namespace BusyScene

variable {busy : BusyScene} {scene : Scene} {camera : CameraId} {id : GridId}

def idle (scene : Scene) : BusyScene := { scene }

theorem sends_run {commands : List Command} (waiting : busy.unsent id = commands) :
    Run busy { busy with
      scene := { busy.scene with executor := commands.foldl Executor.notify busy.scene.executor }
      unsent := Function.update busy.unsent id [] } := by
  induction commands generalizing busy with
  | nil =>
      have same : Function.update busy.unsent id [] = busy.unsent := by
        rw [← waiting, Function.update_eq_self]
      rw [same]
      exact .refl
  | cons command rest ih =>
      have step : Step busy _ := .send waiting
      have run := @ih { busy with
        scene := busy.scene.notify command
        unsent := Function.update busy.unsent id rest } (Function.update_self ..)
      simp only [Function.update_idem] at run
      exact (Run.refl.step step).trans run

theorem changeGrid_run (scene : Scene) (id : GridId) (operation : Grid.Operation) :
    Run (idle scene) (idle (Action.after (Scene.changeGrid id fun grid => operation.perform grid) scene)) := by
  cases found : scene.grids.get? id with
  | none =>
      rw [Action.after_of_error (Scene.changeGrid_unknown found _)]
      exact .refl
  | some grid =>
      rw [Action.after_of_ok (Scene.changeGrid_apply found _)]
      have changed : Step (idle scene) _ := .change operation found rfl
      have run := (Run.refl.step changed).trans (@sends_run _ id _ (Function.update_self ..))
      have none : ∀ commands, Function.update (Function.update (idle scene).unsent id commands) id [] =
          (idle scene).unsent := fun commands => by
        rw [Function.update_idem]
        exact Function.update_eq_self id _
      simp only [none] at run
      exact run

theorem addAt_run (scene : Scene) (id : GridId) (cell : Cell) (marker : MarkerId) :
    Run (idle scene) (idle (Action.after (Scene.addAt id cell marker) scene)) := by
  rw [Action.after_eq_left]
  cases found : scene.marker marker with
  | error fault =>
      simp only [Scene.addAt, Action.bind_apply, Action.get_apply, Action.liftM_apply, found]
      exact .refl
  | ok present =>
      have run := changeGrid_run scene id (.addAt cell marker)
      rw [Action.after_eq_left] at run
      simp only [Scene.addAt, Action.bind_apply, Action.get_apply, Action.liftM_apply, found]
      cases ended : Scene.changeGrid id (·.addAt cell marker) scene <;>
        simpa [Grid.Operation.perform, ended, Action.left] using run

theorem add_run (scene : Scene) (id : GridId) (marker : MarkerId) :
    Run (idle scene) (idle (Action.after (Scene.add id marker) scene)) := by
  rw [Action.after_eq_left]
  cases found : scene.grid id with
  | error fault =>
      simp only [Scene.add, Action.bind_apply, Action.get_apply, Action.liftM_apply, found]
      exact .refl
  | ok grid =>
      cases present : scene.marker marker with
      | error fault =>
          simp only [Scene.add, Action.bind_apply, Action.get_apply, Action.liftM_apply, found, present]
          exact .refl
      | ok object =>
          have run := addAt_run scene id (grid.cellAt object.position) marker
          rw [Action.after_eq_left] at run
          simp only [Scene.add, Action.bind_apply, Action.get_apply, Action.liftM_apply, found, present]
          cases ended : Scene.addAt id (grid.cellAt object.position) marker scene <;>
            simpa [ended, Action.left] using run

theorem remove_run (scene : Scene) (id : GridId) (marker : MarkerId) :
    Run (idle scene) (idle (Action.after (Scene.remove id marker) scene)) := by
  have run := changeGrid_run scene id (.remove marker)
  rw [Action.after_eq_left] at run ⊢
  rw [Scene.remove, Action.bind_apply]
  cases ended : Scene.changeGrid id (·.remove marker) scene <;>
    simpa [Grid.Operation.perform, ended, Action.left] using run

theorem relocate_run (scene : Scene) (id : GridId) (marker : MarkerId) :
    Run (idle scene) (idle (Action.after (Scene.relocate id marker) scene)) := by
  rw [Action.after_eq_left]
  cases present : scene.marker marker with
  | error fault =>
      simp only [Scene.relocate, Action.bind_apply, Action.get_apply, Action.liftM_apply, present]
      exact .refl
  | ok object =>
      have run := changeGrid_run scene id (.relocate marker object.position)
      rw [Action.after_eq_left] at run
      simp only [Scene.relocate, Action.bind_apply, Action.get_apply, Action.liftM_apply, present]
      cases ended : Scene.changeGrid id (·.relocate marker object.position) scene <;>
        simpa [Grid.Operation.perform, ended, Action.left] using run

theorem submit_apply (running : scene.executor.running = true) (command : Command) :
    Scene.submit command scene = .ok () (scene.notify command) := by
  simp [Scene.submit, Scene.onExecutor, Action.within_apply, Executor.submit, Scene.notify,
    Executor.notify, running]

theorem sync_apply (running : scene.executor.running = true) : Scene.sync scene = .ok () scene.settle := by
  simp [Scene.sync, running]

theorem attach_apply {view : Camera} {grid : Grid} (running : scene.executor.running = true)
    (present : scene.cameras.get? camera = some view) (found : scene.grids.get? id = some grid) :
    Scene.attach camera id scene =
      .ok () (if id ∈ view.grids then scene else (scene.join camera id grid).settle) := by
  by_cases seen : id ∈ view.grids
  · simp [Scene.attach, Scene.camera, present, Scene.grid, found, seen]
  · have notified : (scene.notify (.attach camera id grid.contents)).executor.running = true := by
      rw [Scene.notify, Executor.notify, if_pos running]
      exact running
    simp [Scene.attach, Scene.camera, present, Scene.grid, found, seen, submit_apply running,
      Scene.changeCamera, sync_apply, notified]
    rfl

theorem after_of_unknown
    (unknown : scene.cameras.get? camera = none ∨ scene.grids.get? id = none)
    (rest : Scene → Camera → Grid → Action Scene Unit) :
    Action.after (do
      let scene ← get
      let view ← scene.camera camera
      let grid ← scene.grid id
      rest scene view grid) scene = scene := by
  rw [Action.after_eq_left]
  cases present : scene.cameras.get? camera with
  | none => simp [Scene.camera, present, Action.left]
  | some view =>
      have absent := unknown.resolve_left (present ▸ Option.some_ne_none view)
      simp [Scene.camera, present, Scene.grid, absent, Action.left]

theorem known_of_not (known : ¬(scene.cameras.get? camera = none ∨ scene.grids.get? id = none)) :
    ∃ view grid, scene.cameras.get? camera = some view ∧ scene.grids.get? id = some grid := by
  obtain ⟨here, there⟩ := not_or.mp known
  obtain ⟨view, present⟩ := Option.ne_none_iff_exists'.mp here
  obtain ⟨grid, found⟩ := Option.ne_none_iff_exists'.mp there
  exact ⟨view, grid, present, found⟩

theorem attach_cases (running : scene.executor.running = true) (camera : CameraId) (id : GridId) :
    Action.after (Scene.attach camera id) scene = scene ∨
      ∃ view grid, scene.cameras.get? camera = some view ∧ scene.grids.get? id = some grid ∧
        id ∉ view.grids ∧
        Action.after (Scene.attach camera id) scene = (scene.join camera id grid).settle := by
  by_cases unknown : scene.cameras.get? camera = none ∨ scene.grids.get? id = none
  · exact .inl (after_of_unknown unknown _)
  · obtain ⟨view, grid, present, found⟩ := known_of_not unknown
    rw [Action.after_of_ok (attach_apply running present found)]
    by_cases seen : id ∈ view.grids
    · exact .inl (if_pos seen)
    · exact .inr ⟨view, grid, present, found, seen, if_neg seen⟩

theorem attach_run (sound : (idle scene).Sound) (camera : CameraId) (id : GridId) :
    Run (idle scene) (idle (Action.after (Scene.attach camera id) scene)) := by
  have running : scene.executor.running = true := sound.ready.sound.running
  obtain same | ⟨view, grid, present, found, unseen, same⟩ := attach_cases running camera id
  · rw [same]
    exact .refl
  · have step : Step (idle scene) _ := .attach present rfl found rfl unseen
    rw [same]
    exact (Run.refl.step step).trans (step.sound sound).settled_run

def withdrawal (camera : CameraId) (id : GridId) : Action Scene Unit := do
  let target ← (← get).grid id
  if camera ∉ target.subscribers then return
  modify fun scene => { scene with grids := scene.grids.insert id (target.unsubscribe camera) }
  Scene.submit (.detach camera id)

theorem detach_eq (camera : CameraId) (id : GridId) : Scene.detach camera id = (do
    let scene ← get
    let seen := (← scene.camera camera).grids
    let _ ← scene.grid id
    if id ∉ seen then return
    Scene.changeCamera camera fun camera => { camera with grids := camera.grids.erase id }
    withdrawal camera id
    Scene.sync) := rfl

theorem dropCamera_eq (camera : CameraId) (scene : Scene) : Scene.dropCamera camera scene =
    let seen := match scene.cameras.get? camera with
      | some view => view.grids
      | none => []
    let detached := seen.foldl (fun scene id => Action.after (withdrawal camera id) scene) scene
    Scene.notify { detached with cameras := detached.cameras.erase camera } (.drop camera) := rfl

theorem withdrawal_apply {grid : Grid} (running : scene.executor.running = true)
    (found : scene.grids.get? id = some grid) :
    withdrawal camera id scene = .ok () (scene.part camera id grid) := by
  by_cases subscribed : camera ∈ grid.subscribers
  · simp [withdrawal, Scene.grid, found, subscribed, Scene.part]
    exact @submit_apply { scene with grids := scene.grids.insert id (grid.unsubscribe camera) } running _
  · simp [withdrawal, Scene.grid, found, subscribed, Scene.part]

theorem detach_apply {view : Camera} {grid : Grid} (sound : (idle scene).Sound)
    (present : scene.cameras.get? camera = some view) (found : scene.grids.get? id = some grid) :
    Scene.detach camera id scene = .ok () (if id ∈ view.grids then
      (Scene.part { scene with
        cameras := scene.cameras.modify camera fun view =>
          { view with grids := view.grids.erase id } } camera id grid).settle
      else scene) := by
  by_cases seen : id ∈ view.grids
  · have running : scene.executor.running = true := sound.ready.sound.running
    have subscribed : camera ∈ grid.subscribers := by
      rwa [sound.subscribed_iff present found, attached_of_stays rfl]
    have parted : (Scene.part { scene with
        cameras := scene.cameras.modify camera fun view =>
          { view with grids := view.grids.erase id } } camera id grid).executor.running = true := by
      rw [Scene.part, if_pos subscribed, Executor.notify, if_pos running]
      exact running
    have ended := @withdrawal_apply { scene with
      cameras := scene.cameras.modify camera fun view =>
        { view with grids := view.grids.erase id } } camera id grid running found
    rw [detach_eq]
    simp [Scene.camera, present, Scene.grid, found, seen, Scene.changeCamera, ended, sync_apply, parted]
  · simp [Scene.detach, Scene.camera, present, Scene.grid, found, seen]

theorem detach_cases (sound : (idle scene).Sound) (camera : CameraId) (id : GridId) :
    Action.after (Scene.detach camera id) scene = scene ∨
      ∃ view grid, scene.cameras.get? camera = some view ∧ scene.grids.get? id = some grid ∧
        id ∈ view.grids ∧ Action.after (Scene.detach camera id) scene =
          (Scene.part { scene with
            cameras := scene.cameras.modify camera fun view =>
              { view with grids := view.grids.erase id } } camera id grid).settle := by
  by_cases unknown : scene.cameras.get? camera = none ∨ scene.grids.get? id = none
  · exact .inl (after_of_unknown unknown _)
  · obtain ⟨view, grid, present, found⟩ := known_of_not unknown
    rw [Action.after_of_ok (detach_apply sound present found)]
    by_cases seen : id ∈ view.grids
    · exact .inr ⟨view, grid, present, found, seen, if_pos seen⟩
    · exact .inl (if_neg seen)

theorem detach_run (sound : (idle scene).Sound) (camera : CameraId) (id : GridId) :
    Run (idle scene) (idle (Action.after (Scene.detach camera id) scene)) := by
  obtain same | ⟨view, grid, present, found, seen, same⟩ := detach_cases sound camera id
  · rw [same]
    exact .refl
  · have step : Step (idle scene) _ := .detach present rfl found rfl seen
    rw [same]
    exact (Run.refl.step step).trans (step.sound sound).settled_run

theorem leaves_run (sound : busy.Sound) {rest : List GridId}
    (going : busy.leaving camera = some rest) (unlocked : ∀ id, busy.unsent id = []) :
    ∃ after, Run busy after ∧ after.leaving = Function.update busy.leaving camera (some []) ∧
      after.unsent = busy.unsent ∧ after.scene =
        rest.foldl (fun scene id => Action.after (withdrawal camera id) scene) busy.scene := by
  induction rest generalizing busy with
  | nil => exact ⟨busy, .refl, by rw [← going, Function.update_eq_self], rfl, rfl⟩
  | cons id rest ih =>
      obtain ⟨view, present⟩ := Option.ne_none_iff_exists'.mp
        (sound.leaving camera (by rw [going]; exact Option.some_ne_none _))
      obtain ⟨grid, found⟩ := Option.ne_none_iff_exists'.mp
        (sound.known camera view present id (by simp [BusyScene.attached, going]))
      have step : Step busy _ := .leave going found (unlocked id)
      obtain ⟨after, run, leaving, unsent, scene⟩ := ih (step.sound sound)
        (Function.update_self ..) unlocked
      refine ⟨after, (Run.refl.step step).trans run, ?_, unsent, ?_⟩
      · rw [leaving, Function.update_idem]
      · rw [scene, List.foldl_cons,
          Action.after_of_ok (withdrawal_apply sound.ready.sound.running found)]

theorem dropCamera_run (sound : (idle scene).Sound) {view : Camera}
    (present : scene.cameras.get? camera = some view) :
    Run (idle scene) (idle (scene.dropCamera camera)) ∧
      camera < (scene.dropCamera camera).nextCamera ∧
      (scene.dropCamera camera).cameras.get? camera = none := by
  have first : Step (idle scene) _ := .drop present rfl
  obtain ⟨after, run, leaving, unsent, left⟩ := leaves_run (first.sound sound)
    (Function.update_self ..) fun _ => rfl
  have going : after.leaving camera = some [] := by
    rw [leaving]
    exact Function.update_self ..
  have reached := (Run.refl.step first).trans run
  have whole := reached.step (.gone going)
  have none : Function.update after.leaving camera none = (idle scene).leaving := by
    rw [leaving, Function.update_idem, Function.update_idem]
    exact Function.update_eq_self camera _
  rw [none, unsent] at whole
  have dropped : scene.dropCamera camera = Scene.notify
      { after.scene with cameras := after.scene.cameras.erase camera } (.drop camera) := by
    rw [dropCamera_eq, present, left]
    rfl
  rw [dropped]
  -- Until its last step the camera is there, so its number was given out.
  have still := reached.sound sound
  obtain ⟨last, here⟩ := Option.ne_none_iff_exists'.mp
    (still.leaving camera (by rw [going]; exact Option.some_ne_none _))
  refine ⟨whole, (still.cameras camera last here).1, ?_⟩
  exact (Dictionary.get?_erase ..).trans (if_pos rfl)

theorem request_run (sound : (idle scene).Sound) (request : Scene.Request) :
    Run (idle scene) (idle (request.after scene)) := by
  have once {after : BusyScene} (step : Step (idle scene) after) : Run (idle scene) after :=
    Run.refl.step step
  cases request with
  | addMarker marker => exact once (.call (.addMarker marker))
  | moveMarker id position => exact once (.call (.moveMarker id position))
  | makeCamera config position => exact once (.call (.makeCamera config position))
  | moveCamera camera position =>
      rw [Scene.Request.after, Scene.Request.perform, Action.after_map]
      exact once (.move position rfl)
  | makeGrid cellSize =>
      rw [Scene.Request.after, Scene.Request.perform, Action.after_map, Action.after_eq_left]
      unfold Scene.makeGrid Grid.make
      split
      · exact once (.makeGrid cellSize)
      · exact .refl
  | addAt grid cell marker => exact addAt_run scene grid cell marker
  | add grid marker =>
      rw [Scene.Request.after, Scene.Request.perform, Action.after_map]
      exact add_run scene grid marker
  | remove grid marker =>
      rw [Scene.Request.after, Scene.Request.perform, Action.after_map]
      exact remove_run scene grid marker
  | relocate grid marker =>
      rw [Scene.Request.after, Scene.Request.perform, Action.after_map]
      exact relocate_run scene grid marker
  | attach camera grid => exact attach_run sound camera grid
  | detach camera grid => exact detach_run sound camera grid
  | dropCamera camera =>
      rw [Scene.Request.after, Scene.Request.perform, Action.after_eq_left]
      cases present : scene.cameras.get? camera with
      | none =>
          simp only [Action.bind_apply, Action.get_apply, Action.liftM_apply, Scene.camera, present]
          exact .refl
      | some view =>
          simp only [Action.bind_apply, Action.get_apply, Action.liftM_apply, Scene.camera, present,
            Action.modify_apply]
          exact (dropCamera_run sound present).1
  | settle => exact sound.settled_run

theorem afterAll_run (sound : (idle scene).Sound) (requests : List Scene.Request) :
    Run (idle scene) (idle (Scene.Request.afterAll requests scene)) := by
  induction requests generalizing scene with
  | nil => exact .refl
  | cons request rest ih =>
      have first := request_run sound request
      exact first.trans (ih (first.sound sound))

theorem showsExactly_afterAll (sound : (idle scene).Sound) (requests : List Scene.Request) {view : Camera}
    (present : (Scene.Request.afterAll requests scene).cameras.get? camera = some view) :
    (Scene.Request.afterAll requests scene).settle.ShowsExactly camera view :=
  ((afterAll_run sound requests).sound sound).showsExactly present rfl fun _ _ => rfl

end BusyScene

end TorusEngine.Relevance
