import TorusEngine.Proofs.Relevance.Requests

/-!
# Where cameras are and what they see

A camera stands in the cell of the position that it was last given: a step makes a camera, moves one, or
leaves every camera where it is (`Step.locates`). What a camera's grids hold in cells that are relevant
from there is what its set shows, whichever steps the threads take, and so it is for a thread that has
the scene to itself and makes one request after the other (`cameras_see_what_grids_hold`).
-/

namespace TorusEngine.Relevance

open Torus (Cell)

/-! ## Where cameras are -/

def Camera.Placed (view : Camera) : Prop :=
  view.cell = Cell.ofPosition view.position view.config.geometry.cellSize

namespace Scene

variable {scene after : Scene}

/-- Each camera that is still there is where it was, though perhaps at other grids. -/
def Rests (scene after : Scene) : Prop :=
  ∀ camera seen, after.cameras.get? camera = some seen →
    ∃ view, scene.cameras.get? camera = some view ∧ seen = { view with grids := seen.grids }

inductive Located (scene : Scene) : Scene → Prop where
  | made (config : RelevanceConfig) (position : Vec3 Float) :
      Located scene (Action.after (makeCamera config position) scene)
  | moved (camera : CameraId) (position : Vec3 Float) :
      Located scene (Action.after (moveCamera camera position) scene)
  | rested {after : Scene} (rests : scene.Rests after) : Located scene after

theorem Rests.of_cameras (same : after.cameras = scene.cameras) : scene.Rests after :=
  fun _ seen present => ⟨seen, same ▸ present, rfl⟩

theorem Rests.of_grids {camera : CameraId} (change : List GridId → List GridId)
    (cameras : after.cameras = scene.cameras.modify camera fun view =>
      { view with grids := change view.grids }) : scene.Rests after := by
  intro other seen present
  rw [cameras, Dictionary.get?_modify] at present
  split at present
  · obtain ⟨view, before, rfl⟩ := Option.map_eq_some_iff.mp present
    exact ⟨view, before, rfl⟩
  · exact ⟨seen, present, rfl⟩

theorem part_cameras (scene : Scene) (camera : CameraId) (id : GridId) (grid : Grid) :
    (scene.part camera id grid).cameras = scene.cameras := by
  unfold part
  split <;> rfl

end Scene

namespace BusyScene

variable {busy after : BusyScene} {scene : Scene} {camera : CameraId} {view : Camera}

theorem Step.locates (step : Step busy after) : busy.scene.Located after.scene := by
  cases step with
  | call call =>
      cases call with
      | addMarker marker => exact .rested (.of_cameras rfl)
      | moveMarker id position =>
          refine .rested (.of_cameras ?_)
          rw [Scene.Call.perform, Action.after_eq_left]
          cases found : busy.scene.marker id <;>
            simp only [Scene.moveMarker, Action.bind_apply, Action.get_apply, Action.liftM_apply, found] <;>
            rfl
      | makeCamera config position =>
          rw [Scene.Call.perform, Action.after_map]
          exact .made config position
  | makeGrid | change | send | drop | apply => exact .rested (.of_cameras rfl)
  | move position => exact .moved _ position
  | attach => exact .rested (.of_grids (· ++ [_]) rfl)
  | detach => exact .rested (.of_grids (·.erase _) (Scene.part_cameras ..))
  | leave => exact .rested (.of_cameras (Scene.part_cameras ..))
  | gone => exact .rested fun other seen present => ⟨seen, Dictionary.get?_of_erase present, rfl⟩

theorem Sound.placed (sound : busy.Sound) (located : busy.scene.Located scene)
    (placed : ∀ camera view, busy.scene.cameras.get? camera = some view → view.Placed)
    (present : scene.cameras.get? camera = some view) : view.Placed := by
  have running : busy.scene.executor.running = true := sound.ready.sound.running
  cases located with
  | made config position =>
      rw [after_makeCamera running] at present
      obtain ⟨-, rfl⟩ | before := Dictionary.get?_of_insert present
      · rfl
      · exact placed camera view before
  | moved other position =>
      cases found : busy.scene.cameras.get? other with
      | none =>
          rw [after_moveCamera_absent found] at present
          exact placed camera view present
      | some seen =>
          rw [after_moveCamera running found] at present
          dsimp only at present
          rw [Dictionary.get?_modify] at present
          split at present
          · rename_i same
            cases same
            obtain ⟨before, here, rfl⟩ := Option.map_eq_some_iff.mp present
            cases found.symm.trans here
            rfl
          · exact placed camera view present
  | rested rests =>
      obtain ⟨before, here, same⟩ := rests camera view present
      rw [same]
      exact placed camera before here

theorem Run.placed (run : Run {} busy) (present : busy.scene.cameras.get? camera = some view) :
    view.Placed := by
  induction run generalizing camera view with
  | refl => cases present
  | step run step ih =>
      exact (Reachable.sound run).placed step.locates (fun _ _ here => ih here) present

/-! ## Scenes used by one thread -/

/-- What a thread sees that has a scene to itself: its cameras show what their grids hold after any
requests, and a camera that was dropped shows nothing from then on. -/
structure SeesAlone (scene : Scene) : Prop where
  run : ∀ requests, Run (idle scene) (idle (Scene.Request.afterAll requests scene))
  shows : ∀ requests camera view,
    (Scene.Request.afterAll requests scene).cameras.get? camera = some view →
      (Scene.Request.afterAll requests scene).settle.ShowsExactly camera view
  attaches : ∀ camera view id, scene.cameras.get? camera = some view → scene.grids.get? id ≠ none →
    ∃ after grids, Scene.attach camera id scene = .ok () after ∧
      after.cameras.get? camera = some { view with grids } ∧
      ∀ other, other ∈ grids ↔ other = id ∨ other ∈ view.grids
  detaches : ∀ camera view id, scene.cameras.get? camera = some view → scene.grids.get? id ≠ none →
    ∃ after grids, Scene.detach camera id scene = .ok () after ∧
      after.cameras.get? camera = some { view with grids } ∧
      ∀ other, other ∈ grids ↔ other ≠ id ∧ other ∈ view.grids
  drops : ∀ camera view, scene.cameras.get? camera = some view → ∀ requests,
    ((Scene.Request.afterAll requests (scene.dropCamera camera).settle).published camera).members = []

theorem attach_grids {id : GridId} (running : scene.executor.running = true)
    (present : scene.cameras.get? camera = some view) (known : scene.grids.get? id ≠ none) :
    ∃ after grids, Scene.attach camera id scene = .ok () after ∧
      after.cameras.get? camera = some { view with grids } ∧
      ∀ other, other ∈ grids ↔ other = id ∨ other ∈ view.grids := by
  obtain ⟨grid, found⟩ := Option.ne_none_iff_exists'.mp known
  by_cases seen : id ∈ view.grids
  · refine ⟨scene, view.grids, by rw [attach_apply running present found, if_pos seen], present, ?_⟩
    exact fun other => (or_iff_right_of_imp fun same => same ▸ seen).symm
  · refine ⟨(scene.join camera id grid).settle, view.grids ++ [id],
      by rw [attach_apply running present found, if_neg seen], ?_, fun other => ?_⟩
    · simp [Scene.settle, Scene.join, Dictionary.get?_modify, present]
    · rw [List.mem_append, List.mem_singleton, or_comm]

theorem detach_grids {id : GridId} (sound : (idle scene).Sound)
    (present : scene.cameras.get? camera = some view) (known : scene.grids.get? id ≠ none) :
    ∃ after grids, Scene.detach camera id scene = .ok () after ∧
      after.cameras.get? camera = some { view with grids } ∧
      ∀ other, other ∈ grids ↔ other ≠ id ∧ other ∈ view.grids := by
  obtain ⟨grid, found⟩ := Option.ne_none_iff_exists'.mp known
  by_cases seen : id ∈ view.grids
  · have distinct := (sound.cameras camera view present).2
    rw [attached_of_stays rfl] at distinct
    refine ⟨_, view.grids.erase id, by rw [detach_apply sound present found, if_pos seen], ?_,
      fun other => distinct.mem_erase_iff⟩
    simp [Scene.settle, Scene.part_cameras, Dictionary.get?_modify, present]
  · refine ⟨scene, view.grids, by rw [detach_apply sound present found, if_neg seen], present, ?_⟩
    refine fun other => ⟨fun member => ⟨?_, member⟩, And.right⟩
    rintro rfl
    exact seen member

theorem published_afterAll_dropCamera (sound : (idle scene).Sound)
    (present : scene.cameras.get? camera = some view) (requests : List Scene.Request) :
    ((Scene.Request.afterAll requests (scene.dropCamera camera).settle).published camera).members = [] := by
  obtain ⟨run, made, gone⟩ := dropCamera_run sound present
  have dropped := run.sound sound
  have settled : (idle (scene.dropCamera camera).settle).Sound := dropped.settled_run.sound dropped
  have later := afterAll_run settled requests
  exact (later.silent settled (dropped.settled_silent made gone)).published (later.sound settled)

/-! ## The whole property -/

structure SeesExactly (busy : BusyScene) : Prop where
  live : ∀ camera view, busy.scene.cameras.get? camera = some view → busy.leaving camera = none →
    (∀ id ∈ view.grids, busy.unsent id = []) → busy.scene.settle.ShowsExactly camera view
  dropped : ∀ camera < busy.scene.nextCamera, busy.scene.cameras.get? camera = none →
    ∀ after, Run busy.settled after → (after.scene.published camera).members = []
  placed : ∀ camera view, busy.scene.cameras.get? camera = some view → view.Placed
  made : ∀ config position, ∃ after,
    Scene.makeCamera config position busy.scene = .ok busy.scene.nextCamera after ∧
      after.cameras = busy.scene.cameras.insert busy.scene.nextCamera
        { config, position, cell := Cell.ofPosition position config.geometry.cellSize }
  moved : ∀ camera view position, busy.scene.cameras.get? camera = some view → ∃ recentered after,
    Scene.moveCamera camera position busy.scene = .ok recentered after ∧
      after.cameras = busy.scene.cameras.modify camera ({ · with
        position, cell := Cell.ofPosition position view.config.geometry.cellSize })
  located : ∀ after, Step busy after → busy.scene.Located after.scene
  alone : ∀ scene, busy = idle scene → SeesAlone scene

/-- Whatever the threads have done so far, a live camera shows what its grids hold in relevant cells once
the executor has caught up, and a dropped one shows nothing. Relevant is what is so from the cell of the
position that the camera was last given. -/
theorem cameras_see_what_grids_hold (reachable : Reachable busy) : busy.SeesExactly := by
  have sound := reachable.sound
  have running : busy.scene.executor.running = true := sound.ready.sound.running
  constructor
  case live => exact fun camera view => sound.showsExactly
  case dropped =>
    intro camera made gone after run
    have settled := sound.settled_run.sound sound
    have silent := run.silent settled (sound.settled_silent made gone)
    exact silent.published (run.sound settled)
  case placed => exact fun camera view => Run.placed reachable
  case made => exact fun config position => ⟨_, makeCamera_apply running config position, rfl⟩
  case moved =>
    exact fun camera view position present => ⟨_, _, moveCamera_apply running present position, rfl⟩
  case located => exact fun after step => step.locates
  case alone =>
    rintro scene rfl
    exact {
      run := afterAll_run sound
      shows := fun requests camera view => showsExactly_afterAll sound requests
      attaches := fun camera view id => attach_grids running
      detaches := fun camera view id => detach_grids sound
      drops := fun camera view => published_afterAll_dropCamera sound }

/-- A camera at a grid that holds one marker in the cell visible from everywhere, when the command that
tells of the marker is sent and not applied yet. -/
theorem cameras_see_what_grids_hold_everywhere : ∃ busy view, Reachable busy ∧
    (∀ id, busy.unsent id = []) ∧ busy.scene.cameras.get? 0 = some view ∧ busy.leaving 0 = none ∧
    busy.scene.HoldsFor view Cell.everywhere 0 ∧
    (busy.scene.published 0).members = [] ∧ (busy.scene.settle.published 0).members = [(0, true)] ∧
    busy.SeesExactly := by
  have marked : Reachable _ := Run.refl.step (.call (.addMarker ⟨7, ⟨0, 0, 0⟩⟩))
  have gridded := marked.step (.makeGrid 16)
  have viewed := gridded.step (.call (.makeCamera {} ⟨0, 0, 0⟩))
  have attached := viewed.step (@Step.attach _ 0 _ 0 _ rfl rfl rfl rfl List.not_mem_nil)
  have changed := attached.step (@Step.change _ 0 _ (.addAt Cell.everywhere 0) rfl rfl)
  have sent := changed.step (@Step.send _ 0 _ [] rfl)
  refine ⟨_, _, sent, fun id => ?_, rfl, rfl, ⟨0, ?_, _, rfl, ?_⟩, rfl, rfl,
    cameras_see_what_grids_hold sent⟩
  · by_cases same : id = 0
    · cases same
      rfl
    · exact (Function.update_of_ne same _ _).trans (Function.update_of_ne same _ _)
  · exact List.mem_singleton_self 0
  · rfl

end BusyScene

end TorusEngine.Relevance
