import TorusEngine.Proofs.Relevance.Telling

/-!
# What cameras will have been told

What a camera is told about a grid, by the commands in the inbox and then by those of the grid that are
not sent yet, is what the grid holds if the camera subscribes to it, and nothing otherwise. This module
has the steps that send, apply and change, and those by which a camera comes to a grid or leaves it.
-/

namespace TorusEngine.Relevance

open Torus (Cell)

def Scene.heldFor (scene : Scene) (camera : CameraId) (id : GridId) (cell : Cell) (marker : MarkerId) :
    Prop :=
  ∃ grid, scene.grids.get? id = some grid ∧ camera ∈ grid.subscribers ∧ grid.holds cell marker

def Scene.shown (scene : Scene) (camera : CameraId) (view : Camera) (id : GridId) : Sight :=
  ⟨view.cell, view.config.radius, view.config.geometry.widthCells, scene.heldFor camera id⟩

namespace BusyScene

variable {busy after : BusyScene} {camera : CameraId} {view : Camera} {id : GridId} {grid : Grid}

/-- What a camera will have been told about a grid. -/
def told (busy : BusyScene) (camera : CameraId) (id : GridId) : Option Sight :=
  Command.sight? camera id (busy.scene.executor.inbox ++ busy.unsent id)
    (busy.scene.executor.outlook? camera)

def attached (busy : BusyScene) (camera : CameraId) (view : Camera) : List GridId :=
  (busy.leaving camera).getD view.grids

structure Sound (busy : BusyScene) : Prop where
  ready : busy.scene.executor.Ready
  grids : ∀ id grid, busy.scene.grids.get? id = some grid → grid.WellFormed ∧ id < busy.scene.nextGrid
  unsent : ∀ id, ∀ command ∈ busy.unsent id, command.grid? = some id ∧
    ∃ grid, busy.scene.grids.get? id = some grid ∧
      ∃ camera ∈ grid.subscribers, command.camera? = some camera
  cameras : ∀ camera view, busy.scene.cameras.get? camera = some view →
    camera < busy.scene.nextCamera ∧ (busy.attached camera view).Nodup
  leaving : ∀ camera, busy.leaving camera ≠ none → busy.scene.cameras.get? camera ≠ none
  subscribed : ∀ id grid camera, busy.scene.grids.get? id = some grid →
    (camera ∈ grid.subscribers ↔ ∃ view, busy.scene.cameras.get? camera = some view ∧
      id ∈ busy.attached camera view)
  known : ∀ camera view, busy.scene.cameras.get? camera = some view →
    ∀ id ∈ busy.attached camera view, busy.scene.grids.get? id ≠ none
  told : ∀ camera view, busy.scene.cameras.get? camera = some view →
    ∀ id, busy.told camera id = some (busy.scene.shown camera view id)
  dropped : ∀ camera < busy.scene.nextCamera, busy.scene.cameras.get? camera = none →
    Command.followAll camera busy.scene.executor.inbox (busy.scene.executor.outlook? camera) = none

theorem Sound.send (sound : busy.Sound) {command : Command} {rest : List Command}
    (first : busy.unsent id = command :: rest) :
    Sound { busy with
      scene := busy.scene.notify command
      unsent := Function.update busy.unsent id rest } := by
  have member : command ∈ busy.unsent id := by rw [first]; exact List.mem_cons_self
  have about := (sound.unsent id command member).1
  have kept : ∀ other, ∀ command ∈ Function.update busy.unsent id rest other,
      command ∈ busy.unsent other := by
    intro other command member
    by_cases same : other = id
    · subst same
      rw [Function.update_self] at member
      rw [first]
      exact List.mem_cons_of_mem _ member
    · rwa [Function.update_of_ne same] at member
  refine ⟨sound.ready.notify (Command.admissible_of_grid? about), sound.grids, ?_, sound.cameras,
    sound.leaving, sound.subscribed, sound.known, ?_, ?_⟩
  · exact fun other command member => sound.unsent other command (kept other command member)
  · intro camera view present other
    refine Eq.trans ?_ (sound.told camera view present other)
    simp only [BusyScene.told, Scene.notify, sound.ready.inbox_notify, Executor.outlook?_notify]
    by_cases same : other = id
    · subst same
      rw [Function.update_self, first, List.append_assoc]
      rfl
    · rw [Function.update_of_ne same]
      exact Command.sight?_between (fun outlook => Command.follow_elsewhere about (Ne.symm same)) ..
  · intro camera made gone
    simp only [Scene.notify, sound.ready.inbox_notify, Executor.outlook?_notify]
    rw [Command.followAll_append, sound.dropped camera made gone]
    exact Command.follow_none about

theorem Sound.apply (sound : busy.Sound) {command : Command} {rest : List Command}
    (first : busy.scene.executor.inbox = command :: rest) :
    Sound { busy with scene := { busy.scene with
      executor := Executor.apply { busy.scene.executor with inbox := rest } command } } := by
  obtain ⟨ready, inbox, outlook⟩ := sound.ready.apply first
  refine ⟨ready, sound.grids, sound.unsent, sound.cameras, sound.leaving, sound.subscribed,
    sound.known, ?_, ?_⟩
  · intro camera view present id
    refine Eq.trans ?_ (sound.told camera view present id)
    simp only [BusyScene.told, inbox, outlook, first]
    rfl
  · intro camera made gone
    refine Eq.trans ?_ (sound.dropped camera made gone)
    simp only [inbox, outlook, first]
    rfl

theorem heldFor_congr {scene other : Scene} (same : other.grids.get? id = scene.grids.get? id)
    (camera : CameraId) : other.heldFor camera id = scene.heldFor camera id := by
  unfold Scene.heldFor
  rw [same]

theorem heldFor_of_found {scene : Scene} (found : scene.grids.get? id = some grid)
    (camera : CameraId) : scene.heldFor camera id =
      fun cell marker => camera ∈ grid.subscribers ∧ grid.holds cell marker := by
  funext cell marker
  simp [Scene.heldFor, found]

theorem Sound.change (sound : busy.Sound) (operation : Grid.Operation)
    (found : busy.scene.grids.get? id = some grid) (unlocked : busy.unsent id = []) :
    Sound { busy with
      scene := { busy.scene with
        grids := busy.scene.grids.insert id (operation.perform grid).1 }
      unsent := Function.update busy.unsent id
        (Scene.reports id (operation.perform grid).1.subscribers (operation.perform grid).2) } := by
  obtain ⟨wellFormed, numbered⟩ := sound.grids id grid found
  obtain ⟨stays, subscribers, holds⟩ := Grid.perform_reports wellFormed operation
  generalize operation.perform grid = result at *
  rw [subscribers]
  refine ⟨sound.ready, ?_, ?_, sound.cameras, sound.leaving, ?_, ?_, ?_, sound.dropped⟩
  · intro other present here
    obtain ⟨rfl, rfl⟩ | before := Dictionary.get?_of_insert here
    · exact ⟨stays, numbered⟩
    · exact sound.grids other present before
  · intro other command member
    by_cases same : other = id
    · subst same
      simp only [Function.update_self] at member
      obtain ⟨change, camera, subscribed, rfl⟩ := Command.mem_reports member
      refine ⟨Command.report_grid? .., result.1, ?_, camera, subscribers ▸ subscribed,
        Command.report_camera? ..⟩
      rw [Dictionary.get?_insert, if_pos rfl]
    · simp only [Function.update_of_ne same] at member
      rw [Dictionary.get?_insert, if_neg (Ne.symm same)]
      exact sound.unsent other command member
  · intro other present camera here
    obtain ⟨rfl, rfl⟩ | before := Dictionary.get?_of_insert here
    · rw [subscribers]
      exact sound.subscribed _ grid camera found
    · exact sound.subscribed other present camera before
  · intro camera view present other among
    rw [Dictionary.get?_insert]
    split
    · exact Option.some_ne_none _
    · exact sound.known camera view present other among
  · intro camera view present other
    have before := sound.told camera view present other
    by_cases same : other = id
    · subst same
      have now : ({ busy.scene with grids := busy.scene.grids.insert other result.1 } :
          Scene).grids.get? other = some result.1 := by
        rw [Dictionary.get?_insert, if_pos rfl]
      simp only [BusyScene.told, unlocked, List.append_nil, Command.sight?, Scene.shown,
        heldFor_of_found found] at before
      simp only [BusyScene.told, Function.update_self, Command.sight?, Command.followAll_append,
        Scene.shown, heldFor_of_found now]
      refine (Command.sight?_reports ..).trans ?_
      rw [before, subscribers, holds]
      split
      · rename_i subscribed
        simp [subscribed]
      · rename_i absent
        simp [absent]
    · simp only [BusyScene.told, Function.update_of_ne same]
      refine before.trans ?_
      have same : ({ busy.scene with grids := busy.scene.grids.insert id result.1 } :
          Scene).grids.get? other = busy.scene.grids.get? other := by
        rw [Dictionary.get?_insert, if_neg (Ne.symm same)]
      rw [Scene.shown, Scene.shown, heldFor_congr same]

/-! ## Subscribing -/

/-- A camera's subscription to an unlocked grid begins or ends, and the executor is told so. -/
structure Resubscribes (busy after : BusyScene) (camera : CameraId) (view left : Camera) (id : GridId)
    (grid changed : Grid) (command : Command) : Prop where
  found : busy.scene.grids.get? id = some grid
  unlocked : busy.unsent id = []
  present : busy.scene.cameras.get? camera = some view
  wellFormed : changed.WellFormed
  holds : changed.holds = grid.holds
  subscribers : ∀ other, camera ≠ other → (other ∈ changed.subscribers ↔ other ∈ grid.subscribers)
  grids : after.scene.grids = busy.scene.grids.insert id changed
  executor : after.scene.executor = busy.scene.executor.notify command
  nextGrid : after.scene.nextGrid = busy.scene.nextGrid
  nextCamera : after.scene.nextCamera = busy.scene.nextCamera
  unsent : after.unsent = busy.unsent
  cameras : ∀ other, after.scene.cameras.get? other =
    if camera = other then some left else busy.scene.cameras.get? other
  leaving : ∀ other, camera ≠ other → after.leaving other = busy.leaving other
  cell : left.cell = view.cell
  config : left.config = view.config
  distinct : (after.attached camera left).Nodup
  attached : ∀ other, other ∈ after.attached camera left ↔
    if id = other then camera ∈ changed.subscribers else other ∈ busy.attached camera view
  about : command.camera? = some camera
  on : command.grid? = some id
  tells : ∀ outlook : Outlook, outlook.holds id = busy.scene.heldFor camera id →
    (command.tell (some outlook)).map (·.at id) = some { outlook.at id with
      holds := fun cell marker => camera ∈ changed.subscribers ∧ grid.holds cell marker }

namespace Resubscribes

variable {left : Camera} {changed : Grid} {command : Command}
  (does : busy.Resubscribes after camera view left id grid changed command)
include does

theorem self : after.scene.grids.get? id = some changed := by
  rw [does.grids, Dictionary.get?_insert, if_pos rfl]

theorem elsewhere {other : GridId} (different : id ≠ other) :
    after.scene.grids.get? other = busy.scene.grids.get? other := by
  rw [does.grids, Dictionary.get?_insert, if_neg different]

theorem viewed : after.scene.cameras.get? camera = some left := (does.cameras camera).trans (if_pos rfl)

theorem others {other : CameraId} (different : camera ≠ other) :
    after.scene.cameras.get? other = busy.scene.cameras.get? other :=
  (does.cameras other).trans (if_neg different)

theorem attached_others {other : CameraId} (different : camera ≠ other) (view : Camera) :
    after.attached other view = busy.attached other view := by
  rw [BusyScene.attached, BusyScene.attached, does.leaving other different]

theorem known (sound : busy.Sound) {other : CameraId} {present : Camera}
    (here : after.scene.cameras.get? other = some present) {place : GridId}
    (among : place ∈ after.attached other present) : after.scene.grids.get? place ≠ none := by
  by_cases equal : id = place
  · cases equal
    rw [does.self]
    exact Option.some_ne_none changed
  · rw [does.elsewhere equal]
    by_cases same : camera = other
    · cases same
      cases does.viewed.symm.trans here
      rw [does.attached, if_neg equal] at among
      exact sound.known camera view does.present place among
    · rw [does.attached_others same] at among
      exact sound.known other present ((does.others same).symm.trans here) place among

theorem subscribed (sound : busy.Sound) {place : GridId} {present : Grid}
    (here : after.scene.grids.get? place = some present) (other : CameraId) :
    other ∈ present.subscribers ↔
      ∃ view, after.scene.cameras.get? other = some view ∧ place ∈ after.attached other view := by
  by_cases same : camera = other
  · cases same
    have only : (∃ view, after.scene.cameras.get? camera = some view ∧
        place ∈ after.attached camera view) ↔ place ∈ after.attached camera left := by
      simp [does.viewed]
    rw [only, does.attached]
    split
    · rename_i same
      cases same
      cases does.self.symm.trans here
      exact Iff.rfl
    · rename_i different
      rw [does.elsewhere different] at here
      simp [sound.subscribed place present camera here, does.present]
  · simp only [does.others same, does.attached_others same]
    by_cases equal : id = place
    · cases equal
      cases does.self.symm.trans here
      rw [does.subscribers other same]
      exact sound.subscribed id grid other does.found
    · rw [does.elsewhere equal] at here
      exact sound.subscribed place present other here

theorem told_eq (sound : busy.Sound) (other : CameraId) (place : GridId) :
    after.told other place = Command.sight? other place
      (busy.scene.executor.inbox ++ [command] ++ busy.unsent place)
      (busy.scene.executor.outlook? other) := by
  simp only [BusyScene.told, does.executor, does.unsent, sound.ready.inbox_notify command,
    Executor.outlook?_notify]

theorem told_self (sound : busy.Sound) :
    after.told camera id = some (after.scene.shown camera left id) := by
  have before := sound.told camera view does.present id
  rw [does.told_eq sound]
  simp only [BusyScene.told, does.unlocked, List.append_nil, Command.sight?] at before
  rw [does.unlocked, List.append_nil, Command.sight?, Command.followAll_append]
  generalize Command.followAll camera busy.scene.executor.inbox _ = outlook at *
  cases outlook with
  | none => cases before
  | some outlook =>
      simp only [Option.map_some, Option.some.injEq, Outlook.at, Scene.shown, Sight.mk.injEq] at before
      obtain ⟨center, radius, width, holds⟩ := before
      refine (congrArg _ (Command.follow_self does.about _)).trans ?_
      rw [does.tells outlook holds, Scene.shown, heldFor_of_found does.self, does.cell, does.config,
        does.holds]
      simp only [Outlook.at, center, radius, width]

theorem told_elsewhere (sound : busy.Sound) {place : GridId} (different : id ≠ place) :
    after.told camera place = some (after.scene.shown camera left place) := by
  rw [does.told_eq sound]
  refine (Command.sight?_between (fun outlook =>
    Command.follow_elsewhere does.on different) ..).trans ((sound.told camera view does.present place).trans ?_)
  rw [Scene.shown, Scene.shown, heldFor_congr (does.elsewhere different), does.cell, does.config]

theorem told_others (sound : busy.Sound) {other : CameraId} (different : camera ≠ other)
    {present : Camera} (here : busy.scene.cameras.get? other = some present) (place : GridId) :
    after.told other place = some (after.scene.shown other present place) := by
  have silent : ∀ outlook, (Command.follow other outlook command).map (·.at place) =
      outlook.map (·.at place) := fun outlook => by
    rw [Command.follow_other does.about different]
  rw [does.told_eq sound]
  refine (Command.sight?_between silent ..).trans ((sound.told other present here place).trans ?_)
  by_cases equal : id = place
  · cases equal
    rw [Scene.shown, Scene.shown, heldFor_of_found does.self, heldFor_of_found does.found, does.holds]
    simp only [does.subscribers other different]
  · rw [Scene.shown, Scene.shown, heldFor_congr (does.elsewhere equal)]

end Resubscribes

theorem Sound.resubscribe (sound : busy.Sound) {left : Camera} {changed : Grid} {command : Command}
    (does : busy.Resubscribes after camera view left id grid changed command) : after.Sound where
  ready := by
    rw [does.executor]
    exact sound.ready.notify (Command.admissible_of_grid? does.on)
  grids := by
    intro other present here
    rw [does.nextGrid]
    by_cases same : id = other
    · cases same
      cases does.self.symm.trans here
      exact ⟨does.wellFormed, (sound.grids id grid does.found).2⟩
    · rw [does.elsewhere same] at here
      exact sound.grids other present here
  unsent := by
    intro other command member
    rw [does.unsent] at member
    by_cases same : id = other
    · cases same
      rw [does.unlocked] at member
      cases member
    · rw [does.elsewhere same]
      exact sound.unsent other command member
  cameras := by
    intro other present here
    rw [does.nextCamera]
    by_cases same : camera = other
    · cases same
      cases does.viewed.symm.trans here
      exact ⟨(sound.cameras camera view does.present).1, does.distinct⟩
    · rw [does.attached_others same]
      exact sound.cameras other present ((does.others same).symm.trans here)
  leaving := by
    intro other going
    by_cases same : camera = other
    · cases same
      rw [does.viewed]
      exact Option.some_ne_none left
    · rw [does.others same]
      exact sound.leaving other (does.leaving other same ▸ going)
  subscribed := fun _ _ other here => does.subscribed sound here other
  known := fun _ _ here _ among => does.known sound here among
  told := by
    intro other present here place
    by_cases same : camera = other
    · cases same
      cases does.viewed.symm.trans here
      by_cases equal : id = place
      · cases equal
        exact does.told_self sound
      · exact does.told_elsewhere sound equal
    · exact does.told_others sound same ((does.others same).symm.trans here) place
  dropped := by
    intro other made gone
    have different : camera ≠ other := fun same => by
      cases same
      cases does.viewed.symm.trans gone
    rw [does.nextCamera] at made
    rw [does.others different] at gone
    rw [does.executor, sound.ready.inbox_notify command, Executor.outlook?_notify,
      Command.followAll_append, sound.dropped other made gone]
    exact Command.follow_none does.on

theorem attached_of_stays (stays : busy.leaving camera = none) (view : Camera) :
    busy.attached camera view = view.grids := by
  rw [BusyScene.attached, stays, Option.getD_none]

theorem Sound.subscribed_iff (sound : busy.Sound)
    (present : busy.scene.cameras.get? camera = some view)
    (found : busy.scene.grids.get? id = some grid) :
    camera ∈ grid.subscribers ↔ id ∈ busy.attached camera view := by
  rw [sound.subscribed id grid camera found]
  simp [present]

theorem Sound.attach (sound : busy.Sound) (present : busy.scene.cameras.get? camera = some view)
    (stays : busy.leaving camera = none) (found : busy.scene.grids.get? id = some grid)
    (unlocked : busy.unsent id = []) (unseen : id ∉ view.grids) :
    Sound { busy with scene := busy.scene.join camera id grid } := by
  obtain ⟨wellFormed, -⟩ := sound.grids id grid found
  have listed : ∀ view, busy.attached camera view = view.grids := attached_of_stays stays
  have absent : camera ∉ grid.subscribers := by
    rwa [sound.subscribed_iff present found, listed]
  have joined : camera ∈ (grid.subscribe camera).subscribers := Grid.mem_subscribe.mpr (.inl rfl)
  refine @Sound.resubscribe _ _ _ _ _ _ sound { view with grids := view.grids ++ [id] }
    (grid.subscribe camera) (.attach camera id grid.contents) {
      found := found, unlocked := unlocked, present := present
      wellFormed := Grid.subscribe_wellFormed wellFormed camera
      holds := rfl
      subscribers := fun other different => by simp [Grid.mem_subscribe, Ne.symm different]
      grids := rfl, executor := rfl, nextGrid := rfl, nextCamera := rfl, unsent := rfl
      cameras := fun other => ?_
      leaving := fun _ _ => rfl, cell := rfl, config := rfl
      distinct := ?_
      attached := fun other => ?_
      about := rfl, on := rfl
      tells := fun outlook holds => ?_ }
  · refine (Dictionary.get?_modify ..).trans ?_
    split
    · rename_i same
      rw [← same, present]
      rfl
    · rfl
  · have distinct := (sound.cameras camera view present).2
    rw [listed] at distinct
    refine (attached_of_stays stays _).symm ▸ ?_
    rw [← List.concat_eq_append]
    exact distinct.concat unseen
  · refine (attached_of_stays stays _).symm ▸ ?_
    rw [listed]
    split
    · rename_i same
      simp [same, joined]
    · rename_i different
      simp [Ne.symm different]
  · have nothing := heldFor_of_found found camera
    simp only [absent, false_and] at nothing
    simp [Command.tell, Outlook.at, Outlook.join, holds, nothing, joined,
      Grid.mem_contents_iff]

theorem part_tells (outlook : Outlook) (camera : CameraId) (id : GridId) (left : Grid)
    (absent : camera ∉ left.subscribers) (holds : Cell → MarkerId → Prop) :
    ((Command.detach camera id).tell (some outlook)).map (·.at id) = some { outlook.at id with
      holds := fun cell marker => camera ∈ left.subscribers ∧ holds cell marker } := by
  simp [Command.tell, Outlook.at, Outlook.part, absent]

theorem Sound.detach (sound : busy.Sound) (present : busy.scene.cameras.get? camera = some view)
    (stays : busy.leaving camera = none) (found : busy.scene.grids.get? id = some grid)
    (unlocked : busy.unsent id = []) (seen : id ∈ view.grids) :
    Sound { busy with
      scene := Scene.part { busy.scene with
        cameras := busy.scene.cameras.modify camera fun view =>
          { view with grids := view.grids.erase id } } camera id grid } := by
  obtain ⟨wellFormed, -⟩ := sound.grids id grid found
  have listed : ∀ view, busy.attached camera view = view.grids := attached_of_stays stays
  have subscribed : camera ∈ grid.subscribers := by
    rwa [sound.subscribed_iff present found, listed]
  have parted : camera ∉ (grid.unsubscribe camera).subscribers := by
    simp [Grid.mem_unsubscribe wellFormed]
  have distinct := (sound.cameras camera view present).2
  rw [listed] at distinct
  rw [Scene.part, if_pos subscribed]
  refine @Sound.resubscribe _ _ _ _ _ _ sound { view with grids := view.grids.erase id }
    (grid.unsubscribe camera) (.detach camera id) {
      found := found, unlocked := unlocked, present := present
      wellFormed := Grid.unsubscribe_wellFormed wellFormed camera
      holds := rfl
      subscribers := fun other different => by
        simp [Grid.mem_unsubscribe wellFormed, Ne.symm different]
      grids := rfl, executor := rfl, nextGrid := rfl, nextCamera := rfl, unsent := rfl
      cameras := fun other => ?_
      leaving := fun _ _ => rfl, cell := rfl, config := rfl
      distinct := ?_
      attached := fun other => ?_
      about := rfl, on := rfl
      tells := fun outlook _ => part_tells outlook camera id _ parted _ }
  · refine (Dictionary.get?_modify ..).trans ?_
    split
    · rename_i same
      rw [← same, present]
      rfl
    · rfl
  · refine (attached_of_stays stays _).symm ▸ ?_
    exact distinct.erase id
  · refine (attached_of_stays stays _).symm ▸ ?_
    rw [listed, distinct.mem_erase_iff]
    split
    · rename_i same
      simp [same, parted]
    · rename_i different
      simp [Ne.symm different]

theorem Sound.leave (sound : busy.Sound) {rest : List GridId}
    (going : busy.leaving camera = some (id :: rest))
    (found : busy.scene.grids.get? id = some grid) (unlocked : busy.unsent id = []) :
    Sound { busy with
      scene := busy.scene.part camera id grid
      leaving := Function.update busy.leaving camera (some rest) } := by
  obtain ⟨wellFormed, -⟩ := sound.grids id grid found
  obtain ⟨view, present⟩ := Option.ne_none_iff_exists'.mp
    (sound.leaving camera (by rw [going]; exact Option.some_ne_none _))
  have listed : busy.attached camera view = id :: rest := by
    rw [BusyScene.attached, going, Option.getD_some]
  have subscribed : camera ∈ grid.subscribers := by
    rw [sound.subscribed_iff present found, listed]
    exact List.mem_cons_self
  have parted : camera ∉ (grid.unsubscribe camera).subscribers := by
    simp [Grid.mem_unsubscribe wellFormed]
  have distinct := (sound.cameras camera view present).2
  rw [listed] at distinct
  obtain ⟨absent, distinct⟩ := List.nodup_cons.mp distinct
  rw [Scene.part, if_pos subscribed]
  refine @Sound.resubscribe _ _ _ _ _ _ sound view (grid.unsubscribe camera) (.detach camera id) {
      found := found, unlocked := unlocked, present := present
      wellFormed := Grid.unsubscribe_wellFormed wellFormed camera
      holds := rfl
      subscribers := fun other different => by
        simp [Grid.mem_unsubscribe wellFormed, Ne.symm different]
      grids := rfl, executor := rfl, nextGrid := rfl, nextCamera := rfl, unsent := rfl
      cameras := fun other => ?_
      leaving := fun other different => Function.update_of_ne (Ne.symm different) _ _
      cell := rfl, config := rfl
      distinct := ?_
      attached := fun other => ?_
      about := rfl, on := rfl
      tells := fun outlook _ => part_tells outlook camera id _ parted _ }
  · split
    · rename_i same
      rw [← same]
      exact present
    · rfl
  · simpa [BusyScene.attached] using distinct
  · rw [listed]
    split
    · rename_i same
      cases same
      simpa [BusyScene.attached, parted] using absent
    · rename_i different
      simp [BusyScene.attached, Ne.symm different]

end BusyScene

end TorusEngine.Relevance
