import TorusEngine.Proofs.Relevance.Buckets
import TorusEngine.Proofs.Relevance.Requests

/-!
# The history of a grid

Along the requests to a scene, a `GridLog` notes of one grid which markers were last placed in the cell
visible from everywhere, what the grid held when a camera subscribed, and the commands about the grid
that were sent to that camera since. What is noted tells what the grid is: its sentinel members are those
that were placed there, and the commands lead from the snapshot to the buckets.

A request changes a grid by one operation, makes it, or leaves its buckets alone and tells its subscribers
nothing (`Aside`).
-/

namespace TorusEngine.Relevance

open Torus (Cell)

def Command.isAbout (camera : CameraId) (id : GridId) (command : Command) : Bool :=
  command.camera? = some camera ∧ command.grid? = some id

/-- Whether a marker that is not moved stands in the cell visible from everywhere, after an operation. -/
def Grid.Operation.puts (marker : MarkerId) (before : Bool) : Operation → Bool
  | addAt cell item => if item = marker then cell.isEverywhere else before
  | remove item => if item = marker then false else before
  | relocate _ _ => before

structure GridLog where
  everywhere : MarkerId → Bool := fun _ => false
  snapshot : CameraId → List (Cell × MarkerId) := fun _ => []
  commands : CameraId → List Command := fun _ => []

namespace Scene

def subscribes (scene : Scene) (camera : CameraId) (id : GridId) : Bool :=
  (scene.grids.get? id).any (camera ∈ ·.subscribers)

def contentsOf (scene : Scene) (id : GridId) : List (Cell × MarkerId) :=
  (scene.grids.get? id).elim [] (·.contents)

namespace Request

def succeeds (request : Request) (scene : Scene) : Bool := (Action.answer request.perform scene).isOk

def submits (request : Request) (scene : Scene) : List Command :=
  (request.after scene).executor.inbox.drop scene.executor.inbox.length

def puts (id : GridId) (marker : MarkerId) (before : Bool) : Request → Bool
  | addAt grid cell item => if grid = id ∧ item = marker then cell.isEverywhere else before
  | add grid item | remove grid item => if grid = id ∧ item = marker then false else before
  | _ => before

def placed (id : GridId) (request : Request) (scene : Scene) (marker : MarkerId) (before : Bool) : Bool :=
  if request.succeeds scene then request.puts id marker before else before

def log (id : GridId) (request : Request) (scene : Scene) (noted : GridLog) : GridLog where
  everywhere := fun marker => request.placed id scene marker (noted.everywhere marker)
  snapshot := fun camera =>
    if scene.subscribes camera id then noted.snapshot camera else (request.after scene).contentsOf id
  commands := fun camera =>
    if scene.subscribes camera id then
      noted.commands camera ++ (request.submits scene).filter (·.isAbout camera id)
    else []

def logAll (id : GridId) (requests : List Request) (scene : Scene) (noted : GridLog) : GridLog :=
  match requests with
  | [] => noted
  | request :: rest => logAll id rest (request.after scene) (request.log id scene noted)

end Request

/-! ## Requests that leave a grid alone -/

variable {scene after : Scene} {id : GridId} {camera : CameraId} {marker : MarkerId}

def bare (grid : Grid) : Grid := { grid with subscribers := [] }

structure Aside (id : GridId) (scene after : Scene) : Prop where
  grids : (after.grids.get? id).map bare = (scene.grids.get? id).map bare
  silent : ∀ camera, after.subscribes camera id = true →
    ∀ command ∈ after.executor.inbox.drop scene.executor.inbox.length,
      command.isAbout camera id = false

theorem Aside.of_inbox (grids : (after.grids.get? id).map bare = (scene.grids.get? id).map bare)
    {more : List Command} (inbox : after.executor.inbox = scene.executor.inbox ++ more)
    (silent : ∀ camera, after.subscribes camera id = true →
      ∀ command ∈ more, command.isAbout camera id = false) : Aside id scene after := by
  refine ⟨grids, ?_⟩
  rw [inbox, List.drop_left]
  exact silent

theorem Aside.of_sameExecutor (grids : after.grids = scene.grids)
    (executor : after.executor = scene.executor) : Aside id scene after :=
  have nothing : after.executor.inbox = scene.executor.inbox ++ [] := by
    rw [executor, List.append_nil]
  .of_inbox (by rw [grids]) nothing (by simp)

theorem Aside.of_settled (grids : (after.grids.get? id).map bare = (scene.grids.get? id).map bare)
    (ready : after.executor.Ready) : Aside id scene after.settle := by
  refine ⟨grids, ?_⟩
  rw [show after.settle.executor.inbox = [] from ready.settle.2.1]
  simp

theorem isAbout_of_grid? {command : Command} (elsewhere : command.grid? ≠ some id) :
    command.isAbout camera id = false := by
  simp [Command.isAbout, elsewhere]

theorem isAbout_of_camera? {command : Command} (elsewhere : command.camera? ≠ some camera) :
    command.isAbout camera id = false := by
  simp [Command.isAbout, elsewhere]

theorem Aside.notify (ready : scene.executor.Ready) (grids : after.grids = scene.grids)
    {command : Command} (executor : after.executor = scene.executor.notify command)
    (elsewhere : command.grid? ≠ some id) : Aside id scene after := by
  refine .of_inbox (by rw [grids]) (by rw [executor, ready.inbox_notify]) fun camera _ other member => ?_
  rw [List.mem_singleton.mp member]
  exact isAbout_of_grid? elsewhere

theorem inbox_notifyAll {executor : Executor} (running : executor.running = true)
    (commands : List Command) :
    (commands.foldl Executor.notify executor).inbox = executor.inbox ++ commands ∧
      (commands.foldl Executor.notify executor).running = true := by
  induction commands generalizing executor with
  | nil => exact ⟨(List.append_nil _).symm, running⟩
  | cons command rest ih =>
      have first : executor.notify command = { executor with inbox := executor.inbox ++ [command] } :=
        if_pos running
      obtain ⟨inbox, still⟩ := @ih (executor.notify command) (by rw [first]; exact running)
      refine ⟨?_, still⟩
      rw [List.foldl_cons, inbox, first, List.append_assoc]
      rfl

theorem Aside.changed (running : scene.executor.running = true) {other : GridId} (different : other ≠ id)
    (result : Grid × List Change) : Aside id scene (scene.changed other result) := by
  refine .of_inbox ?_ (inbox_notifyAll running _).1 fun camera _ command member => ?_
  · rw [Scene.changed, Dictionary.get?_insert, if_neg different]
  · obtain ⟨change, subscriber, -, rfl⟩ := Command.mem_reports member
    refine isAbout_of_grid? ?_
    rw [Command.report_grid?]
    exact fun same => different (Option.some_inj.mp same)

theorem bare_insert {other : GridId} {grid changed : Grid} (found : scene.grids.get? other = some grid)
    (id : GridId) (same : bare changed = bare grid) :
    ((scene.grids.insert other changed).get? id).map bare = (scene.grids.get? id).map bare := by
  rw [Dictionary.get?_insert]
  by_cases equal : other = id
  · rw [if_pos equal, ← equal, found, Option.map_some, same, Option.map_some]
  · rw [if_neg equal]

theorem bare_part {other : GridId} {grid : Grid} (found : scene.grids.get? other = some grid)
    (camera : CameraId) (id : GridId) :
    ((scene.part camera other grid).grids.get? id).map bare = (scene.grids.get? id).map bare := by
  unfold part
  split
  · exact bare_insert found id (rfl : bare (grid.unsubscribe camera) = bare grid)
  · rfl

structure Withdraws (camera : CameraId) (scene after : Scene) : Prop where
  grids : ∀ id, (after.grids.get? id).map bare = (scene.grids.get? id).map bare
  running : after.executor.running = true
  inbox : ∃ more, after.executor.inbox = scene.executor.inbox ++ more ∧
    ∀ command ∈ more, command.camera? = some camera

theorem withdrawal_withdraws (running : scene.executor.running = true) (camera : CameraId) (id : GridId) :
    Withdraws camera scene (Action.after (BusyScene.withdrawal camera id) scene) := by
  cases found : scene.grids.get? id with
  | none =>
      have same : Action.after (BusyScene.withdrawal camera id) scene = scene := by
        rw [Action.after_eq_left]
        simp [BusyScene.withdrawal, Scene.grid, found, Action.left]
      rw [same]
      exact ⟨fun _ => rfl, running, [], (List.append_nil _).symm, by simp⟩
  | some grid =>
      rw [Action.after_of_ok (BusyScene.withdrawal_apply running found)]
      refine ⟨bare_part found camera, ?_, ?_⟩
      all_goals unfold part; split
      · exact (inbox_notifyAll running [.detach camera id]).2
      · exact running
      · exact ⟨_, (inbox_notifyAll running [.detach camera id]).1, by simp [Command.camera?]⟩
      · exact ⟨[], (List.append_nil _).symm, by simp⟩

theorem withdrawals_withdraw (running : scene.executor.running = true) (camera : CameraId)
    (ids : List GridId) : Withdraws camera scene
      (ids.foldl (fun scene id => Action.after (BusyScene.withdrawal camera id) scene) scene) := by
  induction ids generalizing scene with
  | nil => exact ⟨fun _ => rfl, running, [], (List.append_nil _).symm, by simp⟩
  | cons id rest ih =>
      have first := withdrawal_withdraws running camera id
      have others := ih first.running
      obtain ⟨sooner, inboxFirst, hisFirst⟩ := first.inbox
      obtain ⟨later, inboxOthers, hisOthers⟩ := others.inbox
      refine ⟨fun id => (others.grids id).trans (first.grids id), others.running, sooner ++ later, ?_,
        List.forall_mem_append.mpr ⟨hisFirst, hisOthers⟩⟩
      rw [List.foldl_cons, inboxOthers, inboxFirst, List.append_assoc]

/-- A camera that is dropped is told of the end of its subscriptions, but subscribes to nothing then. -/
theorem dropCamera_aside (reachable : (BusyScene.idle scene).Reachable) {view : Camera}
    (present : scene.cameras.get? camera = some view) (id : GridId) :
    Aside id scene (scene.dropCamera camera) := by
  have running : scene.executor.running = true := reachable.sound.ready.sound.running
  have dropped : (BusyScene.idle (scene.dropCamera camera)).Sound :=
    (BusyScene.dropCamera_run reachable.sound present).1.sound reachable.sound
  have withdraws := withdrawals_withdraw running camera view.grids
  have left := BusyScene.dropCamera_eq camera scene
  rw [present] at left
  dsimp only at left
  generalize view.grids.foldl _ scene = detached at withdraws left
  have grids : (scene.dropCamera camera).grids = detached.grids := by
    rw [left]
    rfl
  obtain ⟨more, inbox, his⟩ := withdraws.inbox
  have told : (scene.dropCamera camera).executor.inbox =
      scene.executor.inbox ++ (more ++ [.drop camera]) := by
    rw [left, ← List.append_assoc, ← inbox]
    exact (inbox_notifyAll withdraws.running [.drop camera]).1
  refine .of_inbox (grids ▸ withdraws.grids id) told fun other subscribed command member => ?_
  refine isAbout_of_camera? fun same => ?_
  have about : command.camera? = some camera := by
    rcases List.mem_append.mp member with among | last
    · exact his command among
    · rw [List.mem_singleton.mp last]
      rfl
  cases about.symm.trans same
  -- The camera is gone, so it cannot be the one that subscribes.
  have gone : (scene.dropCamera camera).cameras.get? camera = none := by
    rw [left]
    exact (Dictionary.get?_erase ..).trans (if_pos rfl)
  cases found : (scene.dropCamera camera).grids.get? id with
  | none => simp [subscribes, found] at subscribed
  | some grid =>
      have subscribed : camera ∈ grid.subscribers := by simpa [subscribes, found] using subscribed
      obtain ⟨view, here, -⟩ := (dropped.subscribed id grid camera found).mp subscribed
      cases gone.symm.trans here

namespace Request

variable {request : Request}

/-- The requests that are about something else than the buckets of a grid. -/
def Besides : Request → Prop
  | makeGrid _ | addAt _ _ _ | add _ _ | remove _ _ | relocate _ _ => False
  | _ => True

theorem after_aside (reachable : (BusyScene.idle scene).Reachable) (besides : request.Besides)
    (id : GridId) : Aside id scene (request.after scene) := by
  have ready : scene.executor.Ready := reachable.sound.ready
  have running : scene.executor.running = true := ready.sound.running
  have nothing : Aside id scene scene := .of_sameExecutor rfl rfl
  cases request with
  | makeGrid | addAt | add | remove | relocate => exact besides.elim
  | addMarker marker => exact .of_sameExecutor rfl rfl
  | moveMarker item position =>
      rw [after, perform, Action.after_eq_left]
      cases found : scene.marker item with
      | error fault =>
          simp only [Scene.moveMarker, Action.bind_apply, Action.get_apply, Action.liftM_apply, found]
          exact nothing
      | ok object =>
          simp only [Scene.moveMarker, Action.bind_apply, Action.get_apply, Action.liftM_apply, found]
          exact .of_sameExecutor rfl rfl
  | makeCamera config position =>
      have made := @BusyScene.after_makeCamera (BusyScene.idle scene) running config position
      rw [after, perform, Action.after_map]
      exact made ▸ .notify ready rfl rfl (by simp [Command.grid?])
  | moveCamera camera position =>
      rw [after, perform, Action.after_map]
      cases present : scene.cameras.get? camera with
      | none =>
          have same := @BusyScene.after_moveCamera_absent (BusyScene.idle scene) camera present position
          exact same ▸ nothing
      | some view =>
          have moved := @BusyScene.after_moveCamera (BusyScene.idle scene) camera view running present
            position
          rw [show Action.after (Scene.moveCamera camera position) scene = _ from moved]
          by_cases same : Cell.ofPosition position view.config.geometry.cellSize = view.cell
          · exact .of_sameExecutor rfl (if_pos same)
          · exact .notify ready rfl (if_neg same) (by simp [Command.grid?])
  | attach camera other =>
      obtain same | ⟨view, grid, -, found, -, same⟩ := BusyScene.attach_cases running camera other
      all_goals rw [after, perform, same]
      · exact nothing
      · exact .of_settled (bare_insert found id (rfl : bare (grid.subscribe camera) = bare grid))
          (ready.notify trivial)
  | detach camera other =>
      obtain same | ⟨view, grid, -, found, -, same⟩ := BusyScene.detach_cases reachable.sound camera other
      all_goals rw [after, perform, same]
      · exact nothing
      · have kept := @bare_part { scene with
          cameras := scene.cameras.modify camera fun view =>
            { view with grids := view.grids.erase other } } other grid found camera id
        refine .of_settled kept ?_
        unfold part
        split
        · exact ready.notify trivial
        · exact ready
  | dropCamera camera =>
      rw [after, perform, Action.after_eq_left]
      cases present : scene.cameras.get? camera with
      | none =>
          simp only [Action.bind_apply, Action.get_apply, Action.liftM_apply, Scene.camera, present]
          exact nothing
      | some view =>
          simp only [Action.bind_apply, Action.get_apply, Action.liftM_apply, Scene.camera, present,
            Action.modify_apply, Action.left]
          exact dropCamera_aside reachable present id
  | settle => exact .of_settled rfl ready

/-! ## What a request does to a grid -/

inductive Acts (id : GridId) (scene : Scene) (request : Request) : Prop where
  | operates (operation : Grid.Operation) {grid : Grid} (found : scene.grids.get? id = some grid)
      (left : request.after scene = scene.changed id (operation.perform grid))
      (puts : ∀ marker before, request.placed id scene marker before = operation.puts marker before)
  | makes (absent : scene.grids.get? id = none) {cellSize : Float}
      (left : (request.after scene).grids.get? id = some { cellSize })
      (puts : ∀ marker before, request.placed id scene marker before = before)
  | aside (aside : Aside id scene (request.after scene))
      (puts : ∀ marker before, request.placed id scene marker before = before)

theorem acts_of_fault (fault : Fault) (ended : request.perform scene = .error fault scene) :
    request.Acts id scene := by
  refine .aside ?_ fun marker before => ?_
  · rw [after, Action.after_of_error ended]
    exact .of_sameExecutor rfl rfl
  · simp [placed, succeeds, Action.answer, Action.outcome, ended, Except.isOk, Except.toBool]

theorem acts_of_operation (running : scene.executor.running = true) {other : GridId} {grid : Grid}
    (found : scene.grids.get? other = some grid) (operation : Grid.Operation)
    (ended : request.perform scene = .ok () (scene.changed other (operation.perform grid)))
    (puts : ∀ marker before, request.puts id marker before =
      if other = id then operation.puts marker before else before) : request.Acts id scene := by
  have left : request.after scene = scene.changed other (operation.perform grid) :=
    Action.after_of_ok ended
  have placed : ∀ marker before, request.placed id scene marker before =
      if other = id then operation.puts marker before else before := fun marker before => by
    simp [Request.placed, succeeds, Action.answer, Action.outcome, ended, Except.isOk, Except.toBool, puts]
  by_cases same : other = id
  · subst same
    exact .operates operation found left fun marker before => (placed marker before).trans (if_pos rfl)
  · exact .aside (left ▸ .changed running same _) fun marker before =>
      (placed marker before).trans (if_neg same)

theorem makeGrid_acts (reachable : (BusyScene.idle scene).Reachable) (cellSize : Float) (id : GridId) :
    Acts id scene (makeGrid cellSize) := by
  by_cases positive : 0 < cellSize
  · have left : (makeGrid cellSize).after scene = { scene with
        grids := scene.grids.insert scene.nextGrid { cellSize }
        nextGrid := scene.nextGrid + 1 } := by
      rw [after, Action.after_eq_left]
      simp [perform, Scene.makeGrid, Grid.make, positive, Action.left, Action.modifyGet_apply]
    have nothing : ∀ marker before, (makeGrid cellSize).placed id scene marker before = before :=
      fun marker before => ite_self before
    by_cases new : scene.nextGrid = id
    · have here : ((makeGrid cellSize).after scene).grids.get? id = some { cellSize } := by
        rw [left]
        exact (Dictionary.get?_insert ..).trans (if_pos new)
      refine .makes ?_ here nothing
      -- The number of a grid that exists is below the next one.
      refine Option.eq_none_iff_forall_ne_some.mpr fun grid found => ?_
      exact Nat.ne_of_gt (reachable.sound.grids id grid found).2 new
    · refine .aside (left ▸ .of_inbox ?_ (List.append_nil _).symm (by simp)) nothing
      exact congrArg (Option.map bare) ((Dictionary.get?_insert ..).trans (if_neg new))
  · exact acts_of_fault (.violated .cellSizeNotPositive)
      (by simp [perform, Scene.makeGrid, Grid.make, positive])

theorem acts (reachable : (BusyScene.idle scene).Reachable) (request : Request) (id : GridId) :
    request.Acts id scene := by
  have running : scene.executor.running = true := reachable.sound.ready.sound.running
  have besides (other : request.Besides) (silent : ∀ marker before, request.puts id marker before = before) :
      request.Acts id scene :=
    .aside (after_aside reachable other id) fun marker before => by simp [placed, silent]
  cases request with
  | addMarker | moveMarker | makeCamera | moveCamera | attach | detach | dropCamera | settle =>
      exact besides trivial fun _ _ => rfl
  | makeGrid cellSize => exact makeGrid_acts reachable cellSize id
  | addAt other cell item =>
      cases present : scene.marker item with
      | error fault => exact acts_of_fault fault (by simp [perform, Scene.addAt, present])
      | ok object =>
          cases found : scene.grids.get? other with
          | none =>
              exact acts_of_fault .unknownName
                (by simp [perform, Scene.addAt, present, changeGrid_unknown found])
          | some grid =>
              refine acts_of_operation running found (.addAt cell item) ?_ fun marker before => ?_
              · simp [perform, Scene.addAt, present, changeGrid_apply found, Grid.Operation.perform]
              · by_cases same : other = id <;> simp [puts, Grid.Operation.puts, same]
  | add other item =>
      cases found : scene.grids.get? other with
      | none => exact acts_of_fault .unknownName (by simp [perform, Scene.add, Scene.grid, found])
      | some grid =>
          cases present : scene.marker item with
          | error fault =>
              exact acts_of_fault fault (by simp [perform, Scene.add, Scene.grid, found, present])
          | ok object =>
              -- No position belongs to the cell visible from everywhere.
              have own : (grid.cellAt object.position).isEverywhere = false :=
                decide_eq_false (Cell.ofPosition_ne_everywhere object.position grid.cellSize)
              refine acts_of_operation running found (.addAt (grid.cellAt object.position) item) ?_
                fun marker before => ?_
              · simp [perform, Scene.add, Scene.grid, Scene.addAt, found, present, changeGrid_apply found,
                  Grid.Operation.perform]
              · by_cases same : other = id <;> simp [puts, Grid.Operation.puts, same, own]
  | remove other item =>
      cases found : scene.grids.get? other with
      | none =>
          exact acts_of_fault .unknownName (by simp [perform, Scene.remove, changeGrid_unknown found])
      | some grid =>
          refine acts_of_operation running found (.remove item) ?_ fun marker before => ?_
          · simp [perform, Scene.remove, changeGrid_apply found, Grid.Operation.perform]
          · by_cases same : other = id <;> simp [puts, Grid.Operation.puts, same]
  | relocate other item =>
      cases present : scene.marker item with
      | error fault => exact acts_of_fault fault (by simp [perform, Scene.relocate, present])
      | ok object =>
          cases found : scene.grids.get? other with
          | none =>
              exact acts_of_fault .unknownName
                (by simp [perform, Scene.relocate, present, changeGrid_unknown found])
          | some grid =>
              refine acts_of_operation running found (.relocate item object.position) ?_
                fun marker before => ?_
              · simp [perform, Scene.relocate, present, changeGrid_apply found, Grid.Operation.perform]
              · by_cases same : other = id <;> simp [puts, Grid.Operation.puts, same]

end Request

/-! ## What is noted tells what the grid is -/

/-- The commands that a camera was sent are reports of changes that lead from its snapshot to the buckets. -/
def Retraces (id : GridId) (camera : CameraId) (grid : Grid) (noted : GridLog) : Prop :=
  ∃ changes : List Change, noted.commands camera = changes.map (report id · camera) ∧
    changes.foldl Change.follow (fun cell marker => (cell, marker) ∈ noted.snapshot camera) = grid.holds

structure Logged (scene : Scene) (id : GridId) (noted : GridLog) : Prop where
  reachable : (BusyScene.idle scene).Reachable
  tidy : ∀ grid, scene.grids.get? id = some grid → grid.Tidy
  everywhere : ∀ grid, scene.grids.get? id = some grid → ∀ marker,
    noted.everywhere marker = true ↔ grid.cellOf? marker = some Cell.everywhere
  absent : scene.grids.get? id = none → ∀ marker, noted.everywhere marker = false
  retraces : ∀ grid, scene.grids.get? id = some grid → ∀ camera ∈ grid.subscribers,
    Retraces id camera grid noted

theorem filter_reports {subscribers : List CameraId} (distinct : subscribers.Nodup)
    (subscribed : camera ∈ subscribers) (id : GridId) (changes : List Change) :
    (reports id subscribers changes).filter (·.isAbout camera id) =
      changes.map (report id · camera) := by
  have once (change : Change) : (subscribers.map (report id change)).filter (·.isAbout camera id) =
      [report id change camera] := by
    have about : ∀ subscriber, (report id change subscriber).isAbout camera id =
        decide (subscriber = camera) := fun subscriber => by
      simp [Command.isAbout, Command.report_camera?, Command.report_grid?]
    have only : subscribers.filter (· = camera) = [camera] := by
      rw [List.filter_eq, List.count_eq_one_of_mem distinct subscribed, List.replicate_one]
    simp only [List.filter_map, Function.comp_def, about, only, List.map_cons, List.map_nil]
  induction changes with
  | nil => rfl
  | cons change rest ih =>
      rw [reports, List.flatMap_cons, List.filter_append, once, List.map_cons]
      exact congrArg (report id change camera :: ·) ih

theorem puts_everywhere {grid : Grid} (tidy : grid.Tidy) (operation : Grid.Operation) {before : Bool}
    (same : before = true ↔ grid.cellOf? marker = some Cell.everywhere) :
    operation.puts marker before = true ↔
      (operation.perform grid).1.cellOf? marker = some Cell.everywhere := by
  cases operation with
  | addAt cell item =>
      rw [Grid.Operation.perform, Grid.cellOf?_addAt]
      by_cases equal : item = marker <;> simp [Grid.Operation.puts, equal, same, Cell.isEverywhere]
  | remove item =>
      rw [Grid.Operation.perform, Grid.cellOf?_remove]
      by_cases equal : item = marker <;> simp [Grid.Operation.puts, equal, same]
  | relocate item position =>
      classical
      rw [Grid.Operation.perform, Grid.cellOf?_relocate tidy.wellFormed]
      split
      · rename_i moves
        obtain ⟨⟨cell, found, own, -⟩, rfl⟩ := moves
        refine iff_of_false ?_ ?_
        · rw [Grid.Operation.puts, same, found]
          exact fun equal => own (Option.some_inj.mp equal)
        · exact fun equal => Cell.ofPosition_ne_everywhere position grid.cellSize (Option.some_inj.mp equal)
      · exact same

theorem subscribes_iff {grid : Grid} (found : scene.grids.get? id = some grid) :
    scene.subscribes camera id = true ↔ camera ∈ grid.subscribers := by
  simp [subscribes, found]

theorem submits_changed {request : Request} {result : Grid × List Change}
    (running : scene.executor.running = true) (left : request.after scene = scene.changed id result) :
    request.submits scene = reports id result.1.subscribers result.2 := by
  rw [Request.submits, left, changed, (inbox_notifyAll running _).1, List.drop_left]

theorem Logged.operates {request : Request} {noted : GridLog} (logged : Logged scene id noted)
    {operation : Grid.Operation} {grid : Grid} (found : scene.grids.get? id = some grid)
    (left : request.after scene = scene.changed id (operation.perform grid))
    (puts : ∀ marker before, request.placed id scene marker before = operation.puts marker before)
    (reachable : (BusyScene.idle (request.after scene)).Reachable) :
    Logged (request.after scene) id (request.log id scene noted) := by
  have tidy := logged.tidy grid found
  have reported := Grid.perform_reports tidy.wellFormed operation
  have running : scene.executor.running = true := logged.reachable.sound.ready.sound.running
  have here : (request.after scene).grids.get? id = some (operation.perform grid).1 := by
    rw [left]
    exact (Dictionary.get?_insert ..).trans (if_pos rfl)
  refine ⟨reachable, ?_, ?_, fun gone => ?_, ?_⟩
  · intro changed found
    cases here.symm.trans found
    exact Grid.perform_tidy tidy operation
  · intro changed after marker
    cases here.symm.trans after
    simp only [Request.log, puts]
    exact puts_everywhere tidy operation (logged.everywhere grid found marker)
  · cases here.symm.trans gone
  · intro changed after camera subscribed
    cases here.symm.trans after
    rw [reported.subscribers] at subscribed
    obtain ⟨changes, sent, traced⟩ := logged.retraces grid found camera subscribed
    have subscribes := (subscribes_iff found).mpr subscribed
    refine ⟨changes ++ (operation.perform grid).2, ?_, ?_⟩
    · simp only [Request.log, subscribes, if_true, submits_changed running left, reported.subscribers]
      rw [filter_reports tidy.wellFormed.subscribers subscribed, sent, List.map_append]
    · simp only [Request.log, subscribes, if_true]
      rw [List.foldl_append, traced, reported.holds]

theorem Logged.aside {request : Request} {noted : GridLog} (logged : Logged scene id noted)
    (aside : Aside id scene (request.after scene))
    (puts : ∀ marker before, request.placed id scene marker before = before)
    (reachable : (BusyScene.idle (request.after scene)).Reachable) :
    Logged (request.after scene) id (request.log id scene noted) := by
  have before : ∀ changed, (request.after scene).grids.get? id = some changed →
      ∃ grid, scene.grids.get? id = some grid ∧ changed.cells = grid.cells ∧
        changed.locations = grid.locations := by
    intro changed found
    have same := aside.grids
    rw [found, Option.map_some, eq_comm, Option.map_eq_some_iff] at same
    obtain ⟨grid, found, same⟩ := same
    exact ⟨grid, found, (congrArg Grid.cells same).symm, (congrArg Grid.locations same).symm⟩
  refine ⟨reachable, ?_, ?_, fun gone marker => ?_, ?_⟩
  · intro changed found
    obtain ⟨grid, foundBefore, cells, -⟩ := before changed found
    exact ⟨(reachable.sound.grids id changed found).1, cells ▸ (logged.tidy grid foundBefore).filled⟩
  · intro changed found marker
    obtain ⟨grid, foundBefore, -, locations⟩ := before changed found
    simp only [Request.log, puts, Grid.cellOf?, locations]
    exact logged.everywhere grid foundBefore marker
  · have same := aside.grids
    rw [gone, Option.map_none, eq_comm, Option.map_eq_none_iff] at same
    simp only [Request.log, puts]
    exact logged.absent same marker
  · intro changed found camera subscribed
    obtain ⟨grid, foundBefore, cells, -⟩ := before changed found
    by_cases subscribes : scene.subscribes camera id = true
    · obtain ⟨changes, sent, traced⟩ :=
        logged.retraces grid foundBefore camera ((subscribes_iff foundBefore).mp subscribes)
      have silent : (request.submits scene).filter (·.isAbout camera id) = [] := by
        refine List.filter_eq_nil_iff.mpr fun command member => ?_
        rw [aside.silent camera ((subscribes_iff found).mpr subscribed) command member]
        exact Bool.false_ne_true
      refine ⟨changes, by simp only [Request.log, subscribes, if_true, silent, List.append_nil, sent], ?_⟩
      simp only [Request.log, subscribes, if_true, traced]
      funext cell marker
      simp only [Grid.holds, Grid.membersOf, cells]
    · -- The camera comes to the grid, and takes a snapshot of what the grid holds.
      refine ⟨[], by simp [Request.log, subscribes], ?_⟩
      funext cell marker
      have listed : (request.after scene).contentsOf id = changed.contents := by
        rw [contentsOf, found]
        rfl
      simp only [Request.log, subscribes, Bool.false_eq_true, if_false, List.foldl_nil, listed]
      exact propext Grid.mem_contents_iff

theorem Logged.makes {request : Request} {noted : GridLog} (logged : Logged scene id noted)
    (absent : scene.grids.get? id = none) {cellSize : Float}
    (left : (request.after scene).grids.get? id = some { cellSize })
    (puts : ∀ marker before, request.placed id scene marker before = before)
    (reachable : (BusyScene.idle (request.after scene)).Reachable) :
    Logged (request.after scene) id (request.log id scene noted) := by
  refine ⟨reachable, ?_, ?_, fun gone => ?_, ?_⟩
  · intro changed found
    cases left.symm.trans found
    exact Grid.new_tidy cellSize
  · intro changed found marker
    cases left.symm.trans found
    simp [Request.log, puts, logged.absent absent marker, Grid.cellOf?]
  · cases left.symm.trans gone
  · intro changed found camera subscribed
    cases left.symm.trans found
    cases subscribed

theorem Logged.step {noted : GridLog} (logged : Logged scene id noted) (request : Request) :
    Logged (request.after scene) id (request.log id scene noted) := by
  have reachable : (BusyScene.idle (request.after scene)).Reachable :=
    BusyScene.Run.trans logged.reachable (BusyScene.request_run logged.reachable.sound request)
  cases request.acts logged.reachable id with
  | operates operation found left puts => exact logged.operates found left puts reachable
  | makes absent left puts => exact logged.makes absent left puts reachable
  | aside aside puts => exact logged.aside aside puts reachable

theorem Logged.start (id : GridId) : Logged {} id {} :=
  ⟨.refl, by simp, by simp, fun _ _ => rfl, by simp⟩

theorem Logged.all {noted : GridLog} (logged : Logged scene id noted) (requests : List Request) :
    Logged (Request.afterAll requests scene) id (Request.logAll id requests scene noted) := by
  induction requests generalizing scene noted with
  | nil => exact logged
  | cons request rest ih => exact ih (logged.step request)

/-! ## Buckets and locations mirror each other -/

/-- Buckets and locations say the same, and list each marker once. -/
structure Mirrors (grid : Grid) : Prop where
  located : ∀ marker cell, grid.cellOf? marker = some cell ↔ marker ∈ grid.membersOf cell
  distinct : grid.cells.keys.Nodup
  once : ∀ cell, (grid.membersOf cell).Nodup
  filled : ∀ cell members, grid.cells.get? cell = some members → members ≠ []
  listed : grid.markers.Nodup ∧ ∀ marker, marker ∈ grid.markers ↔ grid.cellOf? marker ≠ none
  counted : grid.size = grid.markers.length

theorem mirrors_of_tidy {grid : Grid} (tidy : grid.Tidy) : Mirrors grid where
  located := tidy.wellFormed.located
  distinct := grid.cells.nodup_keys
  once := Grid.membersOf_nodup tidy.wellFormed
  filled := tidy.filled
  listed := ⟨Grid.nodup_markers tidy.wellFormed, fun _ => Grid.mem_markers tidy.wellFormed⟩
  counted := Grid.size_eq tidy.wellFormed

/-- A scene that differs from another in one grid, whose buckets and locations mirror each other, with
each marker in the cell that is given. -/
structure Leaves (scene : Scene) (id : GridId) (after : Scene) (cellOf : MarkerId → Option Cell) : Prop where
  here : ∃ changed, after.grids.get? id = some changed ∧ Mirrors changed ∧
    ∀ marker, changed.cellOf? marker = cellOf marker
  elsewhere : ∀ other, other ≠ id → after.grids.get? other = scene.grids.get? other

theorem changed_leaves {cellOf : MarkerId → Option Cell} (result : Grid × List Change)
    (tidy : result.1.Tidy) (cells : ∀ marker, result.1.cellOf? marker = cellOf marker) :
    Leaves scene id (scene.changed id result) cellOf where
  here := ⟨result.1, (Dictionary.get?_insert ..).trans (if_pos rfl), mirrors_of_tidy tidy, cells⟩
  elsewhere := fun _ different => (Dictionary.get?_insert ..).trans (if_neg different.symm)

def Reproduces (executor : Executor) (camera : CameraId) (id : GridId) (grid : Grid) : Prop :=
  ∃ graph, executor.graph? camera = some graph ∧
    ∀ cell, (graph.membersOf (id, cell)).Perm (grid.membersOf cell)

/-- What the history of a grid tells of it, and what comes of the requests that name a marker. -/
structure Mirrored (scene : Scene) (id : GridId) (grid : Grid) (noted : GridLog) : Prop where
  mirrors : Mirrors grid
  everywhere : ∀ marker, grid.cellOf? marker = some Cell.everywhere ↔ noted.everywhere marker = true
  /-- A marker that is added, for the first time or again, is in its cell alone; the others stay. -/
  moves : ∀ marker object, scene.marker marker = .ok object → ∀ cell, ∃ after,
    Scene.addAt id cell marker scene = .ok () after ∧ Leaves scene id after fun other =>
      if marker = other then some cell else grid.cellOf? other
  adds : ∀ marker object, scene.marker marker = .ok object → ∃ after,
    Scene.add id marker scene = .ok (grid.cellAt object.position) after ∧
      Leaves scene id after fun other =>
        if marker = other then some (grid.cellAt object.position) else grid.cellOf? other
  removes : ∀ marker, ∃ gone after, Scene.remove id marker scene = .ok gone after ∧
    (gone = true ↔ grid.cellOf? marker ≠ none) ∧ Leaves scene id after fun other =>
      if marker = other then none else grid.cellOf? other
  relocates : ∀ marker object, scene.marker marker = .ok object → ∃ moved after,
    Scene.relocate id marker scene = .ok moved after ∧
      (moved = true ↔ grid.Strays marker object.position) ∧ Leaves scene id after fun other =>
        if moved = true ∧ marker = other then some (grid.cellAt object.position)
        else grid.cellOf? other
  /-- Any executor that knows the camera and nothing of the grid gets the buckets from the snapshot and
  the commands. -/
  reproduced : ∀ camera ∈ grid.subscribers, ∀ executor graph, Executor.Sound executor →
    executor.graph? camera = some graph → (∀ cell, graph.membersOf (id, cell) = []) →
      Reproduces ((.attach camera id (noted.snapshot camera) :: noted.commands camera).foldl
        Executor.apply executor) camera id grid

theorem Retraces.reproduces {grid : Grid} {noted : GridLog} (retraces : Retraces id camera grid noted)
    (wellFormed : grid.WellFormed) {executor : Executor} {graph : Graph} (sound : executor.Sound)
    (found : executor.graph? camera = some graph) (empty : ∀ cell, graph.membersOf (id, cell) = []) :
    Reproduces ((.attach camera id (noted.snapshot camera) :: noted.commands camera).foldl
      Executor.apply executor) camera id grid := by
  obtain ⟨changes, sent, traced⟩ := retraces
  have admissible : ∀ command ∈ Command.attach camera id (noted.snapshot camera) :: noted.commands camera,
      command.Admissible := by
    refine List.forall_mem_cons.mpr ⟨trivial, fun command member => ?_⟩
    rw [sent] at member
    obtain ⟨change, -, rfl⟩ := List.mem_map.mp member
    exact Command.admissible_of_grid? (Command.report_grid? id change camera)
  obtain ⟨still, -, outlooks⟩ := sound.applyAll admissible
  have told := outlooks camera
  generalize (Command.attach camera id (noted.snapshot camera) :: noted.commands camera).foldl
    Executor.apply executor = after at still told
  have joined : (Command.follow camera (executor.outlook? camera)
      (.attach camera id (noted.snapshot camera))).map (·.at id) =
      some { graph.outlook.at id with
        holds := fun cell marker => (cell, marker) ∈ noted.snapshot camera } := by
    rw [Command.follow_self rfl, Executor.outlook?, found]
    simp [Command.tell, Outlook.join, Outlook.at, Graph.outlook, empty]
  have listed : noted.commands camera = reports id [camera] changes := by
    rw [sent, reports, List.map_eq_flatMap]
    rfl
  have seen : (after.outlook? camera).map (·.at id) =
      some { graph.outlook.at id with holds := grid.holds } := by
    rw [told, List.foldl_cons, listed]
    refine (Command.sight?_reports id [camera] changes _).trans ?_
    rw [if_pos (List.mem_singleton_self camera), joined, Option.map_some, traced]
  obtain ⟨outlook, shown, same⟩ := Option.map_eq_some_iff.mp seen
  obtain ⟨changed, kept, rfl⟩ := Option.map_eq_some_iff.mp shown
  have holds : changed.outlook.holds id = grid.holds := congrArg Sight.holds same
  refine ⟨changed, kept, fun cell => ?_⟩
  have distinct := Graph.nodup_membersOf (still.graphs camera changed kept) (id, cell)
  refine (List.perm_ext_iff_of_nodup distinct (Grid.membersOf_nodup wellFormed cell)).mpr fun marker => ?_
  exact iff_of_eq (congrFun (congrFun holds cell) marker)

/-- In every history of requests, with markers moving to any places in between, the buckets of a grid and
the locations of its markers mirror each other; the markers in the cell visible from everywhere are those
that were last put there, a marker is relocated exactly if it strays from the cell of its own, and the
commands sent to a subscriber lead from its snapshot to the buckets. -/
theorem grids_mirror_their_buckets (requests : List Request) (id : GridId) {grid : Grid}
    (found : (Request.afterAll requests {}).grids.get? id = some grid) :
    Mirrored (Request.afterAll requests {}) id grid (Request.logAll id requests {} {}) := by
  have logged := (Logged.start id).all requests
  generalize Request.afterAll requests {} = scene at found logged ⊢
  generalize Request.logAll id requests {} {} = noted at logged ⊢
  have tidy := logged.tidy grid found
  refine ⟨mirrors_of_tidy tidy, fun marker => (logged.everywhere grid found marker).symm, ?_, ?_, ?_, ?_,
    ?_⟩
  · intro marker object present cell
    refine ⟨scene.changed id (grid.addAt cell marker), ?_,
      changed_leaves _ (Grid.addAt_tidy tidy cell marker) (Grid.cellOf?_addAt cell marker)⟩
    simp [Scene.addAt, present, changeGrid_apply found]
  · intro marker object present
    refine ⟨scene.changed id (grid.addAt (grid.cellAt object.position) marker), ?_,
      changed_leaves _ (Grid.addAt_tidy tidy _ marker) (Grid.cellOf?_addAt _ marker)⟩
    simp [Scene.add, Scene.addAt, Scene.grid, found, present, changeGrid_apply found]
  · intro marker
    refine ⟨!(grid.remove marker).2.isEmpty, scene.changed id (grid.remove marker), ?_, ?_,
      changed_leaves _ (Grid.perform_tidy tidy (.remove marker)) (Grid.cellOf?_remove marker)⟩
    · simp [Scene.remove, changeGrid_apply found]
    · simpa using Grid.remove_changes tidy.wellFormed marker
  · intro marker object present
    classical
    refine ⟨!(grid.relocate marker object.position).2.isEmpty,
      scene.changed id (grid.relocate marker object.position), ?_, ?_,
      changed_leaves _ (Grid.perform_tidy tidy (.relocate marker object.position)) fun other => ?_⟩
    · simp [Scene.relocate, present, changeGrid_apply found]
    · simpa using Grid.relocate_changes tidy.wellFormed marker object.position
    · rw [Grid.cellOf?_relocate tidy.wellFormed]
      simp [← Grid.relocate_changes tidy.wellFormed marker object.position]
  · intro camera subscribed executor graph sound known empty
    exact (logged.retraces grid found camera subscribed).reproduces tidy.wellFormed sound known empty

/-- A marker that is nowhere and one that is visible from everywhere, on a grid with one subscriber; the
first is brought to a place and relocated, the second is moved and stays. -/
def wandering : List Request :=
  [.addMarker ⟨7, ⟨0.0 / 0.0, 0, 0⟩⟩, .addMarker ⟨8, ⟨0, 0, 0⟩⟩, .makeGrid 16, .makeCamera {} ⟨0, 0, 0⟩,
    .add 0 0, .attach 0 0, .addAt 0 Cell.everywhere 1, .moveMarker 0 ⟨40, 0, 0⟩,
    .moveMarker 1 ⟨40, 0, 0⟩, .relocate 0 0, .relocate 0 1]

theorem grids_mirror_their_buckets_wandering : ∃ grid,
    (Request.afterAll wandering {}).grids.get? 0 = some grid ∧
    grid.contents = [(Cell.everywhere, 1), (⟨2, 0, 0⟩, 0)] ∧ grid.subscribers = [0] ∧
    Mirrored (Request.afterAll wandering {}) 0 grid (Request.logAll 0 wandering {} {}) := by
  have listed : ((Request.afterAll wandering {}).grids.get? 0).map (fun grid =>
      (grid.contents, grid.subscribers)) = some ([(Cell.everywhere, 1), (⟨2, 0, 0⟩, 0)], [0]) := by
    decide +kernel
  obtain ⟨grid, found, same⟩ := Option.map_eq_some_iff.mp listed
  exact ⟨grid, found, congrArg Prod.fst same, congrArg Prod.snd same,
    grids_mirror_their_buckets wandering 0 found⟩

end Scene

end TorusEngine.Relevance
