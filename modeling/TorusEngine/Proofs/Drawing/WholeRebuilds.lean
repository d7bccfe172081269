import TorusEngine.Proofs.Drawing.DoubleBuffer

/-!
# What is drawn is a whole rebuild

Whatever the order of the steps, at most one rebuild is in flight, it never writes to the list that is
drawn, and the list that is drawn is either the empty list of the beginning or what exactly one
finished rebuild made: each swap shows the result of the next finished rebuild. This is
`draws_whole_rebuilds`. Frames, requests and the work of a pipeline are runs of these steps.
-/

namespace TorusEngine.Drawing

open Paging

namespace DoubleBuffer

section Statement

variable (geometry : Torus.Geometry Float) (radius : Float)

inductive Run : DoubleBuffer → List Event → DoubleBuffer → Prop where
  | refl {state : DoubleBuffer} : Run state [] state
  | step {state middle next : DoubleBuffer} {events : List Event} {event : Event}
      (run : Run state events middle) (step : Step geometry radius middle event next) :
      Run state (events ++ [event]) next

/-- A state between two calls of a pipeline, whose worker waits with the rebuild that is pending. -/
structure Serves (state : DoubleBuffer) (pipeline : Pipeline) : Prop where
  geometry : pipeline.geometry = geometry
  radius : pipeline.config.visibilityRadius = radius
  lists : state.lists = pipeline.lists
  workers : state.workers = pipeline.pending.toList.map Worker.informed
  resting : state.swapping = .resting

/-- The run of a frame. It swaps if a finished rebuild waits, begins the next one unless one is under way,
and sends; its report says which of these it did. -/
structure FrameRuns (state : DoubleBuffer) (stage : Stage) (backend : Backend) (sink : Sink)
    (rebuild : Rebuild) (swapped begun : Bool) (sends : List Event) (next : DoubleBuffer) : Prop where
  run : Run geometry radius state ((if swapped then [.see, .flip, .count, .settle] else []) ++
    (if begun then [.request, .inform] else []) ++ sends) next
  sends : ∀ event ∈ sends, event = .send
  serves : Serves geometry radius next
    (Action.after (Stage.frame backend sink rebuild) stage).pipeline
  swapped_iff : swapped = true ↔ state.lists.state = .ready
  begun_iff : begun = true ↔ state.lists.state ≠ .building
  shown : next.shown = state.shown + swapped.toNat
  reports : ∀ report, Action.answer (Stage.frame backend sink rebuild) stage = .ok report →
    report.swapped = swapped ∧ report.rebuildStarted = begun ∧
      report.visible = next.lists.front.entries.length

structure DrawsWholeRebuilds (state : DoubleBuffer) : Prop where
  one : state.workers.length ≤ 1
  apart : ∀ worker ∈ state.workers, ∀ side, worker.side? = some side → side ≠ state.lists.frontSide
  claimed : ∀ worker ∈ state.workers,
    state.lists.back = .ok (state.lists.list state.lists.frontSide.other) ∧
    ∃ left, ListPair.finish state.lists = .ok () left
  emptied : ∀ rebuild side remaining, .filling rebuild side [] remaining ∈ state.workers →
    (state.lists.list side).entries = []
  whole : state.shown = 0 ∧ state.lists.front.entries = [] ∨
    ∃ rebuild, 0 < state.shown ∧
      state.finished[state.shown - 1]? = some (rebuild, state.lists.front.entries) ∧
      rebuild.Completes geometry radius state.lists.front.entries
  counted : state.shown =
    if state.swapping = .flipped then state.lists.swaps + 1 else state.lists.swaps
  flips : ∀ event next, Step geometry radius state event next →
    next.lists.frontSide ≠ state.lists.frontSide → event = .flip
  promotes : ∀ next, Step geometry radius state .flip next →
    state.finished.length = state.shown + 1 ∧ next.shown = state.shown + 1 ∧
    ∃ rebuild, state.finished[state.shown]? = some (rebuild, next.lists.front.entries)
  keeps : ∀ event next, Step geometry radius state event next → event ≠ .flip →
    next.shown = state.shown ∧ next.lists.front.entries = state.lists.front.entries
  untouched : ∀ event next, Step geometry radius state event next → event.ofWorker = true →
    next.lists.front = state.lists.front
  abandons : ∀ next, Step geometry radius state .unwind next → next.finished = state.finished ∧
    next.workers = [] ∧ next.swapping = .resting ∧
    ∃ lists, ListPair.begin next.lists = .ok true lists
  runs : ∀ events next, Run geometry radius state events next →
    next.shown = state.shown + events.count .flip
  works : ∀ pipeline positions, Serves geometry radius state pipeline →
    ∃ events next, Run geometry radius state events next ∧ (∀ event ∈ events, event.ofWorker = true) ∧
      Serves geometry radius next (pipeline.work positions)
  frames : ∀ stage backend sink rebuild, Serves geometry radius state stage.pipeline →
    ∃ swapped begun sends next,
      FrameRuns geometry radius state stage backend sink rebuild swapped begun sends next

end Statement

variable {geometry : Torus.Geometry Float} {radius : Float} {state next : DoubleBuffer}
  {events : List Event}

/-! ## Pipelines take these steps -/

theorem Run.trans {middle : DoubleBuffer} {more : List Event}
    (first : Run geometry radius state events middle) (second : Run geometry radius middle more next) :
    Run geometry radius state (events ++ more) next := by
  induction second with
  | refl =>
      rw [List.append_nil]
      exact first
  | step _ step ih =>
      rw [← List.append_assoc]
      exact ih.step step

theorem Run.reachable (run : Run geometry radius state events next)
    (reachable : Reachable geometry radius state) : Reachable geometry radius next := by
  induction run with
  | refl => exact reachable
  | step _ step ih => exact ih.step step

theorem Run.shown_eq (run : Run geometry radius state events next) :
    next.shown = state.shown + events.count .flip := by
  induction run with
  | refl => rfl
  | step _ step ih =>
      rw [step.shown_eq, ih, List.count_append, List.count_singleton, Nat.add_assoc]
      simp only [beq_iff_eq]

theorem swap_run (resting : state.swapping = .resting) (ready : state.lists.state = .ready) :
    Run geometry radius state [.see, .flip, .count, .settle] { state with
      lists := { state.lists with
        frontSide := state.lists.frontSide.other, swaps := state.lists.swaps + 1, state := .idle }
      shown := state.shown + 1 } := by
  rcases state with ⟨pair, workers, swapping, finished, shown⟩
  cases resting
  have see := @Step.see geometry radius ⟨pair, workers, .resting, finished, shown⟩ rfl ready
  exact (((Run.refl.step see).step (.flip rfl)).step (.count rfl)).step (.settle rfl)

theorem push_step {rebuild : Rebuild} {side : Side} {candidate : Candidate}
    {considered remaining : List Candidate} {positions : Positions} {list : DrawList}
    (busy : state.workers = [.filling rebuild side considered (candidate :: remaining)])
    (answered : Rebuild.consider geometry radius positions rebuild.observer
      (state.lists.list side) candidate = .ok list) :
    Step geometry radius state .push { state with
      lists := state.lists.put side list
      workers := [.filling rebuild side (considered ++ [candidate]) remaining] } :=
  .work [] [] busy (.push answered)

theorem fill_run {rebuild : Rebuild} {side : Side} {considered remaining : List Candidate}
    {positions : Positions} {filled : DrawList}
    (busy : state.workers = [.filling rebuild side considered remaining])
    (answered : remaining.foldlM (Rebuild.consider geometry radius positions rebuild.observer)
      (state.lists.list side) = .ok filled) :
    Run geometry radius state (.replicate remaining.length .push) { state with
      lists := state.lists.put side filled
      workers := [.filling rebuild side (considered ++ remaining) []] } := by
  induction remaining generalizing state considered with
  | nil =>
      cases answered
      rw [ListPair.put_list, List.append_nil, ← busy]
      exact .refl
  | cons candidate rest ih =>
      rw [List.foldlM_cons] at answered
      cases pushed : Rebuild.consider geometry radius positions rebuild.observer
          (state.lists.list side) candidate with
      | error unfinished =>
          rw [pushed] at answered
          cases answered
      | ok list =>
          rw [pushed] at answered
          have others := @ih { state with
            lists := state.lists.put side list
            workers := [.filling rebuild side (considered ++ [candidate]) rest] } _ rfl
            (by rwa [ListPair.list_put_self])
          rw [ListPair.put_put, List.append_assoc] at others
          exact (Run.refl.step (push_step busy pushed)).trans others

/-- A worker that cannot read a position has written the candidates before it. -/
theorem break_off_run {rebuild : Rebuild} {side : Side} {considered remaining : List Candidate}
    {positions : Positions} {unfinished : DrawList}
    (busy : state.workers = [.filling rebuild side considered remaining])
    (failed : remaining.foldlM (Rebuild.consider geometry radius positions rebuild.observer)
      (state.lists.list side) = .error unfinished) :
    ∃ count worker, Run geometry radius state (.replicate count .push) { state with
      lists := state.lists.put side unfinished
      workers := [worker] } := by
  induction remaining generalizing state considered with
  | nil => cases failed
  | cons candidate rest ih =>
      rw [List.foldlM_cons] at failed
      cases pushed : Rebuild.consider geometry radius positions rebuild.observer
          (state.lists.list side) candidate with
      | error left =>
          rw [pushed] at failed
          cases failed
          refine ⟨0, .filling rebuild side considered (candidate :: rest), ?_⟩
          rw [Rebuild.consider_error pushed, ListPair.put_list, ← busy]
          exact .refl
      | ok list =>
          rw [pushed] at failed
          obtain ⟨count, worker, others⟩ := @ih { state with
            lists := state.lists.put side list
            workers := [.filling rebuild side (considered ++ [candidate]) rest] } _ rfl
            (by rwa [ListPair.list_put_self])
          rw [ListPair.put_put] at others
          exact ⟨count + 1, worker, (Run.refl.step (push_step busy pushed)).trans others⟩

theorem reset_run {rebuild : Rebuild} (busy : state.workers = [.informed rebuild]) :
    Run geometry radius state [.look, .reset] { state with
      lists := state.lists.put state.lists.frontSide.other state.back.reset
      workers := [.filling rebuild state.lists.frontSide.other [] rebuild.candidates] } := by
  have look : Step geometry radius state .look
      { state with workers := [.holding rebuild state.lists.frontSide.other] } :=
    .work [] [] busy (.look _ _)
  exact (Run.refl.step look).step (.work [] [] rfl (.reset _ _ _))

theorem finished_run {rebuild : Rebuild} {positions : Positions} {built : DrawList}
    (busy : state.workers = [.informed rebuild])
    (ran : rebuild.run geometry radius positions state.back = .ok built) :
    Run geometry radius state
      ([.look, .reset] ++ .replicate rebuild.candidates.length .push ++ [.sort] ++ [.finish]) { state with
      lists := Action.after ListPair.finish (state.lists.put state.lists.frontSide.other built)
      workers := []
      finished := state.finished ++ [(rebuild, built.entries)] } := by
  obtain ⟨filled, folded, rfl⟩ := Rebuild.run_ok ran
  have fill := (reset_run busy).trans (fill_run rfl (by rwa [ListPair.list_put_self]))
  have finish := (fill.step (.work [] [] rfl (.sort _ _ _ _))).step (.finish [] [] rfl)
  rw [ListPair.list_put_self, ListPair.put_put, ListPair.put_put, ListPair.list_put_self] at finish
  exact finish

theorem abandoned_run {rebuild : Rebuild} {positions : Positions} {unfinished : DrawList}
    (busy : state.workers = [.informed rebuild])
    (ran : rebuild.run geometry radius positions state.back = .error unfinished) :
    ∃ count, Run geometry radius state ([.look, .reset] ++ .replicate count .push ++ [.unwind])
      { state with
        lists := (state.lists.put state.lists.frontSide.other unfinished).abandon
        workers := [] } := by
  have failed := Rebuild.run_error ran
  have begun : Run geometry radius state _ _ := reset_run busy
  obtain ⟨count, worker, broken⟩ := @break_off_run geometry radius { state with
    lists := state.lists.put state.lists.frontSide.other state.back.reset
    workers := [.filling rebuild state.lists.frontSide.other [] rebuild.candidates] }
    _ _ _ _ _ _ rfl (by rwa [ListPair.list_put_self])
  have unwind := (begun.trans broken).step (.unwind [] [] rfl)
  rw [ListPair.put_put] at unwind
  exact ⟨count, unwind⟩

theorem Serves.work {pipeline : Pipeline} (serves : Serves geometry radius state pipeline)
    (positions : Positions) :
    ∃ events next, Run geometry radius state events next ∧ (∀ event ∈ events, event.ofWorker = true) ∧
      Serves geometry radius next (pipeline.work positions) := by
  obtain ⟨rfl, rfl, lists, workers, resting⟩ := serves
  unfold Pipeline.work
  cases pending : pipeline.pending with
  | none => exact ⟨[], state, .refl, nofun, rfl, rfl, lists, workers, resting⟩
  | some rebuild =>
      rw [pending] at workers
      dsimp only
      split
      · rename_i unfinished ran
        rw [← lists] at ran ⊢
        obtain ⟨count, run⟩ := abandoned_run workers ran
        exact ⟨_, _, run, by simp [Event.ofWorker, or_imp, forall_and], rfl, rfl, rfl, rfl, resting⟩
      · rename_i built ran
        rw [← lists] at ran ⊢
        exact ⟨_, _, finished_run workers ran, by simp [Event.ofWorker, or_imp, forall_and], rfl, rfl, rfl,
          rfl, resting⟩

/-! ## Frames -/

theorem Serves.swap {stage : Stage} (serves : Serves geometry radius state stage.pipeline) :
    ∃ swapped next left, Stage.onPipeline (Pipeline.onLists ListPair.trySwap) stage = .ok swapped left ∧
      Run geometry radius state (if swapped then [.see, .flip, .count, .settle] else []) next ∧
      Serves geometry radius next left.pipeline ∧ (swapped = true ↔ state.lists.state = .ready) ∧
      (next.lists.state = .idle ↔ state.lists.state ≠ .building) := by
  obtain ⟨rfl, rfl, lists, workers, resting⟩ := serves
  by_cases ready : state.lists.state = .ready
  · have ran := ListPair.trySwap_of_ready ready
    rw [lists] at ran
    refine ⟨true, _, { stage with pipeline := { stage.pipeline with lists := { stage.pipeline.lists with
        frontSide := stage.pipeline.lists.frontSide.other
        swaps := stage.pipeline.lists.swaps + 1
        state := .idle } } }, ?_, swap_run resting ready, ⟨rfl, rfl, by rw [lists], workers, resting⟩,
      iff_of_true rfl ready, iff_of_true rfl (by simp [ready])⟩
    simp [Stage.onPipeline, Pipeline.onLists, Action.within_apply, ran]
  · have ran := ListPair.trySwap_of_unready (lists ▸ ready)
    refine ⟨false, state, stage, ?_, .refl, ⟨rfl, rfl, lists, workers, resting⟩,
      iff_of_false nofun ready, ?_⟩
    · simp [Stage.onPipeline, Pipeline.onLists, Action.within_apply, ran]
    · cases mode : state.lists.state <;> simp [mode] at ready ⊢

theorem request_run {rebuild : Rebuild} {lists : ListPair} (free : state.workers = [])
    (resting : state.swapping = .resting) (ran : ListPair.begin state.lists = .ok true lists) :
    Run geometry radius state [.request, .inform]
      { state with lists, workers := [.informed rebuild] } := by
  have request := @Step.request geometry radius state _ _ rebuild.observer resting ran
  rw [if_pos rfl, free] at request
  exact (Run.refl.step request).step (.work [] [] rfl (.inform _ _ rebuild.candidates))

theorem Serves.request {stage : Stage} (serves : Serves geometry radius state stage.pipeline)
    (reachable : Reachable geometry radius state) (rebuild : Rebuild) :
    ∃ begun next left, Stage.onPipeline (Pipeline.request rebuild) stage = .ok begun left ∧
      Run geometry radius state (if begun then [.request, .inform] else []) next ∧
      Serves geometry radius next left.pipeline ∧ (begun = true ↔ state.lists.state = .idle) := by
  obtain ⟨rfl, rfl, lists, workers, resting⟩ := serves
  by_cases idle : state.lists.state = .idle
  · have free : state.workers = [] := reachable.sound.phase.free_of_idle idle
    have ran := ListPair.begin_of_idle (lists ▸ idle)
    refine ⟨true, _, { stage with pipeline := { stage.pipeline with
        lists := { stage.pipeline.lists with state := .building }
        pending := some rebuild } }, ?_, request_run free resting (ListPair.begin_of_idle idle),
      ⟨rfl, rfl, by rw [lists], rfl, resting⟩, iff_of_true rfl idle⟩
    simp [Stage.onPipeline, Pipeline.request, Pipeline.onLists, Action.within_apply, ran]
  · have ran := ListPair.begin_of_busy (lists ▸ idle)
    refine ⟨false, state, stage, ?_, .refl, ⟨rfl, rfl, lists, workers, resting⟩, iff_of_false nofun idle⟩
    simp [Stage.onPipeline, Pipeline.request, Pipeline.onLists, Action.within_apply, ran]

variable (geometry radius) in
def Sends (stage left : Stage) : Prop :=
  ∀ state, Serves geometry radius state stage.pipeline →
    ∃ events next, Run geometry radius state events next ∧ (∀ event ∈ events, event = .send) ∧
      Serves geometry radius next left.pipeline

instance : Std.Refl (Sends geometry radius) where
  refl _ state serves := ⟨[], state, .refl, nofun, serves⟩

instance : Trans (Sends geometry radius) (Sends geometry radius) (Sends geometry radius) where
  trans := by
    intro stage middle left first second state serves
    obtain ⟨events, between, run, sends, still⟩ := first state serves
    obtain ⟨more, next, further, moreSends, served⟩ := second between still
    exact ⟨events ++ more, next, run.trans further, List.forall_mem_append.mpr ⟨sends, moreSends⟩, served⟩

theorem onMemory_sends {α : Type} (action : Action Memory α) :
    Action.Respects (Sends geometry radius) (Stage.onMemory action) := by
  intro stage state serves
  refine ⟨[], state, .refl, nofun, ?_⟩
  rw [Stage.onMemory, Action.after_within]
  exact serves

theorem sendFront_sends : Action.Respects (Sends geometry radius) Stage.sendFront := by
  apply Action.Respects.get_bind
  intro stage state serves
  obtain ⟨rfl, rfl, lists, workers, resting⟩ := serves
  cases ran : stage.pipeline.lists.front.send stage.memory with
  | error fault left =>
      refine ⟨[], state, .refl, nofun, ?_⟩
      simp only [Action.after_bind, Stage.onMemory, Action.within_apply, ran]
      exact ⟨rfl, rfl, lists, workers, resting⟩
  | ok sent left =>
      have step := @Step.send stage.pipeline.geometry stage.pipeline.config.visibilityRadius state
        stage.memory left sent.1 sent.2 resting (lists ▸ ran)
      refine ⟨[.send], _, Run.refl.step step, fun event => List.mem_singleton.mp, ?_⟩
      simp only [Action.after_bind, Stage.onMemory, Action.within_apply, ran, Action.modify_apply]
      exact ⟨rfl, rfl, congrArg (·.putFront sent.2) lists, workers, resting⟩

def conclude (backend : Backend) (sink : Sink) (swapped rebuildStarted : Bool) :
    Action Stage FrameReport := do
  let sent ← Stage.sendFront
  let flush ← Stage.onMemory (Memory.onArena (Arena.flush sink))
  let call ← Stage.renderFront backend
  modify fun stage =>
    { stage with pipeline := { stage.pipeline with frames := stage.pipeline.frames + 1 } }
  let pipeline := (← get).pipeline
  let visible := pipeline.lists.front.entries.length
  return { frame := pipeline.frames, swapped, rebuildStarted, visible, sent, flush, call }

theorem frame_eq (backend : Backend) (sink : Sink) (rebuild : Rebuild) :
    Stage.frame backend sink rebuild = (do
      let swapped ← Stage.onPipeline (Pipeline.onLists ListPair.trySwap)
      let begun ← Stage.onPipeline (Pipeline.request rebuild)
      conclude backend sink swapped begun) := rfl

theorem conclude_sends (backend : Backend) (sink : Sink) (swapped begun : Bool) :
    Action.Respects (Sends geometry radius) (conclude backend sink swapped begun) := by
  refine sendFront_sends.bind fun _ => (onMemory_sends _).bind fun _ => ?_
  refine Action.Respects.bind ?_ fun _ => .bind ?_ fun _ => ?_
  · intro stage
    rw [Stage.renderFront, Action.after_inspect]
    exact Std.Refl.refl stage
  · apply Action.Respects.modify
    intro stage state serves
    exact ⟨[], state, .refl, nofun, serves.geometry, serves.radius, serves.lists, serves.workers,
      serves.resting⟩
  · exact Action.Respects.get_bind fun stage => Std.Refl.refl stage

theorem conclude_reports {backend : Backend} {sink : Sink} {swapped begun : Bool} {stage left : Stage}
    {report : FrameReport} (ran : conclude backend sink swapped begun stage = .ok report left) :
    report.swapped = swapped ∧ report.rebuildStarted = begun ∧
      report.visible = left.pipeline.lists.front.entries.length := by
  obtain ⟨sent, _, -, ran⟩ := Action.bind_ok.mp ran
  obtain ⟨flush, _, -, ran⟩ := Action.bind_ok.mp ran
  obtain ⟨call, _, -, ran⟩ := Action.bind_ok.mp ran
  cases ran
  exact ⟨rfl, rfl, rfl⟩

theorem Serves.frame {stage : Stage} (serves : Serves geometry radius state stage.pipeline)
    (reachable : Reachable geometry radius state) (backend : Backend) (sink : Sink) (rebuild : Rebuild) :
    ∃ swapped begun sends next,
      FrameRuns geometry radius state stage backend sink rebuild swapped begun sends next := by
  obtain ⟨swapped, between, first, swapRan, swapRun, swapServes, ready, idle⟩ := serves.swap
  obtain ⟨begun, later, second, beginRan, beginRun, beginServes, begins⟩ :=
    swapServes.request (swapRun.reachable reachable) rebuild
  obtain ⟨sends, next, sendRun, onlySends, still⟩ :=
    conclude_sends backend sink swapped begun second later beginServes
  have concludes : Stage.frame backend sink rebuild stage =
      conclude backend sink swapped begun second := by
    rw [frame_eq, Action.bind_apply, swapRan]
    dsimp only
    rw [Action.bind_apply, beginRan]
  have left : Action.after (Stage.frame backend sink rebuild) stage =
      Action.after (conclude backend sink swapped begun) second := by
    rw [Action.after_eq_left, concludes, ← Action.after_eq_left]
  have run := (swapRun.trans beginRun).trans sendRun
  refine ⟨swapped, begun, sends, next, run, onlySends, left ▸ still, ready, begins.trans idle, ?_, ?_⟩
  · have noFlip : sends.count .flip = 0 := List.count_eq_zero.mpr fun member => nomatch onlySends _ member
    rw [run.shown_eq, List.count_append, noFlip]
    cases swapped <;> cases begun <;> rfl
  · intro report answered
    have ran := Action.ok_of_answer answered
    rw [concludes] at ran
    obtain ⟨same, started, visible⟩ := conclude_reports ran
    refine ⟨same, started, visible.trans ?_⟩
    rw [left, still.lists]

variable (geometry radius) in
/-- Whatever the order of the steps, whole rebuilds are drawn, each swap showing the next one. -/
theorem draws_whole_rebuilds (reachable : Reachable geometry radius state) :
    DrawsWholeRebuilds geometry radius state := by
  have sound := reachable.sound
  have of_mem {worker : Worker} (member : worker ∈ state.workers) :
      state.workers = [worker] ∧ state.lists.state = .building ∧
        Working geometry radius state.lists worker := by
    obtain ⟨before, after, here⟩ := List.append_of_mem member
    obtain ⟨rfl, rfl, mode, -, -, working⟩ := sound.phase.of_worker here
    exact ⟨here, mode, working⟩
  constructor
  case one =>
    cases busy : state.workers with
    | nil => exact Nat.zero_le _
    | cons worker rest =>
        have only := (of_mem (busy ▸ List.mem_cons_self : worker ∈ state.workers)).1
        rw [← busy, only]
        exact Nat.le_refl _
  case apart =>
    intro worker member side held
    obtain ⟨-, -, working⟩ := of_mem member
    have back : side = state.lists.frontSide.other := by
      cases worker with
      | claimed | informed => cases held
      | holding =>
          cases held
          exact working
      | filling | sorted =>
          cases held
          exact working.1
    rw [back]
    exact ListPair.other_ne _
  case claimed =>
    intro worker member
    obtain ⟨-, mode, -⟩ := of_mem member
    exact ⟨if_pos mode, _, ListPair.finish_ok mode⟩
  case emptied =>
    intro rebuild side remaining member
    obtain ⟨-, -, -, collects⟩ := of_mem member
    exact collects.2.eq_nil
  case whole =>
    have draws := sound.draws
    cases swaps : state.shown with
    | zero =>
        rw [swaps] at draws
        exact .inl ⟨rfl, draws⟩
    | succ swap =>
        rw [swaps] at draws
        obtain ⟨rebuild, found⟩ := draws
        have completes := sound.complete _ (List.mem_of_getElem? found)
        exact .inr ⟨rebuild, Nat.succ_pos swap, found, completes⟩
  case flips =>
    intro event next step changed
    by_contra other
    exact changed (step.keeps sound other).1
  case counted => exact sound.counted
  case runs => exact fun events next run => run.shown_eq
  case promotes => exact fun next step => step.flip_promotes sound
  case keeps =>
    intro event next step other
    refine ⟨?_, (step.keeps sound other).2⟩
    rw [step.shown_eq, if_neg other, Nat.add_zero]
  case untouched => exact fun event next step ofWorker => step.untouched sound ofWorker
  case abandons => exact fun next step => step.unwind_abandons sound
  case works => exact fun pipeline positions serves => serves.work positions
  case frames =>
    exact fun stage backend sink rebuild serves => serves.frame reachable backend sink rebuild

theorem make_serves {config : DrawingConfig} {geometry : Torus.Geometry Float}
    {memoryConfig : MemoryConfig} {memory left : Memory} {pipeline : Pipeline}
    (made : Pipeline.make config geometry memoryConfig memory = .ok pipeline left) :
    ∃ state, Reachable geometry config.visibilityRadius state ∧
      Serves geometry config.visibilityRadius state pipeline := by
  obtain ⟨table, tabled, -, made⟩ := Action.bind_ok.mp made
  obtain ⟨first, placed, listed, made⟩ := Action.bind_ok.mp made
  obtain ⟨second, others, -, made⟩ := Action.bind_ok.mp made
  obtain ⟨record, rest, -, listed⟩ := Action.bind_ok.mp listed
  cases listed
  cases made
  exact ⟨_, .start _ second rfl, rfl, rfl, rfl, rfl, rfl⟩

def smallTable : ObjectListTable := ⟨0, ⟨0, 8, 0, .int⟩, ⟨0, 8, 4, .intArray 1⟩, 1⟩

def skyRebuild : Rebuild := ⟨[⟨7, 70, true⟩], ⟨0, 0, 0⟩⟩

def skyList : DrawList :=
  { table := smallTable, record := 1, entries := [⟨7, 70, (0 : Float).toBits⟩], dirty := true }

/-- The rebuild was finished and swapped in, and the next one has begun. -/
def midway : DoubleBuffer where
  lists := {
    first := { table := smallTable, record := 0, dirty := true }
    second := skyList
    frontSide := .second
    state := .building
    swaps := 1 }
  workers := [.filling skyRebuild .first [] skyRebuild.candidates]
  finished := [(skyRebuild, skyList.entries)]
  shown := 1

theorem draws_whole_rebuilds_midway :
    midway.lists.front.entries = skyList.entries ∧ DrawsWholeRebuilds ⟨1, 4⟩ 2 midway := by
  refine ⟨rfl, draws_whole_rebuilds ⟨1, 4⟩ 2 ?_⟩
  let first : DrawList := { table := smallTable, record := 0 }
  let second : DrawList := { table := smallTable, record := 1 }
  have built : skyRebuild.run ⟨1, 4⟩ 2 (fun _ => none) second = .ok skyList := by
    simp [Rebuild.run, Rebuild.consider, skyRebuild, skyList, DrawList.reset, DrawList.push,
      DrawList.sort, second, bind, Except.bind, pure, Except.pure]
  have started := @Reachable.start ⟨1, 4⟩ 2 first second rfl
  have requested : Reachable ⟨1, 4⟩ 2
      { lists := { first, second, state := .building }, workers := [.informed skyRebuild] } :=
    (request_run rfl rfl rfl).reachable started
  have finished : Reachable ⟨1, 4⟩ 2
      { lists := { first, second := skyList, state := .ready }
        finished := [(skyRebuild, skyList.entries)] } := (finished_run rfl built).reachable requested
  have swapped : Reachable ⟨1, 4⟩ 2
      { lists := { first, second := skyList, frontSide := .second, swaps := 1 }
        finished := [(skyRebuild, skyList.entries)], shown := 1 } :=
    (swap_run rfl rfl).reachable finished
  exact ((request_run rfl rfl rfl).trans (reset_run rfl)).reachable swapped

end DoubleBuffer

end TorusEngine.Drawing
