import TorusEngine.Proofs.Drawing.Turns
import TorusEngine.Proofs.Drawing.WrittenRecords

/-!
# Frames draw what the device has

A device that keeps the last upload of every page draws from these copies. At each draw of a frame the
copies of the pages that the draw needs are what memory holds (`copies_agree`): what the front list has
sent is on written pages, whenever it was sent, and the frame flushes before it draws.
-/

namespace TorusEngine.Drawing

open Paging

namespace DrawList

variable {list left : DrawList} {written : PageLedger} {memory : Memory} {noted : Copied}

theorem Recorded.redrafts (recorded : list.Recorded written memory) (redrafts : Redrafts list left) :
    left.Recorded written memory := by
  obtain ⟨table, record, sent⟩ := redrafts
  refine ⟨table ▸ recorded.backs, by rw [table, record]; exact recorded.record, ?_, ?_⟩
  · rcases sent with same | none
    · rw [same, table]
      exact recorded.few
    · rw [none]
      exact Nat.zero_le _
  · intro some id page occupied
    have same := sent.resolve_right some
    rw [Occupies, table, record, same] at occupied
    exact recorded.written (same ▸ some) id page occupied

end DrawList

/-! ## Sending the front list -/

def ListPair.Recorded (pair : ListPair) (written : PageLedger) (memory : Memory) : Prop :=
  ∀ side, (pair.list side).Recorded written memory

namespace ListPair

variable {pair : ListPair} {memory : Memory} {noted : Copied}

theorem Recorded.redrafts {written : PageLedger} {left : ListPair}
    (recorded : pair.Recorded written memory) (redrafts : pair.Redrafts left) :
    left.Recorded written memory :=
  fun side => (recorded side).redrafts (redrafts side)

theorem Recorded.noteAll_direct (recorded : pair.Recorded noted.written memory)
    (wellFormed : memory.WellFormed) {calls : List Memory.Call}
    (direct : ∀ call ∈ calls, ∀ memory, ∃ list, call.direct memory = some list)
    (spared : ∀ call ∈ calls, ∀ id, call.Spares id) :
    pair.Recorded (copyBook.noteAll calls memory noted).written (Memory.Call.afterAll calls memory) :=
  fun side => (recorded side).noteAll_direct wellFormed direct fun call member => spared call member _

theorem Recorded.send (recorded : pair.Recorded noted.written memory) (wellFormed : memory.WellFormed) :
    ∃ left, pair.front.send memory =
        .ok (left.sent, left) (Memory.Call.afterAll pair.front.storing memory) ∧
      (pair.putFront left).Recorded (copyBook.noteAll pair.front.storing memory noted).written
        (Memory.Call.afterAll pair.front.storing memory) := by
  obtain ⟨left, sent, stored⟩ := (recorded pair.frontSide).send wellFormed
  refine ⟨left, sent, fun side => ?_⟩
  by_cases front : side = pair.frontSide
  · subst front
    rw [putFront, list_put_self]
    exact stored
  · rw [putFront, list_put_of_ne front]
    exact (recorded side).noteAll_direct wellFormed pair.front.storing_direct
      (pair.front.storing_spares _)

end ListPair

/-! ## New pipelines -/

def DrawList.creating (list : DrawList) : List Memory.Call :=
  [.window list.table.window .tryCreate, .setElement list.table.window "count" .int list.record 0 0]

theorem DrawList.creating_spares (list : DrawList) {id : BufferId} :
    ∀ call ∈ list.creating, call.Spares id := by
  simp [creating, Memory.Call.Spares]

theorem DrawList.make_ok {table : ObjectListTable} {memory after : Memory} {list : DrawList}
    (wellFormed : memory.WellFormed) (backs : memory.Backs table.count.buffer) {window : Window}
    (placed : table.Placed memory window) (made : DrawList.make table memory = .ok list after) :
    list.table = table ∧ list.sent = 0 ∧ after = Memory.Call.afterAll list.creating memory ∧
      ∃ left, table.Placed after left ∧ list.record ∈ left.pool.outstanding ∧
        ∀ live ∈ window.pool.outstanding, live ∈ left.pool.outstanding := by
  obtain ⟨record, left, created, same⟩ := Action.bind_ok.mp made
  cases same
  obtain ⟨same, kept⟩ := ObjectListTable.tryCreate_ok wellFormed backs placed created
  exact ⟨rfl, rfl, same, kept⟩

namespace Pipeline

def making (pipeline : Pipeline) (schema : Schema) (tableConfig : MemoryConfig) : List Memory.Call :=
  .makeWindow "object-lists" schema tableConfig ::
    (pipeline.lists.first.creating ++ pipeline.lists.second.creating)

theorem make_ok {config : DrawingConfig} {geometry : Torus.Geometry Float} {tableConfig : MemoryConfig}
    {memory left : Memory} {schema : Schema} {pipeline : Pipeline} (wellFormed : memory.WellFormed)
    (built : Schema.build [("count", .int), ("ids", .intArray config.listCapacity)] = .ok schema)
    (made : make config geometry tableConfig memory = .ok pipeline left) (written : PageLedger) :
    left = Memory.Call.afterAll (pipeline.making schema tableConfig) memory ∧
      pipeline.lists.Recorded written left := by
  obtain ⟨table, tabled, started, made⟩ := Action.bind_ok.mp made
  obtain ⟨first, created, listed, made⟩ := Action.bind_ok.mp made
  obtain ⟨second, last, listedToo, made⟩ := Action.bind_ok.mp made
  cases made
  obtain ⟨window, rfl, placed, capacity, fresh⟩ := ObjectListTable.make_placed wellFormed started
  have same : window.schema = schema := by
    have rebuilt := placed.built
    rw [capacity, built] at rebuilt
    cases rebuilt
    rfl
  let opening : Memory.Call := .makeWindow "object-lists" window.schema tableConfig
  have backs : Memory.Backs (opening.after memory) table.count.buffer :=
    Memory.Call.after_backs wellFormed (placed.buffer ▸ fresh ▸ wellFormed.backs_unused) trivial
  have wellFormed := opening.after_wellFormed wellFormed
  obtain ⟨rfl, unsent, rfl, window, placed, live, -⟩ := DrawList.make_ok wellFormed backs placed listed
  have backs := Memory.afterAll_backs wellFormed backs first.creating_spares
  have wellFormed := Memory.afterAll_wellFormed wellFormed first.creating
  -- Making the second record leaves the first one live.
  obtain ⟨other, unsentToo, rfl, left, placed, liveToo, still⟩ :=
    DrawList.make_ok wellFormed backs placed listedToo
  have backs := Memory.afterAll_backs wellFormed backs second.creating_spares
  refine ⟨?_, fun side => ?_⟩
  · rw [making, ← same, Memory.Call.afterAll_cons, Memory.Call.afterAll_append]
  · cases side with
    | first => exact .of_unsent unsent backs ⟨left, placed, still _ live⟩
    | second => exact .of_unsent unsentToo (other ▸ backs) ⟨left, other ▸ placed, liveToo⟩

end Pipeline

/-! ## Frames -/

namespace Stage

def opened (stage : Stage) (rebuild : Rebuild) : Pipeline :=
  (Pipeline.Turn.request rebuild).after (Pipeline.Turn.swap.after stage.pipeline)

theorem opened_redrafts (stage : Stage) (rebuild : Rebuild) :
    stage.pipeline.lists.Redrafts (stage.opened rebuild).lists :=
  Trans.trans (Pipeline.Turn.swap.redrafts stage.pipeline)
    ((Pipeline.Turn.request rebuild).redrafts (Pipeline.Turn.swap.after stage.pipeline))

theorem sendFront_ok {stage : Stage} {left : DrawList} {memory : Memory}
    (sent : stage.pipeline.lists.front.send stage.memory = .ok (left.sent, left) memory) :
    sendFront stage = .ok left.sent
      ⟨{ stage.pipeline with lists := stage.pipeline.lists.putFront left }, memory⟩ := by
  simp [sendFront, onMemory, Action.within_apply, sent]

theorem frame_result {stage : Stage} {rebuild : Rebuild} {left : DrawList} {middle : Memory}
    {sink : Sink} {report : FlushReport} {arena : Arena} (backend : Backend)
    (sent : (stage.opened rebuild).lists.front.send stage.memory = .ok (left.sent, left) middle)
    (flushed : Arena.flush sink middle.arena = .ok report arena) :
    let after := Action.after (frame backend sink rebuild) stage
    after.memory = { middle with arena } ∧
      after.pipeline.lists = (stage.opened rebuild).lists.putFront left ∧
      (Action.answer (frame backend sink rebuild) stage).map (·.call) =
        left.render backend { middle with arena } := by
  -- No step before the draw fails, so each is given by what it answers and leaves.
  obtain ⟨swapped, swap⟩ := Pipeline.swap_answers stage.pipeline
  obtain ⟨begun, requested, request, -⟩ :=
    Pipeline.request_answers rebuild (Pipeline.Turn.swap.after stage.pipeline)
  have opened : stage.opened rebuild = requested := Action.after_of_ok request
  rw [opened] at sent ⊢
  have first : onPipeline (Pipeline.onLists ListPair.trySwap) stage =
      .ok swapped ⟨Pipeline.Turn.swap.after stage.pipeline, stage.memory⟩ :=
    Action.within_ok.mpr ⟨_, swap, rfl⟩
  have second : onPipeline (Pipeline.request rebuild)
      ⟨Pipeline.Turn.swap.after stage.pipeline, stage.memory⟩ = .ok begun ⟨requested, stage.memory⟩ :=
    Action.within_ok.mpr ⟨_, request, rfl⟩
  have third := @sendFront_ok ⟨requested, stage.memory⟩ left middle sent
  have fourth : onMemory (Memory.onArena (Arena.flush sink))
      ⟨{ requested with lists := requested.lists.putFront left }, middle⟩ =
      .ok report ⟨{ requested with lists := requested.lists.putFront left }, { middle with arena }⟩ :=
    Action.within_ok.mpr ⟨_, Action.within_ok.mpr ⟨_, flushed, rfl⟩, rfl⟩
  cases rendered : left.render backend { middle with arena } with
  | error fault =>
      simp [Action.after, Action.answer, Action.outcome, frame, first, second, third, fourth,
        renderFront, Action.inspect, ListPair.front_putFront, rendered, Except.map]
  | ok call =>
      simp [Action.after, Action.answer, Action.outcome, frame, first, second, third, fourth,
        renderFront, Action.inspect, ListPair.front_putFront, rendered, Except.map]

/-! ## Runs -/

inductive Call where
  | elsewhere (call : Memory.Call)
  | turn (change : Pipeline.Turn)
  | send
  | frame (backend : Backend) (sink : Sink) (rebuild : Rebuild)

def Call.after (stage : Stage) : Call → Stage
  | elsewhere call => { stage with memory := call.after stage.memory }
  | turn change => { stage with pipeline := change.after stage.pipeline }
  | send => Action.after sendFront stage
  | frame backend sink rebuild => Action.after (Stage.frame backend sink rebuild) stage

def Call.calls (stage : Stage) : Call → List Memory.Call
  | elsewhere call => [call]
  | turn _ => []
  | send => stage.pipeline.lists.front.storing
  | frame _ sink rebuild => (stage.opened rebuild).lists.front.storing ++ [.arena (.flush sink)]

/-- The calls that leave the records of both lists to them. The table is the pipeline's own, so no one
else frees its records or resizes its buffer. -/
def Call.Spares (stage : Stage) : Call → Prop
  | elsewhere call => ∀ side, let list := stage.pipeline.lists.list side
      call.Spares list.table.count.buffer ∧
        (call.after stage.memory).Live list.table.window list.record
  | _ => True

/-- The stages of all pipelines on a memory, with the calls on memory that led to them. -/
inductive Reached (start : Memory) : List Memory.Call → Stage → Prop where
  | made {config : DrawingConfig} {geometry : Torus.Geometry Float} {tableConfig : MemoryConfig}
      {schema : Schema} {pipeline : Pipeline} {left : Memory} (before : List Memory.Call)
      (built : Schema.build [("count", .int), ("ids", .intArray config.listCapacity)] = .ok schema)
      (made : Pipeline.make config geometry tableConfig (Memory.Call.afterAll before start) =
        .ok pipeline left) :
      Reached start (before ++ pipeline.making schema tableConfig) ⟨pipeline, left⟩
  | call {calls : List Memory.Call} {stage : Stage} (reached : Reached start calls stage) (call : Call)
      (spares : call.Spares stage) : Reached start (calls ++ call.calls stage) (call.after stage)

structure Keeps (stage : Stage) (noted : Copied) : Prop where
  wellFormed : stage.memory.WellFormed
  agrees : noted.Agrees stage.memory.arena
  lists : stage.pipeline.lists.Recorded noted.written stage.memory

variable {stage : Stage} {noted : Copied}

theorem flush_direct (sink : Sink) : ∀ call ∈ [Memory.Call.arena (.flush sink)], ∀ memory,
    ∃ calls, call.direct memory = some calls := by
  intro call member memory
  rw [List.mem_singleton.mp member]
  exact ⟨_, rfl⟩

theorem flush_spares (sink : Sink) : ∀ call ∈ [Memory.Call.arena (.flush sink)], ∀ id,
    call.Spares id := by
  intro call member id
  rw [List.mem_singleton.mp member]
  trivial

theorem Keeps.frame (keeps : stage.Keeps noted) (backend : Backend) (sink : Sink) (rebuild : Rebuild) :
    let calls := (Call.frame backend sink rebuild).calls stage
    let after := Action.after (Stage.frame backend sink rebuild) stage
    after.memory = Memory.Call.afterAll calls stage.memory ∧
      after.pipeline.lists.Recorded (copyBook.noteAll calls stage.memory noted).written after.memory ∧
      (Action.answer (Stage.frame backend sink rebuild) stage).map (·.call) =
        after.pipeline.lists.front.render backend after.memory := by
  intro calls after
  obtain ⟨left, sent, stored⟩ :=
    (keeps.lists.redrafts (stage.opened_redrafts rebuild)).send keeps.wellFormed
  have wellFormed := Memory.afterAll_wellFormed keeps.wellFormed
    (stage.opened rebuild).lists.front.storing
  obtain ⟨arena, flushed, -⟩ := Arena.flush_result wellFormed.arena sink
  obtain ⟨memory, lists, drawn⟩ := frame_result backend sent flushed
  have still := stored.noteAll_direct wellFormed (flush_direct sink) (flush_spares sink)
  rw [← Bookkeeping.noteAll_append, ← Memory.Call.afterAll_append] at still
  have last : after.memory = Memory.Call.afterAll calls stage.memory := by
    have flush := Memory.Call.after_flush sink
      (Memory.Call.afterAll (stage.opened rebuild).lists.front.storing stage.memory)
    rw [Arena.Call.after, Arena.Call.perform, Action.after_map, Action.after_of_ok flushed] at flush
    exact memory.trans (flush.symm.trans (Memory.Call.afterAll_append _ _ _).symm)
  refine ⟨last, ?_, ?_⟩
  · rw [last, lists]
    exact still
  · rw [drawn, lists, memory, ListPair.front_putFront]

theorem Keeps.after (keeps : stage.Keeps noted) {call : Call} (spares : call.Spares stage) :
    (call.after stage).memory = Memory.Call.afterAll (call.calls stage) stage.memory ∧
      (call.after stage).Keeps (copyBook.noteAll (call.calls stage) stage.memory noted) := by
  have made (left : Stage) (memory : left.memory = Memory.Call.afterAll (call.calls stage) stage.memory)
      (lists : left.pipeline.lists.Recorded
        (copyBook.noteAll (call.calls stage) stage.memory noted).written left.memory) :
      left.memory = Memory.Call.afterAll (call.calls stage) stage.memory ∧
        left.Keeps (copyBook.noteAll (call.calls stage) stage.memory noted) := by
    refine ⟨memory, ?_, ?_, lists⟩
    · rw [memory]
      exact Memory.afterAll_wellFormed keeps.wellFormed _
    · rw [memory]
      exact keeps.agrees.noteAll keeps.wellFormed _
  cases call with
  | elsewhere call =>
      exact made _ rfl fun side =>
        (keeps.lists side).note keeps.wellFormed (spares side).1 (spares side).2
  | turn change => exact made _ rfl (keeps.lists.redrafts (change.redrafts stage.pipeline))
  | send =>
      obtain ⟨left, sent, stored⟩ := keeps.lists.send keeps.wellFormed
      have sentFront := Action.after_of_ok (sendFront_ok sent)
      rw [Call.after, sentFront]
      exact made _ rfl stored
  | frame backend sink rebuild =>
      obtain ⟨memory, lists, -⟩ := keeps.frame backend sink rebuild
      exact made _ memory lists

theorem Reached.keeps {config : MemoryConfig} {start : Memory}
    (started : Memory.make config = .ok start) {calls : List Memory.Call}
    (reached : Reached start calls stage) :
    stage.memory = Memory.Call.afterAll calls start ∧
      stage.Keeps (copyBook.noteAll calls start {}) := by
  have wellFormed := Memory.make_wellFormed started
  have agrees := (Copied.agrees_new start.arena).noteAll wellFormed
  induction reached with
  | made before built made =>
      have wellFormedThen := Memory.afterAll_wellFormed wellFormed before
      obtain ⟨left, lists⟩ := Pipeline.make_ok wellFormedThen built made _
      rw [← Memory.Call.afterAll_append] at left
      subst left
      exact ⟨rfl, Memory.afterAll_wellFormed wellFormed _, agrees _, lists⟩
  | call _ call spares ih =>
      obtain ⟨memory, keeps⟩ := ih
      obtain ⟨left, still⟩ := keeps.after spares
      rw [memory, ← Memory.Call.afterAll_append] at left
      rw [memory, ← Bookkeeping.noteAll_append] at still
      exact ⟨left, still⟩

/-! ## Draws -/

/-- When the front list is drawn, the copies of the pages that hold the number of the objects or one of
them are what memory holds. -/
def DrawsCopies (stage : Stage) (noted : Copied) : Prop :=
  ∀ draw, stage.pipeline.lists.front.call? stage.memory = .ok (some draw) →
    ∀ id page, stage.pipeline.lists.front.Occupies stage.memory.arena.pageSize id page →
      ∃ physical, stage.memory.arena.physicalPage? id page = some physical ∧
        noted.copies physical = some (stage.memory.arena.contents physical).bytes

theorem sent_of_call {list : DrawList} {memory : Memory} {draw : DrawCall}
    (drawn : list.call? memory = .ok (some draw)) : list.sent ≠ 0 := by
  intro none
  simp [DrawList.call?, none, pure, Except.pure] at drawn

theorem Keeps.drawsCopies (keeps : stage.Keeps noted) (unfailing : noted.failures = [])
    (unmarked : ∀ id page, ¬ stage.memory.arena.Stale id page) : stage.DrawsCopies noted := by
  intro draw drawn id page occupied
  have record := keeps.lists stage.pipeline.lists.frontSide
  obtain ⟨physical, owned⟩ :=
    Arena.physicalPage?_isSome.mp (record.inside keeps.wellFormed occupied).2
  have written := record.written (sent_of_call drawn) id page occupied
  exact ⟨physical, owned,
    keeps.agrees.copies unfailing id page physical written (unmarked id page) owned⟩

/-- Unless an upload failed, the copies of written pages without a mark are what memory holds, after
every run of calls, and so are the copies that a frame draws from. -/
theorem copies_agree {config : MemoryConfig} {start : Memory} (made : Memory.make config = .ok start) :
    (∀ calls, (copyBook.noteAll calls start {}).Agrees (Memory.Call.afterAll calls start).arena) ∧
    ∀ calls stage, Reached start calls stage → ∀ backend sink rebuild,
      let after := (Call.frame backend sink rebuild).after stage
      let run := calls ++ (Call.frame backend sink rebuild).calls stage
      let noted := copyBook.noteAll run start {}
      after.memory = Memory.Call.afterAll run start ∧
        (Action.answer (Stage.frame backend sink rebuild) stage).map (·.call) =
          after.pipeline.lists.front.render backend after.memory ∧
        (noted.failures = [] → after.DrawsCopies noted) := by
  have wellFormed := Memory.make_wellFormed made
  refine ⟨(Copied.agrees_new start.arena).noteAll wellFormed, ?_⟩
  intro calls stage reached backend sink rebuild after run noted
  have drawn := ((reached.keeps made).2.frame backend sink rebuild).2.2
  obtain ⟨left, keeps⟩ := (reached.call (.frame backend sink rebuild) trivial).keeps made
  refine ⟨left, drawn, fun unfailing => keeps.drawsCopies unfailing fun id page => ?_⟩
  rw [left, Call.calls, ← List.append_assoc, Memory.Call.afterAll_append]
  exact Memory.Call.unmarked_after_flush (Memory.afterAll_wellFormed wellFormed _) sink id page

def blank : Memory :=
  { arena := { pageSize := 16, maxPages := 8, pool := .withCapacity 1 (Arena.pageGrowth 8) } }

def recycling : List Memory.Call :=
  [.arena (.createBuffer "a" 16), .arena (.put 0 12 [9]), .arena (.flush fun _ => none),
    .arena (.dropBuffer 0)]

def narrowTable : ObjectListTable := ⟨0, ⟨1, 8, 0, .int⟩, ⟨1, 8, 4, .intArray 1⟩, 1⟩

def recycled : Stage where
  pipeline := {
    config := { listCapacity := 1 }
    geometry := ⟨1, 4⟩
    lists := {
      first := { table := narrowTable, record := 0, entries := [⟨7, 70, 0⟩], dirty := true }
      second := { table := narrowTable, record := 1 } } }
  memory := Action.after (DrawList.make narrowTable) (Action.after (DrawList.make narrowTable)
    (Action.after (ObjectListTable.make 1 {}) (Memory.Call.afterAll recycling blank)))

def recycledCalls : List Memory.Call :=
  recycling ++ recycled.pipeline.making ⟨[⟨"count", .int, 0⟩, ⟨"ids", .intArray 1, 4⟩], 8⟩ {}

theorem recycled_reached : Reached blank recycledCalls recycled := by
  let config : DrawingConfig := { listCapacity := 1 }
  let tabled := Action.after (ObjectListTable.make 1 {}) (Memory.Call.afterAll recycling blank)
  have table : ObjectListTable.make config.listCapacity {} (Memory.Call.afterAll recycling blank) =
      .ok narrowTable tabled := Action.ok_of_answer (by decide +kernel)
  have listed (record : Nat) {memory : Memory}
      (created : Action.answer narrowTable.tryCreate memory = .ok record) :
      DrawList.make narrowTable memory = .ok { table := narrowTable, record }
        (Action.after (DrawList.make narrowTable) memory) := by
    have popped := Action.ok_of_answer created
    apply Action.ok_of_answer
    simp [DrawList.make, Action.answer, Action.outcome, popped]
  have zero : Action.answer narrowTable.tryCreate tabled = .ok 0 := by decide +kernel
  have one : Action.answer narrowTable.tryCreate (Action.after (DrawList.make narrowTable) tabled) =
      .ok 1 := by decide +kernel
  have built : Schema.build [("count", .int), ("ids", .intArray config.listCapacity)] =
      .ok ⟨[⟨"count", .int, 0⟩, ⟨"ids", .intArray 1, 4⟩], 8⟩ := by decide +kernel
  have made : Pipeline.make config ⟨1, 4⟩ {} (Memory.Call.afterAll recycling blank) =
      .ok { recycled.pipeline with lists := {
        first := { table := narrowTable, record := 0 }
        second := { table := narrowTable, record := 1 } } } recycled.memory := by
    simp only [Pipeline.make, Action.bind_apply, table, listed 0 zero, listed 1 one]
    rfl
  have started := @Reached.made blank config _ _ _ _ _ recycling built made
  have reached := started.call (.turn (.revise .first (.push ⟨7, 70, 0⟩))) trivial
  rw [Call.calls, List.append_nil] at reached
  exact reached

/-- The page was uploaded for another buffer before; what the frame draws from is the list. -/
theorem copies_agree_recycled :
    Reached blank recycledCalls recycled ∧
    let frame := Call.frame acceptAll (fun _ => none) ⟨[], ⟨0, 0, 0⟩⟩
    let noted := copyBook.noteAll (recycledCalls ++ frame.calls recycled) blank {}
    (frame.after recycled).pipeline.lists.front.call? (frame.after recycled).memory =
        .ok (some ⟨0, 1⟩) ∧
      noted.copies 0 = some [1, 0, 0, 0, 70, 0, 0, 0, 0, 0, 0, 0, 9, 0, 0, 0] ∧
      (frame.after recycled).DrawsCopies noted := by
  have made : Memory.make { pageSize := 16, maxPages := 8 } = .ok blank := rfl
  have agrees := (copies_agree made).2 recycledCalls recycled recycled_reached acceptAll
    (fun _ => none) ⟨[], ⟨0, 0, 0⟩⟩
  exact ⟨recycled_reached, by decide +kernel, by decide +kernel, agrees.2.2 (by decide +kernel)⟩

end Stage

end TorusEngine.Drawing
