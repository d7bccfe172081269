import TorusEngine.Proofs.Paging.Runs

/-!
# Windows are arrays of cells

Each element of each field of each record of a window is a cell of its own. Setting a cell changes no
other (`KeepsCells`), and what a cell holds stays until the cell is written, whatever else is called
while its record is live (`Call.get_afterAll`).
-/

namespace TorusEngine.Paging

/-! ## Calls that leave a cell alone -/

namespace Window.Cell

variable {window left : Window} {arena after : Arena}

theorem get_congr (cell : window.Cell) (wellFormed : arena.WellFormed)
    (stillWellFormed : after.WellFormed) (pageSize : after.pageSize = arena.pageSize)
    (pages : after.tables.get? window.buffer = arena.tables.get? window.buffer)
    (bytes : ∀ target, cell.start ≤ target → target < cell.stop →
      after.byteAt? window.buffer target = arena.byteAt? window.buffer target) :
    cell.get after = cell.get arena := by
  apply Variable.getElement_congr
  intro address located
  obtain ⟨-, rfl, -⟩ := Variable.address_eq_ok located
  rw [fieldVariable?_buffer cell.found]
  exact Arena.read_congr wellFormed stillWellFormed pageSize pages bytes

theorem get_of_bytes (cell : window.Cell) (wellFormed : arena.WellFormed)
    (stillWellFormed : after.WellFormed) {word : cell.type.Word} (got : cell.get arena = .ok word)
    (kept : ∀ target byte, cell.start ≤ target → target < cell.stop →
      arena.byteAt? window.buffer target = some byte →
        after.byteAt? window.buffer target = some byte) :
    cell.get after = .ok word := by
  unfold get at got ⊢
  cases located : cell.field.address cell.type cell.index cell.element with
  | error fault => simp [Variable.getElement, located, bind, Except.bind] at got
  | ok address =>
      obtain ⟨-, rfl, -⟩ := Variable.address_eq_ok located
      rw [Variable.getElement_of_located located, fieldVariable?_buffer cell.found] at got ⊢
      cases answered : arena.read window.buffer (cell.field.start cell.index cell.element)
          cell.type.size with
      | error fault =>
          rw [answered] at got
          cases got
      | ok bytes =>
          rw [answered] at got
          rw [Arena.read_of_bytes wellFormed stillWellFormed answered cell.type.size_pos.ne' kept]
          exact got

theorem get_after_calls (cell : window.Cell) (wellFormed : arena.WellFormed)
    (used : window.buffer < arena.nextBuffer) {calls : List Arena.Call}
    (spared : ∀ call ∈ calls, call.Spares window.buffer)
    (unwritten : ∀ call ∈ calls, ∀ target, cell.start ≤ target → target < cell.stop →
      call.written window.buffer target = none) :
    cell.get (Arena.Call.afterAll calls arena) = cell.get arena :=
  cell.get_congr wellFormed (Arena.afterAll_wellFormed wellFormed calls)
    (Arena.Call.afterAll_continues wellFormed calls).pageSize
    (Arena.Call.tables_afterAll wellFormed used spared) fun target reached early =>
      Arena.Call.byteAt?_afterAll wellFormed used spared fun call member =>
        unwritten call member target reached early

theorem get_after_sets (cell : window.Cell) (wellFormed : arena.WellFormed)
    (used : window.buffer < arena.nextBuffer) {declared : List (String × FieldKind)}
    (built : Schema.build declared = .ok window.schema) {name : String} {field : Variable}
    (found : window.fieldVariable? name = some field) {index : Nat} {elements : Nat → Prop}
    {calls : List Arena.Call} (sets : field.SetsOnly index elements calls)
    (other : ∀ element, elements element → cell.position ≠ (name, index, element)) :
    cell.get (Arena.Call.afterAll calls arena) = cell.get arena := by
  refine cell.get_after_calls wellFormed used (sets.spared _) fun call member target reached early => ?_
  by_contra written
  obtain ⟨-, element, length, chosen, counted, within, starts, stops⟩ :=
    sets.written call member _ target written
  have apart := cell.apart built ⟨name, index, element, field, found, length, counted, within⟩
    (other element chosen)
  simp only [start, stop, type] at *
  omega

theorem get_after_sets_elsewhere (cell : window.Cell) (wellFormed : arena.WellFormed)
    (used : window.buffer < arena.nextBuffer) {field : Variable}
    (elsewhere : window.buffer ≠ field.buffer) {index : Nat} {elements : Nat → Prop}
    {calls : List Arena.Call} (sets : field.SetsOnly index elements calls) :
    cell.get (Arena.Call.afterAll calls arena) = cell.get arena := by
  refine cell.get_after_calls wellFormed used (sets.spared _) fun call member target _ _ => ?_
  by_contra written
  exact elsewhere (sets.written call member _ target written).1

def later (cell : window.Cell) (schema : left.schema = window.schema)
    (buffer : left.buffer = window.buffer) : left.Cell where
  name := cell.name
  index := cell.index
  element := cell.element
  field := cell.field
  found := by
    have found := cell.found
    unfold fieldVariable? objectSize at found ⊢
    rw [schema, buffer]
    exact found
  within := cell.within

end Window.Cell

namespace Memory

/-- Every cell of every window reads as before, but for some of one window. -/
def KeepsCells (memory : Memory) (id : WindowId) (changed : String × Nat × Nat → Prop)
    (after : Arena) : Prop :=
  ∀ other second, memory.windows.get? other = some second → ∀ cell : second.Cell,
    ¬(other = id ∧ changed cell.position) → cell.get after = cell.get memory.arena

variable {memory : Memory} {id other : WindowId} {window second : Window}
  {declared : List (String × FieldKind)}

theorem get_after_setsOnly (wellFormed : memory.WellFormed)
    (present : memory.windows.get? other = some second) {name : String} {field : Variable}
    (named : second.fieldVariable? name = some field) {index : Nat} {elements : Nat → Prop}
    {calls : List Arena.Call} (sets : field.SetsOnly index elements calls)
    (found : memory.windows.get? id = some window)
    (built : other = id → Schema.build declared = .ok window.schema) (cell : window.Cell)
    (unset : ∀ element, elements element → ¬(other = id ∧ cell.position = (name, index, element))) :
    cell.get (Arena.Call.afterAll calls memory.arena) = cell.get memory.arena := by
  have used := wellFormed.used id window found
  by_cases same : other = id
  · subst same
    cases found.symm.trans present
    exact cell.get_after_sets wellFormed.arena used (built rfl) named sets fun element chosen there =>
      unset element chosen ⟨rfl, there⟩
  · refine cell.get_after_sets_elsewhere wellFormed.arena used ?_ sets
    rw [Window.fieldVariable?_buffer named]
    exact fun equal => same (wellFormed.apart id window other second found present equal).symm

theorem keepsCells_of_setsOnly (wellFormed : memory.WellFormed)
    (found : memory.windows.get? id = some window)
    (built : Schema.build declared = .ok window.schema) {name : String} {field : Variable}
    (named : window.fieldVariable? name = some field) {index : Nat} {elements : Nat → Prop}
    {calls : List Arena.Call} (sets : field.SetsOnly index elements calls) :
    memory.KeepsCells id (fun position => ∃ element, elements element ∧
      position = (name, index, element)) (Arena.Call.afterAll calls memory.arena) := by
  intro other second present cell unchanged
  have sameSchema : id = other → Schema.build declared = .ok second.schema := by
    rintro rfl
    cases found.symm.trans present
    exact built
  exact get_after_setsOnly wellFormed found named sets present sameSchema cell
    fun element chosen there => unchanged ⟨there.1.symm, element, chosen, there.2⟩

/-! ## Runs that leave a cell alone -/

def Call.Writes (id : WindowId) {window : Window} (cell : window.Cell) (call : Call) : Prop :=
  call.Sets id cell.position ∨ ∃ put target, call = arena put ∧ cell.start ≤ target ∧
    target < cell.stop ∧ put.written cell.field.buffer target ≠ none

def Live (memory : Memory) (id : WindowId) (index : Nat) : Prop :=
  ∃ window, memory.windows.get? id = some window ∧ index ∈ window.pool.outstanding

def StaysLive (id : WindowId) (index : Nat) : List Call → Memory → Prop
  | [], memory => memory.Live id index
  | call :: rest, memory => memory.Live id index ∧ StaysLive id index rest (call.after memory)

theorem StaysLive.live {id : WindowId} {index : Nat} {calls : List Call} {memory : Memory}
    (stays : StaysLive id index calls memory) : memory.Live id index := by
  cases calls with
  | nil => exact stays
  | cons call rest => exact stays.1

theorem Call.get_after_direct (wellFormed : memory.WellFormed)
    (found : memory.windows.get? id = some window)
    (built : Schema.build declared = .ok window.schema) (cell : window.Cell) {call : Call}
    (spared : call.Spares window.buffer) (unwritten : ¬call.Writes id cell)
    {calls : List Arena.Call} (consists : call.direct memory = some calls) :
    cell.get (Arena.Call.afterAll calls memory.arena) = cell.get memory.arena := by
  have used := wellFormed.used id window found
  obtain ⟨put, rfl, rfl⟩ | rfl | ⟨other, second, name, field, index, elements, present, named, sets,
    positions⟩ := direct_cases consists
  · refine cell.get_after_calls wellFormed.arena used (direct_spares consists spared) ?_
    intro call member target reached early
    rw [List.mem_singleton.mp member, ← Window.fieldVariable?_buffer cell.found]
    by_contra written
    exact unwritten (.inr ⟨put, target, rfl, reached, early, written⟩)
  · rfl
  · refine get_after_setsOnly wellFormed present named sets found (fun _ => built) cell ?_
    rintro element chosen ⟨rfl, position⟩
    exact unwritten (.inl (position ▸ positions element chosen))

theorem Call.get_after_hosted (wellFormed : memory.WellFormed)
    (found : memory.windows.get? id = some window)
    (built : Schema.build declared = .ok window.schema) (cell : window.Cell) {host : Window}
    (present : memory.windows.get? other = some host) (inner : Hosted.Call)
    (live : (memory.putHosted other (inner.after ⟨host, memory.arena⟩)).Live id cell.index)
    {word : cell.type.Word} (got : cell.get memory.arena = .ok word) :
    cell.get (inner.after ⟨host, memory.arena⟩).arena = .ok word := by
  have resizes := inner.after_resizes ⟨host, memory.arena⟩
  obtain ⟨arena, continues⟩ := resizes.arena wellFormed.arena
  by_cases same : other = id
  · subst same
    cases found.symm.trans present
    obtain ⟨pool, kept⟩ := @Hosted.Call.after_bytes inner ⟨window, memory.arena⟩ wellFormed.arena
      (wellFormed.pools other window found)
    obtain ⟨left, still, outstanding⟩ := live
    rw [get?_putHosted, if_pos rfl, found, Option.map_some, Option.some.injEq] at still
    subst still
    -- A record that is still live lies below the high-water mark, where no byte is lost.
    have below := ((pool.outstanding_iff _).mp outstanding).1
    have record := Nat.mul_le_mul_right window.objectSize (Nat.succ_le_of_lt below)
    have inside := (cell.inside built).2
    exact cell.get_of_bytes wellFormed.arena arena got fun target byte _ early holds =>
      kept target byte holds (Nat.lt_of_lt_of_le early (inside.trans record))
  · have apart : host.buffer ≠ window.buffer := fun equal =>
      same (wellFormed.apart other host id window present found equal)
    have others := resizes.others wellFormed.arena (wellFormed.used id window found) apart
    rw [cell.get_congr wellFormed.arena arena continues.pageSize others.1 fun target _ _ =>
      others.2 target]
    exact got

theorem Call.get_after (wellFormed : memory.WellFormed)
    (found : memory.windows.get? id = some window)
    (built : Schema.build declared = .ok window.schema) (cell : window.Cell) {call : Call}
    (live : (call.after memory).Live id cell.index) (spared : call.Spares window.buffer)
    (unwritten : ¬call.Writes id cell) {word : cell.type.Word}
    (got : cell.get memory.arena = .ok word) : cell.get (call.after memory).arena = .ok word := by
  have leaves := call.after_leaves wellFormed.arena
  generalize call.after memory = after at *
  cases leaves with
  | direct consists =>
      exact (get_after_direct wellFormed found built cell spared unwritten consists).trans got
  | @made name bytes window arena made buffer more backed =>
      subst made
      have used := wellFormed.used id _ found
      have same := cell.get_after_calls wellFormed.arena used
        (show ∀ call ∈ [Arena.Call.createBuffer name bytes], call.Spares _ by simp [Arena.Call.Spares])
        (by simp [Arena.Call.written])
      exact same.trans got
  | dropped other => exact got
  | hosted present inner => exact get_after_hosted wellFormed found built cell present inner live got
  | freed frees =>
      rw [frees.arena]
      exact got

theorem Call.get_afterAll (wellFormed : memory.WellFormed)
    (found : memory.windows.get? id = some window)
    (built : Schema.build declared = .ok window.schema) (cell : window.Cell) {calls : List Call}
    (stays : StaysLive id cell.index calls memory)
    (spared : ∀ call ∈ calls, call.Spares window.buffer)
    (unwritten : ∀ call ∈ calls, ¬call.Writes id cell) {word : cell.type.Word}
    (got : cell.get memory.arena = .ok word) :
    cell.get (Call.afterAll calls memory).arena = .ok word := by
  induction calls generalizing memory window with
  | nil => exact got
  | cons call rest ih =>
      have first := get_after wellFormed found built cell stays.2.live (spared call List.mem_cons_self)
        (unwritten call List.mem_cons_self) got
      obtain ⟨left, still, -⟩ := stays.2.live
      obtain ⟨schema, buffer⟩ := call.after_window wellFormed found still
      exact ih (call.after_wellFormed wellFormed) still (schema ▸ built) (cell.later schema buffer)
        stays.2 (fun later member => buffer ▸ spared later (List.mem_cons_of_mem _ member))
        (fun later member => unwritten later (List.mem_cons_of_mem _ member)) first

/-! ## Cells are independent -/

structure CellsIndependent (memory : Memory) (id : WindowId) (window : Window) : Prop where
  inside : ∀ cell : window.Cell, cell.index * window.objectSize ≤ cell.start ∧
    cell.stop ≤ (cell.index + 1) * window.objectSize
  apart : ∀ first second : window.Cell, first.position ≠ second.position →
    first.stop ≤ second.start ∨ second.stop ≤ first.start
  element : ∀ (cell : window.Cell) word after, cell.set word memory.arena = .ok () after →
    cell.get after = .ok word ∧ memory.KeepsCells id (· = cell.position) after
  /-- A slice is got as it was set, with the elements behind it as before, and each of its elements
  is got alone. -/
  slice : ∀ name field, window.fieldVariable? name = some field → ∀ index words after,
    field.setSlice field.kind.elementType index words memory.arena = .ok () after →
      (∀ old, field.getSlice field.kind.elementType index memory.arena = .ok old →
        field.getSlice field.kind.elementType index after = .ok (words ++ old.drop words.length)) ∧
      (∀ element word, words[element]? = some word →
        field.getElement field.kind.elementType index element after = .ok word) ∧
      memory.KeepsCells id (fun position => ∃ element, element < words.length ∧
        position = (name, index, element)) after
  stays : ∀ (cell : window.Cell) word, cell.get memory.arena = .ok word → ∀ calls : List Call,
    StaysLive id cell.index calls memory →
      (∀ call ∈ calls, call.Spares window.buffer ∧ ¬call.Writes id cell) →
        cell.get (Call.afterAll calls memory).arena = .ok word

theorem get_of_set (wellFormed : memory.arena.WellFormed) (cell : window.Cell) {word : cell.type.Word}
    {after : Arena} (ended : cell.set word memory.arena = .ok () after) : cell.get after = .ok word := by
  obtain ⟨address, buffer, located, live, inside⟩ :=
    Variable.located_of_setElement wellFormed ended
  obtain ⟨set, got⟩ := Variable.getElement_setElement wellFormed live located inside word
  cases set.symm.trans ended
  exact got

theorem cellsIndependent_of_wellFormed (wellFormed : memory.WellFormed)
    (found : memory.windows.get? id = some window)
    (built : Schema.build declared = .ok window.schema) : CellsIndependent memory id window where
  inside := Window.Cell.inside built
  apart := Window.Cell.apart built
  element := by
    intro cell word after ended
    refine ⟨get_of_set wellFormed.arena cell ended, ?_⟩
    have keeps := keepsCells_of_setsOnly wellFormed found built cell.found
      (cell.field.elementPut_setsOnly cell.type cell.index cell.element word)
    have left : Action.after (cell.set word) memory.arena = after := Action.after_of_ok ended
    rw [← Variable.after_setElement, ← Window.Cell.set, left] at keeps
    intro other second present neighbour different
    apply keeps other second present
    rintro ⟨same, _, rfl, position⟩
    exact different ⟨same, position⟩
  slice := by
    intro name field named index words after ended
    refine ⟨fun old => Variable.getSlice_of_setSlice wellFormed.arena ended, fun element word =>
      Variable.getElement_of_setSlice wellFormed.arena ended, ?_⟩
    have keeps := keepsCells_of_setsOnly wellFormed found built named
      (field.slicePut_setsOnly field.kind.elementType index words)
    rwa [← Variable.after_setSlice, Action.after_of_ok ended] at keeps
  stays := by
    intro cell word got calls live leaves
    exact Call.get_afterAll wellFormed found built cell live
      (fun call member => (leaves call member).1) (fun call member => (leaves call member).2) got

/-- After every run of calls, the cells of a window are independent of each other and of all other
windows. Those of live records can be read and written if no one else resizes the buffer. -/
theorem cells_independent {config : MemoryConfig} {memory : Memory} (made : make config = .ok memory)
    (calls : List Call) {id : WindowId} {window : Window}
    (found : (Call.afterAll calls memory).windows.get? id = some window)
    {declared : List (String × FieldKind)} (built : Schema.build declared = .ok window.schema) :
    CellsIndependent (Call.afterAll calls memory) id window ∧
      ((∀ call ∈ calls, call.Spares window.buffer) →
        InReach window (Call.afterAll calls memory).arena) := by
  have wellFormed := afterAll_wellFormed (make_wellFormed made) calls
  refine ⟨cellsIndependent_of_wellFormed wellFormed found built, fun spared => ?_⟩
  have backs := afterAll_backs (make_wellFormed made) (make_backs made window.buffer) spared
  exact inReach_of_backed (backs id window found rfl) built

theorem cells_independent_straddling : ∃ window,
    make { pageSize := 4, maxPages := 3 } = .ok small ∧
    (Call.afterAll meetingExhaustion small).windows.get? 0 = some window ∧
    Schema.build [("a", .short), ("b", .byte)] = .ok window.schema ∧
    CellsIndependent (Call.afterAll meetingExhaustion small) 0 window := by
  have made : make { pageSize := 4, maxPages := 3 } = .ok small := rfl
  have present : ((Call.afterAll meetingExhaustion small).windows.get? 0).map (·.schema) =
      some ⟨[⟨"a", .short, 0⟩, ⟨"b", .byte, 2⟩], 3⟩ := by decide +kernel
  obtain ⟨window, found, schema⟩ := Option.map_eq_some_iff.mp present
  have built : Schema.build [("a", .short), ("b", .byte)] = .ok window.schema := by
    rw [schema]
    rfl
  exact ⟨window, made, found, built, (cells_independent made meetingExhaustion found built).1⟩

end Memory

end TorusEngine.Paging
