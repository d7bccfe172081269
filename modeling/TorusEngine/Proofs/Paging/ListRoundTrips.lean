import TorusEngine.Proofs.Paging.ReadBack
import TorusEngine.Proofs.Paging.Refusals

/-!
# Lists are read as they are written

A list whose record lies on the pages of its table's buffer is read as it was last written, whatever
its record and the pages held before (`lists_round_trip`). The records of live lists lie there if no one
else resizes the buffer; a list whose record has been cut off can be written and not be read
(`cut_list_unreadable`).
-/

namespace TorusEngine.Paging

/-! ## Records that a write leaves alone -/

theorem Variable.getSlice_congr {field : Variable} {index length : Nat} {arena after : Arena}
    (counted : field.kind.length = .ok length)
    (reads : after.read field.buffer (field.start index 0) (length * field.kind.elementType.size) =
      arena.read field.buffer (field.start index 0) (length * field.kind.elementType.size)) :
    field.getSlice field.kind.elementType index after =
      field.getSlice field.kind.elementType index arena := by
  cases located : field.address field.kind.elementType index 0 with
  | error fault => simp [getSlice, counted, located, bind, Except.bind]
  | ok address =>
      obtain ⟨-, rfl, -⟩ := address_eq_ok located
      simp [getSlice, counted, located, reads, bind, Except.bind]

namespace Window

variable {window : Window} {arena middle after : Arena} {index other : Nat}
  {declared : List (String × FieldKind)} {name : String} {field : Variable}

structure KeepsRecord (window : Window) (index : Nat) (arena after : Arena) : Prop where
  pageSize : after.pageSize = arena.pageSize
  pages : after.tables.get? window.buffer = arena.tables.get? window.buffer
  bytes : ∀ target, index * window.objectSize ≤ target → target < (index + 1) * window.objectSize →
    after.byteAt? window.buffer target = arena.byteAt? window.buffer target

instance (window : Window) (index : Nat) :
    Trans (window.KeepsRecord index) (window.KeepsRecord index) (window.KeepsRecord index) :=
  ⟨fun first second =>
    ⟨second.pageSize.trans first.pageSize, second.pages.trans first.pages, fun target reached early =>
      (second.bytes target reached early).trans (first.bytes target reached early)⟩⟩

theorem KeepsRecord.cell (keeps : window.KeepsRecord index arena after)
    (built : Schema.build declared = .ok window.schema) (wellFormed : arena.WellFormed)
    (stillWellFormed : after.WellFormed) (cell : window.Cell) (here : cell.index = index) :
    cell.get after = cell.get arena := by
  subst here
  obtain ⟨first, last⟩ := cell.inside built
  exact cell.get_congr wellFormed stillWellFormed keeps.pageSize keeps.pages fun target reached early =>
    keeps.bytes target (first.trans reached) (Nat.lt_of_lt_of_le early last)

theorem KeepsRecord.slice (keeps : window.KeepsRecord index arena after)
    (built : Schema.build declared = .ok window.schema) (wellFormed : arena.WellFormed)
    (stillWellFormed : after.WellFormed) (found : window.fieldVariable? name = some field)
    {length : Nat} (counted : field.kind.length = .ok length) :
    field.getSlice field.kind.elementType index after =
      field.getSlice field.kind.elementType index arena := by
  have last := Window.slice_inside built found counted index
  have first : index * window.objectSize ≤ field.start index 0 := by
    simp [Variable.start, fieldVariable?_objectSize found]
  refine Variable.getSlice_congr counted ?_
  rw [fieldVariable?_buffer found]
  exact Arena.read_congr wellFormed stillWellFormed keeps.pageSize keeps.pages fun target reached early =>
    keeps.bytes target (first.trans reached) (Nat.lt_of_lt_of_le early last)

theorem keepsRecord_of_setsOnly (wellFormed : arena.WellFormed)
    (used : window.buffer < arena.nextBuffer) (built : Schema.build declared = .ok window.schema)
    (found : window.fieldVariable? name = some field) {elements : Nat → Prop}
    {calls : List Arena.Call} (sets : field.SetsOnly index elements calls) (apart : other ≠ index) :
    window.KeepsRecord other arena (Arena.Call.afterAll calls arena) where
  pageSize := (Arena.Call.afterAll_continues wellFormed calls).pageSize
  pages := Arena.Call.tables_afterAll wellFormed used (sets.spared _)
  bytes := by
    intro target reached early
    refine Arena.Call.byteAt?_afterAll wellFormed used (sets.spared _) fun call member => ?_
    by_contra written
    obtain ⟨-, element, length, -, counted, within, start, stop⟩ :=
      sets.written call member _ target written
    obtain ⟨first, last⟩ :=
      Cell.inside built ⟨name, index, element, field, found, length, counted, within⟩
    simp only [Cell.start, Cell.stop, Cell.type] at first last
    -- The target lies in both records, so neither of them can come before the other.
    rcases Nat.lt_or_gt_of_ne apart with before | behind
    · have := Nat.mul_le_mul_right window.objectSize (Nat.succ_le_of_lt before)
      simp only [Nat.succ_eq_add_one] at this
      omega
    · have := Nat.mul_le_mul_right window.objectSize (Nat.succ_le_of_lt behind)
      simp only [Nat.succ_eq_add_one] at this
      omega

theorem keepsRecord_of_setElement (wellFormed : arena.WellFormed)
    (used : window.buffer < arena.nextBuffer) (built : Schema.build declared = .ok window.schema)
    (found : window.fieldVariable? name = some field) {type : ElementType} {element : Nat}
    {word : type.Word} (ended : field.setElement type index element word arena = .ok () after)
    (apart : other ≠ index) : window.KeepsRecord other arena after := by
  have sets := field.elementPut_setsOnly type index element word
  rw [← Action.after_of_ok ended, Variable.after_setElement]
  exact keepsRecord_of_setsOnly wellFormed used built found sets apart

theorem keepsRecord_of_setSlice (wellFormed : arena.WellFormed)
    (used : window.buffer < arena.nextBuffer) (built : Schema.build declared = .ok window.schema)
    (found : window.fieldVariable? name = some field) {type : ElementType} {words : List type.Word}
    (ended : field.setSlice type index words arena = .ok () after) (apart : other ≠ index) :
    window.KeepsRecord other arena after := by
  have sets := field.slicePut_setsOnly type index words
  rw [← Action.after_of_ok ended, Variable.after_setSlice]
  exact keepsRecord_of_setsOnly wellFormed used built found sets apart

end Window

/-! ## New records -/

/-- A record that is made lies on the pages of the buffer, even if the others do not. -/
theorem Hosted.reaches_of_tryCreate {hosted after : Hosted} (formed : hosted.Formed) {index : Nat}
    (made : tryCreate hosted = .ok index after) : after.window.Reaches after.arena index := by
  have attempted := tryCreate_attempted formed
  rw [made] at attempted
  cases attempted with
  | fitted popped window covered =>
      have wellFormed := popped.wellFormed formed.pool
      have outstanding := (popped.outstanding_iff index).mpr (.inl rfl)
      have below := ((wellFormed.outstanding_iff index).mp outstanding).1
      have few : index + 1 ≤ after.window.pool.capacity :=
        window ▸ Nat.le_trans below wellFormed.highWater_le
      exact (Nat.mul_le_mul_right _ few).trans covered
  | squeezed popped fits compacted =>
      exact (Nat.mul_le_mul_right _ (Nat.succ_le_of_lt fits)).trans (Nat.div_mul_le_self _ _)

/-! ## Lists -/

namespace ObjectListTable

open Memory (Call)

variable {table : ObjectListTable} {memory after : Memory} {window : Window} {index other : Nat}

theorem create_ok_iff :
    table.create memory = .ok index after ↔ table.tryCreate memory = .ok index after := by
  have same {made : Nat} {left : Memory} :
      Memory.onWindow table.window Hosted.create memory = .ok made left ↔
        Memory.onWindow table.window Hosted.tryCreate memory = .ok made left := by
    simp only [Memory.onWindow_ok, Hosted.create_eq_ok]
  simp only [create, tryCreate, Action.bind_ok, same]

theorem Placed.objectSize_eq (placed : Placed table memory window) :
    window.objectSize = 4 + table.capacity * ElementType.int.size := by
  have laid := (Schema.build_laidOut placed.built).1
  rw [fields_of_build placed.built] at laid
  obtain ⟨_, -, laid⟩ := laid.of_cons
  obtain ⟨bytes, sized, laid⟩ := laid.of_cons
  rw [Window.objectSize, laid.of_nil, FieldKind.sizeInBytes_eq rfl sized]
  rfl

theorem length_le {count : Nat} (answered : table.length index memory = .ok count) :
    count ≤ table.capacity := by
  obtain ⟨word, -, answered⟩ := bind_eq_ok.mp answered
  cases answered
  exact Nat.min_le_right _ _

theorem read_eq_ok {ids : List ObjectId} : table.read index memory = .ok ids ↔
    ∃ count words, table.length index memory = .ok count ∧
      table.ids.getSlice .int index memory.arena = .ok words ∧ words.take count = ids := by
  simp only [ObjectListTable.read, bind_eq_ok, pure, Except.pure, Except.ok.injEq, exists_and_left]

theorem Placed.reaches_of_read (placed : Placed table memory window) (wellFormed : memory.WellFormed)
    {ids : List ObjectId} (answered : table.read index memory = .ok ids) :
    window.Reaches memory.arena index := by
  obtain ⟨count, words, counted, sliced, -⟩ := read_eq_ok.mp answered
  have record : (index + 1) * window.objectSize =
      index * window.objectSize + 4 + table.capacity * ElementType.int.size := by
    rw [Nat.succ_mul, placed.objectSize_eq, Nat.add_assoc]
  rw [Window.Reaches, record]
  by_cases none : table.capacity = 0
  · obtain ⟨word, got, -⟩ := bind_eq_ok.mp counted
    obtain ⟨address, located, inside⟩ := Variable.inside_of_getElement wellFormed.arena got
    obtain ⟨-, rfl, -⟩ := Variable.address_eq_ok located
    simpa [placed.count, Variable.start, none, ElementType.size] using inside
  · have counted : table.ids.kind.length = .ok table.capacity := by
      rw [placed.ids]
      rfl
    obtain ⟨address, located, inside⟩ :=
      Variable.inside_of_getSlice wellFormed.arena counted none sliced
    obtain ⟨-, rfl, -⟩ := Variable.address_eq_ok located
    simpa [placed.ids, Variable.start, Nat.add_comm 4] using inside

/-- Whatever bytes a record in reach holds, they are read as a list that the table can have. -/
theorem Placed.read_of_reaches (placed : Placed table memory window) (wellFormed : memory.WellFormed)
    (reached : window.Reaches memory.arena index) :
    ∃ ids : List ObjectId, table.length index memory = .ok ids.length ∧
      table.read index memory = .ok ids := by
  obtain ⟨⟨word, got⟩, -⟩ :=
    (placed.countCell index).get_and_set wellFormed.arena placed.built reached
  rw [← placed.getElement_count] at got
  have counted : table.length index memory = .ok (min word.toInt.toNat table.capacity) := by
    simp only [ObjectListTable.length, got, bind, Except.bind, pure, Except.pure]
    rfl
  have sliced := placed.getSlice_ids wellFormed reached
  generalize stored : ElementType.int.words _ _ = words at sliced
  have long : words.length = table.capacity := by rw [← stored, ElementType.length_words]
  have taken : (words.take (min word.toInt.toNat table.capacity)).length =
      min word.toInt.toNat table.capacity := by
    rw [List.length_take, long, Nat.min_eq_left (Nat.min_le_right _ _)]
  refine ⟨words.take (min word.toInt.toNat table.capacity), taken.symm ▸ counted, ?_⟩
  exact read_eq_ok.mpr ⟨_, _, counted, sliced, rfl⟩

section Kept

variable (placed : Placed table memory window) (wellFormed : memory.WellFormed)
  (stillWellFormed : after.arena.WellFormed)
  (keeps : window.KeepsRecord index memory.arena after.arena)

include placed wellFormed stillWellFormed keeps

theorem Placed.length_of_keepsRecord : table.length index after = table.length index memory := by
  have count := keeps.cell placed.built wellFormed.arena stillWellFormed (placed.countCell index) rfl
  rw [← placed.getElement_count, ← placed.getElement_count] at count
  simp only [ObjectListTable.length, count]

theorem Placed.read_of_keepsRecord : table.read index after = table.read index memory := by
  have ids := keeps.slice placed.built wellFormed.arena stillWellFormed
    (placed.ids ▸ placed.named_ids) rfl
  simp only [ObjectListTable.read, placed.length_of_keepsRecord wellFormed stillWellFormed keeps]
  rw [placed.ids]
  exact bind_congr fun _ => congrArg (· >>= _) ids

end Kept

theorem Placed.keepsRecord_of_write (placed : Placed table memory window)
    (wellFormed : memory.WellFormed) {ids : List ObjectId} {count : Nat}
    (written : table.write index ids memory = .ok count after) (apart : other ≠ index) :
    window.KeepsRecord other memory.arena after.arena := by
  obtain ⟨arena, last, sliced, countSet, rfl, -⟩ := write_eq_ok.mp written
  have used := wellFormed.used _ _ placed.found
  have tables := Variable.setSlice_sameTables wellFormed.arena sliced
  have first : window.KeepsRecord other memory.arena arena :=
    Window.keepsRecord_of_setSlice wellFormed.arena used placed.built placed.named_ids sliced apart
  have second : window.KeepsRecord other arena last :=
    Window.keepsRecord_of_setElement (tables.wellFormed wellFormed.arena) (tables.nextBuffer ▸ used)
      placed.built placed.named_count countSet apart
  exact Trans.trans first second

structure RoundTrips (table : ObjectListTable) (memory : Memory) (window : Window) : Prop where
  created : ∀ index after,
    table.create memory = .ok index after ∨ table.tryCreate memory = .ok index after →
      table.length index after = .ok 0 ∧ table.read index after = .ok [] ∧
        ∃ left, after.windows.get? table.window = some left ∧
          index ∈ left.pool.outstanding ∧ left.Reaches after.arena index
  written : ∀ index (ids : List ObjectId) count after, table.write index ids memory = .ok count after →
    count = min ids.length table.capacity ∧ table.length index after = .ok count ∧
      (∀ stored, table.read index after = .ok stored → stored = ids.take table.capacity) ∧
      ∀ other, other ≠ index → table.length other after = table.length other memory ∧
        table.read other after = table.read other memory
  bounded : ∀ index, (∀ count, table.length index memory = .ok count → count ≤ table.capacity) ∧
    ∀ ids, table.read index memory = .ok ids → ids.length ≤ table.capacity
  answers : ∀ index, window.Reaches memory.arena index →
    (∃ ids : List ObjectId, table.length index memory = .ok ids.length ∧
      table.read index memory = .ok ids) ∧
    ∀ ids : List ObjectId, ∃ count after, table.write index ids memory = .ok count after ∧
      table.read index after = .ok (ids.take table.capacity)

theorem Placed.created (placed : Placed table memory window) (wellFormed : memory.WellFormed)
    (forms : memory.Forms) (small : table.capacity < 0x80000000)
    (made : table.tryCreate memory = .ok index after) :
    table.length index after = .ok 0 ∧ table.read index after = .ok [] ∧
      ∃ left, after.windows.get? table.window = some left ∧
        index ∈ left.pool.outstanding ∧ left.Reaches after.arena index := by
  have formed := forms _ _ placed.found
  have stores := tryCreate_stores wellFormed placed made
  obtain ⟨hosted, created, arena, placedThen, counted⟩ := tryCreate_counted wellFormed placed made
  have wellFormedThen := Call.after_wellFormed wellFormed (.window table.window .tryCreate)
  have second := Call.after_setElement placedThen.fieldOf_count counted
  have wellFormedLast : after.WellFormed := second ▸ Call.after_wellFormed wellFormedThen _
  obtain ⟨last, set, rfl⟩ := Action.within_ok.mp counted
  have same := Variable.setElement_sameTables wellFormedThen.arena set
  have reached : hosted.window.Reaches last index :=
    Window.Reaches.of_sameTables (arena ▸ Hosted.reaches_of_tryCreate formed created) same
  exact ⟨stores.length small, stores.read (placedThen.withArena last) wellFormedLast reached small,
    hosted.window, placedThen.found,
    ((Hosted.tryCreate_enters formed created).2 index).mpr (.inl rfl), reached⟩

section Written

variable {ids : List ObjectId} {count : Nat} (placed : Placed table memory window)
  (wellFormed : memory.WellFormed) (small : table.capacity < 0x80000000)
  (ended : table.write index ids memory = .ok count after)

include placed wellFormed small ended

theorem Placed.read_of_write (reached : window.Reaches after.arena index) :
    table.read index after = .ok (ids.take table.capacity) := by
  obtain ⟨-, calls, windows, stores⟩ := write_ok placed wellFormed ended
  have wellFormedThen : after.WellFormed := calls ▸ Memory.afterAll_wellFormed wellFormed _
  have placedThen : Placed table after window :=
    ⟨windows ▸ placed.found, placed.built, placed.count, placed.ids⟩
  exact stores.read placedThen wellFormedThen reached small

theorem Placed.written : count = min ids.length table.capacity ∧
    table.length index after = .ok count ∧
    (∀ stored, table.read index after = .ok stored → stored = ids.take table.capacity) ∧
    ∀ other, other ≠ index → table.length other after = table.length other memory ∧
      table.read other after = table.read other memory := by
  obtain ⟨rfl, calls, windows, stores⟩ := write_ok placed wellFormed ended
  have wellFormedThen : after.WellFormed := calls ▸ Memory.afterAll_wellFormed wellFormed _
  have placedThen : Placed table after window :=
    ⟨windows ▸ placed.found, placed.built, placed.count, placed.ids⟩
  refine ⟨by rw [List.length_take, Nat.min_comm], stores.length small, fun stored answered => ?_,
    fun other apart => ?_⟩
  · have reached := placedThen.reaches_of_read wellFormedThen answered
    exact Except.ok.inj (answered.symm.trans (placed.read_of_write wellFormed small ended reached))
  · have keeps := placed.keepsRecord_of_write wellFormed ended apart
    exact ⟨placed.length_of_keepsRecord wellFormed wellFormedThen.arena keeps,
      placed.read_of_keepsRecord wellFormed wellFormedThen.arena keeps⟩

end Written

theorem roundTrips_of_placed (placed : Placed table memory window) (wellFormed : memory.WellFormed)
    (forms : memory.Forms) (small : table.capacity < 0x80000000) : RoundTrips table memory window where
  created := fun _ _ made => placed.created wellFormed forms small (made.elim create_ok_iff.mp id)
  written := fun _ _ _ _ => placed.written wellFormed small
  bounded := by
    refine fun index => ⟨fun count => length_le, fun ids answered => ?_⟩
    obtain ⟨count, words, counted, -, rfl⟩ := read_eq_ok.mp answered
    exact (List.length_take_le _ _).trans (length_le counted)
  answers := by
    refine fun index reached => ⟨placed.read_of_reaches wellFormed reached, fun ids => ?_⟩
    obtain ⟨count, after, ended⟩ := write_of_reaches placed wellFormed reached ids
    have reachedThen := reached.of_sameTables (write_sameTables wellFormed.arena ended)
    exact ⟨count, after, ended, placed.read_of_write wellFormed small ended reachedThen⟩

/-- After every run of calls, the lists of a table start empty and are read as they were written last,
if their records lie on the pages of the table's buffer. Those of live lists do if no one else resizes
the buffer. -/
theorem lists_round_trip {config : MemoryConfig} {memory : Memory}
    (started : Memory.make config = .ok memory) (before : List Call) {capacity : Nat}
    (small : capacity < 0x80000000) {tableConfig : MemoryConfig} {first : Memory}
    (made : make capacity tableConfig (Call.afterAll before memory) = .ok table first)
    (calls : List Call)
    (found : (Call.afterAll calls first).windows.get? table.window = some window) :
    table.capacity = capacity ∧ RoundTrips table (Call.afterAll calls first) window ∧
      ((∀ call ∈ calls, call.Spares window.buffer) → ∀ index ∈ window.pool.outstanding,
        window.Reaches (Call.afterAll calls first).arena index) := by
  have wellFormed := Memory.afterAll_wellFormed (Memory.make_wellFormed started) before
  have forms := Memory.afterAll_forms (Memory.make_wellFormed started) (Memory.make_forms started) before
  obtain ⟨fresh, rfl, placed, rfl, unused⟩ := make_placed wellFormed made
  have wellFormedFirst := Call.after_wellFormed wellFormed
    (.makeWindow "object-lists" fresh.schema tableConfig)
  have formsFirst := Call.after_forms wellFormed forms
    (.makeWindow "object-lists" fresh.schema tableConfig)
  have wellFormedThen := Memory.afterAll_wellFormed wellFormedFirst calls
  have placedThen := placed.afterAll wellFormedFirst found
  refine ⟨rfl, roundTrips_of_placed placedThen wellFormedThen
    (Memory.afterAll_forms wellFormedFirst formsFirst calls) small, fun spared index live => ?_⟩
  have buffer : window.buffer = fresh.buffer := placedThen.buffer.symm.trans placed.buffer
  have backs := Memory.afterAll_backs wellFormedFirst (Call.after_backs wellFormed
    (buffer.trans unused ▸ wellFormed.backs_unused) trivial) spared
  exact Memory.record_inside (backs _ _ found rfl) live

def narrow : Memory :=
  { arena := { pageSize := 8, maxPages := 8, pool := .withCapacity 1 (Arena.pageGrowth 8) } }

def tableOn (window : WindowId) (buffer : BufferId) : ObjectListTable :=
  ⟨window, ⟨buffer, 16, 0, .int⟩, ⟨buffer, 16, 4, .intArray 3⟩, 3⟩

/-- Buffers that leave two pages in the order in which they are gone, one of them full of ones. -/
def leftovers : List Call :=
  [.arena (.createBuffer "a" 8), .arena (.createBuffer "b" 8),
    .arena (.put 1 0 (List.replicate 8 0xff)), .arena (.dropBuffer 1), .arena (.dropBuffer 0)]

theorem lists_round_trip_on_leftovers : ∃ first window,
    Memory.make { pageSize := 8, maxPages := 8 } = .ok narrow ∧
    make 3 {} (Call.afterAll leftovers narrow) = .ok (tableOn 0 2) first ∧
    (Call.afterAll [.window 0 .tryCreate] first).windows.get? 0 = some window ∧
    (∀ call ∈ [Call.window 0 .tryCreate], call.Spares window.buffer) ∧ 0 ∈ window.pool.outstanding ∧
    RoundTrips (tableOn 0 2) (Call.afterAll [.window 0 .tryCreate] first) window ∧
    window.Reaches (Call.afterAll [.window 0 .tryCreate] first).arena 0 := by
  have started : Memory.make { pageSize := 8, maxPages := 8 } = .ok narrow := rfl
  have made := Action.ok_of_answer
    (show Action.answer (make 3 {}) (Call.afterAll leftovers narrow) = .ok (tableOn 0 2) by
      decide +kernel)
  generalize left : Action.after (make 3 {}) (Call.afterAll leftovers narrow) = first at made
  have present : ((Call.afterAll [.window 0 .tryCreate] first).windows.get? 0).map
      (fun window => decide (0 ∈ window.pool.outstanding)) = some true := by
    rw [← left]
    decide +kernel
  obtain ⟨window, found, live⟩ := Option.map_eq_some_iff.mp present
  have spared : ∀ call ∈ [Call.window 0 .tryCreate], call.Spares window.buffer := by
    simp [Call.Spares]
  obtain ⟨-, roundTrips, reaches⟩ :=
    lists_round_trip started leftovers (by decide) made [.window 0 .tryCreate] found
  have live := of_decide_eq_true live
  exact ⟨first, window, started, made, found, spared, live, roundTrips, reaches spared 0 live⟩

/-- A list that has lost the second of its two pages takes a number and cannot be read any more. -/
theorem cut_list_unreadable : ∃ first made after,
    Memory.make { pageSize := 8, maxPages := 8 } = .ok narrow ∧
    make 3 {} narrow = .ok (tableOn 0 0) first ∧
    (tableOn 0 0).create first = .ok 0 made ∧
    ((Call.arena (.resize 0 8)).after made).Live 0 0 ∧
    (tableOn 0 0).write 0 [7] ((Call.arena (.resize 0 8)).after made) = .ok 1 after ∧
    (tableOn 0 0).read 0 after = .error (.outOfBounds 1 1) := by
  have first : Action.answer (make 3 {}) narrow = .ok (tableOn 0 0) := by decide +kernel
  have made : Action.answer (tableOn 0 0).create (Action.after (make 3 {}) narrow) = .ok 0 := by
    decide +kernel
  have present : (((Call.arena (.resize 0 8)).after (Action.after (tableOn 0 0).create
      (Action.after (make 3 {}) narrow))).windows.get? 0).map
        (fun window => decide (0 ∈ window.pool.outstanding)) = some true := by decide +kernel
  obtain ⟨window, found, live⟩ := Option.map_eq_some_iff.mp present
  have written : Action.answer ((tableOn 0 0).write 0 [7]) ((Call.arena (.resize 0 8)).after
      (Action.after (tableOn 0 0).create (Action.after (make 3 {}) narrow))) = .ok 1 := by
    decide +kernel
  refine ⟨_, _, _, rfl, Action.ok_of_answer first, Action.ok_of_answer made,
    ⟨window, found, of_decide_eq_true live⟩, Action.ok_of_answer written, ?_⟩
  decide +kernel

end ObjectListTable

end TorusEngine.Paging
