import TorusEngine.Paging.ObjectListTable
import TorusEngine.Proofs.Paging.Cells

/-!
# Stored object lists

A list that is written to an object list table is stored in one record, its length first and then its
object numbers, as little-endian words one right behind the other (`Stores.bytesFrom`). The bytes follow
each other at logical addresses. In the arena they follow each other when the pages that the record lies
on do (`Arena.PagesFollow.inOnePiece`).
-/

namespace TorusEngine.Paging

/-! ## From words to bytes -/

theorem ElementType.bytes_ofBytes (type : ElementType) {bytes : List UInt8}
    (length : bytes.length = type.size) : type.bytes (type.ofBytes bytes) = bytes := by
  have again := LittleEndian.decode_encode bytes.length (LittleEndian.decode bytes)
  rw [LittleEndian.encode_decode] at again
  have width : Nat.pow 256 bytes.length = 2 ^ (8 * type.size) := by
    rw [length, show (256 : Nat) = Nat.pow 2 8 by decide, Nat.pow_eq, Nat.pow_eq, ← Nat.pow_mul]
  have kept : (type.ofBytes bytes).toNat = LittleEndian.decode bytes := by
    rw [ofBytes, BitVec.toNat_ofNat, ← width]
    exact again.symm
  rw [ElementType.bytes, kept, ← length, LittleEndian.encode_decode]

namespace Arena

variable {arena : Arena} {id : BufferId} {address place length : Nat}

theorem bytesFrom_flatMap {type : ElementType} {words : List type.Word}
    (each : ∀ element word, words[element]? = some word →
      arena.bytesFrom id (address + element * type.size) type.size = type.bytes word) :
    arena.bytesFrom id address (words.length * type.size) = words.flatMap type.bytes := by
  induction words generalizing address with
  | nil => simp [bytesFrom]
  | cons word rest ih =>
      have first := each 0 word rfl
      rw [Nat.zero_mul, Nat.add_zero] at first
      have others := @ih (address + type.size) fun element word found => by
        rw [Nat.add_assoc, Nat.add_comm type.size, ← Nat.succ_mul]
        exact each (element + 1) word found
      rw [List.length_cons, Nat.succ_mul, Nat.add_comm, bytesFrom_add, first, others,
        List.flatMap_cons]

/-- The addresses from one on lie in the arena as they do in the buffer. -/
def InOnePiece (arena : Arena) (id : BufferId) (address length : Nat) : Prop :=
  ∀ distance < length,
    arena.place? id (address + distance) = (arena.place? id address).map (· + distance)

theorem InOnePiece.bytesFrom (whole : arena.InOnePiece id address length)
    (placed : arena.place? id address = some place) :
    arena.bytesFrom id address length = arena.store.read place length := by
  rw [Arena.bytesFrom, ByteStore.read, ← List.filterMap_eq_map, List.range'_eq_map_range,
    List.range'_eq_map_range, List.filterMap_map, List.filterMap_map]
  refine List.filterMap_congr fun distance member => ?_
  simp [byteAt?, whole distance (List.mem_range.mp member), placed]

/-- Each page that the range goes on to is the next one of the arena. -/
def PagesFollow (arena : Arena) (id : BufferId) (address length : Nat) : Prop :=
  ∀ page, address / arena.pageSize ≤ page → (page + 1) * arena.pageSize < address + length →
    arena.physicalPage? id (page + 1) = (arena.physicalPage? id page).map (· + 1)

theorem PagesFollow.inOnePiece (follow : arena.PagesFollow id address length)
    (positive : 0 < arena.pageSize) : arena.InOnePiece id address length := by
  intro distance near
  have split := Nat.div_add_mod address arena.pageSize
  obtain ⟨later, page⟩ : ∃ later, (address + distance) / arena.pageSize =
      address / arena.pageSize + later :=
    Nat.exists_eq_add_of_le (Nat.div_le_div_right (Nat.le_add_right _ _))
  have reached := Nat.div_add_mod (address + distance) arena.pageSize
  have inside := Nat.mod_lt (address + distance) positive
  have moved : ∀ steps ≤ later, arena.physicalPage? id (address / arena.pageSize + steps) =
      (arena.physicalPage? id (address / arena.pageSize)).map (· + steps) := by
    intro steps
    induction steps with
    | zero => simp
    | succ steps ih =>
        intro few
        have before : (address / arena.pageSize + steps + 1) * arena.pageSize ≤
            (address + distance) / arena.pageSize * arena.pageSize :=
          Nat.mul_le_mul_right _ (by omega)
        rw [Nat.mul_comm] at reached
        rw [← Nat.add_assoc, follow _ (Nat.le_add_right _ _) (by omega), ih (by omega),
          Option.map_map]
        rfl
  rw [place?, place?, page, moved later (Nat.le_refl _), Option.map_map, Option.map_map]
  congr 1
  funext physical
  rw [page, Nat.mul_add] at reached
  simp only [Function.comp_apply, Nat.add_mul, Nat.mul_comm later]
  omega

end Arena

namespace Window

variable {window : Window} {arena : Arena}

theorem Cell.bytesFrom_of_get (cell : window.Cell) (wellFormed : arena.WellFormed)
    {word : cell.type.Word} (got : cell.get arena = .ok word) :
    arena.bytesFrom window.buffer cell.start cell.type.size = cell.type.bytes word := by
  unfold Cell.get at got
  cases located : cell.field.address cell.type cell.index cell.element with
  | error fault => simp [Variable.getElement, located, bind, Except.bind] at got
  | ok address =>
      obtain ⟨-, rfl, -⟩ := Variable.address_eq_ok located
      rw [Variable.getElement_of_located located, fieldVariable?_buffer cell.found] at got
      cases answered : arena.read window.buffer (cell.field.start cell.index cell.element)
          cell.type.size with
      | error fault =>
          rw [answered] at got
          cases got
      | ok bytes =>
          obtain ⟨buffer, live, inside⟩ :=
            Arena.inside_of_read wellFormed answered cell.type.size_pos.ne'
          have read := Arena.read_inside wellFormed live inside
          cases answered.symm.trans read
          rw [read] at got
          cases got
          exact (cell.type.bytes_ofBytes (Arena.length_bytesFrom wellFormed.pageSize_pos inside)).symm

theorem make_schema {name : String} {schema : Schema} {config : MemoryConfig} {after : Arena}
    (made : Window.make name schema config arena = .ok window after) : window.schema = schema := by
  rw [Hosted.make_eq] at made
  split at made
  · cases made
  · cases made
  · rename_i bytes _ _
    cases ended : Arena.createBuffer name bytes arena with
    | error fault left => simp [ended] at made
    | ok buffer left =>
        rw [ended] at made
        cases made
        rfl

end Window

/-! ## Tables -/

namespace Memory

variable {memory after : Memory} {id : WindowId} {name : String} {field : Variable}
  {type : ElementType} {index : Nat}

theorem get?_of_makeWindow (wellFormed : memory.WellFormed) {schema : Schema} {config : MemoryConfig}
    (made : makeWindow name schema config memory = .ok id after) :
    ∃ window, after.windows.get? id = some window ∧ window.schema = schema ∧
      window.buffer = memory.arena.nextBuffer := by
  obtain ⟨window, middle, created, inserted⟩ := Action.bind_ok.mp made
  obtain ⟨arena, windowMade, -⟩ := Action.within_ok.mp created
  cases inserted
  exact ⟨window, by rw [Dictionary.get?_insert, if_pos rfl], Window.make_schema windowMade,
    (Hosted.make_backed wellFormed.arena windowMade).2.1⟩

theorem WellFormed.backs_unused (wellFormed : memory.WellFormed) :
    memory.Backs memory.arena.nextBuffer := by
  intro id window found same
  exact absurd same (Nat.ne_of_lt (wellFormed.used id window found))

theorem Call.after_setSlice (named : memory.fieldOf? id name = some field) {words : List type.Word}
    (set : onArena (field.setSlice type index words) memory = .ok () after) :
    (Call.setSlice id name type index words).after memory = after := by
  rw [Call.after, Call.perform, after_onVariable, named, ← Action.after_of_ok set, after_onArena]

theorem Call.after_setElement (named : memory.fieldOf? id name = some field) {element : Nat}
    {word : type.Word}
    (set : onArena (field.setElement type index element word) memory = .ok () after) :
    (Call.setElement id name type index element word).after memory = after := by
  rw [Call.after, Call.perform, after_onVariable, named, ← Action.after_of_ok set, after_onArena]

end Memory

namespace ObjectListTable

open Memory (Call)

structure Placed (table : ObjectListTable) (memory : Memory) (window : Window) : Prop where
  found : memory.windows.get? table.window = some window
  built : Schema.build [("count", .int), ("ids", .intArray table.capacity)] = .ok window.schema
  count : table.count = ⟨window.buffer, window.objectSize, 0, .int⟩
  ids : table.ids = ⟨window.buffer, window.objectSize, 4, .intArray table.capacity⟩

theorem fields_of_build {capacity : Nat} {schema : Schema}
    (built : Schema.build [("count", .int), ("ids", .intArray capacity)] = .ok schema) :
    schema.fields = [⟨"count", .int, 0⟩, ⟨"ids", .intArray capacity, 4⟩] := by
  obtain ⟨⟨fields, stop⟩, laid, built⟩ := bind_eq_ok.mp built
  have same : schema.fields = fields := by
    by_cases empty : stop = 0
    · simp [empty, bind, Except.bind] at built
    · simp [empty, pure, Except.pure] at built
      rw [← built]
  simp only [Schema.layOut, bind_eq_ok] at laid
  obtain ⟨four, width, next, sum, ⟨later, last⟩, ⟨_, _, _, _, _, ended, laid⟩, rest⟩ := laid
  cases width
  cases sum
  cases ended
  cases laid
  cases rest
  exact same

namespace Placed

variable {table : ObjectListTable} {memory : Memory} {window : Window}

theorem named_count (placed : Placed table memory window) :
    window.fieldVariable? "count" = some table.count := by
  simp [Window.fieldVariable?, Schema.field?, fields_of_build placed.built, placed.count]

theorem named_ids (placed : Placed table memory window) :
    window.fieldVariable? "ids" = some table.ids := by
  simp [Window.fieldVariable?, Schema.field?, fields_of_build placed.built, placed.ids]

theorem fieldOf_count (placed : Placed table memory window) :
    memory.fieldOf? table.window "count" = some table.count := by
  rw [Memory.fieldOf?, placed.found, Option.bind_some, placed.named_count]

theorem fieldOf_ids (placed : Placed table memory window) :
    memory.fieldOf? table.window "ids" = some table.ids := by
  rw [Memory.fieldOf?, placed.found, Option.bind_some, placed.named_ids]

theorem buffer (placed : Placed table memory window) : table.count.buffer = window.buffer := by
  rw [placed.count]

theorem after (placed : Placed table memory window) (wellFormed : memory.WellFormed) {call : Call}
    {left : Window} (still : (call.after memory).windows.get? table.window = some left) :
    Placed table (call.after memory) left := by
  obtain ⟨schema, buffer⟩ := call.after_window wellFormed placed.found still
  have size : left.objectSize = window.objectSize := by
    rw [Window.objectSize, schema, ← Window.objectSize]
  exact ⟨still, schema ▸ placed.built, by rw [placed.count, buffer, size],
    by rw [placed.ids, buffer, size]⟩

theorem afterAll (placed : Placed table memory window) (wellFormed : memory.WellFormed)
    {calls : List Call} {left : Window}
    (still : (Call.afterAll calls memory).windows.get? table.window = some left) :
    Placed table (Call.afterAll calls memory) left := by
  induction calls generalizing memory window with
  | nil =>
      cases placed.found.symm.trans still
      exact placed
  | cons call rest ih =>
      have numbered := wellFormed.numbered _ _ placed.found
      have wellFormedThen := call.after_wellFormed wellFormed
      have live := Memory.afterAll_numbered wellFormedThen rest table.window
        (Nat.lt_of_lt_of_le numbered (call.after_numbered wellFormed).1)
        (Option.ne_none_iff_exists'.mpr ⟨left, still⟩)
      obtain ⟨middle, found⟩ := Option.ne_none_iff_exists'.mp live
      exact ih (placed.after wellFormed found) wellFormedThen still

theorem withArena (placed : Placed table memory window) (arena : Arena) :
    Placed table { memory with arena } window :=
  ⟨placed.found, placed.built, placed.count, placed.ids⟩

end Placed

theorem make_placed {capacity : Nat} {config : MemoryConfig} {memory after : Memory}
    (wellFormed : memory.WellFormed) {table : ObjectListTable}
    (made : make capacity config memory = .ok table after) :
    ∃ window, after = (Call.makeWindow "object-lists" window.schema config).after memory ∧
      Placed table after window ∧ table.capacity = capacity ∧
        window.buffer = memory.arena.nextBuffer := by
  obtain ⟨schema, _, lifted, rest⟩ := Action.bind_ok.mp made
  obtain ⟨built, rfl⟩ := Action.liftM_ok.mp lifted
  obtain ⟨id, left, started, last⟩ := Action.bind_ok.mp rest
  obtain ⟨window, found, rfl, fresh⟩ := Memory.get?_of_makeWindow wellFormed started
  have placed : Placed ⟨id, ⟨window.buffer, window.objectSize, 0, .int⟩,
      ⟨window.buffer, window.objectSize, 4, .intArray capacity⟩, capacity⟩ left window :=
    ⟨found, built, rfl, rfl⟩
  have looked : left.window id = .ok window := by simp [Memory.window, found]
  simp only [Action.bind_apply, Action.get_apply, looked, Action.liftM_apply, placed.named_count,
    placed.named_ids] at last
  cases last
  refine ⟨window, ?_, placed, rfl, fresh⟩
  rw [Call.after, Call.perform, Action.after_map, Action.after_of_ok started]

theorem write_eq_ok {table : ObjectListTable} {index count : Nat} {ids : List ObjectId}
    {memory after : Memory} : table.write index ids memory = .ok count after ↔
      ∃ middle last, table.ids.setSlice .int index (ids.take table.capacity) memory.arena =
          .ok () middle ∧
        table.count.setElement .int index 0 (BitVec.ofNat _ (ids.take table.capacity).length) middle =
          .ok () last ∧
        { memory with arena := last } = after ∧ (ids.take table.capacity).length = count := by
  have parts : table.write index ids = (do
      Memory.onArena (table.ids.setSlice .int index (ids.take table.capacity))
      Memory.onArena (table.count.setElement .int index 0
        (BitVec.ofNat _ (ids.take table.capacity).length))
      return (ids.take table.capacity).length) := rfl
  rw [parts, Action.bind_ok]
  constructor
  · rintro ⟨_, _, set, rest⟩
    obtain ⟨middle, sliced, rfl⟩ := Action.within_ok.mp set
    obtain ⟨_, _, counted, same⟩ := Action.bind_ok.mp rest
    obtain ⟨last, countSet, rfl⟩ := Action.within_ok.mp counted
    cases same
    exact ⟨middle, last, sliced, countSet, rfl, rfl⟩
  · rintro ⟨middle, last, sliced, countSet, rfl, rfl⟩
    exact ⟨(), _, Action.within_ok.mpr ⟨middle, sliced, rfl⟩,
      Action.bind_ok.mpr ⟨(), _, Action.within_ok.mpr ⟨last, countSet, rfl⟩, rfl⟩⟩

theorem write_sameTables {table : ObjectListTable} {index count : Nat} {ids : List ObjectId}
    {memory after : Memory} (wellFormed : memory.arena.WellFormed)
    (written : table.write index ids memory = .ok count after) :
    Arena.SameTables memory.arena after.arena := by
  obtain ⟨middle, last, sliced, countSet, rfl, -⟩ := write_eq_ok.mp written
  have first := Variable.setSlice_sameTables wellFormed sliced
  exact Trans.trans first (Variable.setElement_sameTables (first.wellFormed wellFormed) countSet)

theorem tryCreate_eq (table : ObjectListTable) :
    table.tryCreate = (do
      let index ← Memory.onWindow table.window Hosted.tryCreate
      Memory.onArena (table.count.setElement .int index 0 0)
      return index) := rfl

theorem tryCreate_counted {table : ObjectListTable} {memory after : Memory} {index : Nat}
    (wellFormed : memory.WellFormed) {window : Window} (placed : Placed table memory window)
    (made : table.tryCreate memory = .ok index after) : ∃ hosted,
      Hosted.tryCreate ⟨window, memory.arena⟩ = .ok index hosted ∧
      ((Call.window table.window .tryCreate).after memory).arena = hosted.arena ∧
      Placed table ((Call.window table.window .tryCreate).after memory) hosted.window ∧
      Memory.onArena (table.count.setElement .int index 0 0)
        ((Call.window table.window .tryCreate).after memory) = .ok () after := by
  rw [tryCreate_eq] at made
  obtain ⟨_, middle, popped, rest⟩ := Action.bind_ok.mp made
  obtain ⟨_, _, counted, same⟩ := Action.bind_ok.mp rest
  cases same
  have first : (Call.window table.window .tryCreate).after memory = middle := by
    rw [← Action.after_of_ok popped]
    simp only [Call.after, Call.perform, Memory.after_onWindow, Hosted.Call.perform, Action.after_map]
  obtain ⟨_, hosted, found, created, putBack⟩ := Memory.onWindow_ok.mp popped
  cases placed.found.symm.trans found
  have still : middle.windows.get? table.window = some hosted.window := by
    rw [← putBack, Memory.get?_putHosted, if_pos rfl, found]
    rfl
  subst first
  exact ⟨hosted, created, putBack ▸ rfl, placed.after wellFormed still, counted⟩

theorem tryCreate_ok {table : ObjectListTable} {memory after : Memory} {index : Nat}
    (wellFormed : memory.WellFormed) (backs : memory.Backs table.count.buffer) {window : Window}
    (placed : Placed table memory window) (made : table.tryCreate memory = .ok index after) :
    after = Call.afterAll
        [.window table.window .tryCreate, .setElement table.window "count" .int index 0 0] memory ∧
      ∃ left, Placed table after left ∧ index ∈ left.pool.outstanding ∧
        ∀ live ∈ window.pool.outstanding, live ∈ left.pool.outstanding := by
  obtain ⟨hosted, created, -, placedThen, counted⟩ := tryCreate_counted wellFormed placed made
  have second := Call.after_setElement placedThen.fieldOf_count counted
  obtain ⟨arena, -, rfl⟩ := Action.within_ok.mp counted
  have made := Hosted.tryCreate_made (backs _ _ placed.found placed.buffer.symm) created
  refine ⟨second.symm, hosted.window, placedThen.withArena arena, ?_, fun live still => ?_⟩
  · exact (made.outstanding_iff index).mpr (.inl List.mem_cons_self)
  · exact (made.outstanding_iff live).mpr (.inr still)

/-! ## What a record stores -/

structure Stores (table : ObjectListTable) (index : Nat) (ids : List ObjectId) (arena : Arena) :
    Prop where
  few : ids.length ≤ table.capacity
  count : table.count.getElement .int index 0 arena = .ok (BitVec.ofNat _ ids.length)
  ids : ∀ element id, ids[element]? = some id →
    table.ids.getElement .int index element arena = .ok id

def encoded (ids : List ObjectId) : List UInt8 :=
  ElementType.int.bytes (BitVec.ofNat _ ids.length) ++ ids.flatMap ElementType.int.bytes

@[simp] theorem length_encoded (ids : List ObjectId) :
    (encoded ids).length = 4 + ids.length * 4 := by
  rw [encoded, List.length_append, ElementType.length_bytes, ElementType.length_flatMap_bytes]
  rfl

section Storing

variable {table : ObjectListTable} {memory : Memory} {window : Window} {index : Nat}
  {ids : List ObjectId}

def Placed.countCell (placed : Placed table memory window) (index : Nat) : window.Cell where
  name := "count"
  index := index
  element := 0
  field := ⟨window.buffer, window.objectSize, 0, .int⟩
  found := placed.count ▸ placed.named_count
  within := ⟨1, rfl, Nat.one_pos⟩

def Placed.idCell (placed : Placed table memory window) (index : Nat) {element : Nat}
    (few : element < table.capacity) : window.Cell where
  name := "ids"
  index := index
  element := element
  field := ⟨window.buffer, window.objectSize, 4, .intArray table.capacity⟩
  found := placed.ids ▸ placed.named_ids
  within := ⟨table.capacity, rfl, few⟩

theorem Placed.countCell_start (placed : Placed table memory window) (index : Nat) :
    (placed.countCell index).start = index * window.objectSize := by
  simp [countCell, Window.Cell.start, Variable.start]

theorem Placed.idCell_start (placed : Placed table memory window) (index : Nat) {element : Nat}
    (few : element < table.capacity) : (placed.idCell index few).start =
      index * window.objectSize + 4 + element * ElementType.int.size := by
  simp only [idCell, Window.Cell.start, Variable.start, FieldKind.elementType]
  omega

theorem Placed.getElement_count (placed : Placed table memory window) (index : Nat) (arena : Arena) :
    table.count.getElement .int index 0 arena = (placed.countCell index).get arena := by
  rw [placed.count]
  rfl

theorem Placed.getElement_ids (placed : Placed table memory window) (index : Nat) {element : Nat}
    (few : element < table.capacity) (arena : Arena) :
    table.ids.getElement .int index element arena = (placed.idCell index few).get arena := by
  rw [placed.ids]
  rfl

theorem Placed.place?_of_physicalAddress (placed : Placed table memory window)
    (wellFormed : memory.WellFormed) {address : Nat}
    (located : table.physicalAddress index memory = .ok address) :
    memory.arena.place? window.buffer (index * window.objectSize) = some address := by
  obtain ⟨hosted, host, located⟩ := bind_eq_ok.mp located
  simp only [Memory.hosted, Memory.window, placed.found] at host
  cases host
  obtain ⟨start, product, located⟩ := bind_eq_ok.mp located
  obtain ⟨rfl, -⟩ := Size.eq_of_mul_eq_ok product
  exact Arena.toPhysical_eq_place? wellFormed.arena located

theorem Stores.length_le (placed : Placed table memory window)
    (stores : table.Stores index ids memory.arena) :
    index * window.objectSize + (encoded ids).length ≤ (index + 1) * window.objectSize := by
  have slice := Window.slice_inside placed.built (placed.ids ▸ placed.named_ids) rfl index
  have few := Nat.mul_le_mul_right 4 stores.few
  simp only [Variable.start, FieldKind.elementType, ElementType.size] at slice
  rw [length_encoded]
  omega

theorem Stores.lt_capacity (stores : table.Stores index ids memory.arena) {element : Nat}
    {id : ObjectId} (found : ids[element]? = some id) : element < table.capacity :=
  Nat.lt_of_lt_of_le (List.getElem?_eq_some_iff.mp found).1 stores.few

theorem Stores.bytesFrom_count (placed : Placed table memory window) (wellFormed : memory.WellFormed)
    (stores : table.Stores index ids memory.arena) :
    memory.arena.bytesFrom window.buffer (index * window.objectSize) ElementType.int.size =
      ElementType.int.bytes (BitVec.ofNat _ ids.length) := by
  have count := (placed.countCell index).bytesFrom_of_get wellFormed.arena
    ((placed.getElement_count index _).symm.trans stores.count)
  rwa [placed.countCell_start] at count

theorem Stores.bytesFrom_ids (placed : Placed table memory window) (wellFormed : memory.WellFormed)
    (stores : table.Stores index ids memory.arena) :
    memory.arena.bytesFrom window.buffer (index * window.objectSize + 4)
      (ids.length * ElementType.int.size) = ids.flatMap ElementType.int.bytes := by
  refine Arena.bytesFrom_flatMap fun element id found => ?_
  have few := stores.lt_capacity found
  have cell := (placed.idCell index few).bytesFrom_of_get wellFormed.arena
    ((placed.getElement_ids index few _).symm.trans (stores.ids element id found))
  rwa [placed.idCell_start] at cell

theorem Stores.bytesFrom (placed : Placed table memory window) (wellFormed : memory.WellFormed)
    (stores : table.Stores index ids memory.arena) :
    memory.arena.bytesFrom window.buffer (index * window.objectSize) (encoded ids).length =
      encoded ids := by
  rw [length_encoded, Arena.bytesFrom_add, encoded]
  exact congrArg₂ _ (stores.bytesFrom_count placed wellFormed) (stores.bytesFrom_ids placed wellFormed)

theorem Stores.after (placed : Placed table memory window) (wellFormed : memory.WellFormed)
    {call : Call} (live : (call.after memory).Live table.window index)
    (spared : call.Spares window.buffer)
    (unwritten : ∀ cell : window.Cell, cell.index = index → ¬call.Writes table.window cell)
    (stores : table.Stores index ids memory.arena) :
    table.Stores index ids (call.after memory).arena := by
  refine ⟨stores.few, ?_, ?_⟩
  · rw [placed.getElement_count]
    apply Call.get_after wellFormed placed.found placed.built _ live spared (unwritten _ rfl)
    exact (placed.getElement_count index _).symm.trans stores.count
  · intro element id found
    have few := stores.lt_capacity found
    rw [placed.getElement_ids index few]
    apply Call.get_after wellFormed placed.found placed.built _ live spared (unwritten _ rfl)
    exact (placed.getElement_ids index few _).symm.trans (stores.ids element id found)

theorem write_ok (placed : Placed table memory window) (wellFormed : memory.WellFormed)
    {after : Memory} {count : Nat} (written : table.write index ids memory = .ok count after) :
    count = (ids.take table.capacity).length ∧
      after = Call.afterAll [.setSlice table.window "ids" .int index (ids.take table.capacity),
        .setElement table.window "count" .int index 0
          (BitVec.ofNat _ (ids.take table.capacity).length)] memory ∧
      after.windows = memory.windows ∧ table.Stores index (ids.take table.capacity) after.arena := by
  obtain ⟨arena, last, sliced, countSet, rfl, rfl⟩ := write_eq_ok.mp written
  have first := Call.after_setSlice placed.fieldOf_ids (Action.within_ok.mpr ⟨arena, sliced, rfl⟩)
  have placedThen := placed.withArena arena
  have wellFormedThen : Memory.WellFormed { memory with arena } :=
    first ▸ Call.after_wellFormed wellFormed _
  have second := Call.after_setElement placedThen.fieldOf_count
    (Action.within_ok.mpr ⟨last, countSet, rfl⟩)
  have set : (placedThen.countCell index).set _ arena = .ok () last := placed.count ▸ countSet
  have cells := Memory.cellsIndependent_of_wellFormed wellFormedThen placedThen.found placedThen.built
  obtain ⟨got, keeps⟩ := cells.element _ _ _ set
  refine ⟨rfl, ?_, rfl, List.length_take_le _ _, ?_, ?_⟩
  · rw [← second, ← first]
    rfl
  · exact (placed.getElement_count index last).trans got
  · intro element id found
    have few : element < table.capacity :=
      Nat.lt_of_lt_of_le (List.getElem?_eq_some_iff.mp found).1 (List.length_take_le _ _)
    have kept := keeps _ _ placedThen.found (placedThen.idCell index few) fun same => by
      simpa [Placed.countCell, Placed.idCell, Window.Cell.position] using same.2
    have before := Variable.getElement_of_setSlice wellFormed.arena sliced found
    rw [placed.getElement_ids index few] at before ⊢
    exact kept.trans before

theorem write_of_reaches (placed : Placed table memory window) (wellFormed : memory.WellFormed)
    (reached : window.Reaches memory.arena index) (ids : List ObjectId) :
    ∃ count after, table.write index ids memory = .ok count after := by
  obtain ⟨-, sets⟩ :=
    reached.slices wellFormed.arena placed.built (placed.ids ▸ placed.named_ids) rfl
  obtain ⟨arena, sliced⟩ := sets (ids.take table.capacity) (List.length_take_le _ _)
  have same := Variable.setSlice_sameTables wellFormed.arena sliced
  obtain ⟨-, sets⟩ := (placed.countCell index).get_and_set (same.wellFormed wellFormed.arena)
    placed.built (reached.of_sameTables same)
  obtain ⟨last, counted⟩ := sets (BitVec.ofNat _ (ids.take table.capacity).length)
  refine ⟨_, _, write_eq_ok.mpr ⟨arena, last, ?_, ?_, rfl, rfl⟩⟩
  · rwa [placed.ids]
  · rw [placed.count]
    exact counted

theorem write_answers (placed : Placed table memory window) (wellFormed : memory.WellFormed)
    (backs : memory.Backs window.buffer) (live : index ∈ window.pool.outstanding)
    (ids : List ObjectId) : ∃ count after, table.write index ids memory = .ok count after :=
  write_of_reaches placed wellFormed (Memory.record_inside (backs _ _ placed.found rfl) live) ids

end Storing

end ObjectListTable

end TorusEngine.Paging
