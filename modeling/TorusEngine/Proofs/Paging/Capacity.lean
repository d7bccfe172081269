import TorusEngine.Paging.Window
import TorusEngine.Proofs.Paging.Isolation

/-!
# Capacity is backed by pages

The pool of a window never promises more records than the pages of its buffer hold, and the buffer
never has a page more than the promised records need. `Hosted.Backed` is that invariant. The pool and
the buffer change in different steps, so the results below follow each operation through all of its
ends: `tryCreate_result` names four of them, two where the arena is exhausted.
-/

namespace TorusEngine.Paging.Hosted

open EStateM (Result)
open IndexPool (Popped)

/-- A window that grows by the records of one page. Its buffer may have any number of pages. -/
structure Formed (hosted : Hosted) : Prop where
  arena : hosted.arena.WellFormed
  pool : hosted.window.pool.WellFormed
  objectSize_pos : 0 < hosted.window.objectSize
  growth : hosted.window.pool.growth =
    Window.recordGrowth (hosted.arena.pageSize ⌈/⌉ hosted.window.objectSize)

/-- A window in an arena: the buffer has as many pages as the records of the pool's capacity need. -/
structure Backed (hosted : Hosted) : Prop where
  arena : hosted.arena.WellFormed
  objectSize_pos : 0 < hosted.window.objectSize
  objectSize_le : hosted.window.objectSize ≤ Size.addressSpace
  pool : hosted.window.pool.WellFormed
  growth : hosted.window.pool.growth =
    Window.recordGrowth (hosted.arena.pageSize ⌈/⌉ hosted.window.objectSize)
  pages : hosted.arena.sizeInPages hosted.window.buffer =
    .ok (max (hosted.window.pool.capacity * hosted.window.objectSize ⌈/⌉ hosted.arena.pageSize) 1)

def extent (hosted : Hosted) : Nat := hosted.arena.extent hosted.window.buffer

def withPool (hosted : Hosted) (pool : IndexPool) : Hosted :=
  { hosted with window := { hosted.window with pool } }

section WithPool

variable (hosted : Hosted) (pool : IndexPool)

@[simp] theorem withPool_pool : (hosted.withPool pool).window.pool = pool := rfl

@[simp] theorem withPool_arena : (hosted.withPool pool).arena = hosted.arena := rfl

@[simp] theorem withPool_buffer :
    (hosted.withPool pool).window.buffer = hosted.window.buffer := rfl

@[simp] theorem withPool_objectSize :
    (hosted.withPool pool).window.objectSize = hosted.window.objectSize := rfl

@[simp] theorem withPool_extent : (hosted.withPool pool).extent = hosted.extent := rfl

@[simp] theorem withPool_sizeInBytes :
    (hosted.withPool pool).sizeInBytes = hosted.sizeInBytes := rfl

@[simp] theorem withPool_withPool (again : IndexPool) :
    (hosted.withPool pool).withPool again = hosted.withPool again := rfl

end WithPool

theorem onPool_apply {α : Type} (action : Action IndexPool α) (hosted : Hosted) :
    onPool action hosted = match action hosted.window.pool with
      | .ok answer after => .ok answer (hosted.withPool after)
      | .error fault after => .error fault (hosted.withPool after) := by
  rw [onPool, Action.within_apply]
  cases action hosted.window.pool <;> rfl

theorem onArena_apply {α : Type} (action : Action Arena α) (hosted : Hosted) :
    onArena action hosted = match action hosted.arena with
      | .ok answer after => .ok answer { hosted with arena := after }
      | .error fault after => .error fault { hosted with arena := after } := by
  rw [onArena, Action.within_apply]
  cases action hosted.arena <;> rfl

namespace Formed

variable {hosted : Hosted}

theorem perPage_pos (formed : hosted.Formed) :
    0 < hosted.arena.pageSize ⌈/⌉ hosted.window.objectSize := by
  by_contra none
  have below := (ceilDiv_le_iff_le_mul formed.objectSize_pos).mp (Nat.le_of_not_lt none)
  have positive := formed.arena.pageSize_pos
  omega

theorem raised_eq (formed : hosted.Formed) {proposed : Nat}
    (proposal : hosted.window.pool.growth hosted.window.pool.capacity = .ok proposed) :
    max proposed (hosted.window.pool.capacity + 1) =
      hosted.window.pool.capacity + hosted.arena.pageSize ⌈/⌉ hosted.window.objectSize := by
  rw [formed.growth, Window.recordGrowth] at proposal
  obtain ⟨rfl, -⟩ := Size.eq_of_add_eq_ok proposal
  exact Nat.max_eq_left (Nat.add_le_add_left formed.perPage_pos _)

theorem capacity_of_popped (formed : hosted.Formed) {index : Nat} {pool : IndexPool}
    (popped : Popped hosted.window.pool index pool) :
    pool.capacity = hosted.window.pool.capacity ∨
    hosted.window.pool.free.toList = [] ∧
      hosted.window.pool.highWater = hosted.window.pool.capacity ∧
      index = hosted.window.pool.highWater ∧
      pool = { hosted.window.pool with
        capacity := hosted.window.pool.capacity +
          hosted.arena.pageSize ⌈/⌉ hosted.window.objectSize
        highWater := hosted.window.pool.highWater + 1
        outstanding := hosted.window.pool.outstanding.insert hosted.window.pool.highWater } := by
  cases popped with
  | freed queued => exact .inl rfl
  | fresh drained room => exact .inl rfl
  | grown drained full proposal =>
      exact .inr ⟨drained, Nat.le_antisymm formed.pool.highWater_le full, rfl,
        by rw [formed.raised_eq proposal]⟩

end Formed

namespace Backed

variable {hosted : Hosted}

theorem formed (backed : hosted.Backed) : hosted.Formed :=
  ⟨backed.arena, backed.pool, backed.objectSize_pos, backed.growth⟩

theorem live (backed : hosted.Backed) :
    ∃ buffer, hosted.arena.buffers.get? hosted.window.buffer = some buffer := by
  cases live : hosted.arena.buffers.get? hosted.window.buffer with
  | none =>
      have pages := backed.pages
      rw [Arena.sizeInPages_of_missing live] at pages
      cases pages
  | some buffer => exact ⟨buffer, rfl⟩

theorem sizeInBytes (backed : hosted.Backed) : hosted.sizeInBytes = .ok hosted.extent := by
  obtain ⟨buffer, live⟩ := backed.live
  exact Arena.sizeInBytes_of_live backed.arena live

theorem extent_eq (backed : hosted.Backed) : hosted.extent =
    max (hosted.window.pool.capacity * hosted.window.objectSize ⌈/⌉ hosted.arena.pageSize) 1 *
      hosted.arena.pageSize :=
  Arena.extent_of_sizeInPages backed.pages

theorem capacity_le (backed : hosted.Backed) :
    hosted.window.pool.capacity * hosted.window.objectSize ≤ hosted.extent := by
  rw [backed.extent_eq]
  exact Size.le_max_ceilDiv_mul backed.arena.pageSize_pos _

theorem extent_le (backed : hosted.Backed) : hosted.extent ≤ Size.addressSpace :=
  (Arena.extent_le backed.arena _).trans backed.arena.addressable

theorem pageSize_le (backed : hosted.Backed) : hosted.arena.pageSize ≤ Size.addressSpace := by
  refine Nat.le_trans ?_ backed.extent_le
  rw [backed.extent_eq]
  exact Nat.le_mul_of_pos_left _ (Nat.le_max_right _ _)

theorem grown_bytes_le (backed : hosted.Backed) :
    (hosted.window.pool.capacity + hosted.arena.pageSize ⌈/⌉ hosted.window.objectSize) *
      hosted.window.objectSize ≤ 4 * Size.addressSpace := by
  have present := backed.capacity_le.trans backed.extent_le
  have page := backed.pageSize_le
  have object := backed.objectSize_le
  have rounded : hosted.arena.pageSize ⌈/⌉ hosted.window.objectSize * hosted.window.objectSize ≤
      hosted.arena.pageSize + hosted.window.objectSize := by
    rw [Nat.ceilDiv_eq_add_pred_div]
    exact (Nat.div_mul_le_self _ _).trans (by omega)
  rw [Nat.add_mul]
  omega

theorem capacity_lt (backed : hosted.Backed) :
    hosted.window.pool.capacity + hosted.arena.pageSize ⌈/⌉ hosted.window.objectSize < Size.limit := by
  have bytes := backed.grown_bytes_le
  have records := Nat.le_mul_of_pos_right
    (hosted.window.pool.capacity + hosted.arena.pageSize ⌈/⌉ hosted.window.objectSize)
    backed.objectSize_pos
  have small : 4 * Size.addressSpace < Size.limit := by decide
  omega

theorem proposal (backed : hosted.Backed) :
    hosted.window.pool.growth hosted.window.pool.capacity = .ok
      (hosted.window.pool.capacity + hosted.arena.pageSize ⌈/⌉ hosted.window.objectSize) := by
  rw [backed.growth, Window.recordGrowth]
  exact Size.add_eq_ok backed.capacity_lt

theorem pop_answers (backed : hosted.Backed) :
    ∃ index pool, IndexPool.pop hosted.window.pool = .ok index pool := by
  have fits := backed.capacity_lt
  have positive := backed.formed.perPage_pos
  exact IndexPool.pop_answers backed.proposal (by omega)

theorem bytes_of_popped (backed : hosted.Backed) {index : Nat} {pool : IndexPool}
    (popped : Popped hosted.window.pool index pool) :
    pool.capacity * hosted.window.objectSize ≤ 4 * Size.addressSpace := by
  rcases backed.formed.capacity_of_popped popped with kept | ⟨-, -, -, rfl⟩
  · rw [kept]
    exact (backed.capacity_le.trans backed.extent_le).trans (Nat.le_mul_of_pos_left _ (by decide))
  · exact backed.grown_bytes_le

end Backed

theorem sizeInPages_eq (arena : Arena) (id : BufferId) :
    arena.sizeInPages id = match arena.tables.get? id with
      | some pages => .ok pages.length
      | none => .error .unknownName := by
  rw [Arena.tables_get?]
  cases live : arena.buffers.get? id with
  | none => exact Arena.sizeInPages_of_missing live
  | some buffer =>
      rw [Arena.sizeInPages_of_live live, ← Buffer.length_pages]
      rfl

theorem Backed.congr {window : Window} {arena after : Arena} (backed : Backed ⟨window, arena⟩)
    (wellFormed : after.WellFormed) (continues : Arena.Continues arena after)
    (pages : after.tables.get? window.buffer = arena.tables.get? window.buffer) :
    Backed ⟨window, after⟩ where
  arena := wellFormed
  objectSize_pos := backed.objectSize_pos
  objectSize_le := backed.objectSize_le
  pool := backed.pool
  growth := by
    rw [continues.pageSize]
    exact backed.growth
  pages := by
    rw [continues.pageSize, sizeInPages_eq, pages, ← sizeInPages_eq]
    exact backed.pages

theorem make_eq (name : String) (schema : Schema) (config : MemoryConfig) (arena : Arena) :
    Window.make name schema config arena =
      match Size.ceilDiv arena.pageSize schema.objectSize,
        Size.mul schema.objectSize (max config.initialCapacity 1) with
      | .error fault, _ => .error fault arena
      | .ok _, .error fault => .error fault arena
      | .ok objectsPerPage, .ok bytes => match Arena.createBuffer name bytes arena with
        | .error fault after => .error fault after
        | .ok buffer after => .ok {
            name, schema, buffer, objectsPerPage
            pool := .withCapacity (max config.initialCapacity 1) (Window.recordGrowth objectsPerPage)
            minDelay := config.minFreeDelay
            maxDelay := config.maxFreeDelay } after := by
  cases quotient : Size.ceilDiv arena.pageSize schema.objectSize with
  | error fault => simp [Window.make, quotient]
  | ok objectsPerPage =>
      cases product : Size.mul schema.objectSize (max config.initialCapacity 1) with
      | error fault => simp [Window.make, quotient, product]
      | ok bytes =>
          cases ended : Arena.createBuffer name bytes arena <;>
            simp [Window.make, quotient, product, ended]

theorem make_refused {arena : Arena} (wellFormed : arena.WellFormed) {name : String} {schema : Schema}
    {config : MemoryConfig} {fault : Fault} {after : Arena}
    (refused : Window.make name schema config arena = .error fault after) : after = arena := by
  rw [make_eq] at refused
  split at refused
  · cases refused
    rfl
  · cases refused
    rfl
  · rename_i bytes _ _
    cases ended : Arena.createBuffer name bytes arena with
    | error cause left =>
        rw [ended] at refused
        cases refused
        exact Arena.create_refused wellFormed ended
    | ok buffer left => simp [ended] at refused

theorem make_backed {arena : Arena} (wellFormed : arena.WellFormed) {name : String} {schema : Schema}
    {config : MemoryConfig} {window : Window} {after : Arena}
    (made : Window.make name schema config arena = .ok window after) :
    Backed ⟨window, after⟩ ∧ window.buffer = arena.nextBuffer ∧
      ∃ bytes, after = (Arena.Call.createBuffer name bytes).after arena := by
  rw [make_eq] at made
  split at made
  · cases made
  · cases made
  · rename_i objectsPerPage bytes quotient product
    cases ended : Arena.createBuffer name bytes arena with
    | error fault left => simp [ended] at made
    | ok buffer left =>
        rw [ended] at made
        cases made
        have positive : 0 < schema.objectSize := by
          refine Nat.pos_of_ne_zero fun empty => ?_
          simp [Size.ceilDiv, empty] at quotient
        rw [Size.ceilDiv_eq positive, Except.ok.injEq] at quotient
        obtain ⟨rfl, -⟩ := Size.eq_of_mul_eq_ok product
        obtain ⟨rfl, pageSize, pages⟩ := Arena.sizeInPages_of_createBuffer wellFormed ended
        have kept := Arena.createBuffer_wellFormed wellFormed name
          (schema.objectSize * max config.initialCapacity 1)
        have left := Arena.Call.after_createBuffer name
          (schema.objectSize * max config.initialCapacity 1) arena
        rw [Action.after_of_ok ended] at kept left
        refine ⟨⟨kept, positive, ?_, IndexPool.withCapacity_wellFormed _ _, ?_, ?_⟩, rfl, _, left.symm⟩
        · have record := Nat.le_mul_of_pos_right schema.objectSize
            (show 0 < max config.initialCapacity 1 by omega)
          have room := Size.le_max_ceilDiv_mul wellFormed.pageSize_pos
            (schema.objectSize * max config.initialCapacity 1)
          rw [← pageSize, ← Arena.extent_of_sizeInPages (pageSize ▸ pages)] at room
          exact record.trans (room.trans ((Arena.extent_le kept _).trans kept.addressable))
        · rw [← quotient, pageSize]
          rfl
        · rw [pageSize, Nat.mul_comm]
          exact pages

/-! ## Making one record -/

theorem fitBuffer_of_room {hosted : Hosted}
    (bounded : hosted.window.pool.capacity * hosted.window.objectSize ≤ 4 * Size.addressSpace)
    (sized : hosted.sizeInBytes = .ok hosted.extent)
    (room : hosted.window.pool.capacity * hosted.window.objectSize ≤ hosted.extent) :
    fitBuffer hosted = .ok () hosted := by
  have small : 4 * Size.addressSpace < Size.limit := by decide
  simp [fitBuffer, Size.mul_eq_ok (Nat.lt_of_le_of_lt bounded small), sized, Nat.not_lt.mpr room]

theorem fitBuffer_of_short {hosted : Hosted}
    (bounded : hosted.window.pool.capacity * hosted.window.objectSize ≤ 4 * Size.addressSpace)
    (sized : hosted.sizeInBytes = .ok hosted.extent)
    (short : hosted.extent < hosted.window.pool.capacity * hosted.window.objectSize) :
    fitBuffer hosted = onArena (Arena.resize hosted.window.buffer
      (hosted.window.pool.capacity * hosted.window.objectSize)) hosted := by
  have small : 4 * Size.addressSpace < Size.limit := by decide
  simp [fitBuffer, Size.mul_eq_ok (Nat.lt_of_le_of_lt bounded small), sized, short]

/-- The ways in which `tryCreate` ends. A record that finds the arena exhausted is kept if it lies on
the pages that are there, and otherwise everything is as before. -/
inductive TriedCreate (hosted : Hosted) : Result Fault Hosted Nat → Prop where
  | roomy {index : Nat} {pool : IndexPool} (popped : Popped hosted.window.pool index pool)
      (room : pool.capacity * hosted.window.objectSize ≤ hosted.extent) :
      TriedCreate hosted (.ok index (hosted.withPool pool))
  | grown {index : Nat} {pool : IndexPool} {arena : Arena}
      (popped : Popped hosted.window.pool index pool)
      (short : hosted.extent < pool.capacity * hosted.window.objectSize)
      (resized : Arena.resize hosted.window.buffer (pool.capacity * hosted.window.objectSize)
        hosted.arena = .ok () arena) :
      TriedCreate hosted (.ok index { hosted.withPool pool with arena })
  | squeezed {index : Nat} {pool : IndexPool} {requested : Nat}
      (popped : Popped hosted.window.pool index pool)
      (short : hosted.extent < pool.capacity * hosted.window.objectSize)
      (exhausted : Arena.resize hosted.window.buffer (pool.capacity * hosted.window.objectSize)
        hosted.arena =
          .error (.refused (.arenaExhausted requested hosted.arena.maxPages)) hosted.arena)
      (fits : index < hosted.extent / hosted.window.objectSize) :
      TriedCreate hosted (.ok index
        (hosted.withPool { pool with capacity := hosted.extent / hosted.window.objectSize }))
  | refused {pool : IndexPool} {requested : Nat} (drained : hosted.window.pool.free.toList = [])
      (full : hosted.window.pool.highWater = hosted.window.pool.capacity)
      (fits : hosted.extent / hosted.window.objectSize ≤ hosted.window.pool.capacity)
      (exhausted : Arena.resize hosted.window.buffer
        ((hosted.window.pool.capacity + hosted.arena.pageSize ⌈/⌉ hosted.window.objectSize) *
          hosted.window.objectSize) hosted.arena =
            .error (.refused (.arenaExhausted requested hosted.arena.maxPages)) hosted.arena)
      (same : IndexPool.Same hosted.window.pool pool) :
      TriedCreate hosted (.error (.refused (.arenaExhausted requested hosted.arena.maxPages))
        (hosted.withPool pool))

theorem tryCreate_of_room {hosted : Hosted} {index : Nat} {pool : IndexPool}
    (popped : IndexPool.pop hosted.window.pool = .ok index pool)
    (fitted : fitBuffer (hosted.withPool pool) = .ok () (hosted.withPool pool)) :
    tryCreate hosted = .ok index (hosted.withPool pool) := by
  simp [tryCreate, onPool_apply, popped, Action.refusal?, fitted]

theorem tryCreate_of_grown {hosted : Hosted} {index : Nat} {pool : IndexPool} {after : Hosted}
    (popped : IndexPool.pop hosted.window.pool = .ok index pool)
    (fitted : fitBuffer (hosted.withPool pool) = .ok () after) :
    tryCreate hosted = .ok index after := by
  simp [tryCreate, onPool_apply, popped, Action.refusal?, fitted]

theorem tryCreate_of_squeezed {hosted : Hosted} {index kept : Nat} {pool left : IndexPool}
    {why : Refusal} (popped : IndexPool.pop hosted.window.pool = .ok index pool)
    (sized : hosted.sizeInBytes = .ok hosted.extent)
    (refused : fitBuffer (hosted.withPool pool) = .error (.refused why) (hosted.withPool pool))
    (fits : index < hosted.extent / hosted.window.objectSize)
    (compacted : IndexPool.compact (fun _ _ => .ok (hosted.extent / hosted.window.objectSize)) pool =
      .ok kept left) :
    tryCreate hosted = .ok index (hosted.withPool left) := by
  simp [tryCreate, onPool_apply, popped, Action.refusal?, refused, sized, fits, compacted]

theorem tryCreate_of_refused {hosted : Hosted} {index kept : Nat} {pool given left : IndexPool}
    {why : Refusal} (popped : IndexPool.pop hosted.window.pool = .ok index pool)
    (sized : hosted.sizeInBytes = .ok hosted.extent)
    (refused : fitBuffer (hosted.withPool pool) = .error (.refused why) (hosted.withPool pool))
    (full : hosted.extent / hosted.window.objectSize ≤ index)
    (returned : IndexPool.giveBack index pool = .ok () given)
    (compacted : IndexPool.compact (fun _ _ => .ok (hosted.extent / hosted.window.objectSize)) given =
      .ok kept left) :
    tryCreate hosted = .error (.refused why) (hosted.withPool left) := by
  simp [tryCreate, onPool_apply, popped, Action.refusal?, refused, sized, Nat.not_lt.mpr full,
    returned, compacted]

theorem compact_grown {pool : IndexPool} (wellFormed : pool.WellFormed)
    (drained : pool.free.toList = []) {fits : Nat} (marked : pool.highWater ≤ fits)
    (short : fits ≤ pool.capacity) :
    IndexPool.compact (fun _ _ => .ok fits) pool = .ok fits { pool with capacity := fits } := by
  rw [IndexPool.compact_eq wellFormed, IndexPool.trim_of_drained drained]
  simp [Nat.min_eq_left short, Nat.max_eq_right marked]

theorem tryCreate_of_exhausted {hosted : Hosted} (backed : hosted.Backed) {index requested : Nat}
    {pool : IndexPool} (popped : IndexPool.pop hosted.window.pool = .ok index pool)
    (short : hosted.extent < pool.capacity * hosted.window.objectSize)
    (exhausted : Arena.resize hosted.window.buffer (pool.capacity * hosted.window.objectSize)
      hosted.arena = .error (.refused (.arenaExhausted requested hosted.arena.maxPages)) hosted.arena)
    (refused : fitBuffer (hosted.withPool pool) =
      .error (.refused (.arenaExhausted requested hosted.arena.maxPages)) (hosted.withPool pool)) :
    TriedCreate hosted (tryCreate hosted) := by
  have became := IndexPool.pop_ok popped
  have sized := backed.sizeInBytes
  rcases backed.formed.capacity_of_popped became with kept | ⟨drained, full, rfl, rfl⟩
  · have room := backed.capacity_le
    rw [← kept] at room
    exact absurd room (Nat.not_le.mpr short)
  · have few : hosted.extent / hosted.window.objectSize < hosted.window.pool.capacity +
        hosted.arena.pageSize ⌈/⌉ hosted.window.objectSize :=
      (Nat.div_lt_iff_lt_mul backed.objectSize_pos).mpr short
    -- The capacity comes down to what the pages hold, with the new record or without it.
    rcases Nat.lt_or_ge hosted.window.pool.highWater
      (hosted.extent / hosted.window.objectSize) with fits | outside
    · have compacted := compact_grown (became.wellFormed backed.pool) drained fits few.le
      rw [tryCreate_of_squeezed popped sized refused fits compacted]
      exact .squeezed became short exhausted fits
    · have above : hosted.window.pool.highWater < hosted.window.pool.capacity +
          hosted.arena.pageSize ⌈/⌉ hosted.window.objectSize := by
        rw [full]
        exact Nat.lt_add_of_pos_right backed.formed.perPage_pos
      obtain ⟨given, left, after, returned, compacted, same⟩ :=
        IndexPool.withdraw backed.pool drained full.ge above outside
      rw [tryCreate_of_refused popped sized refused outside returned compacted]
      exact .refused drained full (full ▸ outside) exhausted same

theorem tryCreate_result {hosted : Hosted} (backed : hosted.Backed) :
    TriedCreate hosted (tryCreate hosted) := by
  obtain ⟨index, pool, popped⟩ := backed.pop_answers
  have became := IndexPool.pop_ok popped
  have bounded := backed.bytes_of_popped became
  have sized := backed.sizeInBytes
  rcases Nat.lt_or_ge hosted.extent (pool.capacity * hosted.window.objectSize) with short | room
  · obtain ⟨buffer, live⟩ := backed.live
    have fitted : fitBuffer (hosted.withPool pool) = _ := fitBuffer_of_short bounded sized short
    rw [onArena_apply] at fitted
    simp only [withPool_buffer, withPool_pool, withPool_objectSize, withPool_arena] at fitted
    rcases Arena.resize_of_bounded backed.arena live bounded with
      ⟨arena, resized⟩ | ⟨requested, exhausted, -, -, -⟩
    · rw [resized] at fitted
      rw [tryCreate_of_grown popped fitted]
      exact .grown became short resized
    · rw [exhausted] at fitted
      exact tryCreate_of_exhausted backed popped short exhausted fitted
  · rw [tryCreate_of_room popped (fitBuffer_of_room bounded sized room)]
    exact .roomy became room

/-! ## The pages stay as many as the capacity needs -/

theorem Backed.withPool {hosted : Hosted} (backed : hosted.Backed) {pool : IndexPool}
    (wellFormed : pool.WellFormed) (growth : pool.growth = hosted.window.pool.growth)
    (more : hosted.window.pool.capacity ≤ pool.capacity)
    (room : pool.capacity * hosted.window.objectSize ≤ hosted.extent) :
    (hosted.withPool pool).Backed where
  arena := backed.arena
  objectSize_pos := backed.objectSize_pos
  objectSize_le := backed.objectSize_le
  pool := wellFormed
  growth := growth.trans backed.growth
  pages := by
    have positive := backed.arena.pageSize_pos
    refine backed.pages.trans (congrArg _ (Nat.le_antisymm ?_ ?_))
    · exact Size.max_ceilDiv_le_max_ceilDiv positive (Nat.mul_le_mul_right _ more)
    · refine (Size.max_ceilDiv_le_iff positive).mpr ⟨?_, Nat.le_max_right _ _⟩
      rw [← backed.extent_eq]
      exact room

theorem Backed.resized {hosted : Hosted} (backed : hosted.Backed) {pool : IndexPool} {arena : Arena}
    (wellFormed : pool.WellFormed) (growth : pool.growth = hosted.window.pool.growth)
    (resized : Arena.resize hosted.window.buffer (pool.capacity * hosted.window.objectSize)
      hosted.arena = .ok () arena) :
    Backed { hosted.withPool pool with arena } := by
  have reshaped := Arena.resize_reshaped backed.arena hosted.window.buffer
    (pool.capacity * hosted.window.objectSize)
  have kept := Arena.resize_wellFormed backed.arena hosted.window.buffer
    (pool.capacity * hosted.window.objectSize)
  rw [Action.after_of_ok resized] at reshaped kept
  have sized := Arena.sizeInPages_of_resize backed.arena resized
  constructor
  · exact kept
  · exact backed.objectSize_pos
  · exact backed.objectSize_le
  · exact wellFormed
  · rw [reshaped.pageSize]
    exact growth.trans backed.growth
  · rw [reshaped.pageSize]
    exact sized

def Advances (hosted after : Hosted) : Prop := hosted.Backed → after.Backed

instance : Std.Refl Advances := ⟨fun _ backed => backed⟩

instance : Trans Advances Advances Advances :=
  ⟨fun first second backed => second (first backed)⟩

theorem TriedCreate.backed {hosted : Hosted} {result : Result Fault Hosted Nat}
    (backed : hosted.Backed) (tried : TriedCreate hosted result) : (Action.left result).Backed := by
  cases tried with
  | @roomy index pool popped room =>
      exact backed.withPool (popped.wellFormed backed.pool) popped.growth_eq popped.capacity_le room
  | @grown index pool arena popped short resized =>
      exact backed.resized (popped.wellFormed backed.pool) popped.growth_eq resized
  | @squeezed index pool requested popped short exhausted fits =>
      refine backed.withPool ?_ popped.growth_eq ?_ (Nat.div_mul_le_self _ _)
      · have wellFormed := popped.wellFormed backed.pool
        refine ⟨wellFormed.distinct, wellFormed.outstanding_iff, wellFormed.free_below, ?_⟩
        rcases backed.formed.capacity_of_popped popped with kept | ⟨-, -, rfl, rfl⟩
        · have room := backed.capacity_le
          rw [← kept] at room
          exact absurd room (Nat.not_le.mpr short)
        · exact fits
      · exact (Nat.le_div_iff_mul_le backed.objectSize_pos).mpr backed.capacity_le
  | @refused pool requested drained full fits exhausted same =>
      refine backed.withPool (same.wellFormed backed.pool) same.growth same.capacity.ge ?_
      rw [same.capacity]
      exact backed.capacity_le

theorem tryCreate_advances : Action.Respects Advances tryCreate := by
  intro hosted backed
  rw [Action.after_eq_left]
  exact (tryCreate_result backed).backed backed

/-! ## Making and freeing several -/

section Repeated

variable {relation : Hosted → Hosted → Prop} [Std.Refl relation] [Trans relation relation relation]
  (makes : Action.Respects relation tryCreate)
  (frees : ∀ indices, Action.Respects relation (onPool (IndexPool.giveBackMany indices)))

include makes

omit [Std.Refl relation] [Trans relation relation relation] in
theorem create_respects : Action.Respects relation create := by
  intro hosted
  have reached := makes hosted
  rw [Action.after_eq_left] at reached ⊢
  unfold create
  generalize tryCreate hosted = ended at reached
  cases ended with
  | ok index after => exact reached
  | error fault after => cases fault <;> exact reached

theorem createMany_respects (count : Nat) : Action.Respects relation (createMany count) := by
  have loop : ∀ count made, Action.Respects relation (createInto count made) := by
    intro count
    induction count with
    | zero => exact fun made => Action.Respects.pure _
    | succ count ih => exact fun made => (create_respects makes).bind fun index => ih (index :: made)
  exact (Action.Respects.ofExcept _).bind fun _ => loop count []

include frees

theorem tryCreateInto_respects (count : Nat) (made : List Nat) :
    Action.Respects relation (tryCreateInto count made) := by
  induction count generalizing made with
  | zero => exact Action.Respects.pure _
  | succ count ih =>
      intro hosted
      cases ran : tryCreate hosted with
      | ok index after =>
          have first : relation hosted after := makes.of_ok ran
          have rest := ih (index :: made) after
          rw [Action.after_eq_left] at rest ⊢
          simp only [tryCreateInto, ran]
          exact Trans.trans first rest
      | error fault after =>
          have first : relation hosted after := makes.of_error ran
          cases fault with
          | refused why =>
              have undone := ((frees made.reverse).bind fun _ =>
                @Action.Respects.throw _ (List Nat) relation _ (Fault.refused why)) after
              rw [Action.after_eq_left] at undone ⊢
              simp only [tryCreateInto, ran]
              exact Trans.trans first undone
          | _ =>
              rw [Action.after_eq_left]
              simpa only [tryCreateInto, ran, Action.left] using first

theorem tryCreateMany_respects (count : Nat) : Action.Respects relation (tryCreateMany count) :=
  (Action.Respects.ofExcept _).bind fun _ => tryCreateInto_respects makes frees count []

end Repeated

theorem after_onPool {α : Type} (action : Action IndexPool α) (hosted : Hosted) :
    Action.after (onPool action) hosted = hosted.withPool (Action.after action hosted.window.pool) :=
  Action.after_within _ _ _ _

theorem freeMany_advances (indices : List Nat) :
    Action.Respects Advances (onPool (IndexPool.giveBackMany indices)) := by
  intro hosted
  obtain ⟨given, -, returned⟩ := IndexPool.giveBackMany_returns indices hosted.window.pool
  rw [after_onPool]
  intro backed
  refine backed.withPool (returned.wellFormed backed.pool) returned.growth_eq returned.capacity_eq.ge ?_
  rw [returned.capacity_eq]
  exact backed.capacity_le

theorem giveBack_eq_giveBackMany (index : Nat) :
    IndexPool.giveBack index = IndexPool.giveBackMany [index] := by
  funext pool
  by_cases outstanding : index ∈ pool.outstanding
  · simp [IndexPool.giveBackMany, IndexPool.giveBack_of_outstanding outstanding]
  · simp [IndexPool.giveBackMany, IndexPool.giveBack_of_not_outstanding outstanding]

theorem free_eq_freeMany (index : Nat) : free index = freeMany [index] := by
  rw [free, freeMany, giveBack_eq_giveBackMany]

/-- What pools and the fitting of buffers keep, making a record keeps. -/
theorem tryCreate_respects {relation : Hosted → Hosted → Prop} [Std.Refl relation]
    [Trans relation relation relation] (pops : Action.Respects relation (onPool IndexPool.pop))
    (frees : ∀ indices, Action.Respects relation (onPool (IndexPool.giveBackMany indices)))
    (compacts : ∀ shrink, Action.Respects relation (onPool (IndexPool.compact shrink)))
    (fits : Action.Respects relation fitBuffer) : Action.Respects relation tryCreate := by
  refine pops.bind fun index => fits.refusal?.bind fun why => ?_
  cases why with
  | none => exact Action.Respects.pure index
  | some why =>
      apply Action.Respects.get_bind
      intro hosted
      refine ((Action.Respects.ofExcept _).bind fun size => ?_) hosted
      dsimp only
      rw [giveBack_eq_giveBackMany]
      split
      · exact (compacts _).bind fun _ => Action.Respects.pure index
      · exact (frees _).bind fun _ => (compacts _).bind fun _ => Action.Respects.throw _

/-! ## Compaction -/

theorem fittingCapacity_eq {hosted : Hosted} (backed : hosted.Backed) {needed capacity : Nat}
    (few : needed ≤ hosted.window.pool.capacity) :
    fittingCapacity hosted.arena.pageSize hosted.window.objectSize needed capacity =
      .ok (max (needed * hosted.window.objectSize ⌈/⌉ hosted.arena.pageSize) 1 *
        hosted.arena.pageSize / hosted.window.objectSize) := by
  have positive := backed.arena.pageSize_pos
  have space := backed.extent_le
  have small : Size.addressSpace < Size.limit := by decide
  have bytes : needed * hosted.window.objectSize < Size.limit := by
    have present := backed.capacity_le
    have least := Nat.mul_le_mul_right hosted.window.objectSize few
    omega
  have pages : max (needed * hosted.window.objectSize ⌈/⌉ hosted.arena.pageSize) 1 *
      hosted.arena.pageSize < Size.limit := by
    rw [backed.extent_eq] at space
    have least := Nat.mul_le_mul_right hosted.arena.pageSize
      (Size.max_ceilDiv_le_max_ceilDiv positive (Nat.mul_le_mul_right hosted.window.objectSize few))
    omega
  simp [fittingCapacity, Size.mul_eq_ok bytes, Size.ceilDiv_eq positive, Size.mul_eq_ok pages, bind,
    Except.bind, pure, Except.pure]

structure Compacted (hosted : Hosted) (pool : IndexPool) (arena : Arena) : Prop where
  trimmed : pool = { hosted.window.pool.trim with
    capacity := max hosted.window.pool.trim.highWater
      (min (max (hosted.window.pool.trim.highWater * hosted.window.objectSize ⌈/⌉
        hosted.arena.pageSize) 1 * hosted.arena.pageSize / hosted.window.objectSize)
        hosted.window.pool.capacity) }
  resized : Arena.resize hosted.window.buffer (pool.capacity * hosted.window.objectSize)
    hosted.arena = .ok () arena

theorem compact_result {hosted : Hosted} (backed : hosted.Backed) :
    ∃ released pool arena, compact hosted = .ok released { hosted.withPool pool with arena } ∧
      Compacted hosted pool arena := by
  have trimmed := IndexPool.trim_highWater_le hosted.window.pool
  have inOrder := backed.pool.highWater_le
  have few : hosted.window.pool.trim.highWater ≤ hosted.window.pool.capacity := by omega
  have compacted := IndexPool.compact_eq backed.pool
    (fittingCapacity hosted.arena.pageSize hosted.window.objectSize)
  rw [fittingCapacity_eq backed few] at compacted
  simp only at compacted
  generalize kept : max hosted.window.pool.trim.highWater (min _ hosted.window.pool.capacity) =
    capacity at compacted
  have lowered : capacity ≤ hosted.window.pool.capacity := by omega
  have bytes : capacity * hosted.window.objectSize ≤ hosted.extent :=
    (Nat.mul_le_mul_right _ lowered).trans backed.capacity_le
  have space := backed.extent_le
  have small : Size.addressSpace < Size.limit := by decide
  obtain ⟨buffer, live⟩ := backed.live
  rcases Arena.resize_of_bounded backed.arena live
    (bytes.trans (space.trans (Nat.le_mul_of_pos_left _ (by decide)))) with
    ⟨arena, resized⟩ | ⟨requested, -, grows, -, -⟩
  · have after := Arena.sizeInPages_of_resize backed.arena resized
    have fits : capacity * hosted.window.objectSize < Size.limit := by omega
    refine ⟨max (hosted.window.pool.capacity * hosted.window.objectSize ⌈/⌉ hosted.arena.pageSize) 1 -
      max (capacity * hosted.window.objectSize ⌈/⌉ hosted.arena.pageSize) 1,
      { hosted.window.pool.trim with capacity }, arena, ?_, ⟨?_, resized⟩⟩
    · simp [compact, sizeInPages, backed.pages, onPool_apply, compacted, Size.mul_eq_ok fits,
        onArena_apply, resized, after]
    · rw [kept]
  · have pages := backed.pages
    rw [Arena.sizeInPages_of_live live, Except.ok.injEq] at pages
    have shrinks := Size.max_ceilDiv_le_max_ceilDiv backed.arena.pageSize_pos
      (Nat.mul_le_mul_right hosted.window.objectSize lowered)
    omega

theorem compact_backed {hosted : Hosted} (backed : hosted.Backed) :
    (Action.after compact hosted).Backed := by
  obtain ⟨released, pool, arena, ended, compacted⟩ := compact_result backed
  rw [Action.after_of_ok ended]
  have wellFormed := IndexPool.compacted_wellFormed backed.pool
    (max (hosted.window.pool.trim.highWater * hosted.window.objectSize ⌈/⌉
      hosted.arena.pageSize) 1 * hosted.arena.pageSize / hosted.window.objectSize)
  refine backed.resized ?_ ?_ compacted.resized
  · rw [compacted.trimmed]
    exact wellFormed
  · rw [compacted.trimmed]
    exact IndexPool.trim_growth _

/-! ## What is answered is outstanding -/

structure Made (hosted : Hosted) (indices : List Nat) (after : Hosted) : Prop where
  backed : after.Backed
  distinct : indices.Nodup
  fresh : ∀ index ∈ indices, index ∉ hosted.window.pool.outstanding
  outstanding_iff : ∀ index, index ∈ after.window.pool.outstanding ↔
    index ∈ indices ∨ index ∈ hosted.window.pool.outstanding

theorem tryCreate_made {hosted after : Hosted} (backed : hosted.Backed) {index : Nat}
    (made : tryCreate hosted = .ok index after) : Made hosted [index] after := by
  have tried := tryCreate_result backed
  have advanced := tried.backed backed
  rw [made] at tried advanced
  have popped : ∃ pool, Popped hosted.window.pool index pool ∧
      after.window.pool.outstanding = pool.outstanding := by
    cases tried with
    | roomy popped room => exact ⟨_, popped, rfl⟩
    | grown popped short resized => exact ⟨_, popped, rfl⟩
    | squeezed popped short exhausted fits => exact ⟨_, popped, rfl⟩
  obtain ⟨pool, popped, same⟩ := popped
  refine ⟨advanced, List.nodup_singleton _, ?_, ?_⟩
  · intro other member
    rw [List.mem_singleton.mp member]
    exact popped.fresh_index backed.pool
  · intro other
    rw [same, popped.outstanding_iff, List.mem_singleton]

theorem Made.cons {hosted middle after : Hosted} {index : Nat} {indices : List Nat}
    (first : Made hosted [index] middle) (others : Made middle indices after) :
    Made hosted (index :: indices) after := by
  have entered : ∀ other, other ∈ middle.window.pool.outstanding ↔
      other = index ∨ other ∈ hosted.window.pool.outstanding := by
    intro other
    rw [first.outstanding_iff, List.mem_singleton]
  refine ⟨others.backed, List.nodup_cons.mpr ⟨?_, others.distinct⟩, ?_, ?_⟩
  · intro again
    exact others.fresh index again ((entered index).mpr (.inl rfl))
  · intro other member outstanding
    rcases List.mem_cons.mp member with rfl | later
    · exact first.fresh _ List.mem_cons_self outstanding
    · exact others.fresh other later ((entered other).mpr (.inr outstanding))
  · intro other
    rw [others.outstanding_iff, entered, List.mem_cons, or_left_comm, or_assoc]

theorem create_eq_ok {hosted after : Hosted} {index : Nat} :
    create hosted = .ok index after ↔ tryCreate hosted = .ok index after := by
  unfold create
  cases tryCreate hosted with
  | ok other left => exact Iff.rfl
  | error fault left => cases fault <;> simp

theorem createInto_made {hosted after : Hosted} (backed : hosted.Backed) {count : Nat}
    {made indices : List Nat} (ended : createInto count made hosted = .ok indices after) :
    ∃ fresh, indices = made.reverse ++ fresh ∧ fresh.length = count ∧ Made hosted fresh after := by
  induction count generalizing hosted made with
  | zero =>
      cases ended
      exact ⟨[], by simp, rfl, backed, List.nodup_nil, by simp, by simp⟩
  | succ count ih =>
      cases ran : create hosted with
      | error fault middle => simp [createInto, ran] at ended
      | ok index middle =>
          have first := tryCreate_made backed (create_eq_ok.mp ran)
          simp only [createInto, Action.bind_apply, ran] at ended
          obtain ⟨fresh, rfl, length, others⟩ := ih first.backed ended
          exact ⟨index :: fresh, by simp, by simp [length], first.cons others⟩

theorem createMany_made {hosted after : Hosted} (backed : hosted.Backed) {count : Nat}
    {indices : List Nat} (ended : createMany count hosted = .ok indices after) :
    indices.length = count ∧ Made hosted indices after := by
  cases listed : Size.checkBlock count 8 with
  | error fault => simp [createMany, listed] at ended
  | ok =>
      simp only [createMany, Action.bind_apply, Action.liftM_apply, listed] at ended
      obtain ⟨fresh, rfl, length, made⟩ := createInto_made backed ended
      exact ⟨length, made⟩

theorem createInto_of_tryCreateInto {hosted after : Hosted} {count : Nat} {made indices : List Nat}
    (ended : tryCreateInto count made hosted = .ok indices after) :
    createInto count made hosted = .ok indices after := by
  induction count generalizing hosted made with
  | zero => exact ended
  | succ count ih =>
      cases ran : tryCreate hosted with
      | ok index middle =>
          simp only [tryCreateInto, ran] at ended
          simp only [createInto, Action.bind_apply, create_eq_ok.mpr ran]
          exact ih ended
      | error fault middle =>
          cases fault with
          | refused why =>
              simp only [tryCreateInto, ran, Action.bind_apply] at ended
              cases undone : onPool (IndexPool.giveBackMany made.reverse) middle <;>
                simp [undone] at ended
          | _ => simp [tryCreateInto, ran] at ended

theorem createMany_of_tryCreateMany {hosted after : Hosted} {count : Nat} {indices : List Nat}
    (ended : tryCreateMany count hosted = .ok indices after) :
    createMany count hosted = .ok indices after := by
  cases listed : Size.checkBlock count 8 with
  | error fault => simp [tryCreateMany, listed] at ended
  | ok =>
      simp only [tryCreateMany, createMany, Action.bind_apply, Action.liftM_apply, listed] at ended ⊢
      exact createInto_of_tryCreateInto ended

end TorusEngine.Paging.Hosted
