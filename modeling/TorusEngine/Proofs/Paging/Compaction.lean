import TorusEngine.Proofs.Paging.Uploads

/-!
# Compaction

Compaction lowers the high-water mark of a window to one past the highest record that is out
(`IndexPool.reach`), and the buffer to the pages that the records below the mark need
(`Memory.compaction_exact`). What is below stays, and compacting again does nothing.
-/

namespace TorusEngine.Paging

/-! ## Trimming a pool -/

namespace IndexPool

variable {pool : IndexPool}

/-- One past the highest number that is handed out; zero if none is. -/
def reach (pool : IndexPool) : Nat := pool.outstanding.max?.elim 0 (· + 1)

theorem reach_eq_zero (none : ∀ index, index ∉ pool.outstanding) : pool.reach = 0 := by
  have empty := Std.TreeSet.isEmpty_iff_forall_not_mem.mpr none
  rw [reach, Std.TreeSet.max?_eq_none_iff.mpr empty, Option.elim_none]

theorem reach_eq_succ {last : Nat} (outstanding : last ∈ pool.outstanding)
    (highest : ∀ index ∈ pool.outstanding, index ≤ last) : pool.reach = last + 1 := by
  have found : pool.outstanding.max? = some last :=
    Std.TreeSet.max?_eq_some_iff_mem_and_forall.mpr
      ⟨outstanding, fun index member => Nat.isLE_compare.mpr (highest index member)⟩
  rw [reach, found, Option.elim_some]

theorem WellFormed.trim_highWater (wellFormed : pool.WellFormed) :
    pool.trim.highWater = pool.reach := by
  have below (index : Nat) (outstanding : index ∈ pool.outstanding) : index < pool.trim.highWater :=
    (((trim_wellFormed wellFormed).outstanding_iff index).mp
      ((trim_outstanding wellFormed index).mpr outstanding)).1
  cases mark : pool.trim.highWater with
  | zero =>
      rw [reach_eq_zero]
      intro index outstanding
      have bound := below index outstanding
      omega
  | succ last =>
      have stop := IndexPool.trim_highWater pool ▸ mark
      have lowered := trim_highWater_le pool
      have outstanding : last ∈ pool.outstanding :=
        (wellFormed.outstanding_iff last).mpr ⟨by omega, not_mem_of_trimmed stop⟩
      refine (reach_eq_succ outstanding fun index member => ?_).symm
      have bound := below index member
      omega

theorem trim_eq_self (stop : ∀ last, pool.highWater = last + 1 → last ∉ pool.free.toList) :
    pool.trim = pool := by
  have untouched : trimmed pool.free.toList pool.highWater = pool.highWater := by
    cases mark : pool.highWater with
    | zero => rfl
    | succ last => rw [trimmed, if_neg (stop last mark)]
  rw [trim, if_pos untouched]

theorem trim_compacted (wellFormed : pool.WellFormed) (capacity : Nat) :
    trim { pool.trim with capacity } = { pool.trim with capacity } := by
  apply trim_eq_self
  intro last mark queued
  rw [trim_free wellFormed, List.mem_filter] at queued
  exact not_mem_of_trimmed (trim_highWater pool ▸ mark) queued.1

end IndexPool

/-! ## Lowering a buffer -/

theorem Arena.eq_of_resize_same {arena after : Arena} (wellFormed : arena.WellFormed) {id : BufferId}
    {bytes : Nat} (same : arena.sizeInPages id = .ok (max (bytes ⌈/⌉ arena.pageSize) 1))
    (resized : resize id bytes arena = .ok () after) : after = arena := by
  cases live : arena.buffers.get? id with
  | none => cases (resize_of_missing wellFormed live bytes).symm.trans resized
  | some buffer =>
      have result := resize_result wellFormed live bytes
      rw [sizeInPages_of_live live, Except.ok.injEq] at same
      rw [resized] at result
      cases result with
      | kept _ => rfl
      | grown took length grows => exact absurd same (Nat.ne_of_lt grows)
      | shrunk shrinks given => exact absurd same (Nat.ne_of_gt shrinks)

namespace Hosted

variable {hosted after : Hosted}

theorem compact_released {released : Nat} (ended : compact hosted = .ok released after) :
    released = hosted.arena.pageCount hosted.window.buffer -
      after.arena.pageCount after.window.buffer := by
  simp only [compact, Action.bind_ok, Action.liftM_ok, Action.get_apply] at ended
  obtain ⟨_, _, started, before, _, ⟨sized, rfl⟩, _, _, -, _, _, -, _, _, -, _, _, reached, left, _,
    ⟨still, rfl⟩, answered⟩ := ended
  cases started
  cases reached
  cases answered
  rw [Arena.pageCount_of_sizeInPages sized, Arena.pageCount_of_sizeInPages still]

namespace Compacted

variable {pool : IndexPool} {arena : Arena}

theorem pool_eq (compacted : Compacted hosted pool arena) :
    pool = { hosted.window.pool.trim with capacity := pool.capacity } := by
  rw [compacted.trimmed]

theorem highWater (compacted : Compacted hosted pool arena) (backed : hosted.Backed) :
    pool.highWater = hosted.window.pool.reach := by
  rw [compacted.pool_eq, backed.pool.trim_highWater]

theorem outstanding_iff (compacted : Compacted hosted pool arena) (backed : hosted.Backed)
    (index : Nat) : index ∈ pool.outstanding ↔ index ∈ hosted.window.pool.outstanding := by
  rw [compacted.pool_eq]
  exact IndexPool.trim_outstanding backed.pool index

theorem trim (compacted : Compacted hosted pool arena) (backed : hosted.Backed) :
    pool.trim = pool := by
  rw [compacted.pool_eq]
  exact IndexPool.trim_compacted backed.pool _

theorem capacity (compacted : Compacted hosted pool arena) (backed : hosted.Backed) :
    hosted.window.pool.reach ≤ pool.capacity ∧
      pool.capacity ≤ hosted.window.pool.capacity ∧
      pool.capacity * hosted.window.objectSize ≤
        max (hosted.window.pool.reach * hosted.window.objectSize ⌈/⌉ hosted.arena.pageSize) 1 *
          hosted.arena.pageSize := by
  have room := Size.le_max_ceilDiv_mul backed.arena.pageSize_pos
    (hosted.window.pool.reach * hosted.window.objectSize)
  have lowered := IndexPool.trim_highWater_le hosted.window.pool
  have marked := backed.pool.highWater_le
  rw [compacted.trimmed]
  rw [backed.pool.trim_highWater] at lowered ⊢
  generalize max (hosted.window.pool.reach * hosted.window.objectSize ⌈/⌉ hosted.arena.pageSize) 1 *
    hosted.arena.pageSize = bytes at room ⊢
  have fits := (Nat.le_div_iff_mul_le backed.objectSize_pos).mpr room
  have held := (Nat.le_div_iff_mul_le backed.objectSize_pos).mp
    (Nat.max_le.mpr ⟨fits, Nat.min_le_left _ hosted.window.pool.capacity⟩)
  exact ⟨Nat.le_max_left _ _, by simp only; omega, held⟩

theorem pages (compacted : Compacted hosted pool arena) (backed : hosted.Backed) :
    arena.sizeInPages hosted.window.buffer = .ok
      (max (hosted.window.pool.reach * hosted.window.objectSize ⌈/⌉ hosted.arena.pageSize) 1) := by
  obtain ⟨reached, -, held⟩ := compacted.capacity backed
  have positive := backed.arena.pageSize_pos
  refine (Arena.sizeInPages_of_resize backed.arena compacted.resized).trans
    (congrArg _ (Nat.le_antisymm ?_ ?_))
  · exact (Size.max_ceilDiv_le_iff positive).mpr ⟨held, Nat.le_max_right _ _⟩
  · exact Size.max_ceilDiv_le_max_ceilDiv positive (Nat.mul_le_mul_right _ reached)

theorem pageCount (compacted : Compacted hosted pool arena) (backed : hosted.Backed) :
    arena.pageCount hosted.window.buffer =
      max (hosted.window.pool.reach * hosted.window.objectSize ⌈/⌉ hosted.arena.pageSize) 1 :=
  Arena.pageCount_of_sizeInPages (compacted.pages backed)

theorem pageCount_le (compacted : Compacted hosted pool arena) (backed : hosted.Backed) :
    arena.pageCount hosted.window.buffer ≤ hosted.arena.pageCount hosted.window.buffer := by
  obtain ⟨reached, lowered, -⟩ := compacted.capacity backed
  rw [compacted.pageCount backed, Arena.pageCount_of_sizeInPages backed.pages]
  exact Size.max_ceilDiv_le_max_ceilDiv backed.arena.pageSize_pos
    (Nat.mul_le_mul_right _ (reached.trans lowered))

theorem capacity_again (compacted : Compacted hosted pool arena) (backed : hosted.Backed) :
    max pool.highWater (min (max (pool.highWater * hosted.window.objectSize ⌈/⌉
      hosted.arena.pageSize) 1 * hosted.arena.pageSize / hosted.window.objectSize) pool.capacity) =
        pool.capacity := by
  rw [compacted.highWater backed, compacted.trimmed, backed.pool.trim_highWater]
  simp only
  omega

theorem again (compacted : Compacted hosted pool arena) (backed : hosted.Backed)
    (still : Backed { hosted.withPool pool with arena }) :
    compact { hosted.withPool pool with arena } = .ok 0 { hosted.withPool pool with arena } := by
  -- The pool and the arena that compacting again leaves are the ones it starts from.
  obtain ⟨released, last, left, ended, again⟩ := compact_result still
  have pageSize : arena.pageSize = hosted.arena.pageSize := by
    have reshaped := Arena.resize_reshaped backed.arena hosted.window.buffer
      (pool.capacity * hosted.window.objectSize)
    rw [Action.after_of_ok compacted.resized] at reshaped
    exact reshaped.pageSize
  have same : last = pool := by
    have trimmed := again.trimmed
    simp only [withPool_pool, withPool_objectSize, compacted.trim backed, pageSize] at trimmed
    rw [compacted.capacity_again backed] at trimmed
    exact trimmed
  subst same
  have kept : left = arena := Arena.eq_of_resize_same still.arena still.pages again.resized
  subst kept
  have none : released = 0 := (compact_released ended).trans (Nat.sub_self _)
  exact none ▸ ended

end Compacted

structure CompactedExactly (hosted : Hosted) (released : Nat) (after : Hosted) : Prop where
  pages : after.sizeInPages = .ok
    (max (hosted.window.pool.reach * hosted.window.objectSize ⌈/⌉ hosted.arena.pageSize) 1)
  highWater : after.window.pool.highWater = hosted.window.pool.reach
  reach_le : hosted.window.pool.reach ≤ after.window.pool.capacity
  capacity_le : after.window.pool.capacity ≤ hosted.window.pool.capacity
  released : ∃ left used, after.sizeInPages = .ok left ∧ hosted.sizeInPages = .ok (left + released) ∧
    after.arena.pagesInUse = .ok used ∧ hosted.arena.pagesInUse = .ok (used + released)
  entries : ∀ page < after.arena.pageCount hosted.window.buffer,
    after.arena.slot? hosted.window.buffer page = hosted.arena.slot? hosted.window.buffer page
  others : ∀ other, hosted.window.buffer ≠ other →
    after.arena.buffers.get? other = hosted.arena.buffers.get? other
  store : after.arena.store = hosted.arena.store
  outstanding_iff : ∀ index,
    index ∈ after.window.pool.outstanding ↔ index ∈ hosted.window.pool.outstanding
  window : after.window = { hosted.window with pool := after.window.pool }
  again : compact after = .ok 0 after

theorem Backed.sizeInPages (backed : hosted.Backed) :
    hosted.sizeInPages = .ok (hosted.arena.pageCount hosted.window.buffer) := by
  rw [Arena.pageCount_of_sizeInPages backed.pages]
  exact backed.pages

theorem compact_exact (backed : hosted.Backed) :
    ∃ released after, compact hosted = .ok released after ∧
      CompactedExactly hosted released after := by
  obtain ⟨released, pool, arena, ended, compacted⟩ := compact_result backed
  refine ⟨released, _, ended, ?_⟩
  have still : Backed { hosted.withPool pool with arena } := by
    have kept := compact_backed backed
    rwa [Action.after_of_ok ended] at kept
  obtain ⟨reached, lowered, -⟩ := compacted.capacity backed
  have fewer := compacted.pageCount_le backed
  have reshaped := Arena.resize_reshaped backed.arena hosted.window.buffer
    (pool.capacity * hosted.window.objectSize)
  have refits := Arena.resize_refits backed.arena hosted.window.buffer
    (pool.capacity * hosted.window.objectSize)
  rw [Action.after_of_ok compacted.resized] at reshaped refits
  constructor
  case pages => exact compacted.pages backed
  case highWater => exact compacted.highWater backed
  case reach_le => exact reached
  case capacity_le => exact lowered
  case released =>
    have moved := Arena.length_ownedPages_of_resize backed.arena compacted.resized
    have count : released = hosted.arena.pageCount hosted.window.buffer -
        arena.pageCount hosted.window.buffer := compact_released ended
    refine ⟨_, _, still.sizeInPages, backed.sizeInPages.trans (congrArg _ ?_),
      Arena.pagesInUse_eq still.arena, (Arena.pagesInUse_eq backed.arena).trans (congrArg _ ?_)⟩
    · rw [count]
      exact (Nat.add_sub_of_le fewer).symm
    · show hosted.arena.ownedPages.length = arena.ownedPages.length + released
      omega
  case entries =>
    intro page inside
    obtain ⟨entry, found⟩ := Arena.lt_pageCount_iff.mp inside
    obtain ⟨old, before⟩ := Arena.lt_pageCount_iff.mp (Nat.lt_of_lt_of_le inside fewer)
    rcases refits.entries _ page entry found with same | ⟨none, -⟩
    · rw [found, same]
    · cases before.symm.trans none
  case others => exact reshaped.others
  case store => exact reshaped.store
  case outstanding_iff => exact compacted.outstanding_iff backed
  case window => rfl
  case again => exact compacted.again backed still

end Hosted

namespace Memory

variable {memory : Memory} {id : WindowId} {window left : Window}

theorem freeLater_waiting (found : memory.windows.get? id = some window) {indices : List Nat}
    (still : ((Call.freeLater id indices).after memory).windows.get? id = some left)
    (waits : left.pending.indices ≠ []) : left.pool = window.pool := by
  have changed (pending : Pending) :
      (memory.changeWindow id ({ · with pending })).windows.get? id = some { window with pending } := by
    rw [changeWindow, Dictionary.get?_modify, if_pos rfl, found, Option.map_some]
  rw [Call.after, Call.perform, freeLater] at still
  simp only [Action.after_bind, Action.get_apply, Memory.window, found, Action.liftM_apply] at still
  -- A batch that finds no service is freed at once, and then nothing waits.
  generalize window.pending.park memory.clock window.minDelay window.maxDelay indices = parked at still
  obtain ⟨pending, wakeup⟩ := parked
  cases wakeup with
  | none =>
      cases (changed pending).symm.trans still
      rfl
  | some deadline =>
      cases posted : memory.service.post (.schedule id deadline) with
      | some service =>
          simp only [posted] at still
          cases (changed pending).symm.trans still
          rfl
      | none =>
          simp only [posted, Action.after_bind, Action.set_apply, after_onWindow, changed {},
            get?_putHosted, if_true, Option.map_some, Option.some.injEq] at still
          obtain ⟨pool, same⟩ := (Hosted.Call.after_resizes (.freeMany pending.indices)
            ⟨{ window with pending := {} }, memory.arena⟩).window
          exact absurd (congrArg (·.pending.indices) (still.symm.trans same)) waits

/-- After every run of calls, a window whose buffer no one else resizes is compacted to the records up to
the highest that is out, be it live or waiting to be freed, at once and for good. -/
theorem compaction_exact {config : MemoryConfig} {memory : Memory} (made : make config = .ok memory)
    (calls : List Call) {id : WindowId} {window : Window}
    (found : (Call.afterAll calls memory).windows.get? id = some window)
    (spared : ∀ call ∈ calls, call.Spares window.buffer) :
    (∃ released after,
      Hosted.compact ⟨window, (Call.afterAll calls memory).arena⟩ = .ok released after ∧
      Hosted.CompactedExactly ⟨window, (Call.afterAll calls memory).arena⟩ released after) ∧
    ∀ indices left,
      ((Call.freeLater id indices).after (Call.afterAll calls memory)).windows.get? id = some left →
        left.pending.indices ≠ [] → left.pool = window.pool := by
  have backs := afterAll_backs (make_wellFormed made) (make_backs made window.buffer) spared
  exact ⟨Hosted.compact_exact (backs id window found rfl),
    fun _ _ still waits => freeLater_waiting found still waits⟩

/-- A window whose second of three records waits to be freed and whose third is free. -/
def holed : List Call :=
  [.makeWindow "w" ⟨[⟨"a", .short, 0⟩, ⟨"b", .byte, 2⟩], 3⟩ {}, .window 0 (.createMany 3),
    .freeLater 0 [1], .window 0 (.free 2)]

theorem compaction_exact_holed : ∃ window released after,
    make { pageSize := 4, maxPages := 3 } = .ok small ∧
    (Call.afterAll holed small).windows.get? 0 = some window ∧
    (∀ call ∈ holed, call.Spares window.buffer) ∧
    window.pool.outstanding.toList = [0, 1] ∧ window.pending.indices = [1] ∧
    Hosted.compact ⟨window, (Call.afterAll holed small).arena⟩ = .ok released after ∧
    Hosted.CompactedExactly ⟨window, (Call.afterAll holed small).arena⟩ released after := by
  have made : make { pageSize := 4, maxPages := 3 } = .ok small := rfl
  have present : ((Call.afterAll holed small).windows.get? 0).map (fun window =>
      (window.pool.outstanding.toList, window.pending.indices)) = some ([0, 1], [1]) := by
    decide +kernel
  obtain ⟨window, found, same⟩ := Option.map_eq_some_iff.mp present
  obtain ⟨live, waiting⟩ := Prod.mk.inj same
  have spared : ∀ call ∈ holed, call.Spares window.buffer := by simp [holed, Call.Spares]
  obtain ⟨⟨released, after, ended, exact⟩, -⟩ := compaction_exact made holed found spared
  exact ⟨window, released, after, made, found, spared, live, waiting, ended, exact⟩

end Memory

end TorusEngine.Paging
