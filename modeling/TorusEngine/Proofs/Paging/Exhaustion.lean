import TorusEngine.Proofs.Paging.Refusals

/-!
# When a window reports exhaustion

A window asks for the pages of a whole page of records more, so it can be refused while the arena
still has the pages that one record more needs. That is by one page at most, and not at all if records
divide a page or fill one (`exhaustion_reported`); `refused_early` is a run where it happens.
-/

namespace TorusEngine.Paging

namespace Arena

variable {arena : Arena} {id : BufferId}

def missingPages (arena : Arena) (id : BufferId) (bytes : Nat) : Nat :=
  max (bytes ⌈/⌉ arena.pageSize) 1 - arena.pageCount id

theorem missingPages_pos (positive : 0 < arena.pageSize) {bytes : Nat}
    (outside : arena.extent id < bytes) : 0 < arena.missingPages id bytes := by
  refine Nat.sub_pos_of_lt (Nat.lt_of_not_le fun enough => ?_)
  have inside := ((Size.max_ceilDiv_le_iff positive).mp enough).1
  rw [← extent_eq_pageCount] at inside
  omega

theorem missingPages_le (positive : 0 < arena.pageSize) {bytes more : Nat} (some : 0 < more)
    (fits : bytes ≤ arena.extent id + more * arena.pageSize) : arena.missingPages id bytes ≤ more := by
  refine Nat.sub_le_of_le_add ((Size.max_ceilDiv_le_iff positive).mpr ⟨?_, by omega⟩)
  rw [Nat.add_mul, Nat.add_comm, ← extent_eq_pageCount]
  exact fits

theorem missingPages_le_succ (positive : 0 < arena.pageSize) {few many : Nat}
    (near : many ≤ few + arena.pageSize) :
    arena.missingPages id many ≤ arena.missingPages id few + 1 := by
  have enough := Size.le_max_ceilDiv_mul positive few
  have next : max (many ⌈/⌉ arena.pageSize) 1 ≤ max (few ⌈/⌉ arena.pageSize) 1 + 1 := by
    refine (Size.max_ceilDiv_le_iff positive).mpr ⟨?_, by omega⟩
    rw [Nat.add_mul, Nat.one_mul]
    omega
  unfold missingPages
  omega

theorem missingPages_of_resize {after : Arena} (wellFormed : arena.WellFormed) {bytes : Nat}
    (resized : resize id bytes arena = .ok () after) :
    arena.ownedPages.length + arena.missingPages id bytes ≤ arena.maxPages := by
  -- The pages that came are owned now, and an arena never owns more than its ceiling.
  have before := ownedPages_length_le wellFormed
  have still := ownedPages_length_le (resize_wellFormed wellFormed id bytes)
  have reshaped := resize_reshaped wellFormed id bytes
  have moved := length_ownedPages_of_resize wellFormed resized
  have sized := sizeInPages_of_resize wellFormed resized
  rw [Action.after_of_ok resized] at still reshaped
  rw [reshaped.maxPages] at still
  rw [pageCount_of_sizeInPages sized] at moved
  unfold missingPages
  omega

end Arena

namespace Hosted

open IndexPool (Popped)

def next (hosted : Hosted) : Nat :=
  hosted.window.pool.free.toList.head?.getD hosted.window.pool.highWater

/-- The records for which there have to be pages once one more is handed out. -/
def asked (hosted : Hosted) : Nat :=
  if hosted.window.pool.free.toList = [] ∧
      hosted.window.pool.highWater = hosted.window.pool.capacity then
    hosted.window.pool.capacity + hosted.arena.pageSize ⌈/⌉ hosted.window.objectSize
  else hosted.window.pool.capacity

def missingPages (hosted : Hosted) (records : Nat) : Nat :=
  hosted.arena.missingPages hosted.window.buffer (records * hosted.window.objectSize)

/-- A window that was refused a record while `used` pages of the arena were in use. -/
structure Exhausted (hosted : Hosted) (why : Refusal) (used : Nat) : Prop where
  requested : why = .arenaExhausted (used + hosted.missingPages hosted.asked) hosted.arena.maxPages
  short : hosted.arena.maxPages - used < hosted.missingPages hosted.asked
  grows : hosted.extent < hosted.asked * hosted.window.objectSize
  outside : hosted.extent < (hosted.next + 1) * hosted.window.objectSize

structure NearlyFull (hosted : Hosted) (used : Nat) : Prop where
  drained : hosted.window.pool.free.toList = []
  full : hosted.window.pool.highWater = hosted.window.pool.capacity
  missing : 0 < hosted.missingPages (hosted.window.pool.highWater + 1)
  almost : hosted.arena.maxPages - used ≤ hosted.missingPages (hosted.window.pool.highWater + 1)
  even : hosted.window.objectSize ∣ hosted.arena.pageSize ∨
    hosted.arena.pageSize ≤ hosted.window.objectSize →
      hosted.arena.maxPages - used < hosted.missingPages (hosted.window.pool.highWater + 1)

variable {hosted : Hosted} {why : Refusal}

theorem Formed.popped_next (formed : hosted.Formed) {index : Nat} {pool : IndexPool}
    (popped : Popped hosted.window.pool index pool) :
    index = hosted.next ∧ pool.capacity = hosted.asked := by
  cases popped with
  | freed queued => simp [next, asked, queued]
  | fresh drained room => simp [next, asked, drained, Nat.ne_of_lt room]
  | grown drained full proposal =>
      have marked := Nat.le_antisymm formed.pool.highWater_le full
      refine ⟨by simp [next, drained], ?_⟩
      rw [asked, if_pos ⟨drained, marked⟩]
      exact formed.raised_eq proposal

theorem exhausted_of_refused {after : Hosted} (formed : hosted.Formed)
    (refused : tryCreate hosted = .error (.refused why) after) :
    Exhausted hosted why hosted.arena.ownedPages.length := by
  obtain ⟨index, pool, left, taken, -⟩ := tryCreate_refused formed refused
  obtain ⟨rfl, capacity⟩ := formed.popped_next taken.popped
  obtain ⟨-, -, requested, short⟩ := Arena.resize_refusal formed.arena taken.exhausted
  rw [capacity] at requested short
  refine ⟨requested, ?_, capacity ▸ taken.short, ?_⟩
  · have owned := Arena.ownedPages_length_le formed.arena
    unfold missingPages Arena.missingPages
    omega
  · exact (Nat.div_lt_iff_lt_mul formed.objectSize_pos).mp (Nat.lt_succ_of_le taken.outside)

theorem Exhausted.outOfSlots (covered : hosted.Covered) {used : Nat}
    (exhausted : Exhausted hosted why used) : hosted.window.pool.free.toList = [] ∧
      hosted.window.pool.highWater = hosted.window.pool.capacity := by
  by_contra spare
  have grows := exhausted.grows
  rw [asked, if_neg spare] at grows
  exact Nat.not_lt.mpr covered grows

/-- The records of one page take at most one page more than one record takes. -/
theorem Formed.missingPages_near (formed : hosted.Formed) (records : Nat) :
    hosted.missingPages (records + hosted.arena.pageSize ⌈/⌉ hosted.window.objectSize) ≤
      hosted.missingPages (records + 1) + 1 := by
  have positive := formed.objectSize_pos
  have rounded := Nat.div_mul_le_self (hosted.arena.pageSize + hosted.window.objectSize - 1)
    hosted.window.objectSize
  rw [← Nat.ceilDiv_eq_add_pred_div] at rounded
  apply Arena.missingPages_le_succ formed.arena.pageSize_pos
  rw [Nat.add_mul, Nat.add_mul]
  omega

theorem Formed.missingPages_whole (formed : hosted.Formed)
    (divides : hosted.window.objectSize ∣ hosted.arena.pageSize) {records : Nat}
    (covered : records * hosted.window.objectSize ≤ hosted.extent) :
    hosted.missingPages (records + hosted.arena.pageSize ⌈/⌉ hosted.window.objectSize) ≤ 1 := by
  -- As many records as one page is to hold fill it exactly.
  obtain ⟨perPage, whole⟩ := divides
  have page := Nat.mul_le_mul_right hosted.window.objectSize
    ((ceilDiv_le_iff_le_mul formed.objectSize_pos).mpr whole.le)
  rw [Nat.mul_comm perPage, ← whole] at page
  apply Arena.missingPages_le formed.arena.pageSize_pos Nat.one_pos
  rw [Nat.add_mul, Nat.one_mul]
  exact Nat.add_le_add covered page

theorem Exhausted.nearlyFull (formed : hosted.Formed) (covered : hosted.Covered) {used : Nat}
    (exhausted : Exhausted hosted why used) : NearlyFull hosted used := by
  obtain ⟨drained, full⟩ := exhausted.outOfSlots covered
  have short := exhausted.short
  have outside := exhausted.outside
  rw [asked, if_pos ⟨drained, full⟩, ← full] at short
  rw [next, drained, List.head?_nil, Option.getD_none] at outside
  have missing : 0 < hosted.missingPages (hosted.window.pool.highWater + 1) :=
    Arena.missingPages_pos formed.arena.pageSize_pos outside
  refine ⟨drained, full, missing, ?_, ?_⟩
  · have near := formed.missingPages_near hosted.window.pool.highWater
    omega
  · rintro (divides | fills)
    · have records : hosted.window.pool.highWater * hosted.window.objectSize ≤ hosted.extent := by
        rw [full]
        exact covered
      have whole := formed.missingPages_whole divides records
      omega
    · have single : hosted.arena.pageSize ⌈/⌉ hosted.window.objectSize = 1 :=
        Nat.le_antisymm ((ceilDiv_le_iff_le_mul formed.objectSize_pos).mpr (by omega))
          formed.perPage_pos
      rwa [single] at short

/-- A window that has no slot left is refused if neither its own pages nor those that are free hold what
it asks for. -/
def RefusedWhenShort (hosted : Hosted) (used : Nat) : Prop :=
  hosted.window.pool.free.toList = [] → hosted.window.pool.highWater = hosted.window.pool.capacity →
    hosted.extent < (hosted.window.pool.highWater + 1) * hosted.window.objectSize →
      hosted.arena.maxPages - used < hosted.missingPages hosted.asked →
        ∃ why after, tryCreate hosted = .error (.refused why) after

theorem Backed.refusedWhenShort (backed : hosted.Backed) :
    RefusedWhenShort hosted hosted.arena.ownedPages.length := by
  intro drained full outside short
  have formed := backed.formed
  have next : hosted.next = hosted.window.pool.highWater := by simp [next, drained]
  have grows : hosted.extent < hosted.asked * hosted.window.objectSize := by
    refine Nat.lt_of_lt_of_le outside (Nat.mul_le_mul_right _ ?_)
    rw [asked, if_pos ⟨drained, full⟩, full]
    exact Nat.add_le_add_left formed.perPage_pos _
  -- Each other end needs pages that are not there: its own, free ones, or those of the next record.
  have tried := tryCreate_result backed
  generalize tryCreate hosted = ended at tried
  cases tried with
  | roomy popped room =>
      rw [(formed.popped_next popped).2] at room
      exact absurd room (Nat.not_le.mpr grows)
  | grown popped _ resized =>
      have came := Arena.missingPages_of_resize backed.arena resized
      rw [(formed.popped_next popped).2] at came
      unfold missingPages at short
      omega
  | squeezed popped _ exhausted fits =>
      rw [(formed.popped_next popped).1, next] at fits
      have inside := (Nat.le_div_iff_mul_le backed.objectSize_pos).mp (Nat.succ_le_of_lt fits)
      exact absurd inside (Nat.not_le.mpr outside)
  | refused => exact ⟨_, _, rfl⟩

structure ReportsExhaustion (hosted : Hosted) (used : Nat) : Prop where
  only : ∀ why after, tryCreate hosted = .error (.refused why) after → Exhausted hosted why used
  nearlyFull : hosted.Covered → ∀ why after, tryCreate hosted = .error (.refused why) after →
    NearlyFull hosted used

end Hosted

namespace Memory

/-- After every run of calls, a window that reports exhaustion asked for more pages than are free. If its
pages cover its capacity, it had no slot left, and no more pages are free than one record more takes;
where records divide a page or fill one, fewer are free. -/
theorem exhaustion_reported {config : MemoryConfig} {memory : Memory} (made : make config = .ok memory)
    (calls : List Call) {id : WindowId} {window : Window}
    (found : (Call.afterAll calls memory).windows.get? id = some window) :
    ∃ used, (Call.afterAll calls memory).arena.pagesInUse = .ok used ∧
      Hosted.ReportsExhaustion ⟨window, (Call.afterAll calls memory).arena⟩ used ∧
      ((∀ call ∈ calls, call.Spares window.buffer) →
        Hosted.Covered ⟨window, (Call.afterAll calls memory).arena⟩ ∧
        Hosted.RefusedWhenShort ⟨window, (Call.afterAll calls memory).arena⟩ used) := by
  have wellFormed := make_wellFormed made
  have formed := afterAll_forms wellFormed (make_forms made) calls id window found
  refine ⟨_, Arena.pagesInUse_eq formed.arena, ⟨?_, ?_⟩, fun spared => ?_⟩
  · exact fun why after refused => Hosted.exhausted_of_refused formed refused
  · exact fun covered why after refused =>
      (Hosted.exhausted_of_refused formed refused).nearlyFull formed covered
  · have backed := afterAll_backs wellFormed (make_backs made window.buffer) spared id window found rfl
    exact ⟨backed.capacity_le, backed.refusedWhenShort⟩

theorem exhaustion_reported_crowded : ∃ window why after,
    make { pageSize := 4, maxPages := 3 } = .ok small ∧
    (Call.afterAll crowded small).windows.get? 0 = some window ∧
    Hosted.tryCreate ⟨window, (Call.afterAll crowded small).arena⟩ = .error (.refused why) after ∧
    Hosted.Exhausted ⟨window, (Call.afterAll crowded small).arena⟩ why 3 ∧
    Hosted.NearlyFull ⟨window, (Call.afterAll crowded small).arena⟩ 3 := by
  have made : make { pageSize := 4, maxPages := 3 } = .ok small := rfl
  have present : ((Call.afterAll crowded small).windows.get? 0).map (fun window =>
      Action.answer Hosted.tryCreate ⟨window, (Call.afterAll crowded small).arena⟩) =
        some (.error (.refused (.arenaExhausted 4 3))) := by decide +kernel
  obtain ⟨window, found, ended⟩ := Option.map_eq_some_iff.mp present
  have refused := Action.error_of_answer ended
  obtain ⟨used, inUse, reports, exact⟩ := exhaustion_reported made crowded found
  have three : (Call.afterAll crowded small).arena.pagesInUse = .ok 3 := by decide +kernel
  cases three.symm.trans inUse
  have covered := (exact (by simp [crowded, Call.Spares, Arena.Call.Spares])).1
  exact ⟨window, _, _, made, found, refused, reports.only _ _ refused,
    reports.nearlyFull covered _ _ refused⟩

def pageLeft : List Call :=
  [.makeWindow "w" ⟨[⟨"a", .short, 0⟩, ⟨"b", .byte, 2⟩], 3⟩ {}, .window 0 .tryCreate]

/-- A window may be refused a record for which there is a page. -/
theorem refused_early : ∃ memory window after,
    make { pageSize := 4, maxPages := 2 } = .ok memory ∧
    (Call.afterAll pageLeft memory).windows.get? 0 = some window ∧
    Hosted.tryCreate ⟨window, (Call.afterAll pageLeft memory).arena⟩ =
      .error (.refused (.arenaExhausted 3 2)) after ∧
    (Call.afterAll pageLeft memory).arena.pagesInUse = .ok 1 ∧
    Hosted.missingPages ⟨window, (Call.afterAll pageLeft memory).arena⟩
      (window.pool.highWater + 1) = 1 := by
  let memory : Memory :=
    { arena := { pageSize := 4, maxPages := 2, pool := .withCapacity 1 (Arena.pageGrowth 2) } }
  have present : ((Call.afterAll pageLeft memory).windows.get? 0).map (fun window =>
      (Action.answer Hosted.tryCreate ⟨window, (Call.afterAll pageLeft memory).arena⟩,
        Hosted.missingPages ⟨window, (Call.afterAll pageLeft memory).arena⟩
          (window.pool.highWater + 1))) =
      some (.error (.refused (.arenaExhausted 3 2)), 1) := by decide +kernel
  obtain ⟨window, found, ended⟩ := Option.map_eq_some_iff.mp present
  obtain ⟨refused, missing⟩ := Prod.mk.inj ended
  exact ⟨memory, window, _, rfl, found, Action.error_of_answer refused, by decide +kernel, missing⟩

end Memory

end TorusEngine.Paging
