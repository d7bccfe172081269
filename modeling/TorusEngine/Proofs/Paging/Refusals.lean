import TorusEngine.Proofs.Paging.Uploads

/-!
# Refused records

A window that cannot get the pages for a new record has handed the record's index out already, so it
takes the index back and compacts its pool (`Hosted.tryCreate_refused`). Where the pages cover the
capacity, the index came from growth, and nothing is left of the attempt. Several records are made or
none: what was made before the refusal is given back, while the pages that came for it stay
(`refusals_undone`).
-/

namespace TorusEngine.Paging

/-! ## Why an arena refuses -/

theorem checkBlock_error {count width : Nat} {fault : Fault}
    (failed : Size.checkBlock count width = .error fault) : fault = .outOfAddressSpace := by
  unfold Size.checkBlock at failed
  split at failed
  · cases failed
  · exact (Except.error.inj failed).symm

namespace Arena

variable {arena after : Arena} {why : Refusal}

theorem takePages_refusal (wellFormed : arena.WellFormed) {count : Nat}
    (refused : takePages count arena = .error (.refused why) after) :
    after = arena ∧ why = .arenaExhausted (arena.ownedPages.length + count) arena.maxPages ∧
      arena.maxPages < arena.ownedPages.length + count := by
  rcases Nat.lt_or_ge arena.maxPages (arena.ownedPages.length + count) with full | room
  · rcases Nat.lt_or_ge (arena.ownedPages.length + count) Size.limit with fits | wide
    · rw [takePages_of_full wellFormed full fits] at refused
      cases refused
      exact ⟨rfl, rfl, full⟩
    · cases (takePages_of_wide wellFormed wide).symm.trans refused
  · obtain ⟨pages, pool, answered, -⟩ := takePages_of_room wellFormed room
    cases answered.symm.trans refused

theorem resize_refusal (wellFormed : arena.WellFormed) {id : BufferId} {bytes : Nat}
    (refused : resize id bytes arena = .error (.refused why) after) :
    after = arena ∧ arena.pageCount id < max (bytes ⌈/⌉ arena.pageSize) 1 ∧
      why = .arenaExhausted (arena.ownedPages.length +
        (max (bytes ⌈/⌉ arena.pageSize) 1 - arena.pageCount id)) arena.maxPages ∧
      arena.maxPages < arena.ownedPages.length +
        (max (bytes ⌈/⌉ arena.pageSize) 1 - arena.pageCount id) := by
  cases live : arena.buffers.get? id with
  | none => cases (resize_of_missing wellFormed live bytes).symm.trans refused
  | some buffer =>
      have count := pagesFor_eq wellFormed.pageSize_pos bytes
      have size := sizeInPages_of_live live
      have result := resize_result wellFormed live bytes
      rw [refused] at result
      simp only [pageCount, live, Option.elim_some]
      generalize max (bytes ⌈/⌉ arena.pageSize) 1 = wanted at count result ⊢
      cases result with
      | refused fault grows =>
          cases took : takePages (wanted - buffer.table.size) arena with
          | ok pages left => simp [resize, count, size, grows, took, changeBuffer] at refused
          | error fault left =>
              simp [resize, count, size, grows, took] at refused
              obtain ⟨rfl, rfl⟩ := refused
              exact ⟨rfl, grows, (takePages_refusal wellFormed took).2⟩

theorem Adds.byteAt? (adds : Adds arena after) {id : BufferId} {address : Nat} {byte : UInt8}
    (holds : arena.byteAt? id address = some byte) : after.byteAt? id address = some byte := by
  rw [← holds]
  apply byteAt?_congr adds.pageSize adds.store
  obtain ⟨place, placed, -⟩ := Option.map_eq_some_iff.mp holds
  obtain ⟨physical, found, -⟩ := place?_eq_some_iff.mp placed
  rw [found, physicalPage?_eq_slot]
  rw [physicalPage?_eq_slot] at found
  obtain ⟨entry, listed, same⟩ := Option.map_eq_some_iff.mp found
  rw [adds.kept _ _ _ listed, Option.map_some, same]

theorem Adds.read (adds : Adds arena after) (wellFormed : arena.WellFormed)
    (stillWellFormed : after.WellFormed) {id : BufferId} {address length : Nat} {bytes : List UInt8}
    (nonempty : length ≠ 0) (answered : arena.read id address length = .ok bytes) :
    after.read id address length = .ok bytes := by
  obtain ⟨buffer, live, inside⟩ := inside_of_read wellFormed answered nonempty
  -- Every byte of the range is in its place, and the last one shows that the buffer still reaches it.
  have kept (target : Nat) (reached : target < address + length) :
      after.byteAt? id target = arena.byteAt? id target := by
    obtain ⟨byte, holds⟩ := Option.isSome_iff_exists.mp
      (byteAt?_isSome wellFormed.pageSize_pos (Nat.lt_of_lt_of_le reached inside))
    rw [holds, adds.byteAt? holds]
  obtain ⟨last, holds⟩ := Option.isSome_iff_exists.mp
    (byteAt?_isSome wellFormed.pageSize_pos (show address + length - 1 < arena.extent id by omega))
  have still := inside_of_byteAt? stillWellFormed.pageSize_pos (adds.byteAt? holds)
  obtain ⟨pages, listed, -⟩ := (inside_iff stillWellFormed.pageSize_pos).mp still
  rw [tables_get?, Option.map_eq_some_iff] at listed
  obtain ⟨left, present, -⟩ := listed
  rw [read_inside wellFormed live inside] at answered
  rw [read_inside stillWellFormed present (by omega), ← answered]
  exact congrArg _ (bytesFrom_congr fun target _ reached => kept target reached)

end Arena

/-! ## The growth rule stays -/

namespace IndexPool

def SameGrowth (pool after : IndexPool) : Prop := after.growth = pool.growth

instance : Std.Refl SameGrowth := ⟨fun _ => rfl⟩

instance : Trans SameGrowth SameGrowth SameGrowth := ⟨fun first second => second.trans first⟩

theorem pop_sameGrowth : Action.Respects SameGrowth pop := by
  intro pool
  cases popped : pop pool with
  | ok index after =>
      rw [Action.after_of_ok popped]
      exact (pop_ok popped).growth_eq
  | error fault after =>
      rw [Action.after_of_error popped, pop_error popped]
      exact Std.Refl.refl pool

theorem pop_fault {pool after : IndexPool} {fault : Fault} (failed : pop pool = .error fault after) :
    pool.growth pool.capacity = .error fault ∨ fault = .overflow .add := by
  cases queued : pool.free.pop? with
  | some entry => simp [pop_of_freed queued] at failed
  | none =>
      rcases Nat.lt_or_ge pool.highWater pool.capacity with room | full
      · simp [pop_of_room queued room, takeFresh_eq] at failed
      · rw [pop_of_full queued full] at failed
        cases proposal : pool.growth pool.capacity with
        | error cause =>
            simp [grow, proposal] at failed
            exact .inl (by rw [failed.1])
        | ok proposed =>
            by_cases fits : pool.capacity + 1 < Size.limit
            · simp [grow_of_proposal proposal fits, takeFresh_eq] at failed
            · simp [grow, proposal, Size.add, fits] at failed
              exact .inr failed.1.symm

theorem giveBackMany_sameGrowth (indices : List Nat) :
    Action.Respects SameGrowth (giveBackMany indices) := by
  intro pool
  obtain ⟨given, -, returned⟩ := giveBackMany_returns indices pool
  exact returned.growth_eq

theorem compact_sameGrowth (shrink : Shrink) : Action.Respects SameGrowth (compact shrink) := by
  intro pool
  have trimmed : SameGrowth pool pool.trim := trim_growth pool
  rw [compact, Action.after_bind]
  simp only [Action.modify_apply]
  change SameGrowth pool (Action.after _ pool.trim)
  rw [Action.after_bind]
  simp only [Action.get_apply, Action.after_bind, Action.liftM_apply]
  cases shrink pool.trim.highWater pool.trim.capacity with
  | error fault => exact trimmed
  | ok proposed =>
      by_cases reversed : pool.trim.capacity < pool.trim.highWater <;>
        simpa [reversed, Action.after, Action.outcome, SameGrowth] using trimmed

theorem compact_outstanding_iff {pool after : IndexPool} (wellFormed : pool.WellFormed)
    {shrink : Shrink} {kept : Nat} (compacted : compact shrink pool = .ok kept after) (index : Nat) :
    index ∈ after.outstanding ↔ index ∈ pool.outstanding := by
  rw [compact_eq wellFormed] at compacted
  split at compacted
  · cases compacted
    exact trim_outstanding wellFormed index
  · cases compacted

end IndexPool

namespace Hosted

open EStateM (Result)
open IndexPool (Popped)

def SameGrowth (hosted after : Hosted) : Prop := hosted.window.pool.SameGrowth after.window.pool

instance : Std.Refl SameGrowth := ⟨fun _ => rfl⟩

instance : Trans SameGrowth SameGrowth SameGrowth := ⟨fun first second => second.trans first⟩

theorem onPool_sameGrowth {α : Type} {action : Action IndexPool α}
    (keeps : Action.Respects IndexPool.SameGrowth action) :
    Action.Respects SameGrowth (onPool action) := by
  intro hosted
  rw [after_onPool]
  exact keeps hosted.window.pool

theorem onArena_sameGrowth {α : Type} (action : Action Arena α) :
    Action.Respects SameGrowth (onArena action) := by
  intro hosted
  rw [after_onArena]
  rfl

theorem fitBuffer_sameGrowth : Action.Respects SameGrowth fitBuffer := by
  intro hosted
  rcases after_fitBuffer hosted with same | ⟨_, _, -, -, resized⟩
  · rw [same]
    rfl
  · rw [resized]
    rfl

theorem tryCreate_sameGrowth : Action.Respects SameGrowth tryCreate :=
  tryCreate_respects (onPool_sameGrowth IndexPool.pop_sameGrowth)
    (fun indices => onPool_sameGrowth (IndexPool.giveBackMany_sameGrowth indices))
    (fun shrink => onPool_sameGrowth (IndexPool.compact_sameGrowth shrink)) fitBuffer_sameGrowth

theorem compact_sameGrowth : Action.Respects SameGrowth compact := by
  apply Action.Respects.get_bind
  intro hosted
  refine ((Action.Respects.ofExcept _).bind fun before =>
    (onPool_sameGrowth (IndexPool.compact_sameGrowth _)).bind fun capacity =>
    (Action.Respects.ofExcept _).bind fun bytes => (onArena_sameGrowth _).bind fun _ =>
    Action.Respects.get_bind fun left => ?_) hosted
  exact ((Action.Respects.ofExcept _).bind fun pages => Action.Respects.pure _) left

theorem Call.after_sameGrowth (call : Hosted.Call) (hosted : Hosted) :
    SameGrowth hosted (call.after hosted) :=
  call.respects tryCreate_sameGrowth
    (fun indices => onPool_sameGrowth (IndexPool.giveBackMany_sameGrowth indices))
    (fun _ => compact_sameGrowth) hosted

/-! ## Taking a record back -/

variable {hosted after : Hosted}

theorem fitBuffer_ok (fitted : fitBuffer hosted = .ok () after) : after.window = hosted.window := by
  rcases after_fitBuffer hosted with same | ⟨_, _, -, -, resized⟩
  · rw [← Action.after_of_ok fitted, same]
  · rw [← Action.after_of_ok fitted, resized]

/-- The pages hold as many records as the pool promises. -/
def Covered (hosted : Hosted) : Prop :=
  hosted.window.pool.capacity * hosted.window.objectSize ≤ hosted.extent

theorem fitBuffer_covers (wellFormed : hosted.arena.WellFormed)
    (fitted : fitBuffer hosted = .ok () after) : after.Covered := by
  cases product : Size.mul hosted.window.pool.capacity hosted.window.objectSize with
  | error fault => simp [fitBuffer, product] at fitted
  | ok needed =>
      obtain ⟨rfl, -⟩ := Size.eq_of_mul_eq_ok product
      cases sized : hosted.sizeInBytes with
      | error fault => simp [fitBuffer, product, sized] at fitted
      | ok size =>
          obtain ⟨-, -, rfl⟩ := Arena.live_of_sizeInBytes wellFormed sized
          by_cases short : hosted.arena.extent hosted.window.buffer <
              hosted.window.pool.capacity * hosted.window.objectSize
          · cases resized : Arena.resize hosted.window.buffer
                (hosted.window.pool.capacity * hosted.window.objectSize) hosted.arena with
            | error fault left =>
                simp [fitBuffer, product, sized, short, onArena_apply, resized] at fitted
            | ok answer left =>
                simp [fitBuffer, product, sized, short, onArena_apply, resized] at fitted
                subst fitted
                have continues := (Arena.Call.resize hosted.window.buffer
                  (hosted.window.pool.capacity * hosted.window.objectSize)).after_continues wellFormed
                rw [Arena.Call.after, Arena.Call.perform, Action.after_of_ok resized] at continues
                have pages := Arena.sizeInPages_of_resize wellFormed resized
                rw [Covered, extent, Arena.extent_of_sizeInPages pages, continues.pageSize]
                exact Size.le_max_ceilDiv_mul wellFormed.pageSize_pos _
          · simp [fitBuffer, product, sized, short] at fitted
            subst fitted
            exact Nat.not_lt.mp short

theorem fitBuffer_refusal (wellFormed : hosted.arena.WellFormed) {why : Refusal}
    (refused : fitBuffer hosted = .error (.refused why) after) :
    after = hosted ∧ hosted.sizeInBytes = .ok hosted.extent ∧
      hosted.extent < hosted.window.pool.capacity * hosted.window.objectSize ∧
      Arena.resize hosted.window.buffer (hosted.window.pool.capacity * hosted.window.objectSize)
        hosted.arena = .error (.refused why) hosted.arena := by
  cases live : hosted.arena.buffers.get? hosted.window.buffer with
  | none =>
      have missing : hosted.sizeInBytes = .error .unknownName := by
        simp [sizeInBytes, Arena.sizeInBytes, Arena.sizeInPages_of_missing live, bind, Except.bind]
      by_cases fits : hosted.window.pool.capacity * hosted.window.objectSize < Size.limit <;>
        simp [fitBuffer, Size.mul, fits, missing] at refused
  | some buffer =>
      have sized : hosted.sizeInBytes = .ok hosted.extent := Arena.sizeInBytes_of_live wellFormed live
      by_cases fits : hosted.window.pool.capacity * hosted.window.objectSize < Size.limit
      · by_cases short :
            hosted.extent < hosted.window.pool.capacity * hosted.window.objectSize
        · cases ended : Arena.resize hosted.window.buffer
              (hosted.window.pool.capacity * hosted.window.objectSize) hosted.arena with
          | ok answer left =>
              simp [fitBuffer, Size.mul, fits, sized, short, onArena_apply, ended] at refused
          | error fault left =>
              simp [fitBuffer, Size.mul, fits, sized, short, onArena_apply, ended] at refused
              obtain ⟨rfl, rfl⟩ := refused
              obtain ⟨rfl, -⟩ := Arena.resize_refusal wellFormed ended
              exact ⟨rfl, sized, short, rfl⟩
        · simp [fitBuffer, Size.mul, fits, sized, short] at refused
      · simp [fitBuffer, Size.mul, fits] at refused

/-- A pool that took back what it had handed out for a record, and was compacted to what fits on the
pages that are there. -/
structure TakenBack (hosted : Hosted) (why : Refusal) (index : Nat) (pool left : IndexPool) :
    Prop where
  popped : Popped hosted.window.pool index pool
  short : hosted.extent < pool.capacity * hosted.window.objectSize
  outside : hosted.extent / hosted.window.objectSize ≤ index
  exhausted : Arena.resize hosted.window.buffer (pool.capacity * hosted.window.objectSize)
    hosted.arena = .error (.refused why) hosted.arena
  undone : ∃ given kept, IndexPool.giveBack index pool = .ok () given ∧
    IndexPool.compact (fun _ _ => .ok (hosted.extent / hosted.window.objectSize)) given =
      .ok kept left

theorem Formed.pop_refused (formed : hosted.Formed) {fault : Fault} {pool : IndexPool}
    (failed : IndexPool.pop hosted.window.pool = .error fault pool) : fault = .overflow .add := by
  rcases IndexPool.pop_fault failed with proposal | overflow
  · rw [formed.growth, Window.recordGrowth, Size.add] at proposal
    split at proposal
    · cases proposal
    · exact (Except.error.inj proposal).symm
  · exact overflow

inductive Attempted (hosted : Hosted) : Result Fault Hosted Nat → Prop where
  | broken {fault : Fault} {after : Hosted} (unplanned : ∀ why, fault ≠ .refused why) :
      Attempted hosted (.error fault after)
  | fitted {index : Nat} {pool : IndexPool} {after : Hosted}
      (popped : Popped hosted.window.pool index pool) (window : after.window.pool = pool)
      (covered : after.Covered) : Attempted hosted (.ok index after)
  | squeezed {index kept : Nat} {pool left : IndexPool}
      (popped : Popped hosted.window.pool index pool)
      (fits : index < hosted.extent / hosted.window.objectSize)
      (compacted : IndexPool.compact (fun _ _ => .ok (hosted.extent / hosted.window.objectSize))
        pool = .ok kept left) : Attempted hosted (.ok index (hosted.withPool left))
  | takenBack {why : Refusal} {index : Nat} {pool left : IndexPool}
      (taken : TakenBack hosted why index pool left) :
      Attempted hosted (.error (.refused why) (hosted.withPool left))

theorem attempted_of_refusal (formed : hosted.Formed) {index : Nat} {pool : IndexPool} {why : Refusal}
    (popped : IndexPool.pop hosted.window.pool = .ok index pool)
    (refused : fitBuffer (hosted.withPool pool) = .error (.refused why) after) :
    Attempted hosted (tryCreate hosted) := by
  obtain ⟨rfl, sized, short, exhausted⟩ := fitBuffer_refusal (by exact formed.arena) refused
  have became := IndexPool.pop_ok popped
  have wellFormed := became.wellFormed formed.pool
  rcases Nat.lt_or_ge index (hosted.extent / hosted.window.objectSize) with fits | outside
  · have compacted := IndexPool.compact_eq wellFormed
      fun _ _ => .ok (hosted.extent / hosted.window.objectSize)
    rw [tryCreate_of_squeezed popped sized refused fits compacted]
    exact .squeezed became fits compacted
  · have outstanding := (became.outstanding_iff index).mpr (.inl rfl)
    have returned := IndexPool.giveBack_of_outstanding outstanding
    have given : IndexPool.GivenBack pool [index] _ := .cons outstanding (.nil _)
    have compacted := IndexPool.compact_eq (given.wellFormed wellFormed)
      fun _ _ => .ok (hosted.extent / hosted.window.objectSize)
    rw [tryCreate_of_refused popped sized refused outside returned compacted]
    exact .takenBack ⟨became, short, outside, exhausted, _, _, returned, compacted⟩

theorem tryCreate_attempted (formed : hosted.Formed) : Attempted hosted (tryCreate hosted) := by
  cases popped : IndexPool.pop hosted.window.pool with
  | error fault pool =>
      simpa [tryCreate, onPool_apply, popped, formed.pop_refused popped] using
        .broken fun why => Fault.noConfusion
  | ok index pool =>
      have became := IndexPool.pop_ok popped
      cases fitted : fitBuffer (hosted.withPool pool) with
      | ok answer after =>
          rw [tryCreate_of_grown popped fitted]
          exact .fitted became (by rw [fitBuffer_ok fitted, withPool_pool])
            (fitBuffer_covers (hosted.withPool_arena pool ▸ formed.arena) fitted)
      | error fault after =>
          cases fault with
          | refused why => exact attempted_of_refusal formed popped fitted
          | _ =>
              simpa [tryCreate, onPool_apply, popped, Action.refusal?, fitted] using
                .broken fun why => Fault.noConfusion

namespace TakenBack

variable {why : Refusal} {index : Nat} {pool left : IndexPool}

theorem capacity_lt (taken : TakenBack hosted why index pool left) (covered : hosted.Covered) :
    hosted.window.pool.capacity < pool.capacity :=
  Nat.lt_of_mul_lt_mul_right (Nat.lt_of_le_of_lt covered taken.short)

theorem same (taken : TakenBack hosted why index pool left) (formed : hosted.Formed)
    (covered : hosted.Covered) : IndexPool.Same hosted.window.pool left := by
  -- A number from the queue or from below the mark needs no more than is there, so this one is new.
  have more := taken.capacity_lt covered
  obtain ⟨drained, full, rfl, rfl⟩ :=
    (formed.capacity_of_popped taken.popped).resolve_left (Nat.ne_of_gt more)
  have above : hosted.window.pool.highWater < hosted.window.pool.capacity +
      hosted.arena.pageSize ⌈/⌉ hosted.window.objectSize := by
    rw [full]
    exact Nat.lt_add_of_pos_right formed.perPage_pos
  obtain ⟨given, kept, after, returned, compacted, same⟩ :=
    IndexPool.withdraw formed.pool drained full.ge above taken.outside
  obtain ⟨_, _, returnedToo, compactedToo⟩ := taken.undone
  cases returned.symm.trans returnedToo
  cases compacted.symm.trans compactedToo
  exact same

theorem outstanding_iff (taken : TakenBack hosted why index pool left)
    (wellFormed : hosted.window.pool.WellFormed) (other : Nat) :
    other ∈ left.outstanding ↔ other ∈ hosted.window.pool.outstanding := by
  have fresh := taken.popped.fresh_index wellFormed
  have outstanding := (taken.popped.outstanding_iff index).mpr (.inl rfl)
  have given : IndexPool.GivenBack pool [index] _ := .cons outstanding (.nil _)
  have givenWellFormed := given.wellFormed (taken.popped.wellFormed wellFormed)
  obtain ⟨_, kept, returned, compacted⟩ := taken.undone
  cases (IndexPool.giveBack_of_outstanding outstanding).symm.trans returned
  rw [IndexPool.compact_outstanding_iff givenWellFormed compacted, given.outstanding_iff,
    taken.popped.outstanding_iff, List.mem_singleton]
  constructor
  · rintro ⟨same | before, different⟩
    · exact absurd same different
    · exact before
  · intro before
    exact ⟨.inr before, fun same => fresh (same ▸ before)⟩

end TakenBack

theorem tryCreate_refused (formed : hosted.Formed) {why : Refusal}
    (refused : tryCreate hosted = .error (.refused why) after) :
    ∃ index pool left, TakenBack hosted why index pool left ∧ after = hosted.withPool left := by
  have attempted := tryCreate_attempted formed
  rw [refused] at attempted
  cases attempted with
  | broken unplanned => exact absurd rfl (unplanned why)
  | takenBack taken => exact ⟨_, _, _, taken, rfl⟩

theorem tryCreate_enters (formed : hosted.Formed) {index : Nat}
    (made : tryCreate hosted = .ok index after) : index ∉ hosted.window.pool.outstanding ∧
      ∀ other, other ∈ after.window.pool.outstanding ↔
        other = index ∨ other ∈ hosted.window.pool.outstanding := by
  have attempted := tryCreate_attempted formed
  rw [made] at attempted
  cases attempted with
  | fitted popped window covered =>
      refine ⟨popped.fresh_index formed.pool, fun other => ?_⟩
      rw [window, popped.outstanding_iff]
  | squeezed popped fits compacted =>
      have wellFormed := popped.wellFormed formed.pool
      refine ⟨popped.fresh_index formed.pool, fun other => ?_⟩
      exact (IndexPool.compact_outstanding_iff wellFormed compacted other).trans
        (popped.outstanding_iff other)

theorem Call.after_formed (call : Hosted.Call) (formed : hosted.Formed) :
    (call.after hosted).Formed := by
  have resizes := call.after_resizes hosted
  obtain ⟨pool, window⟩ := resizes.window
  obtain ⟨arena, continues⟩ := resizes.arena formed.arena
  have size : (call.after hosted).window.objectSize = hosted.window.objectSize := by
    rw [window]
    rfl
  constructor
  · exact arena
  · exact (call.after_bytes formed.arena formed.pool).1
  · rw [size]
    exact formed.objectSize_pos
  · rw [size, continues.pageSize]
    exact (call.after_sameGrowth hosted).trans formed.growth

theorem Formed.tryCreate (formed : hosted.Formed) {index : Nat}
    (made : tryCreate hosted = .ok index after) : after.Formed := by
  have left : Call.after .tryCreate hosted = after :=
    (Action.after_map _ _ _).trans (Action.after_of_ok made)
  exact left ▸ Call.after_formed .tryCreate formed

theorem tryCreateInto_refused (formed : hosted.Formed) {count : Nat} {made : List Nat}
    (distinct : made.Nodup) (outstanding : ∀ index ∈ made, index ∈ hosted.window.pool.outstanding)
    {why : Refusal} (refused : tryCreateInto count made hosted = .error (.refused why) after)
    (index : Nat) : index ∈ after.window.pool.outstanding ↔
      index ∈ hosted.window.pool.outstanding ∧ index ∉ made := by
  -- The records in `made` are out, and all that this call took; the window is another one each time.
  induction count generalizing hosted made with
  | zero => cases refused
  | succ count ih =>
      cases ran : Hosted.tryCreate hosted with
      | ok first middle =>
          simp only [tryCreateInto, ran] at refused
          obtain ⟨fresh, entered⟩ := tryCreate_enters formed ran
          have absent : first ∉ made := fun again => fresh (outstanding first again)
          rw [ih (formed.tryCreate ran) (List.nodup_cons.mpr ⟨absent, distinct⟩) ?_ refused, entered,
            List.mem_cons, not_or]
          · constructor
            · rintro ⟨rfl | before, different, kept⟩
              · exact absurd rfl different
              · exact ⟨before, kept⟩
            · rintro ⟨before, kept⟩
              exact ⟨.inr before, fun same => fresh (same ▸ before), kept⟩
          · intro other member
            rcases List.mem_cons.mp member with rfl | earlier
            · exact (entered _).mpr (.inl rfl)
            · exact (entered _).mpr (.inr (outstanding other earlier))
      | error fault middle =>
          cases fault with
          | refused cause =>
              obtain ⟨first, pool, left, taken, rfl⟩ := tryCreate_refused formed ran
              have kept := taken.outstanding_iff formed.pool
              have still : ∀ other ∈ made.reverse, other ∈ left.outstanding := fun other member =>
                (kept other).mpr (outstanding other (List.mem_reverse.mp member))
              obtain ⟨given, answered, returned⟩ :=
                IndexPool.giveBackMany_of_outstanding (List.nodup_reverse.mpr distinct) still
              simp [tryCreateInto, ran, onPool_apply, answered] at refused
              rw [← refused.2, withPool_pool, returned.outstanding_iff, kept, List.mem_reverse]
          | _ => simp [tryCreateInto, ran] at refused

structure Undone (hosted after : Hosted) : Prop where
  arena : after.arena = hosted.arena
  pool : IndexPool.Same hosted.window.pool after.window.pool
  window : after.window = { hosted.window with pool := after.window.pool }

/-- No record is left of an attempt to make several. Pages may have come for them. -/
structure GivenBack (hosted after : Hosted) : Prop where
  outstanding_iff : ∀ index,
    index ∈ after.window.pool.outstanding ↔ index ∈ hosted.window.pool.outstanding
  window : after.window = { hosted.window with pool := after.window.pool }
  entries : ∀ id page entry, hosted.arena.slot? id page = some entry →
    after.arena.slot? id page = some entry
  reads : ∀ id address length bytes, length ≠ 0 →
    hosted.arena.read id address length = .ok bytes → after.arena.read id address length = .ok bytes

theorem undone_of_refused (formed : hosted.Formed) (covered : hosted.Covered) {why : Refusal}
    (refused : tryCreate hosted = .error (.refused why) after) : Undone hosted after := by
  obtain ⟨index, pool, left, taken, rfl⟩ := tryCreate_refused formed refused
  exact ⟨rfl, taken.same formed covered, rfl⟩

theorem givenBack_of_refused (formed : hosted.Formed) {count : Nat} {why : Refusal}
    (refused : tryCreateMany count hosted = .error (.refused why) after) : GivenBack hosted after := by
  have respects {relation : Hosted → Hosted → Prop} [Std.Refl relation]
      [Trans relation relation relation] (makes : Action.Respects relation tryCreate)
      (pools : ∀ indices, Action.Respects relation (onPool (IndexPool.giveBackMany indices))) :
      relation hosted after := (tryCreateMany_respects makes pools count).of_error refused
  obtain ⟨stillWellFormed, adds⟩ := respects tryCreate_adds (fun _ => onPool_adds _) formed.arena
  have resizes : Resizes hosted.window.buffer hosted after :=
    respects tryCreate_resizes fun _ => onPool_resizes _
  obtain ⟨pool, window⟩ := resizes.window
  refine ⟨fun index => ?_, by rw [window], adds.kept, fun id address length bytes nonempty =>
    adds.read formed.arena stillWellFormed nonempty⟩
  cases listed : Size.checkBlock count 8 with
  | error fault =>
      simp [tryCreateMany, listed, checkBlock_error listed] at refused
  | ok =>
      simp only [tryCreateMany, Action.bind_apply, Action.liftM_apply, listed] at refused
      rw [tryCreateInto_refused formed List.nodup_nil (by simp) refused]
      simp

structure TakesRefusals (hosted : Hosted) : Prop where
  one : hosted.Covered → ∀ why after,
    tryCreate hosted = .error (.refused why) after → Undone hosted after
  many : ∀ count why after,
    tryCreateMany count hosted = .error (.refused why) after → GivenBack hosted after

theorem Formed.congr {window : Window} {arena after : Arena} (formed : Formed ⟨window, arena⟩)
    (wellFormed : after.WellFormed) (pageSize : after.pageSize = arena.pageSize) :
    Formed ⟨window, after⟩ where
  arena := wellFormed
  pool := formed.pool
  objectSize_pos := formed.objectSize_pos
  growth := by
    rw [pageSize]
    exact formed.growth

end Hosted

namespace Memory

/-! ## The windows of a memory -/

def Forms (memory : Memory) : Prop :=
  ∀ id window, memory.windows.get? id = some window → Hosted.Formed ⟨window, memory.arena⟩

theorem Call.after_forms {memory : Memory} (wellFormed : memory.WellFormed) (forms : memory.Forms)
    (call : Call) : (call.after memory).Forms := by
  have still := call.after_wellFormed wellFormed
  have pageSize := call.pageSize_after wellFormed
  have leaves := call.after_leaves wellFormed.arena
  generalize call.after memory = after at *
  intro id changed found
  -- A new window is backed; of those that were there, only the one that is called changes its pool.
  cases leaves with
  | direct consists => exact (forms id changed found).congr still.arena pageSize
  | @made name bytes window _ left buffer more backed =>
      obtain ⟨-, rfl⟩ | found := Dictionary.get?_of_insert found
      · exact backed.formed
      · exact (forms id changed found).congr still.arena pageSize
  | dropped other => exact forms id changed (Dictionary.get?_of_erase found)
  | @hosted other window present inner =>
      rw [get?_putHosted] at found
      split at found
      · rename_i same
        subst same
        rw [present, Option.map_some, Option.some.injEq] at found
        subst found
        exact inner.after_formed (forms other window present)
      · exact (forms id changed found).congr still.arena pageSize
  | freed frees =>
      obtain ⟨window, given, before, returned, same⟩ := frees.windows id changed found
      have formed := forms id window before
      have size : changed.objectSize = window.objectSize := by
        rw [same]
        rfl
      rw [frees.arena]
      constructor
      · exact formed.arena
      · exact returned.wellFormed formed.pool
      · exact size ▸ formed.objectSize_pos
      · simp only [size]
        exact returned.growth_eq.trans formed.growth

theorem afterAll_forms {memory : Memory} (wellFormed : memory.WellFormed) (forms : memory.Forms)
    (calls : List Call) : (Call.afterAll calls memory).Forms := by
  induction calls generalizing memory with
  | nil => exact forms
  | cons call rest ih =>
      exact ih (call.after_wellFormed wellFormed) (call.after_forms wellFormed forms)

theorem make_forms {config : MemoryConfig} {memory : Memory} (made : make config = .ok memory) :
    memory.Forms := fun id window found =>
  (make_backs made window.buffer id window found rfl).formed

/-- After every run of calls, a refused record leaves no trace on a window whose pages cover its
capacity, which they do if no one else resizes its buffer. A refusal of several records leaves the live
records, their bytes and what is pending, whatever the pages. -/
theorem refusals_undone {config : MemoryConfig} {memory : Memory} (made : make config = .ok memory)
    (calls : List Call) {id : WindowId} {window : Window}
    (found : (Call.afterAll calls memory).windows.get? id = some window) :
    ((∀ call ∈ calls, call.Spares window.buffer) →
      Hosted.Covered ⟨window, (Call.afterAll calls memory).arena⟩) ∧
    Hosted.TakesRefusals ⟨window, (Call.afterAll calls memory).arena⟩ := by
  have wellFormed := make_wellFormed made
  have formed := afterAll_forms wellFormed (make_forms made) calls id window found
  refine ⟨fun spared => ?_, fun covered _ _ => Hosted.undone_of_refused formed covered,
    fun _ _ _ => Hosted.givenBack_of_refused formed⟩
  have backs := afterAll_backs wellFormed (make_backs made window.buffer) spared
  exact (backs id window found rfl).capacity_le

/-- A window whose two records have all the pages there are. -/
def crowded : List Call :=
  [.makeWindow "w" ⟨[⟨"a", .short, 0⟩, ⟨"b", .byte, 2⟩], 3⟩ { initialCapacity := 2 },
    .arena (.createBuffer "other" 1), .window 0 (.createMany 2)]

theorem refusals_undone_crowded : make { pageSize := 4, maxPages := 3 } = .ok small ∧
    ∃ window after, (Call.afterAll crowded small).windows.get? 0 = some window ∧
      Hosted.tryCreate ⟨window, (Call.afterAll crowded small).arena⟩ =
        .error (.refused (.arenaExhausted 4 3)) after ∧
      Hosted.Undone ⟨window, (Call.afterAll crowded small).arena⟩ after ∧
      Hosted.TakesRefusals ⟨window, (Call.afterAll crowded small).arena⟩ := by
  have made : make { pageSize := 4, maxPages := 3 } = .ok small := rfl
  have present : ((Call.afterAll crowded small).windows.get? 0).map (fun window =>
      Action.answer Hosted.tryCreate ⟨window, (Call.afterAll crowded small).arena⟩) =
        some (.error (.refused (.arenaExhausted 4 3))) := by decide +kernel
  obtain ⟨window, found, ended⟩ := Option.map_eq_some_iff.mp present
  have spared : ∀ call ∈ crowded, call.Spares window.buffer := by
    simp [crowded, Call.Spares, Arena.Call.Spares]
  obtain ⟨covers, takes⟩ := refusals_undone made crowded found
  have refused := Action.error_of_answer ended
  exact ⟨made, window, _, found, refused, takes.one (covers spared) _ _ refused, takes⟩

/-- A window of twelve records, five of them live, whose buffer someone else has cut to one page. -/
def cut : List Call :=
  [.makeWindow "w" ⟨[⟨"x", .int, 0⟩], 4⟩ { initialCapacity := 12 }, .window 0 (.createMany 5),
    .arena (.resize 0 16), .arena (.createBuffer "other" 32)]

theorem refusal_lowers_capacity : ∃ memory window after,
    make { pageSize := 16, maxPages := 3 } = .ok memory ∧
    (Call.afterAll cut memory).windows.get? 0 = some window ∧
    Hosted.tryCreate ⟨window, (Call.afterAll cut memory).arena⟩ =
      .error (.refused (.arenaExhausted 5 3)) after ∧
    window.pool.capacity = 12 ∧ after.window.pool.capacity = 5 := by
  let memory : Memory :=
    { arena := { pageSize := 16, maxPages := 3, pool := .withCapacity 1 (Arena.pageGrowth 3) } }
  have present : ((Call.afterAll cut memory).windows.get? 0).map (fun window =>
      (Action.answer Hosted.tryCreate ⟨window, (Call.afterAll cut memory).arena⟩,
        window.pool.capacity,
        (Action.after Hosted.tryCreate ⟨window, (Call.afterAll cut memory).arena⟩).window.pool.capacity)) =
      some (.error (.refused (.arenaExhausted 5 3)), 12, 5) := by decide +kernel
  obtain ⟨window, found, ended⟩ := Option.map_eq_some_iff.mp present
  simp only [Prod.mk.injEq] at ended
  exact ⟨memory, window, _, rfl, found, Action.error_of_answer ended.1, ended.2⟩

end Memory

end TorusEngine.Paging
