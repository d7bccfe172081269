import TorusEngine.Proofs.Paging.Bytes

/-!
# Buffers are isolated

An arena is shared by any number of buffers. After every run of calls each page has one owner
(`pages_owned_once`), and each buffer reads as a byte array of its own (`reads_own_bytes`): the last
byte that its owner put at an address since the page of that address joined the buffer, whatever was
done to other buffers meanwhile.
-/

namespace TorusEngine.Paging.Arena

/-! ## What a call does to bytes -/

def Call.written : Call → BufferId → Nat → Option UInt8
  | put id address data, other, target => if other = id then overlay address data target else none
  | _, _, _ => none

theorem byteAt?_congr {arena after : Arena} {id : BufferId} {address : Nat}
    (pageSize : after.pageSize = arena.pageSize) (store : after.store = arena.store)
    (page : after.physicalPage? id (address / arena.pageSize) =
      arena.physicalPage? id (address / arena.pageSize)) :
    after.byteAt? id address = arena.byteAt? id address := by
  rw [byteAt?, byteAt?, place?, place?, pageSize, store, page]

theorem inside_iff {arena : Arena} (positive : 0 < arena.pageSize) {id : BufferId} {address : Nat} :
    address < arena.extent id ↔
      ∃ pages, arena.tables.get? id = some pages ∧ address / arena.pageSize < pages.length := by
  unfold extent
  cases arena.tables.get? id with
  | none => simp
  | some pages => simp [Nat.div_lt_iff_lt_mul positive]

theorem after_createBuffer {arena : Arena} (wellFormed : arena.WellFormed) (name : String)
    (bytes : Nat) : Action.after (createBuffer name bytes) arena = arena ∨
      ∃ pool buffer, Action.after (createBuffer name bytes) arena = { arena with
        pool
        buffers := arena.buffers.insert arena.nextBuffer buffer
        nextBuffer := arena.nextBuffer + 1 } := by
  have result := createBuffer_result wellFormed name bytes
  rw [Action.after_eq_left]
  generalize createBuffer name bytes arena = ended at result
  cases result with
  | refused fault => exact .inl rfl
  | made took length => exact .inr ⟨_, _, rfl⟩

theorem after_dropBuffer {arena : Arena} (wellFormed : arena.WellFormed) (id : BufferId) :
    Action.after (dropBuffer id) arena = arena ∨
      ∃ pool, Action.after (dropBuffer id) arena =
        { arena with pool, buffers := arena.buffers.erase id } := by
  cases live : arena.buffers.get? id with
  | none => exact .inl (Action.after_of_error (dropBuffer_of_missing live))
  | some buffer =>
      obtain ⟨pool, -, ended⟩ := dropBuffer_of_live wellFormed live
      exact .inr ⟨pool, Action.after_of_ok ended⟩

theorem byteAt?_createBuffer {arena : Arena} (wellFormed : arena.WellFormed) (name : String)
    (bytes : Nat) {id : BufferId} {address : Nat} (inside : address < arena.extent id) :
    (Action.after (createBuffer name bytes) arena).byteAt? id address = arena.byteAt? id address := by
  obtain same | ⟨pool, buffer, same⟩ := after_createBuffer wellFormed name bytes
  · rw [same]
  · obtain ⟨table, listed, -⟩ := (inside_iff wellFormed.pageSize_pos).mp inside
    have used := wellFormed.names_used id (Dictionary.mem_keys_of_get? listed)
    rw [same]
    apply byteAt?_congr
    · rfl
    · rfl
    · simp only [physicalPage?, tables_get?, Dictionary.get?_insert]
      rw [if_neg (Nat.ne_of_gt used)]

structure Reshaped (id : BufferId) (arena after : Arena) : Prop where
  pageSize : after.pageSize = arena.pageSize
  maxPages : after.maxPages = arena.maxPages
  store : after.store = arena.store
  nextBuffer : after.nextBuffer = arena.nextBuffer
  others : ∀ other, id ≠ other → after.buffers.get? other = arena.buffers.get? other
  pages : ∀ pages, arena.tables.get? id = some pages →
    ∃ changed, after.tables.get? id = some changed ∧ (pages <+: changed ∨ changed <+: pages)

theorem resize_reshaped {arena : Arena} (wellFormed : arena.WellFormed) (id : BufferId)
    (bytes : Nat) : Reshaped id arena (Action.after (resize id bytes) arena) := by
  have unchanged : Reshaped id arena arena :=
    ⟨rfl, rfl, rfl, rfl, fun _ _ => rfl, fun pages listed => ⟨pages, listed, .inl (List.prefix_refl _)⟩⟩
  have changed (pool : IndexPool) (change : Buffer → Buffer)
      (ordered : ∀ buffer, buffer.pages <+: (change buffer).pages ∨
        (change buffer).pages <+: buffer.pages) :
      Reshaped id arena { arena with pool, buffers := arena.buffers.modify id change } := by
    refine ⟨rfl, rfl, rfl, rfl, ?_, ?_⟩
    · intro other different
      rw [Dictionary.get?_modify, if_neg different]
    · intro pages listed
      rw [tables_get?, Option.map_eq_some_iff] at listed
      obtain ⟨buffer, live, rfl⟩ := listed
      refine ⟨(change buffer).pages, ?_, ordered buffer⟩
      simp [tables_get?, Dictionary.get?_modify, live]
  cases live : arena.buffers.get? id with
  | none =>
      rw [Action.after_of_error (resize_of_missing wellFormed live bytes)]
      exact unchanged
  | some buffer =>
      have result := resize_result wellFormed live bytes
      rw [Action.after_eq_left]
      generalize resize id bytes arena = ended at result
      cases result with
      | refused fault grows => exact unchanged
      | kept same => exact unchanged
      | @grown pages pool took length grows =>
          refine changed pool (·.append pages) fun buffer => .inl ?_
          rw [Buffer.pages_append]
          exact List.prefix_append _ _
      | @shrunk pool shrinks given =>
          refine changed pool _ fun buffer => .inr ?_
          rw [Buffer.pages_take]
          exact List.take_prefix _ _

theorem Reshaped.byteAt? {id : BufferId} {arena after : Arena} (reshaped : Reshaped id arena after)
    (positive : 0 < arena.pageSize) {other : BufferId} {address : Nat}
    (inside : address < arena.extent other) (still : address < after.extent other) :
    after.byteAt? other address = arena.byteAt? other address := by
  apply byteAt?_congr reshaped.pageSize reshaped.store
  by_cases same : id = other
  · subst same
    obtain ⟨pages, listed, bound⟩ := (inside_iff positive).mp inside
    obtain ⟨changed, listed', bound'⟩ := (inside_iff (reshaped.pageSize ▸ positive)).mp still
    obtain ⟨found, located, ordered⟩ := reshaped.pages pages listed
    cases located.symm.trans listed'
    rw [reshaped.pageSize] at bound'
    rw [physicalPage?, physicalPage?, listed, listed', Option.bind_some, Option.bind_some]
    rcases ordered with ⟨more, rfl⟩ | ⟨more, rfl⟩
    · exact List.getElem?_append_left bound
    · exact (List.getElem?_append_left bound').symm
  · rw [physicalPage?, physicalPage?, tables_get?, tables_get?, reshaped.others other same]

theorem byteAt?_dropBuffer {arena : Arena} (wellFormed : arena.WellFormed) (id : BufferId)
    {other : BufferId} {address : Nat}
    (still : address < (Action.after (dropBuffer id) arena).extent other) :
    (Action.after (dropBuffer id) arena).byteAt? other address = arena.byteAt? other address := by
  obtain same | ⟨pool, same⟩ := after_dropBuffer wellFormed id
  · rw [same]
  · rw [same] at still ⊢
    let dropped : Arena := { arena with pool, buffers := arena.buffers.erase id }
    have positive : 0 < dropped.pageSize := wellFormed.pageSize_pos
    obtain ⟨table, listed, -⟩ := (inside_iff positive).mp still
    rw [tables_get?, Option.map_eq_some_iff] at listed
    obtain ⟨buffer, kept, -⟩ := listed
    apply byteAt?_congr
    · rfl
    · rfl
    · rw [physicalPage?, physicalPage?, tables_get?, tables_get?, kept, Dictionary.get?_of_erase kept]

/-- A call changes the bytes that it writes, and no byte that is inside a buffer before and after. -/
theorem Call.byteAt?_after {arena : Arena} (wellFormed : arena.WellFormed) (call : Call)
    {id : BufferId} {address : Nat} (inside : address < arena.extent id)
    (still : address < (call.after arena).extent id) :
    (call.after arena).byteAt? id address =
      (arena.byteAt? id address).map ((call.written id address).getD ·) := by
  cases call with
  | put target start data =>
      rw [after, perform, byteAt?_put wellFormed]
      congr 1
      funext old
      simp only [written]
      split <;> rfl
  | createBuffer name bytes =>
      rw [after_createBuffer, byteAt?_createBuffer wellFormed name bytes inside]
      exact Option.map_id'.symm
  | resize target bytes =>
      have reshaped := resize_reshaped wellFormed target bytes
      exact (reshaped.byteAt? wellFormed.pageSize_pos inside still).trans Option.map_id'.symm
  | dropBuffer target =>
      exact (byteAt?_dropBuffer wellFormed target still).trans Option.map_id'.symm
  | read target start length =>
      rw [after_read]
      exact Option.map_id'.symm
  | markStale target start =>
      exact ((markStale_remarked target start arena).byteAt? id address).trans Option.map_id'.symm
  | flushBuffer sink target =>
      exact ((after_flushBuffer sink target arena).byteAt? id address).trans Option.map_id'.symm
  | flush sink =>
      exact ((after_flush sink arena).byteAt? id address).trans Option.map_id'.symm

/-! ## What a call does to tables -/

/-- An arena that went on from another: its block is the same and no buffer number comes back. -/
structure Continues (arena after : Arena) : Prop where
  pageSize : after.pageSize = arena.pageSize
  maxPages : after.maxPages = arena.maxPages
  nextBuffer : arena.nextBuffer ≤ after.nextBuffer

instance : Std.Refl Continues := ⟨fun _ => ⟨rfl, rfl, Nat.le_refl _⟩⟩

instance : Trans Continues Continues Continues := ⟨fun first second => ⟨
  second.pageSize.trans first.pageSize, second.maxPages.trans first.maxPages,
  first.nextBuffer.trans second.nextBuffer⟩⟩

theorem SameTables.continues {arena after : Arena} (same : SameTables arena after) :
    Continues arena after :=
  ⟨same.pageSize, same.maxPages, Nat.le_of_eq same.nextBuffer.symm⟩

theorem Call.after_continues {arena : Arena} (wellFormed : arena.WellFormed) (call : Call) :
    Continues arena (call.after arena) := by
  cases call with
  | createBuffer name bytes =>
      rw [after_createBuffer]
      obtain same | ⟨pool, buffer, same⟩ := Arena.after_createBuffer wellFormed name bytes
      · rw [same]
        exact Std.Refl.refl arena
      · rw [same]
        exact ⟨rfl, rfl, Nat.le_succ _⟩
  | resize id bytes =>
      have reshaped := resize_reshaped wellFormed id bytes
      exact ⟨reshaped.pageSize, reshaped.maxPages, Nat.le_of_eq reshaped.nextBuffer.symm⟩
  | dropBuffer id =>
      rw [after, perform]
      obtain same | ⟨pool, same⟩ := after_dropBuffer wellFormed id
      · rw [same]
        exact Std.Refl.refl arena
      · rw [same]
        exact ⟨rfl, rfl, Nat.le_refl _⟩
  | put id address data => exact (put_sameTables id address data arena).continues
  | read id address length =>
      rw [after_read]
      exact Std.Refl.refl arena
  | markStale id address => exact (markStale_remarked id address arena).continues
  | flushBuffer sink id => exact (after_flushBuffer sink id arena).continues
  | flush sink => exact (after_flush sink arena).continues

theorem Call.afterAll_continues {arena : Arena} (wellFormed : arena.WellFormed)
    (calls : List Call) : Continues arena (afterAll calls arena) := by
  induction calls generalizing arena with
  | nil => exact Std.Refl.refl arena
  | cons call rest ih =>
      have first := call.after_continues wellFormed
      have others : Continues (call.after arena) (afterAll rest (call.after arena)) :=
        ih (call.after_wellFormed wellFormed)
      exact Trans.trans first others

def Call.Spares (id : BufferId) : Call → Prop
  | resize target _ | dropBuffer target => target ≠ id
  | _ => True

theorem Call.tables_after {arena : Arena} (wellFormed : arena.WellFormed) {call : Call}
    {id : BufferId} (spared : call.Spares id) (used : id < arena.nextBuffer) :
    (call.after arena).tables.get? id = arena.tables.get? id := by
  cases call with
  | createBuffer name bytes =>
      rw [after_createBuffer]
      obtain same | ⟨pool, buffer, same⟩ := Arena.after_createBuffer wellFormed name bytes
      · rw [same]
      · rw [same, tables_get?, tables_get?, Dictionary.get?_insert, if_neg (Nat.ne_of_gt used)]
  | resize target bytes =>
      rw [tables_get?, tables_get?]
      exact congrArg _ ((resize_reshaped wellFormed target bytes).others id spared)
  | dropBuffer target =>
      rw [after, perform]
      obtain same | ⟨pool, same⟩ := after_dropBuffer wellFormed target
      · rw [same]
      · rw [same, tables_get?, tables_get?, Dictionary.get?_erase, if_neg spared]
  | put target address data =>
      exact congrArg (·.get? id) (put_sameTables target address data arena).tables
  | read target address length => rw [after_read]
  | markStale target address =>
      exact congrArg (·.get? id) (markStale_remarked target address arena).tables
  | flushBuffer sink target => exact congrArg (·.get? id) (after_flushBuffer sink target arena).tables
  | flush sink => exact congrArg (·.get? id) (after_flush sink arena).tables

theorem Call.extent_after {arena : Arena} (wellFormed : arena.WellFormed) {call : Call}
    {id : BufferId} (spared : call.Spares id) (used : id < arena.nextBuffer) :
    (call.after arena).extent id = arena.extent id := by
  rw [extent, extent, tables_after wellFormed spared used, (call.after_continues wellFormed).pageSize]

theorem Call.byteAt?_after_spared {arena : Arena} (wellFormed : arena.WellFormed) {call : Call}
    {id : BufferId} (spared : call.Spares id) (used : id < arena.nextBuffer) {address : Nat}
    (unwritten : call.written id address = none) :
    (call.after arena).byteAt? id address = arena.byteAt? id address := by
  have extents := extent_after wellFormed spared used
  rcases Nat.lt_or_ge address (arena.extent id) with inside | outside
  · rw [call.byteAt?_after wellFormed inside (extents ▸ inside), unwritten]
    exact Option.map_id'
  · have positive := (call.after_wellFormed wellFormed).pageSize_pos
    rw [byteAt?, byteAt?, (place?_eq_none_iff wellFormed.pageSize_pos).mpr outside,
      (place?_eq_none_iff positive).mpr (extents ▸ outside)]
    rfl

theorem Call.tables_afterAll {arena : Arena} (wellFormed : arena.WellFormed) {calls : List Call}
    {id : BufferId} (used : id < arena.nextBuffer) (spared : ∀ call ∈ calls, call.Spares id) :
    (afterAll calls arena).tables.get? id = arena.tables.get? id := by
  induction calls generalizing arena with
  | nil => rfl
  | cons call rest ih =>
      have first := tables_after wellFormed (spared call List.mem_cons_self) used
      have stillUsed := Nat.lt_of_lt_of_le used (call.after_continues wellFormed).nextBuffer
      exact (ih (call.after_wellFormed wellFormed) stillUsed
        fun later member => spared later (List.mem_cons_of_mem _ member)).trans first

theorem Call.byteAt?_afterAll {arena : Arena} (wellFormed : arena.WellFormed) {calls : List Call}
    {id : BufferId} (used : id < arena.nextBuffer) (spared : ∀ call ∈ calls, call.Spares id)
    {address : Nat} (unwritten : ∀ call ∈ calls, call.written id address = none) :
    (afterAll calls arena).byteAt? id address = arena.byteAt? id address := by
  induction calls generalizing arena with
  | nil => rfl
  | cons call rest ih =>
      have first := byteAt?_after_spared wellFormed (spared call List.mem_cons_self) used
        (unwritten call List.mem_cons_self)
      have stillUsed := Nat.lt_of_lt_of_le used (call.after_continues wellFormed).nextBuffer
      exact (ih (call.after_wellFormed wellFormed) stillUsed
        (fun later member => spared later (List.mem_cons_of_mem _ member))
        fun later member => unwritten later (List.mem_cons_of_mem _ member)).trans first

/-! ## Every page has one owner -/

def totalPages (arena : Arena) : Nat :=
  arena.buffers.values.foldr (fun buffer total => buffer.table.size + total) 0

theorem totalPages_eq (arena : Arena) : arena.totalPages = arena.ownedPages.length := by
  rw [totalPages, ownedPages_eq, Dictionary.values, List.foldr_map]
  induction arena.buffers.entries with
  | nil => rfl
  | cons entry rest ih =>
      rw [List.foldr_cons, List.flatMap_cons, List.length_append, Buffer.length_pages, ih]

structure PagesOwnedOnce (config : MemoryConfig) (arena : Arena) : Prop where
  distinct : arena.ownedPages.Nodup
  exist : ∀ page ∈ arena.ownedPages, page < config.maxPages
  in_use : arena.pagesInUse = .ok arena.totalPages
  in_use_le : arena.totalPages ≤ config.maxPages
  capacity_le : arena.pool.capacity ≤ config.maxPages
  create_refused : ∀ name bytes requested ceiling after,
    createBuffer name bytes arena = .error (.refused (.arenaExhausted requested ceiling)) after →
      after = arena
  resize_refused : ∀ id bytes requested ceiling after,
    resize id bytes arena = .error (.refused (.arenaExhausted requested ceiling)) after → after = arena
  located : ∀ id address place, arena.toPhysical id address = .ok place →
    place + arena.room address ≤ config.pageSize * config.maxPages
  puts_inside : ∀ id address data, Action.answer (put id address data) arena ≠ .error .badRange
  reads_inside : ∀ id address length, arena.read id address length ≠ .error .badRange
  uploads_inside : ∀ page ∈ arena.ownedPages, arena.upload page =
    .ok ⟨page, page * config.pageSize, arena.store.read (page * config.pageSize) config.pageSize⟩
  flushes : ∀ sink, ∃ report after, flush sink arena = .ok report after

theorem create_refused {arena after : Arena} (wellFormed : arena.WellFormed) {name : String}
    {bytes : Nat} {fault : Fault} (ended : createBuffer name bytes arena = .error fault after) :
    after = arena := by
  have result := createBuffer_result wellFormed name bytes
  rw [ended] at result
  cases result
  rfl

theorem resize_refused {arena after : Arena} (wellFormed : arena.WellFormed) {id : BufferId}
    {bytes : Nat} {fault : Fault} (ended : resize id bytes arena = .error fault after) :
    after = arena := by
  cases live : arena.buffers.get? id with
  | none =>
      have missing := resize_of_missing wellFormed live bytes
      rw [ended] at missing
      cases missing
      rfl
  | some buffer =>
      have result := resize_result wellFormed live bytes
      rw [ended] at result
      cases result
      rfl

theorem toPhysical_eq_place? {arena : Arena} (wellFormed : arena.WellFormed) {id : BufferId}
    {address place : Nat} (located : arena.toPhysical id address = .ok place) :
    arena.place? id address = some place := by
  cases live : arena.buffers.get? id with
  | none => simp [toPhysical, buffer_of_missing live, bind, Except.bind] at located
  | some buffer =>
      have located : arena.locate buffer address = .ok place := by
        simpa [toPhysical, buffer_of_live live, bind, Except.bind] using located
      cases placed : arena.place? id address with
      | none =>
          rw [locate_past_end wellFormed.pageSize_pos live placed] at located
          cases located
      | some other =>
          obtain ⟨holder, found, answered⟩ := locate_of_place wellFormed placed
          cases live.symm.trans found
          cases located.symm.trans answered
          rfl

theorem access_ne_badRange {α : Type} (pageSize pages address length : Nat) (answer : α) :
    access pageSize pages address length answer ≠ .error .badRange := by
  unfold access
  split <;> simp

theorem WellFormed.pagesOwnedOnce {arena : Arena} (wellFormed : arena.WellFormed)
    {config : MemoryConfig} (pageSize : arena.pageSize = config.pageSize)
    (maxPages : arena.maxPages = config.maxPages) : PagesOwnedOnce config arena where
  distinct := wellFormed.owned_once
  exist := fun page owned => maxPages ▸ lt_maxPages wellFormed owned
  in_use := totalPages_eq arena ▸ pagesInUse_eq wellFormed
  in_use_le := by
    rw [totalPages_eq, ← maxPages]
    exact ownedPages_length_le wellFormed
  capacity_le := maxPages ▸ wellFormed.capped.capacity_le
  create_refused := fun _ _ _ _ _ ended => create_refused wellFormed ended
  resize_refused := fun _ _ _ _ _ ended => resize_refused wellFormed ended
  located := by
    intro id address place located
    rw [← pageSize, ← maxPages]
    exact place?_room wellFormed (toPhysical_eq_place? wellFormed located)
  puts_inside := by
    intro id address data
    cases live : arena.buffers.get? id with
    | some buffer =>
        rw [put_answer wellFormed live]
        exact access_ne_badRange _ _ _ _ _
    | none =>
        by_cases empty : data = []
        · simp [Action.answer, Action.outcome, put, empty]
        · simp [Action.answer, Action.outcome,
            put_of_missing wellFormed.pageSize_pos live address empty]
  reads_inside := by
    intro id address length
    cases live : arena.buffers.get? id with
    | some buffer =>
        rw [read_eq wellFormed live]
        exact access_ne_badRange _ _ _ _ _
    | none => simp [read_of_missing live]
  uploads_inside := fun page owned => pageSize ▸ upload_of_owned wellFormed owned
  flushes := flush_ok wellFormed

/-- After every run of calls on an arena, each page has one owner, no page is missing, and no access
leaves the arena. -/
theorem pages_owned_once {config : MemoryConfig} {arena : Arena} (made : make config = .ok arena)
    (calls : List Call) : PagesOwnedOnce config (Call.afterAll calls arena) := by
  have wellFormed := make_wellFormed made
  obtain ⟨-, -, rfl⟩ := make_ok made
  have continues := Call.afterAll_continues wellFormed calls
  exact (afterAll_wellFormed wellFormed calls).pagesOwnedOnce continues.pageSize continues.maxPages

theorem pages_owned_once_shared : ∃ arena, make { pageSize := 4, maxPages := 3 } = .ok arena ∧
    PagesOwnedOnce { pageSize := 4, maxPages := 3 } (Call.afterAll
      [.createBuffer "a" 5, .createBuffer "b" 9, .resize 0 1, .createBuffer "b" 8] arena) :=
  ⟨_, rfl, pages_owned_once rfl _⟩

/-! ## Every buffer reads as a byte array of its own -/

/-- What the owners of buffers know of their bytes. -/
abbrev Ledger := BufferId → Nat → Option UInt8

/-- The ledger after a call: what was put is entered, and what lies on no page of its buffer is
struck out, so an entry never outlives the page it was put on. -/
def Call.record (call : Call) (after : Arena) (ledger : Ledger) : Ledger := fun id address =>
  if address < after.extent id then (call.written id address).or (ledger id address) else none

def Call.recordAll : List Call → Arena → Ledger → Ledger
  | [], _, ledger => ledger
  | call :: rest, arena, ledger =>
      recordAll rest (call.after arena) (call.record (call.after arena) ledger)

def Keeps (ledger : Ledger) (arena : Arena) : Prop :=
  ∀ id address byte, ledger id address = some byte → arena.byteAt? id address = some byte

theorem Call.byteAt?_of_written {arena : Arena} (wellFormed : arena.WellFormed) {call : Call}
    {id : BufferId} {address : Nat} {byte : UInt8} (written : call.written id address = some byte)
    (still : address < (call.after arena).extent id) :
    (call.after arena).byteAt? id address = some byte := by
  cases call with
  | put target start data =>
      have same : SameTables arena ((put target start data).after arena) :=
        put_sameTables target start data arena
      have inside : address < arena.extent id := by rwa [same.extent id] at still
      obtain ⟨old, holds⟩ :=
        Option.isSome_iff_exists.mp (byteAt?_isSome wellFormed.pageSize_pos inside)
      rw [byteAt?_after wellFormed _ inside still, holds, written]
      rfl
  | _ => cases written

theorem Keeps.record {arena : Arena} (wellFormed : arena.WellFormed) {ledger : Ledger}
    (keeps : Keeps ledger arena) (call : Call) :
    Keeps (call.record (call.after arena) ledger) (call.after arena) := by
  intro id address byte entered
  unfold Call.record at entered
  split at entered
  · rename_i still
    cases written : call.written id address with
    | none =>
        -- An old entry was true, so its page was there before; without it, it would be struck out now.
        rw [written, Option.none_or] at entered
        have holds := keeps id address byte entered
        have inside := inside_of_byteAt? wellFormed.pageSize_pos holds
        rw [call.byteAt?_after wellFormed inside still, holds, written]
        rfl
    | some new =>
        rw [written, Option.some_or] at entered
        cases entered
        exact call.byteAt?_of_written wellFormed written still
  · cases entered

theorem Keeps.recordAll {arena : Arena} (wellFormed : arena.WellFormed) {ledger : Ledger}
    (keeps : Keeps ledger arena) (calls : List Call) :
    Keeps (Call.recordAll calls arena ledger) (Call.afterAll calls arena) := by
  induction calls generalizing arena ledger with
  | nil => exact keeps
  | cons call rest ih => exact ih (call.after_wellFormed wellFormed) (keeps.record wellFormed call)

structure ReadsOwnBytes (ledger : Ledger) (arena : Arena) (id : BufferId) (size : Nat) : Prop where
  answers : ∀ address length, address + length ≤ size → ∃ bytes,
    arena.read id address length = .ok bytes ∧ bytes.length = length ∧
      ∀ distance byte, distance < length → ledger id (address + distance) = some byte →
        bytes[distance]? = some byte
  survives : ∀ (call : Call) (left : Nat), (call.after arena).sizeInBytes id = .ok left →
    ∀ address length, address + length ≤ size → address + length ≤ left →
      (∀ target, address ≤ target → target < address + length → call.written id target = none) →
        (call.after arena).read id address length = arena.read id address length
  unobserved : ∀ call : Call, call.Spares id → (∀ target, call.written id target = none) →
    ∀ address length, (call.after arena).read id address length = arena.read id address length

theorem read_answers {arena : Arena} (wellFormed : arena.WellFormed) {ledger : Ledger}
    (keeps : Keeps ledger arena) {id : BufferId} {buffer : Buffer}
    (live : arena.buffers.get? id = some buffer) {address length : Nat}
    (inside : address + length ≤ arena.extent id) :
    ∃ bytes, arena.read id address length = .ok bytes ∧ bytes.length = length ∧
      ∀ distance byte, distance < length → ledger id (address + distance) = some byte →
        bytes[distance]? = some byte := by
  have bytes := bytesFrom_map wellFormed.pageSize_pos inside
  refine ⟨_, read_inside wellFormed live inside, ?_, ?_⟩
  · exact length_bytesFrom wellFormed.pageSize_pos inside
  · intro distance byte near entered
    have entry := congrArg (·[distance]?) bytes
    simp only [List.getElem?_map, List.getElem?_range' near, Option.map_some, Nat.one_mul,
      keeps _ _ _ entered] at entry
    obtain ⟨found, listed, same⟩ := Option.map_eq_some_iff.mp entry
    cases same
    exact listed

theorem Call.read_after {arena : Arena} (wellFormed : arena.WellFormed) (call : Call)
    {id : BufferId} {buffer left : Buffer} (live : arena.buffers.get? id = some buffer)
    (stillLive : (call.after arena).buffers.get? id = some left) {address length : Nat}
    (inside : address + length ≤ arena.extent id)
    (still : address + length ≤ (call.after arena).extent id)
    (unwritten : ∀ target, address ≤ target → target < address + length →
      call.written id target = none) :
    (call.after arena).read id address length = arena.read id address length := by
  rw [read_inside wellFormed live inside,
    read_inside (call.after_wellFormed wellFormed) stillLive still]
  congr 1
  apply bytesFrom_congr
  intro target reached early
  rw [call.byteAt?_after wellFormed (Nat.lt_of_lt_of_le early inside)
    (Nat.lt_of_lt_of_le early still), unwritten target reached early]
  exact Option.map_id'

theorem Call.read_after_spared {arena : Arena} (wellFormed : arena.WellFormed) {call : Call}
    {id : BufferId} (used : id < arena.nextBuffer) (spared : call.Spares id)
    (unwritten : ∀ target, call.written id target = none) (address length : Nat) :
    (call.after arena).read id address length = arena.read id address length :=
  read_congr wellFormed (call.after_wellFormed wellFormed) (call.after_continues wellFormed).pageSize
    (tables_after wellFormed spared used) fun target _ _ =>
      byteAt?_after_spared wellFormed spared used (unwritten target)

/-- After every run of calls on an arena, a buffer reads as the ledger of the run says, and so it goes
on whatever is called on other buffers. -/
theorem reads_own_bytes {config : MemoryConfig} {arena : Arena} (made : make config = .ok arena)
    (calls : List Call) {id : BufferId} {size : Nat}
    (sized : (Call.afterAll calls arena).sizeInBytes id = .ok size) :
    ReadsOwnBytes (Call.recordAll calls arena fun _ _ => none) (Call.afterAll calls arena) id
      size := by
  have wellFormed := afterAll_wellFormed (make_wellFormed made) calls
  have nothing : Keeps (fun _ _ => none) arena := fun _ _ _ entered => nomatch entered
  have keeps := nothing.recordAll (make_wellFormed made) calls
  generalize Call.afterAll calls arena = final at *
  obtain ⟨buffer, live, rfl⟩ := live_of_sizeInBytes wellFormed sized
  constructor
  · intro address length inside
    exact read_answers wellFormed keeps live inside
  · intro call left sized address length inside still unwritten
    obtain ⟨_, stillLive, rfl⟩ := live_of_sizeInBytes (call.after_wellFormed wellFormed) sized
    exact call.read_after wellFormed live stillLive inside still unwritten
  · intro call spared unwritten address length
    have used := keys_used wellFormed id (Dictionary.mem_keys_of_get? live)
    exact Call.read_after_spared wellFormed used spared unwritten address length

/-- Two bytes put across the end of a page, while a second buffer takes pages and is written. -/
def straddling : List Call :=
  [.createBuffer "a" 5, .put 0 3 [7, 8], .createBuffer "b" 1, .put 1 0 [9]]

theorem reads_own_bytes_straddling : ∃ arena, make { pageSize := 4, maxPages := 3 } = .ok arena ∧
    (Call.afterAll straddling arena).sizeInBytes 0 = .ok 8 ∧
    ReadsOwnBytes (Call.recordAll straddling arena fun _ _ => none)
      (Call.afterAll straddling arena) 0 8 := by
  have made : make { pageSize := 4, maxPages := 3 } = .ok _ := rfl
  exact ⟨_, made, by decide +kernel, reads_own_bytes made straddling (by decide +kernel)⟩

end TorusEngine.Paging.Arena
