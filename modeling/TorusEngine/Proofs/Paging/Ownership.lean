import TorusEngine.Paging.Arena
import TorusEngine.Proofs.Paging.IndexPool
import TorusEngine.Proofs.Size

/-!
# Who owns a page

The pages of an arena are handed out by its pool and listed in the tables of its buffers.
`Arena.WellFormed` says that the tables of the live buffers list every outstanding page exactly once,
and that no growth of the pool passes the last page. Every call keeps it (`Call.after_wellFormed`), so
it holds after every run (`afterAll_wellFormed`).
-/

namespace TorusEngine.Paging

/-! ## Tables -/

namespace Buffer

theorem length_pages (buffer : Buffer) : buffer.pages.length = buffer.table.size := by
  simp [pages]

theorem getElem?_pages (buffer : Buffer) (page : Nat) :
    buffer.pages[page]? = buffer.table[page]?.map (·.physical) := by
  simp [pages]

theorem pages_append (buffer : Buffer) (pages : List Nat) :
    (buffer.append pages).pages = buffer.pages ++ pages := by
  simp [append, Buffer.pages, Function.comp_def]

theorem pages_setStale (buffer : Buffer) (page : Nat) (stale : Bool) :
    (buffer.setStale page stale).pages = buffer.pages := by
  apply List.ext_getElem?
  intro other
  simp only [getElem?_pages, setStale, Array.getElem?_modify]
  split
  · cases buffer.table[other]? <;> rfl
  · rfl

theorem pages_take (buffer : Buffer) (count : Nat) :
    Buffer.pages { buffer with table := buffer.table.take count } = buffer.pages.take count := by
  simp [pages, List.map_take]

end Buffer

namespace Arena

def tables (arena : Arena) : Dictionary BufferId (List Nat) :=
  arena.buffers.mapValues fun _ buffer => buffer.pages

def ownedPages (arena : Arena) : List Nat := arena.tables.values.flatten

structure WellFormed (arena : Arena) : Prop where
  pageSize_pos : 0 < arena.pageSize
  addressable : arena.pageSize * arena.maxPages ≤ Size.addressSpace
  pool : arena.pool.WellFormed
  capped : arena.pool.Capped arena.maxPages
  names_used : ∀ id ∈ arena.tables.keys, id < arena.nextBuffer
  owned_once : arena.ownedPages.Nodup
  owned_iff : ∀ page, page ∈ arena.ownedPages ↔ page ∈ arena.pool.outstanding

theorem WellFormed.maxPages_le {arena : Arena} (wellFormed : arena.WellFormed) :
    arena.maxPages ≤ Size.addressSpace :=
  Nat.le_trans (Nat.le_mul_of_pos_left _ wellFormed.pageSize_pos) wellFormed.addressable

theorem pageGrowth_capped {maxPages : Nat} (addressable : maxPages ≤ Size.addressSpace) :
    (IndexPool.withCapacity (min maxPages 1) (pageGrowth maxPages)).Capped maxPages := by
  refine ⟨Nat.min_le_left _ _, ?_, Nat.lt_of_le_of_lt addressable (by decide)⟩
  intro capacity below
  exact ⟨_, Nat.min_le_right _ _, rfl⟩

theorem make_ok {config : MemoryConfig} {arena : Arena} (made : make config = .ok arena) :
    0 < config.pageSize ∧ config.pageSize * config.maxPages ≤ Size.addressSpace ∧
      arena = {
        pageSize := config.pageSize
        maxPages := config.maxPages
        pool := .withCapacity (min config.maxPages 1) (pageGrowth config.maxPages) } := by
  by_cases empty : config.pageSize = 0
  · simp [make, empty] at made
    cases made
  · by_cases fits : config.pageSize * config.maxPages < Size.limit
    · by_cases addressable : config.pageSize * config.maxPages ≤ Size.addressSpace
      · simp [make, empty, MemoryConfig.arenaBytes, Size.mul, fits, Size.checkMemory, addressable,
          bind, Except.bind, pure, Except.pure] at made
        exact ⟨Nat.pos_of_ne_zero empty, addressable, made.symm⟩
      · simp [make, empty, MemoryConfig.arenaBytes, Size.mul, fits, Size.checkMemory, addressable,
          bind, Except.bind] at made
    · simp [make, empty, MemoryConfig.arenaBytes, Size.mul, fits, bind, Except.bind] at made

theorem make_wellFormed {config : MemoryConfig} {arena : Arena} (made : make config = .ok arena) :
    arena.WellFormed := by
  obtain ⟨positive, addressable, rfl⟩ := make_ok made
  have few : config.maxPages ≤ Size.addressSpace :=
    Nat.le_trans (Nat.le_mul_of_pos_left _ positive) addressable
  exact {
    pageSize_pos := positive
    addressable
    pool := IndexPool.withCapacity_wellFormed _ _
    capped := pageGrowth_capped few
    names_used := by simp [tables, Dictionary.keys, Dictionary.mapValues]
    owned_once := List.nodup_nil
    owned_iff := by
      simp [ownedPages, tables, Dictionary.values, Dictionary.mapValues, IndexPool.withCapacity] }

/-! ## Taking pages and giving them back -/

theorem pagesInUse_eq {arena : Arena} (wellFormed : arena.WellFormed) :
    arena.pagesInUse = .ok arena.ownedPages.length := by
  rw [pagesInUse, wellFormed.pool.outstandingCount_eq,
    wellFormed.pool.handedOut_eq wellFormed.owned_once wellFormed.owned_iff]

theorem ownedPages_length_le {arena : Arena} (wellFormed : arena.WellFormed) :
    arena.ownedPages.length ≤ arena.maxPages := by
  have held := wellFormed.pool.length_add_free wellFormed.owned_once wellFormed.owned_iff
  have mark := wellFormed.pool.highWater_le
  have ceiling := wellFormed.capped.capacity_le
  omega

theorem pagesFor_eq {arena : Arena} (positive : 0 < arena.pageSize) (bytes : Nat) :
    arena.pagesFor bytes = .ok (max (bytes ⌈/⌉ arena.pageSize) 1) := by
  simp [pagesFor, Size.ceilDiv_eq positive, bind, Except.bind, pure, Except.pure]

structure Took (arena : Arena) (pages : List Nat) (pool : IndexPool) : Prop where
  popped : IndexPool.PoppedAll arena.pool pages pool
  capped : pool.Capped arena.maxPages

theorem checkBlock_of_room {arena : Arena} (wellFormed : arena.WellFormed) {count : Nat}
    (room : arena.ownedPages.length + count ≤ arena.maxPages) : Size.checkBlock count 8 = .ok () := by
  have space := wellFormed.maxPages_le
  have small : Size.addressSpace * 8 ≤ Size.largestBlock := by decide
  exact if_pos (by omega)

theorem takePages_of_room {arena : Arena} (wellFormed : arena.WellFormed) {count : Nat}
    (room : arena.ownedPages.length + count ≤ arena.maxPages) :
    ∃ pages pool, takePages count arena = .ok pages { arena with pool } ∧ pages.length = count ∧
      Took arena pages pool := by
  have fits : arena.ownedPages.length + count < Size.limit :=
    Nat.lt_of_le_of_lt room wellFormed.capped.ceiling_lt
  have held := wellFormed.pool.handedOut_eq wellFormed.owned_once wellFormed.owned_iff
  obtain ⟨pages, pool, answered, length, popped, capped⟩ := IndexPool.popMany_of_capped
    wellFormed.capped wellFormed.pool (held ▸ room) (checkBlock_of_room wellFormed room)
  refine ⟨pages, pool, ?_, length, popped, capped⟩
  simp [takePages, pagesInUse_eq wellFormed, Size.add_eq_ok fits, Nat.not_lt.mpr room, onPool,
    Action.within_apply, answered]

theorem takePages_of_full {arena : Arena} (wellFormed : arena.WellFormed) {count : Nat}
    (full : arena.maxPages < arena.ownedPages.length + count)
    (fits : arena.ownedPages.length + count < Size.limit) :
    takePages count arena =
      .error (.refused (.arenaExhausted (arena.ownedPages.length + count) arena.maxPages)) arena := by
  simp [takePages, pagesInUse_eq wellFormed, Size.add_eq_ok fits, full]

theorem takePages_of_wide {arena : Arena} (wellFormed : arena.WellFormed) {count : Nat}
    (wide : Size.limit ≤ arena.ownedPages.length + count) :
    takePages count arena = .error (.overflow .add) arena := by
  simp [takePages, pagesInUse_eq wellFormed, Size.add, Nat.not_lt.mpr wide]

theorem takePages_cases {arena : Arena} (wellFormed : arena.WellFormed) (count : Nat) :
    (∃ fault, takePages count arena = .error fault arena) ∨
    ∃ pages pool, takePages count arena = .ok pages { arena with pool } ∧ pages.length = count ∧
      Took arena pages pool := by
  rcases Nat.lt_or_ge arena.maxPages (arena.ownedPages.length + count) with full | room
  · rcases Nat.lt_or_ge (arena.ownedPages.length + count) Size.limit with fits | wide
    · exact .inl ⟨_, takePages_of_full wellFormed full fits⟩
    · exact .inl ⟨_, takePages_of_wide wellFormed wide⟩
  · exact .inr (takePages_of_room wellFormed room)

theorem WellFormed.join {arena : Arena} (wellFormed : arena.WellFormed) {pages : List Nat}
    {pool : IndexPool} {buffers : Dictionary BufferId Buffer} {next : BufferId}
    (took : Took arena pages pool) (names_used : ∀ id ∈ buffers.keys, id < next)
    (joined : (ownedPages { arena with buffers }).Perm (arena.ownedPages ++ pages)) :
    WellFormed { arena with pool, buffers, nextBuffer := next } where
  pageSize_pos := wellFormed.pageSize_pos
  addressable := wellFormed.addressable
  pool := took.popped.wellFormed wellFormed.pool
  capped := took.capped
  names_used := by simpa [tables] using names_used
  owned_once := by
    refine joined.nodup_iff.mpr (List.nodup_append.mpr ⟨wellFormed.owned_once, ?_, ?_⟩)
    · exact took.popped.distinct wellFormed.pool
    · rintro page owned other taken rfl
      exact took.popped.fresh wellFormed.pool page taken ((wellFormed.owned_iff page).mp owned)
  owned_iff := by
    intro page
    rw [took.popped.outstanding_iff, ← wellFormed.owned_iff, or_comm, ← List.mem_append]
    exact joined.mem_iff

theorem WellFormed.leave {arena : Arena} (wellFormed : arena.WellFormed) {pages : List Nat}
    {pool : IndexPool} {buffers : Dictionary BufferId Buffer}
    (given : IndexPool.GivenBack arena.pool pages pool)
    (names_used : ∀ id ∈ buffers.keys, id < arena.nextBuffer)
    (left : arena.ownedPages.Perm (ownedPages { arena with buffers } ++ pages)) :
    WellFormed { arena with pool, buffers } := by
  have once := List.nodup_append.mp (left.nodup_iff.mp wellFormed.owned_once)
  exact {
    pageSize_pos := wellFormed.pageSize_pos
    addressable := wellFormed.addressable
    pool := given.wellFormed wellFormed.pool
    capped := given.capped wellFormed.capped
    names_used := by simpa [tables] using names_used
    owned_once := once.1
    owned_iff := by
      intro page
      rw [given.outstanding_iff, ← wellFormed.owned_iff, left.mem_iff, List.mem_append]
      constructor
      · intro owned
        exact ⟨.inl owned, fun returned => once.2.2 page owned page returned rfl⟩
      · rintro ⟨owned | returned, kept⟩
        · exact owned
        · exact absurd returned kept }

/-! ## Buffers that come, change and go -/

theorem buffer_of_live {arena : Arena} {id : BufferId} {buffer : Buffer}
    (live : arena.buffers.get? id = some buffer) : arena.buffer id = .ok buffer := by
  rw [Arena.buffer, live]

theorem buffer_of_missing {arena : Arena} {id : BufferId} (missing : arena.buffers.get? id = none) :
    arena.buffer id = .error .unknownName := by
  rw [Arena.buffer, missing]

theorem sizeInPages_of_live {arena : Arena} {id : BufferId} {buffer : Buffer}
    (live : arena.buffers.get? id = some buffer) : arena.sizeInPages id = .ok buffer.table.size := by
  simp [sizeInPages, buffer_of_live live, bind, Except.bind, pure, Except.pure]

theorem sizeInPages_of_missing {arena : Arena} {id : BufferId}
    (missing : arena.buffers.get? id = none) : arena.sizeInPages id = .error .unknownName := by
  simp [sizeInPages, buffer_of_missing missing, bind, Except.bind]

theorem ownedPages_eq (arena : Arena) :
    arena.ownedPages = arena.buffers.entries.flatMap fun entry => entry.2.pages := by
  simp [ownedPages, tables, Dictionary.values, Dictionary.mapValues, List.flatMap, Function.comp_def]

theorem keys_used {arena : Arena} (wellFormed : arena.WellFormed) :
    ∀ id ∈ arena.buffers.keys, id < arena.nextBuffer := by
  simpa [tables] using wellFormed.names_used

theorem ownedPages_perm {arena : Arena} {id : BufferId} {buffer : Buffer}
    (live : arena.buffers.get? id = some buffer) :
    arena.ownedPages.Perm
      (buffer.pages ++ ownedPages { arena with buffers := arena.buffers.erase id }) := by
  rw [ownedPages_eq, ownedPages_eq]
  exact (Dictionary.entries_perm live).flatMap_right _

theorem ownedPages_modify {arena : Arena} {id : BufferId} {buffer : Buffer}
    (live : arena.buffers.get? id = some buffer) (change : Buffer → Buffer) :
    (ownedPages { arena with buffers := arena.buffers.modify id change }).Perm
      ((change buffer).pages ++ ownedPages { arena with buffers := arena.buffers.erase id }) := by
  rw [← Dictionary.erase_modify arena.buffers id change]
  apply @ownedPages_perm { arena with buffers := arena.buffers.modify id change }
  simp [Dictionary.get?_modify, live]

/-! ## What becomes of a call

The results below name every way in which the calls on pages end. A refused call leaves the arena as it
was.
-/

open EStateM (Result)

inductive Created (arena : Arena) (name : String) (count : Nat) :
    Result Fault Arena BufferId → Prop where
  | refused (fault : Fault) : Created arena name count (.error fault arena)
  | made {pages : List Nat} {pool : IndexPool} (took : Took arena pages pool)
      (length : pages.length = count) :
      Created arena name count (.ok arena.nextBuffer
        { arena with
          pool
          buffers := arena.buffers.insert arena.nextBuffer (Buffer.append ⟨name, #[]⟩ pages)
          nextBuffer := arena.nextBuffer + 1 })

inductive Resized (arena : Arena) (id : BufferId) (buffer : Buffer) (wanted : Nat) :
    Result Fault Arena Unit → Prop where
  | refused (fault : Fault) (grows : buffer.table.size < wanted) :
      Resized arena id buffer wanted (.error fault arena)
  | kept (same : buffer.table.size = wanted) : Resized arena id buffer wanted (.ok () arena)
  | grown {pages : List Nat} {pool : IndexPool} (took : Took arena pages pool)
      (length : buffer.table.size + pages.length = wanted) (grows : buffer.table.size < wanted) :
      Resized arena id buffer wanted (.ok ()
        { arena with pool, buffers := arena.buffers.modify id (·.append pages) })
  | shrunk {pool : IndexPool} (shrinks : wanted < buffer.table.size)
      (given : IndexPool.GivenBack arena.pool (buffer.pages.drop wanted) pool) :
      Resized arena id buffer wanted (.ok ()
        { arena with
          pool
          buffers := arena.buffers.modify id fun buffer =>
            { buffer with table := buffer.table.take wanted } })

theorem createBuffer_result {arena : Arena} (wellFormed : arena.WellFormed) (name : String)
    (bytes : Nat) :
    Created arena name (max (bytes ⌈/⌉ arena.pageSize) 1) (createBuffer name bytes arena) := by
  have count := pagesFor_eq wellFormed.pageSize_pos bytes
  rcases takePages_cases wellFormed (max (bytes ⌈/⌉ arena.pageSize) 1) with
    ⟨fault, refused⟩ | ⟨pages, pool, answered, length, took⟩
  · have ended : createBuffer name bytes arena = .error fault arena := by
      simp [createBuffer, count, refused]
    rw [ended]
    exact .refused fault
  · have ended : createBuffer name bytes arena = .ok arena.nextBuffer
        { arena with
          pool
          buffers := arena.buffers.insert arena.nextBuffer (Buffer.append ⟨name, #[]⟩ pages)
          nextBuffer := arena.nextBuffer + 1 } := by
      simp [createBuffer, count, answered]
      rfl
    rw [ended]
    exact .made took length

theorem giveBack_pages {arena : Arena} (wellFormed : arena.WellFormed) {id : BufferId}
    {buffer : Buffer} (live : arena.buffers.get? id = some buffer) (kept : Nat) :
    ∃ pool, IndexPool.giveBackMany (buffer.pages.drop kept) arena.pool = .ok () pool ∧
      IndexPool.GivenBack arena.pool (buffer.pages.drop kept) pool := by
  have owned := ownedPages_perm live
  have once := (List.nodup_append.mp (owned.nodup_iff.mp wellFormed.owned_once)).1
  apply IndexPool.giveBackMany_of_outstanding (once.sublist (List.drop_sublist _ _))
  intro page member
  rw [← wellFormed.owned_iff, owned.mem_iff]
  exact List.mem_append_left _ (List.mem_of_mem_drop member)

theorem resize_of_missing {arena : Arena} (wellFormed : arena.WellFormed) {id : BufferId}
    (missing : arena.buffers.get? id = none) (bytes : Nat) :
    resize id bytes arena = .error .unknownName arena := by
  simp [resize, pagesFor_eq wellFormed.pageSize_pos, sizeInPages_of_missing missing]

theorem resize_result {arena : Arena} (wellFormed : arena.WellFormed) {id : BufferId}
    {buffer : Buffer} (live : arena.buffers.get? id = some buffer) (bytes : Nat) :
    Resized arena id buffer (max (bytes ⌈/⌉ arena.pageSize) 1) (resize id bytes arena) := by
  have count := pagesFor_eq wellFormed.pageSize_pos bytes
  have size := sizeInPages_of_live live
  generalize max (bytes ⌈/⌉ arena.pageSize) 1 = wanted at count ⊢
  rcases Nat.lt_trichotomy buffer.table.size wanted with grows | same | shrinks
  · rcases takePages_cases wellFormed (wanted - buffer.table.size) with
      ⟨fault, refused⟩ | ⟨pages, pool, answered, length, took⟩
    · have ended : resize id bytes arena = .error fault arena := by
        simp [resize, count, size, grows, refused]
      rw [ended]
      exact .refused fault grows
    · have ended : resize id bytes arena = .ok ()
          { arena with pool, buffers := arena.buffers.modify id (·.append pages) } := by
        simp [resize, count, size, grows, answered, changeBuffer]
      rw [ended]
      exact .grown took (by omega) grows
  · have ended : resize id bytes arena = .ok () arena := by
      simp [resize, count, size, same]
    rw [ended]
    exact .kept same
  · obtain ⟨pool, returned, given⟩ := giveBack_pages wellFormed live wanted
    have ended : resize id bytes arena = .ok ()
        { arena with
          pool
          buffers := arena.buffers.modify id fun buffer =>
            { buffer with table := buffer.table.take wanted } } := by
      simp [resize, count, size, shrinks, Nat.lt_asymm shrinks, buffer_of_live live, changeBuffer,
        onPool, Action.within_apply, returned]
    rw [ended]
    exact .shrunk shrinks given

theorem sizeInPages_of_createBuffer {arena after : Arena} (wellFormed : arena.WellFormed)
    {name : String} {bytes : Nat} {id : BufferId}
    (made : createBuffer name bytes arena = .ok id after) :
    id = arena.nextBuffer ∧ after.pageSize = arena.pageSize ∧
      after.sizeInPages id = .ok (max (bytes ⌈/⌉ arena.pageSize) 1) := by
  have result := createBuffer_result wellFormed name bytes
  rw [made] at result
  cases result with
  | @made pages pool took length =>
      have live : (arena.buffers.insert arena.nextBuffer (Buffer.append ⟨name, #[]⟩ pages)).get?
          arena.nextBuffer = some (Buffer.append ⟨name, #[]⟩ pages) := by
        rw [Dictionary.get?_insert, if_pos rfl]
      refine ⟨rfl, rfl, ?_⟩
      rw [sizeInPages_of_live live, ← length, ← Buffer.length_pages, Buffer.pages_append]
      rfl

theorem sizeInPages_modify {arena : Arena} {id : BufferId} {buffer : Buffer} {pool : IndexPool}
    (live : arena.buffers.get? id = some buffer) (change : Buffer → Buffer) :
    sizeInPages { arena with pool, buffers := arena.buffers.modify id change } id =
      .ok (change buffer).table.size := by
  apply sizeInPages_of_live
  simp [Dictionary.get?_modify, live]

theorem sizeInPages_of_resize {arena after : Arena} (wellFormed : arena.WellFormed) {id : BufferId}
    {bytes : Nat} (resized : resize id bytes arena = .ok () after) :
    after.sizeInPages id = .ok (max (bytes ⌈/⌉ arena.pageSize) 1) := by
  cases live : arena.buffers.get? id with
  | none =>
      rw [resize_of_missing wellFormed live bytes] at resized
      cases resized
  | some buffer =>
      have result := resize_result wellFormed live bytes
      rw [resized] at result
      generalize max (bytes ⌈/⌉ arena.pageSize) 1 = wanted at result ⊢
      cases result with
      | kept same => rw [sizeInPages_of_live live, same]
      | @grown pages pool took length grows =>
          rw [sizeInPages_modify live, ← length, ← Buffer.length_pages, Buffer.pages_append,
            List.length_append, Buffer.length_pages]
      | @shrunk pool shrinks given =>
          rw [sizeInPages_modify live, ← Buffer.length_pages, Buffer.pages_take, List.length_take,
            Buffer.length_pages, Nat.min_eq_left (Nat.le_of_lt shrinks)]

theorem resize_of_bounded {arena : Arena} (wellFormed : arena.WellFormed) {id : BufferId}
    {buffer : Buffer} (live : arena.buffers.get? id = some buffer) {bytes : Nat}
    (bounded : bytes ≤ 4 * Size.addressSpace) :
    (∃ after, resize id bytes arena = .ok () after) ∨
    ∃ requested, resize id bytes arena =
        .error (.refused (.arenaExhausted requested arena.maxPages)) arena ∧
      buffer.table.size < max (bytes ⌈/⌉ arena.pageSize) 1 ∧
      requested = arena.ownedPages.length + (max (bytes ⌈/⌉ arena.pageSize) 1 - buffer.table.size) ∧
      arena.maxPages < requested := by
  have quotient : bytes ⌈/⌉ arena.pageSize ≤ bytes :=
    (ceilDiv_le_iff_le_mul wellFormed.pageSize_pos).mpr
      (Nat.le_mul_of_pos_left _ wellFormed.pageSize_pos)
  have few : max (bytes ⌈/⌉ arena.pageSize) 1 ≤ 4 * Size.addressSpace :=
    Nat.max_le.mpr ⟨quotient.trans bounded, by decide⟩
  have owned := ownedPages_length_le wellFormed
  have space := wellFormed.maxPages_le
  have count := pagesFor_eq wellFormed.pageSize_pos bytes
  have size := sizeInPages_of_live live
  have result := resize_result wellFormed live bytes
  generalize max (bytes ⌈/⌉ arena.pageSize) 1 = wanted at few count result ⊢
  cases ended : resize id bytes arena with
  | ok answer after => exact .inl ⟨after, rfl⟩
  | error fault after =>
      rw [ended] at result
      cases result with
      | refused _ grows =>
          right
          have asked : arena.ownedPages.length + (wanted - buffer.table.size) < Size.limit := by
            simp only [Size.addressSpace] at few space
            simp only [Size.limit]
            omega
          rcases Nat.lt_or_ge arena.maxPages
            (arena.ownedPages.length + (wanted - buffer.table.size)) with full | room
          · have refused := takePages_of_full wellFormed full asked
            simp [resize, count, size, grows, refused] at ended
            exact ⟨_, by rw [ended], grows, rfl, full⟩
          · obtain ⟨pages, pool, answered, -, -⟩ := takePages_of_room wellFormed room
            simp [resize, count, size, grows, answered, changeBuffer] at ended

theorem dropBuffer_of_missing {arena : Arena} {id : BufferId}
    (missing : arena.buffers.get? id = none) : dropBuffer id arena = .error .unknownName arena := by
  simp [dropBuffer, buffer_of_missing missing]

theorem dropBuffer_of_live {arena : Arena} (wellFormed : arena.WellFormed) {id : BufferId}
    {buffer : Buffer} (live : arena.buffers.get? id = some buffer) :
    ∃ pool, IndexPool.GivenBack arena.pool buffer.pages pool ∧
      dropBuffer id arena = .ok () { arena with pool, buffers := arena.buffers.erase id } := by
  obtain ⟨pool, returned, given⟩ := giveBack_pages wellFormed live 0
  rw [List.drop_zero] at returned given
  refine ⟨pool, given, ?_⟩
  simp [dropBuffer, buffer_of_live live, onPool, Action.within_apply, returned]

/-! ## Bytes and marks leave the tables alone -/

structure SameTables (arena after : Arena) : Prop where
  pageSize : after.pageSize = arena.pageSize
  maxPages : after.maxPages = arena.maxPages
  pool : after.pool = arena.pool
  nextBuffer : after.nextBuffer = arena.nextBuffer
  tables : after.tables = arena.tables

instance : Std.Refl SameTables := ⟨fun _ => ⟨rfl, rfl, rfl, rfl, rfl⟩⟩

instance : Trans SameTables SameTables SameTables := ⟨fun first second => ⟨
  second.pageSize.trans first.pageSize, second.maxPages.trans first.maxPages,
  second.pool.trans first.pool, second.nextBuffer.trans first.nextBuffer,
  second.tables.trans first.tables⟩⟩

theorem SameTables.wellFormed {arena after : Arena} (same : SameTables arena after)
    (wellFormed : arena.WellFormed) : after.WellFormed := by
  obtain ⟨pageSize, maxPages, pool, nextBuffer, tables⟩ := same
  have owned : after.ownedPages = arena.ownedPages := congrArg (·.values.flatten) tables
  constructor
  · rw [pageSize]
    exact wellFormed.pageSize_pos
  · rw [pageSize, maxPages]
    exact wellFormed.addressable
  · rw [pool]
    exact wellFormed.pool
  · rw [pool, maxPages]
    exact wellFormed.capped
  · rw [tables, nextBuffer]
    exact wellFormed.names_used
  · rw [owned]
    exact wellFormed.owned_once
  · rw [owned, pool]
    exact wellFormed.owned_iff

theorem sameTables_setStale (arena : Arena) (store : ByteStore) (id : BufferId) (page : Nat)
    (stale : Bool) :
    SameTables arena
      { arena with store, buffers := arena.buffers.modify id (·.setStale page stale) } :=
  ⟨rfl, rfl, rfl, rfl,
    Dictionary.mapValues_modify _ _ _ _ fun buffer => buffer.pages_setStale page stale⟩

theorem putOnPage_sameTables (id : BufferId) (address : Nat) (data : List UInt8) :
    Action.Respects SameTables (putOnPage id address data) := by
  apply Action.Respects.get_bind
  intro arena
  refine ((Action.Respects.ofExcept _).bind fun buffer => (Action.Respects.ofExcept _).bind
    fun offset => (Action.Respects.ofExcept _).bind fun _ => ?_) arena
  exact Action.Respects.modify fun arena => sameTables_setStale arena _ _ _ _

theorem put_sameTables (id : BufferId) (address : Nat) (data : List UInt8) :
    Action.Respects SameTables (put id address data) := by
  induction address, data using put.induct with
  | case1 address =>
      rw [put]
      exact Action.Respects.pure ()
  | case2 address data nonempty ih =>
      rw [put, dif_neg nonempty]
      apply Action.Respects.get_bind
      intro arena
      split
      · exact Action.Respects.throw _ arena
      · rename_i sized
        exact ((putOnPage_sameTables _ _ _).bind fun _ => (Action.Respects.ofExcept _).bind
          fun next => ih arena sized next) arena

structure Remarked (arena after : Arena) : Prop extends SameTables arena after where
  store : after.store = arena.store

instance : Std.Refl Remarked := ⟨fun arena => ⟨Std.Refl.refl arena, rfl⟩⟩

instance : Trans Remarked Remarked Remarked := ⟨fun first second =>
  ⟨Trans.trans first.toSameTables second.toSameTables, second.store.trans first.store⟩⟩

theorem changeStale_remarked (id : BufferId) (page : Nat) (stale : Bool) :
    Action.Respects Remarked (changeBuffer id (·.setStale page stale)) :=
  Action.Respects.modify fun arena => ⟨sameTables_setStale arena arena.store id page stale, rfl⟩

theorem markStale_remarked (id : BufferId) (address : Nat) :
    Action.Respects Remarked (markStale id address) := by
  apply Action.Respects.get_bind
  intro arena
  split
  · exact Action.Respects.throw _ arena
  · exact ((Action.Respects.ofExcept _).bind fun buffer => (Action.Respects.ofExcept _).bind
      fun _ => changeStale_remarked _ _ _) arena

theorem flushPage_remarked (sink : Sink) (id : BufferId) (report : FlushReport) (page : Nat) :
    Action.Respects Remarked (flushPage sink id report page) := by
  apply Action.Respects.get_bind
  intro arena
  refine ((Action.Respects.ofExcept _).bind fun buffer => (Action.Respects.ofExcept _).bind
    fun entry => ?_) arena
  split
  · exact Action.Respects.pure _
  · refine (changeStale_remarked _ _ _).bind fun _ => (Action.Respects.ofExcept _).bind
      fun upload => ?_
    split <;> exact Action.Respects.pure _

theorem flushBuffer_remarked (sink : Sink) (report : FlushReport) (id : BufferId) :
    Action.Respects Remarked (flushBuffer sink report id) := by
  apply Action.Respects.get_bind
  intro arena
  exact ((Action.Respects.ofExcept _).bind fun count =>
    Action.Respects.foldlM (flushPage_remarked sink id) _ _) arena

theorem flush_remarked (sink : Sink) : Action.Respects Remarked (flush sink) := by
  apply Action.Respects.get_bind
  intro arena
  exact Action.Respects.foldlM (flushBuffer_remarked sink) _ _ arena

/-! ## Calls and runs -/

inductive Call where
  | createBuffer (name : String) (bytes : Nat)
  | resize (id : BufferId) (bytes : Nat)
  | dropBuffer (id : BufferId)
  | put (id : BufferId) (address : Nat) (data : List UInt8)
  | read (id : BufferId) (address length : Nat)
  | markStale (id : BufferId) (address : Nat)
  | flushBuffer (sink : Sink) (id : BufferId)
  | flush (sink : Sink)

namespace Call

def perform : Call → Action Arena Unit
  | createBuffer name bytes => (fun _ => ()) <$> Arena.createBuffer name bytes
  | resize id bytes => Arena.resize id bytes
  | dropBuffer id => Arena.dropBuffer id
  | put id address data => Arena.put id address data
  | read id address length => (fun _ => ()) <$> Action.inspect (Arena.read · id address length)
  | markStale id address => Arena.markStale id address
  | flushBuffer sink id => (fun _ => ()) <$> Arena.flushBuffer sink {} id
  | flush sink => (fun _ => ()) <$> Arena.flush sink

def after (call : Call) (arena : Arena) : Arena := Action.after call.perform arena

/-- The arena after a run, in which calls that fault leave what they have done so far. -/
def afterAll (calls : List Call) (arena : Arena) : Arena :=
  calls.foldl (fun arena call => call.after arena) arena

theorem after_createBuffer (name : String) (bytes : Nat) (arena : Arena) :
    (createBuffer name bytes).after arena = Action.after (Arena.createBuffer name bytes) arena :=
  Action.after_map _ _ _

theorem after_read (id : BufferId) (address length : Nat) (arena : Arena) :
    (read id address length).after arena = arena := by
  rw [after, perform, Action.after_map, Action.after_inspect]

theorem after_flushBuffer (sink : Sink) (id : BufferId) (arena : Arena) :
    Remarked arena ((flushBuffer sink id).after arena) := by
  rw [after, perform, Action.after_map]
  exact flushBuffer_remarked sink {} id arena

theorem after_flush (sink : Sink) (arena : Arena) : Remarked arena ((flush sink).after arena) := by
  rw [after, perform, Action.after_map]
  exact flush_remarked sink arena

end Call

theorem createBuffer_wellFormed {arena : Arena} (wellFormed : arena.WellFormed) (name : String)
    (bytes : Nat) : (Action.after (createBuffer name bytes) arena).WellFormed := by
  have result := createBuffer_result wellFormed name bytes
  rw [Action.after_eq_left]
  generalize createBuffer name bytes arena = ended at result
  cases result with
  | refused fault => exact wellFormed
  | @made pages pool took length =>
      have unused : arena.buffers.get? arena.nextBuffer = none := by
        refine Dictionary.get?_eq_none_iff.mpr fun used => ?_
        exact Nat.lt_irrefl _ (keys_used wellFormed _ used)
      have entries := Dictionary.entries_insert unused (Buffer.append ⟨name, #[]⟩ pages)
      have keys : (arena.buffers.insert arena.nextBuffer (Buffer.append ⟨name, #[]⟩ pages)).keys =
          arena.buffers.keys ++ [arena.nextBuffer] := by
        simp [Dictionary.keys, entries]
      refine wellFormed.join took ?_ ?_
      · intro id member
        rw [keys, List.mem_append, List.mem_singleton] at member
        rcases member with used | rfl
        · exact Nat.lt_succ_of_lt (keys_used wellFormed id used)
        · exact Nat.lt_succ_self _
      · rw [ownedPages_eq, ownedPages_eq, entries, List.flatMap_append, List.flatMap_singleton,
          Buffer.pages_append]
        rfl

theorem resize_wellFormed {arena : Arena} (wellFormed : arena.WellFormed) (id : BufferId)
    (bytes : Nat) : (Action.after (resize id bytes) arena).WellFormed := by
  cases live : arena.buffers.get? id with
  | none =>
      rw [Action.after_of_error (resize_of_missing wellFormed live bytes)]
      exact wellFormed
  | some buffer =>
      have result := resize_result wellFormed live bytes
      have owned := ownedPages_perm live
      generalize max (bytes ⌈/⌉ arena.pageSize) 1 = wanted at result
      rw [Action.after_eq_left]
      generalize resize id bytes arena = ended at result
      cases result with
      | refused fault grows => exact wellFormed
      | kept same => exact wellFormed
      | @grown pages pool took length grows =>
          refine wellFormed.join took (by simpa using keys_used wellFormed) ?_
          -- What the pool hands out is appended to one table.
          have changed := ownedPages_modify live (·.append pages)
          rw [Buffer.pages_append] at changed
          refine changed.trans (.trans ?_ (owned.symm.append_right pages))
          rw [List.append_assoc, List.append_assoc]
          exact List.perm_append_comm.append_left _
      | @shrunk pool shrinks given =>
          refine wellFormed.leave given (by simpa using keys_used wellFormed) ?_
          -- What is cut off one table is what the pool takes back.
          have changed := ownedPages_modify live fun buffer =>
            { buffer with table := buffer.table.take wanted }
          rw [Buffer.pages_take] at changed
          refine owned.trans (.trans ?_ (changed.symm.append_right _))
          rw [← List.take_append_drop wanted buffer.pages, List.append_assoc, List.append_assoc,
            List.take_append_drop]
          exact List.perm_append_comm.append_left _

theorem dropBuffer_wellFormed {arena : Arena} (wellFormed : arena.WellFormed) (id : BufferId) :
    (Action.after (dropBuffer id) arena).WellFormed := by
  cases live : arena.buffers.get? id with
  | none =>
      rw [Action.after_of_error (dropBuffer_of_missing live)]
      exact wellFormed
  | some buffer =>
      obtain ⟨pool, given, ended⟩ := dropBuffer_of_live wellFormed live
      rw [Action.after_of_ok ended]
      refine wellFormed.leave given ?_ ?_
      · intro other member
        rw [Dictionary.keys_erase] at member
        exact keys_used wellFormed other (List.mem_of_mem_filter member)
      · exact (ownedPages_perm live).trans List.perm_append_comm

theorem Call.after_wellFormed {arena : Arena} (wellFormed : arena.WellFormed) (call : Call) :
    (call.after arena).WellFormed := by
  cases call with
  | createBuffer name bytes =>
      rw [after_createBuffer]
      exact createBuffer_wellFormed wellFormed name bytes
  | resize id bytes => exact resize_wellFormed wellFormed id bytes
  | dropBuffer id => exact dropBuffer_wellFormed wellFormed id
  | put id address data => exact (put_sameTables id address data arena).wellFormed wellFormed
  | read id address length =>
      rw [after_read]
      exact wellFormed
  | markStale id address => exact (markStale_remarked id address arena).wellFormed wellFormed
  | flushBuffer sink id => exact (after_flushBuffer sink id arena).wellFormed wellFormed
  | flush sink => exact (after_flush sink arena).wellFormed wellFormed

theorem afterAll_wellFormed {arena : Arena} (wellFormed : arena.WellFormed) (calls : List Call) :
    (Call.afterAll calls arena).WellFormed := by
  induction calls generalizing arena with
  | nil => exact wellFormed
  | cons call rest ih => exact ih (call.after_wellFormed wellFormed)

end Arena

end TorusEngine.Paging
