import TorusEngine.Proofs.Paging.Capacity
import TorusEngine.Proofs.Paging.Layout

/-!
# Requests beyond the limits

Sizes come from configurations and from callers. A request for more pages than there are is refused,
but sizes are multiplied and added before a ceiling is looked at, and what is no size then ends the
program. For every entry point that takes a size, a type below names the ways in which it ends, each
under the condition on the sizes that leads there (`requests_end`); nothing divides by zero.
`wide_requests_fault` has a request for each of the places where a size overflows.
-/

namespace TorusEngine.Paging

open EStateM (Result)

/-! ## Records -/

namespace FieldKind

/-- The number of elements, whether or not it is a size. -/
def count : FieldKind → Nat
  | byte | short | int | float => 1
  | byteArray count | shortArray count | intArray count | floatArray count => count
  | vec4Array count => count * (bytesPerVec4 / 4)

def width (kind : FieldKind) : Nat := kind.elementType.size * kind.count

theorem length_of_fits {kind : FieldKind} (fits : kind.count < Size.limit) :
    kind.length = .ok kind.count := by
  cases kind with
  | vec4Array count => exact Size.mul_eq_ok fits
  | _ => rfl

theorem sizeInBytes_of_fits {kind : FieldKind} (fits : kind.width < Size.limit) :
    kind.sizeInBytes = .ok kind.width := by
  have few : kind.count ≤ kind.width := Nat.le_mul_of_pos_left _ kind.elementType.size_pos
  simp only [sizeInBytes, length_of_fits (Nat.lt_of_le_of_lt few fits), bind, Except.bind]
  exact Size.mul_eq_ok fits

theorem sizeInBytes_of_wide {kind : FieldKind} (wide : Size.limit ≤ kind.width) :
    kind.sizeInBytes = .error (.overflow .multiply) := by
  rcases Nat.lt_or_ge kind.count Size.limit with few | many
  · simp only [sizeInBytes, length_of_fits few, bind, Except.bind]
    exact if_neg (Nat.not_lt.mpr wide)
  · cases kind with
    | vec4Array count =>
        have overflow : FieldKind.length (.vec4Array count) = .error (.overflow .multiply) :=
          if_neg (Nat.not_lt.mpr many)
        simp only [sizeInBytes, overflow, bind, Except.bind]
    | byte | short | int | float => exact absurd many (by decide)
    | byteArray count | shortArray count | intArray count | floatArray count =>
        simp only [sizeInBytes, FieldKind.length, bind, Except.bind]
        exact if_neg (Nat.not_lt.mpr wide)

end FieldKind

namespace Schema

variable {declared : List (String × FieldKind)}

def recordWidth (declared : List (String × FieldKind)) : Nat :=
  declared.foldr (fun entry rest => entry.2.width + rest) 0

@[simp] theorem recordWidth_cons (name : String) (kind : FieldKind)
    (rest : List (String × FieldKind)) :
    recordWidth ((name, kind) :: rest) = kind.width + recordWidth rest := rfl

def placed : Nat → List (String × FieldKind) → List Field
  | _, [] => []
  | offset, (name, kind) :: rest => ⟨name, kind, offset⟩ :: placed (offset + kind.width) rest

theorem layOut_of_fits {offset : Nat} (fits : offset + recordWidth declared < Size.limit) :
    layOut offset declared = .ok (placed offset declared, offset + recordWidth declared) := by
  induction declared generalizing offset with
  | nil => rfl
  | cons entry rest ih =>
      obtain ⟨name, kind⟩ := entry
      rw [recordWidth_cons, ← Nat.add_assoc] at fits
      have laid := ih fits
      have narrow : kind.width < Size.limit := by omega
      have sum : offset + kind.width < Size.limit := by omega
      simp [layOut, placed, FieldKind.sizeInBytes_of_fits narrow, Size.add_eq_ok sum, laid, bind,
        Except.bind, pure, Except.pure, Nat.add_assoc]

theorem layOut_of_wide {offset : Nat} (begins : offset < Size.limit)
    (wide : Size.limit ≤ offset + recordWidth declared) :
    ∃ operation, layOut offset declared = .error (.overflow operation) := by
  induction declared generalizing offset with
  | nil => exact absurd begins (Nat.not_lt.mpr wide)
  | cons entry rest ih =>
      obtain ⟨name, kind⟩ := entry
      rw [recordWidth_cons, ← Nat.add_assoc] at wide
      rcases Nat.lt_or_ge kind.width Size.limit with narrow | broad
      · have sized := FieldKind.sizeInBytes_of_fits narrow
        rcases Nat.lt_or_ge (offset + kind.width) Size.limit with sum | past
        · obtain ⟨operation, failed⟩ := ih sum wide
          exact ⟨operation, by simp [layOut, sized, Size.add_eq_ok sum, failed, bind, Except.bind]⟩
        · exact ⟨.add, by simp [layOut, sized, Size.add, Nat.not_lt.mpr past, bind, Except.bind]⟩
      · exact ⟨.multiply, by simp [layOut, FieldKind.sizeInBytes_of_wide broad, bind, Except.bind]⟩

inductive Built (declared : List (String × FieldKind)) : Except Fault Schema → Prop where
  | empty (none : recordWidth declared = 0) : Built declared (.error (.refused .emptySchema))
  | laidOut {schema : Schema} (positive : 0 < recordWidth declared)
      (fits : recordWidth declared < Size.limit) (sized : schema.objectSize = recordWidth declared) :
      Built declared (.ok schema)
  | overflowed {operation : Arithmetic} (wide : Size.limit ≤ recordWidth declared) :
      Built declared (.error (.overflow operation))

theorem build_of_fits (positive : 0 < recordWidth declared) (fits : recordWidth declared < Size.limit) :
    build declared = .ok ⟨placed 0 declared, recordWidth declared⟩ := by
  have begins : 0 + recordWidth declared = recordWidth declared := Nat.zero_add _
  have laid := layOut_of_fits (begins.symm ▸ fits)
  rw [begins] at laid
  simp [build, laid, Nat.ne_of_gt positive, bind, Except.bind, pure, Except.pure]

theorem build_built (declared : List (String × FieldKind)) : Built declared (build declared) := by
  have begins : 0 + recordWidth declared = recordWidth declared := Nat.zero_add _
  rcases Nat.lt_or_ge (recordWidth declared) Size.limit with fits | wide
  · by_cases empty : recordWidth declared = 0
    · have laid := layOut_of_fits (begins.symm ▸ fits)
      have ended : build declared = .error (.refused .emptySchema) := by
        simp [build, laid, empty, bind, Except.bind]
        rfl
      rw [ended]
      exact .empty empty
    · have positive := Nat.pos_of_ne_zero empty
      rw [build_of_fits positive fits]
      exact .laidOut positive fits rfl
  · obtain ⟨operation, failed⟩ := layOut_of_wide (show 0 < Size.limit by decide)
      (begins.symm ▸ wide)
    have ended : build declared = .error (.overflow operation) := by
      simp [build, failed, bind, Except.bind]
    rw [ended]
    exact .overflowed wide

end Schema

namespace Arena

/-! ## Arenas -/

inductive Made (config : MemoryConfig) : Except Fault Arena → Prop where
  | unpaged (zero : config.pageSize = 0) : Made config (.error (.refused .zeroPageSize))
  | made {arena : Arena} (positive : 0 < config.pageSize)
      (room : config.pageSize * config.maxPages ≤ Size.addressSpace)
      (pageSize : arena.pageSize = config.pageSize) (maxPages : arena.maxPages = config.maxPages) :
      Made config (.ok arena)
  | unaddressable (large : Size.addressSpace < config.pageSize * config.maxPages)
      (fits : config.pageSize * config.maxPages < Size.limit) :
      Made config (.error .outOfAddressSpace)
  | overflowed (wide : Size.limit ≤ config.pageSize * config.maxPages) :
      Made config (.error (.overflow .multiply))

theorem make_made (config : MemoryConfig) : Made config (make config) := by
  by_cases zero : config.pageSize = 0
  · have ended : make config = .error (.refused .zeroPageSize) := by
      simp [make, zero]
      rfl
    rw [ended]
    exact .unpaged zero
  · rcases Nat.lt_or_ge (config.pageSize * config.maxPages) Size.limit with fits | wide
    · have product : config.arenaBytes = .ok (config.pageSize * config.maxPages) :=
        Size.mul_eq_ok fits
      rcases Nat.lt_or_ge Size.addressSpace (config.pageSize * config.maxPages) with large | room
      · have ended : make config = .error .outOfAddressSpace := by
          simp [make, zero, product, Size.checkMemory, Nat.not_le.mpr large, bind, Except.bind]
        rw [ended]
        exact .unaddressable large fits
      · have ended : make config = .ok {
            pageSize := config.pageSize
            maxPages := config.maxPages
            pool := .withCapacity (min config.maxPages 1) (pageGrowth config.maxPages) } := by
          simp [make, zero, product, Size.checkMemory, room, bind, Except.bind, pure, Except.pure]
        rw [ended]
        exact .made (Nat.pos_of_ne_zero zero) room rfl rfl
    · have ended : make config = .error (.overflow .multiply) := by
        simp [make, zero, MemoryConfig.arenaBytes, Size.mul, Nat.not_lt.mpr wide, bind, Except.bind]
      rw [ended]
      exact .overflowed wide

/-! ## Pages -/

variable {arena : Arena}

/-- How a request for more pages ends. One that fails leaves the arena as it was. -/
inductive Requested {α : Type} (arena : Arena) (count : Nat) : Result Fault Arena α → Prop where
  | granted {answer : α} {after : Arena} (room : arena.ownedPages.length + count ≤ arena.maxPages) :
      Requested arena count (.ok answer after)
  | exhausted (full : arena.maxPages < arena.ownedPages.length + count)
      (fits : arena.ownedPages.length + count < Size.limit) :
      Requested arena count (.error
        (.refused (.arenaExhausted (arena.ownedPages.length + count) arena.maxPages)) arena)
  | overflowed (wide : Size.limit ≤ arena.ownedPages.length + count) :
      Requested arena count (.error (.overflow .add) arena)

def pagesOf (arena : Arena) (bytes : Nat) : Nat := max (bytes ⌈/⌉ arena.pageSize) 1

theorem takePages_requested (wellFormed : arena.WellFormed) (count : Nat) :
    Requested arena count (takePages count arena) := by
  rcases Nat.lt_or_ge arena.maxPages (arena.ownedPages.length + count) with full | room
  · rcases Nat.lt_or_ge (arena.ownedPages.length + count) Size.limit with fits | wide
    · rw [takePages_of_full wellFormed full fits]
      exact .exhausted full fits
    · rw [takePages_of_wide wellFormed wide]
      exact .overflowed wide
  · obtain ⟨pages, pool, answered, -⟩ := takePages_of_room wellFormed room
    rw [answered]
    exact .granted room

/-- A call that fails where its request for pages does, and nowhere else, ends as the request. -/
theorem Requested.lift {α β : Type} {count : Nat} {took : Result Fault Arena α}
    {ended : Result Fault Arena β} (requested : Requested arena count took)
    (answers : ∀ answer after, took = .ok answer after → ∃ result left, ended = .ok result left)
    (fails : ∀ fault after, took = .error fault after → ended = .error fault after) :
    Requested arena count ended := by
  cases requested with
  | granted room =>
      obtain ⟨result, left, rfl⟩ := answers _ _ rfl
      exact .granted room
  | exhausted full fits =>
      rw [fails _ _ rfl]
      exact .exhausted full fits
  | overflowed wide =>
      rw [fails _ _ rfl]
      exact .overflowed wide

theorem createBuffer_requested (wellFormed : arena.WellFormed) (name : String) (bytes : Nat) :
    Requested arena (arena.pagesOf bytes) (createBuffer name bytes arena) := by
  have count : arena.pagesFor bytes = .ok (arena.pagesOf bytes) :=
    pagesFor_eq wellFormed.pageSize_pos bytes
  refine (takePages_requested wellFormed (arena.pagesOf bytes)).lift ?_ ?_
  · intro pages after took
    simp [createBuffer, count, took]
    exact ⟨_, _, rfl⟩
  · intro fault after took
    simp [createBuffer, count, took]

inductive Refitted (arena : Arena) (current wanted : Nat) : Result Fault Arena Unit → Prop where
  | enough {after : Arena} (enough : wanted ≤ current) :
      Refitted arena current wanted (.ok () after)
  | asked {ended : Result Fault Arena Unit} (grows : current < wanted)
      (requested : Requested arena (wanted - current) ended) : Refitted arena current wanted ended

theorem resize_refitted (wellFormed : arena.WellFormed) {id : BufferId} {buffer : Buffer}
    (live : arena.buffers.get? id = some buffer) (bytes : Nat) :
    Refitted arena buffer.table.size (arena.pagesOf bytes) (resize id bytes arena) := by
  have result := resize_result wellFormed live bytes
  have count : arena.pagesFor bytes = .ok (arena.pagesOf bytes) :=
    pagesFor_eq wellFormed.pageSize_pos bytes
  have sized := sizeInPages_of_live live
  rw [← pagesOf] at result
  rcases Nat.lt_or_ge buffer.table.size (arena.pagesOf bytes) with grows | enough
  · refine .asked grows ((takePages_requested wellFormed _).lift ?_ ?_)
    · intro pages after took
      simp [resize, count, sized, grows, took, changeBuffer]
    · intro fault after took
      simp [resize, count, sized, grows, took]
  · generalize resize id bytes arena = ended at result
    cases result with
    | refused fault grows => exact absurd enough (Nat.not_le.mpr grows)
    | grown took length grows => exact absurd enough (Nat.not_le.mpr grows)
    | kept same => exact .enough enough
    | shrunk shrinks given => exact .enough enough

inductive Opened (arena : Arena) (objectSize records : Nat) : Result Fault Arena Window → Prop where
  | asked {ended : Result Fault Arena Window} (fits : objectSize * records < Size.limit)
      (requested : Requested arena (arena.pagesOf (objectSize * records)) ended) :
      Opened arena objectSize records ended
  | overflowed (wide : Size.limit ≤ objectSize * records) :
      Opened arena objectSize records (.error (.overflow .multiply) arena)

theorem make_opened (wellFormed : arena.WellFormed) (name : String) {schema : Schema}
    (positive : 0 < schema.objectSize) (config : MemoryConfig) :
    Opened arena schema.objectSize (max config.initialCapacity 1)
      (Window.make name schema config arena) := by
  rw [Hosted.make_eq, Size.ceilDiv_eq positive]
  rcases Nat.lt_or_ge (schema.objectSize * max config.initialCapacity 1) Size.limit with fits | wide
  · rw [Size.mul_eq_ok fits]
    refine .asked fits ((createBuffer_requested wellFormed name _).lift ?_ ?_)
    · intro buffer after made
      simp [made]
    · intro fault after failed
      simp [failed]
  · have overflow : Size.mul schema.objectSize (max config.initialCapacity 1) =
        .error (.overflow .multiply) := if_neg (Nat.not_lt.mpr wide)
    rw [overflow]
    exact .overflowed wide

/-- Only pages of one byte can be asked for in such numbers that the sum overflows. -/
theorem pageSize_eq_one_of_wide (wellFormed : arena.WellFormed) {bytes count : Nat}
    (size : bytes < Size.limit) (asked : count ≤ arena.pagesOf bytes)
    (wide : Size.limit ≤ arena.ownedPages.length + count) : arena.pageSize = 1 := by
  by_contra broad
  have positive := wellFormed.pageSize_pos
  have used := (ownedPages_length_le wellFormed).trans wellFormed.maxPages_le
  have half : arena.pagesOf bytes ≤ Size.limit / 2 := by
    refine (Size.max_ceilDiv_le_iff positive).mpr ⟨?_, by decide⟩
    calc bytes ≤ Size.limit / 2 * 2 := by simp only [Size.limit] at size ⊢; omega
      _ ≤ Size.limit / 2 * arena.pageSize := Nat.mul_le_mul_left _ (by omega)
  simp only [Size.limit, Size.addressSpace] at wide used half
  omega

/-! ## All requests -/

structure RequestsEnd (arena : Arena) : Prop where
  createBuffer : ∀ name bytes,
    Requested arena (arena.pagesOf bytes) (Arena.createBuffer name bytes arena)
  resize : ∀ id buffer bytes, arena.buffers.get? id = some buffer →
    Refitted arena buffer.table.size (arena.pagesOf bytes) (Arena.resize id bytes arena)
  openWindow : ∀ name declared schema config, Schema.build declared = .ok schema →
    Opened arena (Schema.recordWidth declared) (max config.initialCapacity 1)
      (Window.make name schema config arena)
  narrow : ∀ bytes count, bytes < Size.limit → count ≤ arena.pagesOf bytes →
    Size.limit ≤ arena.ownedPages.length + count → arena.pageSize = 1

theorem requests_end (declared : List (String × FieldKind)) (config : MemoryConfig) :
    Schema.Built declared (Schema.build declared) ∧ Made config (make config) ∧
      ∀ arena, make config = .ok arena → ∀ calls, RequestsEnd (Call.afterAll calls arena) := by
  refine ⟨Schema.build_built declared, make_made config, fun arena made calls => ?_⟩
  have wellFormed := afterAll_wellFormed (make_wellFormed made) calls
  generalize Call.afterAll calls arena = final at *
  constructor
  case createBuffer => exact createBuffer_requested wellFormed
  case resize => exact fun id buffer bytes live => resize_refitted wellFormed live bytes
  case openWindow =>
    intro name declared schema config built
    have kind := Schema.build_built declared
    rw [built] at kind
    cases kind with
    | laidOut positive fits sized =>
        rw [← sized] at positive ⊢
        exact make_opened wellFormed name positive config
  case narrow =>
    intro bytes count size asked wide
    exact pageSize_eq_one_of_wide wellFormed size asked wide

def bytewise : List Call := [.createBuffer "a" 3, .createBuffer "b" 1]

theorem requests_end_bytewise : ∃ arena, make { pageSize := 1, maxPages := 8 } = .ok arena ∧
    RequestsEnd (Call.afterAll bytewise arena) := by
  have made : make { pageSize := 1, maxPages := 8 } = .ok _ := rfl
  exact ⟨_, made, (requests_end [] { pageSize := 1, maxPages := 8 }).2.2 _ made bytewise⟩

/-- An array of vectors, a sum of fields, an arena, the pages in use with those asked for and the
records of a window, each too large to be a size. -/
theorem wide_requests_fault :
    Schema.build [("x", .vec4Array 0x4000000000000000)] = .error (.overflow .multiply) ∧
    Schema.build [("x", .byteArray Size.largest), ("y", .byte)] = .error (.overflow .add) ∧
    (make { pageSize := 0x100000000, maxPages := 0x100000000 }).map (·.pageSize) =
      .error (.overflow .multiply) ∧
    ∃ arena, make { pageSize := 1, maxPages := 8 } = .ok arena ∧
      Action.answer (createBuffer "c" Size.largest) (Call.afterAll bytewise arena) =
        .error (.overflow .add) ∧
      Action.answer (resize 0 Size.largest) (Call.afterAll bytewise arena) =
        .error (.overflow .add) ∧
      (Action.answer (Window.make "w" ⟨[⟨"x", .int, 0⟩], 4⟩
        { initialCapacity := 0x4000000000000000 }) (Call.afterAll bytewise arena)).map (·.name) =
          .error (.overflow .multiply) := by
  refine ⟨by decide, by decide, by decide +kernel, _, rfl, ?_, ?_, ?_⟩
  · decide +kernel
  · decide +kernel
  · decide +kernel

end Arena

end TorusEngine.Paging
