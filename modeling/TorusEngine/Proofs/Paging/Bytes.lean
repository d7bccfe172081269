import Mathlib.Tactic.Ring
import TorusEngine.Proofs.Paging.Ownership

/-!
# The bytes of a buffer

A buffer is read through `byteAt?`, which gives a byte for every logical address inside it. No page
of the arena lies behind two pages of live buffers (`physicalPage?_injective`), so a put changes the
bytes it covers and no other (`byteAt?_put`), and a read inside the buffer gives the bytes in order
(`read_inside`). A put or a read that reaches past the end stops at the first page that the buffer
lacks (`put_answer`, `read_eq`).
-/

namespace TorusEngine.Paging.Arena

def extent (arena : Arena) (id : BufferId) : Nat :=
  (arena.tables.get? id).elim 0 List.length * arena.pageSize

def physicalPage? (arena : Arena) (id : BufferId) (page : Nat) : Option Nat :=
  (arena.tables.get? id).bind (·[page]?)

def place? (arena : Arena) (id : BufferId) (address : Nat) : Option Nat :=
  (arena.physicalPage? id (address / arena.pageSize)).map
    (· * arena.pageSize + address % arena.pageSize)

def byteAt? (arena : Arena) (id : BufferId) (address : Nat) : Option UInt8 :=
  (arena.place? id address).map arena.store.get

/-! ## Places -/

theorem tables_get? (arena : Arena) (id : BufferId) :
    arena.tables.get? id = (arena.buffers.get? id).map Buffer.pages :=
  Dictionary.get?_mapValues _ _ _

theorem extent_of_live {arena : Arena} {id : BufferId} {buffer : Buffer}
    (live : arena.buffers.get? id = some buffer) :
    arena.extent id = buffer.table.size * arena.pageSize := by
  simp [extent, tables_get?, live, Buffer.length_pages]

theorem extent_of_sizeInPages {arena : Arena} {id : BufferId} {pages : Nat}
    (sized : arena.sizeInPages id = .ok pages) : arena.extent id = pages * arena.pageSize := by
  cases live : arena.buffers.get? id with
  | none => simp [sizeInPages_of_missing live] at sized
  | some buffer =>
      rw [sizeInPages_of_live live, Except.ok.injEq] at sized
      rw [extent_of_live live, sized]

theorem physicalPage?_of_live {arena : Arena} {id : BufferId} {buffer : Buffer}
    (live : arena.buffers.get? id = some buffer) (page : Nat) :
    arena.physicalPage? id page = buffer.table[page]?.map (·.physical) := by
  simp [physicalPage?, tables_get?, live, Buffer.getElem?_pages]

theorem mem_ownedPages {arena : Arena} {id : BufferId} {page physical : Nat}
    (found : arena.physicalPage? id page = some physical) :
    physical ∈ arena.ownedPages := by
  cases live : arena.buffers.get? id with
  | none => simp [physicalPage?, tables_get?, live] at found
  | some buffer =>
      rw [(ownedPages_perm live).mem_iff]
      simp only [physicalPage?, tables_get?, live] at found
      exact List.mem_append_left _ (List.mem_of_getElem? found)

theorem lt_maxPages {arena : Arena} (wellFormed : arena.WellFormed) {physical : Nat}
    (owned : physical ∈ arena.ownedPages) : physical < arena.maxPages := by
  have outstanding := (wellFormed.owned_iff physical).mp owned
  have below := ((wellFormed.pool.outstanding_iff physical).mp outstanding).1
  have mark := wellFormed.pool.highWater_le
  have ceiling := wellFormed.capped.capacity_le
  omega

theorem physicalPage?_injective {arena : Arena} (wellFormed : arena.WellFormed)
    {id other : BufferId} {page second physical : Nat}
    (found : arena.physicalPage? id page = some physical)
    (again : arena.physicalPage? other second = some physical) : id = other ∧ page = second := by
  cases live : arena.buffers.get? id with
  | none => simp [physicalPage?, tables_get?, live] at found
  | some buffer =>
      have owned := ownedPages_perm live
      have once := List.nodup_append.mp (owned.nodup_iff.mp wellFormed.owned_once)
      simp only [physicalPage?, tables_get?, live] at found
      by_cases same : id = other
      · subst same
        simp only [physicalPage?, tables_get?, live] at again
        refine ⟨rfl, ?_⟩
        obtain ⟨bound, first⟩ := List.getElem?_eq_some_iff.mp found
        obtain ⟨bound', last⟩ := List.getElem?_eq_some_iff.mp again
        exact (once.1.getElem_inj_iff).mp (first.trans last.symm)
      · have elsewhere : physicalPage? { arena with buffers := arena.buffers.erase id } other second =
            some physical := by
          simpa [physicalPage?, tables_get?, Dictionary.get?_erase, same] using again
        have listed : physical ∈ ownedPages { arena with buffers := arena.buffers.erase id } := by
          cases kept : (arena.buffers.erase id).get? other with
          | none => simp [physicalPage?, tables_get?, kept] at elsewhere
          | some holder =>
              simp only [physicalPage?, tables_get?, kept] at elsewhere
              rw [ownedPages_eq, List.mem_flatMap]
              exact ⟨(other, holder), Dictionary.mem_entries_iff.mpr kept,
                List.mem_of_getElem? elsewhere⟩
        exact absurd rfl (once.2.2 physical (List.mem_of_getElem? found) physical listed)

theorem place?_eq_some_iff {arena : Arena} {id : BufferId} {address place : Nat} :
    arena.place? id address = some place ↔
      ∃ physical, arena.physicalPage? id (address / arena.pageSize) = some physical ∧
        physical * arena.pageSize + address % arena.pageSize = place := by
  simp [place?]

theorem place?_page {arena : Arena} (positive : 0 < arena.pageSize) {id : BufferId}
    {address place : Nat} (placed : arena.place? id address = some place) :
    arena.physicalPage? id (address / arena.pageSize) = some (place / arena.pageSize) ∧
      place % arena.pageSize = address % arena.pageSize := by
  obtain ⟨physical, found, rfl⟩ := place?_eq_some_iff.mp placed
  have remainder := Nat.mod_lt address positive
  rw [Nat.mul_comm, Nat.mul_add_div positive, Nat.div_eq_of_lt remainder, Nat.add_zero,
    Nat.mul_add_mod, Nat.mod_mod]
  exact ⟨found, rfl⟩

theorem place?_eq_none_iff {arena : Arena} (positive : 0 < arena.pageSize) {id : BufferId}
    {address : Nat} : arena.place? id address = none ↔ arena.extent id ≤ address := by
  rw [place?, Option.map_eq_none_iff, physicalPage?, extent]
  cases arena.tables.get? id with
  | none => simp
  | some pages => simp [Nat.le_div_iff_mul_le positive]

theorem place?_room {arena : Arena} (wellFormed : arena.WellFormed) {id : BufferId}
    {address place : Nat} (placed : arena.place? id address = some place) :
    place + arena.room address ≤ arena.pageSize * arena.maxPages := by
  obtain ⟨physical, found, rfl⟩ := place?_eq_some_iff.mp placed
  have below := lt_maxPages wellFormed (mem_ownedPages found)
  have remainder := Nat.mod_lt address wellFormed.pageSize_pos
  have block := Nat.mul_le_mul_left arena.pageSize (Nat.succ_le_of_lt below)
  rw [Nat.mul_succ, Nat.mul_comm] at block
  unfold room
  omega

theorem extent_le {arena : Arena} (wellFormed : arena.WellFormed) (id : BufferId) :
    arena.extent id ≤ arena.pageSize * arena.maxPages := by
  cases live : arena.buffers.get? id with
  | none => simp [extent, tables_get?, live]
  | some buffer =>
      have owned := (ownedPages_perm live).length_eq
      have few := ownedPages_length_le wellFormed
      rw [List.length_append, Buffer.length_pages] at owned
      rw [extent_of_live live, Nat.mul_comm]
      exact Nat.mul_le_mul_left _ (by omega)

theorem start_lt {arena : Arena} (wellFormed : arena.WellFormed) {id : BufferId} {start length : Nat}
    (inside : start + length ≤ arena.extent id) : start < Size.limit := by
  have space := Nat.le_trans (extent_le wellFormed id) wellFormed.addressable
  have small : Size.addressSpace < Size.limit := by decide
  omega

theorem room_le_extent {arena : Arena} (positive : 0 < arena.pageSize) {id : BufferId}
    {address place : Nat} (placed : arena.place? id address = some place) :
    address + arena.room address ≤ arena.extent id := by
  obtain ⟨physical, found, -⟩ := place?_eq_some_iff.mp placed
  unfold physicalPage? at found
  unfold extent room
  cases listed : arena.tables.get? id with
  | none => simp [listed] at found
  | some pages =>
      simp only [listed, Option.bind_some] at found
      obtain ⟨bound, -⟩ := List.getElem?_eq_some_iff.mp found
      have split := Nat.div_add_mod address arena.pageSize
      have remainder := Nat.mod_lt address positive
      have block := Nat.mul_le_mul_left arena.pageSize (Nat.succ_le_of_lt bound)
      rw [Nat.mul_succ] at block
      rw [Option.elim_some, Nat.mul_comm]
      omega

theorem place?_on_page {arena : Arena} (positive : 0 < arena.pageSize) {id : BufferId}
    {address place : Nat} (placed : arena.place? id address = some place) {distance : Nat}
    (near : distance < arena.room address) :
    arena.place? id (address + distance) = some (place + distance) := by
  obtain ⟨physical, found, rfl⟩ := place?_eq_some_iff.mp placed
  unfold room at near
  have split := Nat.div_add_mod address arena.pageSize
  have sum : address + distance =
      arena.pageSize * (address / arena.pageSize) + (address % arena.pageSize + distance) := by omega
  have small : address % arena.pageSize + distance < arena.pageSize := by omega
  have page : (address + distance) / arena.pageSize = address / arena.pageSize := by
    rw [sum, Nat.mul_add_div positive, Nat.div_eq_of_lt small, Nat.add_zero]
  have within : (address + distance) % arena.pageSize = address % arena.pageSize + distance := by
    rw [sum, Nat.mul_add_mod, Nat.mod_eq_of_lt small]
  rw [place?, page, found, within, Option.map_some, Nat.add_assoc]

theorem inside_of_byteAt? {arena : Arena} (positive : 0 < arena.pageSize) {id : BufferId}
    {address : Nat} {byte : UInt8} (holds : arena.byteAt? id address = some byte) :
    address < arena.extent id := by
  by_contra outside
  rw [byteAt?, (place?_eq_none_iff positive).mpr (Nat.not_lt.mp outside)] at holds
  cases holds

theorem SameTables.place? {arena after : Arena} (same : SameTables arena after) (id : BufferId)
    (address : Nat) : after.place? id address = arena.place? id address := by
  rw [Arena.place?, Arena.place?, physicalPage?, physicalPage?, same.tables, same.pageSize]

theorem SameTables.extent {arena after : Arena} (same : SameTables arena after) (id : BufferId) :
    after.extent id = arena.extent id := by
  rw [Arena.extent, Arena.extent, same.tables, same.pageSize]

theorem Remarked.byteAt? {arena after : Arena} (same : Remarked arena after) (id : BufferId)
    (address : Nat) : after.byteAt? id address = arena.byteAt? id address := by
  rw [Arena.byteAt?, Arena.byteAt?, same.place?, same.store]

/-! ## Putting -/

def overlay (address : Nat) (data : List UInt8) (target : Nat) : Option UInt8 :=
  if address ≤ target then data[target - address]? else none

theorem overlay_eq_none_iff {address target : Nat} {data : List UInt8} :
    overlay address data target = none ↔ target < address ∨ address + data.length ≤ target := by
  unfold overlay
  split
  · rw [List.getElem?_eq_none_iff]
    omega
  · simp only [true_iff]
    omega

theorem get_write_overlay (store : ByteStore) (place spot : Nat) (data : List UInt8) :
    (store.write place data).get spot = (overlay place data spot).getD (store.get spot) := by
  rw [ByteStore.get_write, overlay]
  split
  · rw [List.getD_eq_getElem?_getD]
  · rfl

theorem overlay_split (address count target : Nat) (data : List UInt8) (old : UInt8) :
    (overlay (address + min data.length count) (data.drop count) target).getD
        ((overlay address (data.take count) target).getD old) =
      (overlay address data target).getD old := by
  rcases Nat.lt_or_ge target address with before | reached
  · simp [overlay, Nat.not_le.mpr before, show ¬address + min data.length count ≤ target by omega]
  · rcases Nat.lt_or_ge target (address + min data.length count) with early | late
    · have kept : target - address < count := by omega
      simp [overlay, reached, Nat.not_le.mpr early, List.getElem?_take_of_lt kept]
    · by_cases long : count ≤ data.length
      · have rest : count + (target - (address + count)) = target - address := by omega
        have passed : (data.take count)[target - address]? = none := by
          rw [List.getElem?_eq_none_iff, List.length_take]
          omega
        rw [Nat.min_eq_right long] at late ⊢
        simp [overlay, reached, late, List.getElem?_drop, rest, passed]
      · have short : data.length ≤ count := by omega
        simp [overlay, reached, List.take_of_length_le short, List.drop_eq_nil_of_le short]

def stored (arena : Arena) (id : BufferId) (address place : Nat) (data : List UInt8) : Arena :=
  { arena with
    store := arena.store.write place data
    buffers := arena.buffers.modify id (·.setStale (address / arena.pageSize) true) }

theorem stored_sameTables (arena : Arena) (id : BufferId) (address place : Nat)
    (data : List UInt8) : SameTables arena (arena.stored id address place data) :=
  sameTables_setStale arena _ id _ true

theorem locate_of_place {arena : Arena} (wellFormed : arena.WellFormed) {id : BufferId}
    {address place : Nat} (placed : arena.place? id address = some place) :
    ∃ buffer, arena.buffers.get? id = some buffer ∧ arena.locate buffer address = .ok place := by
  have positive := wellFormed.pageSize_pos
  have inside := place?_room wellFormed placed
  have fits : arena.pageSize * arena.maxPages < Size.limit :=
    Nat.lt_of_le_of_lt wellFormed.addressable (by decide)
  obtain ⟨physical, found, rfl⟩ := place?_eq_some_iff.mp placed
  cases live : arena.buffers.get? id with
  | none => simp [physicalPage?, tables_get?, live] at found
  | some buffer =>
      rw [physicalPage?_of_live live, Option.map_eq_some_iff] at found
      obtain ⟨entry, listed, rfl⟩ := found
      refine ⟨buffer, rfl, ?_⟩
      have base := Size.mul_eq_ok (Nat.lt_of_le_of_lt
        (Nat.le_trans (Nat.le_add_right _ _) (Nat.le_of_add_right_le inside)) fits)
      have sum := Size.add_eq_ok (Nat.lt_of_le_of_lt (Nat.le_of_add_right_le inside) fits)
      simp [locate, Nat.pos_iff_ne_zero.mp positive, Buffer.entry, listed, base, sum, bind, Except.bind]

theorem locate_past_end {arena : Arena} (positive : 0 < arena.pageSize) {id : BufferId}
    {buffer : Buffer} (live : arena.buffers.get? id = some buffer) {address : Nat}
    (missing : arena.place? id address = none) :
    arena.locate buffer address =
      .error (.outOfBounds buffer.table.size (address / arena.pageSize)) := by
  rw [place?, Option.map_eq_none_iff, physicalPage?_of_live live, Option.map_eq_none_iff] at missing
  simp [locate, Nat.pos_iff_ne_zero.mp positive, Buffer.entry, missing, bind, Except.bind]

theorem checkRange_eq_ok {arena : Arena} (wellFormed : arena.WellFormed) {offset length : Nat}
    (inside : offset + length ≤ arena.pageSize * arena.maxPages) :
    arena.checkRange offset length = .ok () := by
  have fits : offset + length < Size.limit :=
    Nat.lt_of_le_of_lt (inside.trans wellFormed.addressable) (by decide)
  simp [checkRange, Size.add_eq_ok fits, Nat.not_lt.mpr inside, bind, Except.bind, pure, Except.pure]

theorem putOnPage_of_place {arena : Arena} (wellFormed : arena.WellFormed) {id : BufferId}
    {address place : Nat} (placed : arena.place? id address = some place) {data : List UInt8}
    (short : data.length ≤ arena.room address) :
    putOnPage id address data arena = .ok () (arena.stored id address place data) := by
  obtain ⟨buffer, live, located⟩ := locate_of_place wellFormed placed
  have inside : arena.checkRange place data.length = .ok () := checkRange_eq_ok wellFormed
    (Nat.le_trans (Nat.add_le_add_left short _) (place?_room wellFormed placed))
  simp [putOnPage, buffer_of_live live, located, inside, stored]

theorem apart_of_pages {size first second : Nat} (positive : 0 < size)
    (different : first / size ≠ second / size) :
    first + (size - first % size) ≤ second ∨ second + (size - second % size) ≤ first := by
  have split := Nat.div_add_mod first size
  have split' := Nat.div_add_mod second size
  have remainder := Nat.mod_lt first positive
  have remainder' := Nat.mod_lt second positive
  rcases Nat.lt_or_gt_of_ne different with below | above
  · have step := Nat.mul_le_mul_left size (Nat.succ_le_of_lt below)
    rw [Nat.mul_succ] at step
    omega
  · have step := Nat.mul_le_mul_left size (Nat.succ_le_of_lt above)
    rw [Nat.mul_succ] at step
    omega

theorem overlay_other_page {size first second : Nat} (positive : 0 < size) {data : List UInt8}
    (short : data.length ≤ size - first % size) (different : first / size ≠ second / size) :
    overlay first data second = none := by
  have apart := apart_of_pages positive different
  have remainder := Nat.mod_lt second positive
  rw [overlay_eq_none_iff]
  omega

theorem overlay_same_page {size first second place spot : Nat} (data : List UInt8)
    (within : place % size = first % size) (also : spot % size = second % size)
    (logical : first / size = second / size) (physical : place / size = spot / size) :
    overlay place data spot = overlay first data second := by
  have split := Nat.div_add_mod first size
  have split' := Nat.div_add_mod second size
  have onPlace := Nat.div_add_mod place size
  have onSpot := Nat.div_add_mod spot size
  rw [← logical] at split'
  rw [← physical] at onSpot
  have ordered : place ≤ spot ↔ first ≤ second := by omega
  have distance : spot - place = second - first := by omega
  simp only [overlay, ordered, distance]

theorem byteAt?_stored {arena : Arena} (wellFormed : arena.WellFormed) {id : BufferId}
    {address place : Nat} (placed : arena.place? id address = some place) {data : List UInt8}
    (short : data.length ≤ arena.room address) (other : BufferId) (target : Nat) :
    (arena.stored id address place data).byteAt? other target =
      (arena.byteAt? other target).map fun old =>
        if other = id then (overlay address data target).getD old else old := by
  have positive := wellFormed.pageSize_pos
  rw [byteAt?, byteAt?, (stored_sameTables arena id address place data).place?]
  cases reached : arena.place? other target with
  | none => rfl
  | some spot =>
      simp only [Option.map_some, Option.some.injEq, stored, get_write_overlay]
      obtain ⟨found, within⟩ := place?_page positive placed
      obtain ⟨foundToo, also⟩ := place?_page positive reached
      by_cases page : place / arena.pageSize = spot / arena.pageSize
      · obtain ⟨rfl, pages⟩ := physicalPage?_injective wellFormed found (page ▸ foundToo)
        rw [if_pos rfl, overlay_same_page data within also pages page]
      -- The data stays on its page, and the target is on another, both logically and physically.
      · rw [overlay_other_page positive (within ▸ short) page, Option.getD_none]
        split
        · rename_i same
          subst same
          have pages : address / arena.pageSize ≠ target / arena.pageSize := by
            intro equal
            rw [equal] at found
            exact page (Option.some.inj (found.symm.trans foundToo))
          rw [overlay_other_page positive short pages, Option.getD_none]
        · rfl

theorem put_of_place {arena : Arena} (wellFormed : arena.WellFormed) {id : BufferId}
    {address place : Nat} (placed : arena.place? id address = some place) {data : List UInt8}
    (nonempty : data ≠ []) :
    put id address data arena =
      put id (address + min data.length (arena.room address)) (data.drop (arena.room address))
        (arena.stored id address place (data.take (arena.room address))) := by
  have positive := wellFormed.pageSize_pos
  have fits : address + min data.length (arena.room address) < Size.limit := by
    have bound := room_le_extent positive placed
    have near : address + min data.length (arena.room address) + 0 ≤ arena.extent id := by omega
    exact start_lt wellFormed near
  have short : (data.take (arena.room address)).length ≤ arena.room address :=
    List.length_take_le _ _
  have first := putOnPage_of_place wellFormed placed short
  rw [put, dif_neg nonempty]
  simp [Nat.pos_iff_ne_zero.mp positive, first, Size.add_eq_ok fits]

theorem after_put_of_place {arena : Arena} (wellFormed : arena.WellFormed) {id : BufferId}
    {address place : Nat} (placed : arena.place? id address = some place) {data : List UInt8}
    (nonempty : data ≠ []) :
    Action.after (put id address data) arena =
      Action.after (put id (address + min data.length (arena.room address))
        (data.drop (arena.room address)))
        (arena.stored id address place (data.take (arena.room address))) := by
  rw [Action.after_eq_left, Action.after_eq_left, put_of_place wellFormed placed nonempty]

theorem put_past_end {arena : Arena} (positive : 0 < arena.pageSize) {id : BufferId}
    {buffer : Buffer} (live : arena.buffers.get? id = some buffer) {address : Nat}
    (missing : arena.place? id address = none) {data : List UInt8} (nonempty : data ≠ []) :
    put id address data arena =
      .error (.outOfBounds buffer.table.size (address / arena.pageSize)) arena := by
  rw [put, dif_neg nonempty]
  simp [Nat.pos_iff_ne_zero.mp positive, putOnPage, buffer_of_live live,
    locate_past_end positive live missing]

theorem put_of_missing {arena : Arena} (positive : 0 < arena.pageSize) {id : BufferId}
    (missing : arena.buffers.get? id = none) (address : Nat) {data : List UInt8}
    (nonempty : data ≠ []) : put id address data arena = .error .unknownName arena := by
  rw [put, dif_neg nonempty]
  simp [Nat.pos_iff_ne_zero.mp positive, putOnPage, buffer_of_missing missing]

theorem after_put_past_end {arena : Arena} (positive : 0 < arena.pageSize) {id : BufferId}
    {address : Nat} (missing : arena.place? id address = none) {data : List UInt8}
    (nonempty : data ≠ []) : Action.after (put id address data) arena = arena := by
  cases live : arena.buffers.get? id with
  | none => exact Action.after_of_error (put_of_missing positive live address nonempty)
  | some buffer => exact Action.after_of_error (put_past_end positive live missing nonempty)

/-- A put changes the bytes that it covers inside the buffer, and no other byte of any buffer. -/
theorem byteAt?_put {arena : Arena} (wellFormed : arena.WellFormed) (id : BufferId) (address : Nat)
    (data : List UInt8) (other : BufferId) (target : Nat) :
    (Action.after (put id address data) arena).byteAt? other target =
      (arena.byteAt? other target).map fun old =>
        if other = id then (overlay address data target).getD old else old := by
  -- One step stores what fits on the page of the address; the rest is put at the start of the next.
  induction address, data using put.induct generalizing arena with
  | case1 address =>
      have nothing : put id address [] arena = .ok () arena := by simp [put]
      rw [Action.after_of_ok nothing]
      simp [overlay]
  | case2 address data nonempty ih =>
      have positive := wellFormed.pageSize_pos
      cases placed : arena.place? id address with
      | some place =>
          have kept := stored_sameTables arena id address place (data.take (arena.room address))
          have rest := ih arena (Nat.pos_iff_ne_zero.mp positive)
            (address + min data.length (arena.room address)) (kept.wellFormed wellFormed)
          rw [after_put_of_place wellFormed placed nonempty, rest, byteAt?_stored wellFormed placed (List.length_take_le _ _), Option.map_map]
          congr 1
          funext old
          by_cases same : other = id
          · simp only [Function.comp_apply, same, if_true, overlay_split]
          · simp [same]
      | none =>
          have past := (place?_eq_none_iff positive).mp placed
          rw [after_put_past_end positive placed nonempty]
          cases present : arena.byteAt? other target with
          | none => rfl
          | some old =>
              by_cases same : other = id
              · subst same
                have before := inside_of_byteAt? positive present
                have unreached : overlay address data target = none :=
                  overlay_eq_none_iff.mpr (.inl (Nat.lt_of_lt_of_le before past))
                simp [unreached]
              · simp [same]

def access {α : Type} (pageSize pages address length : Nat) (answer : α) : Except Fault α :=
  if length = 0 ∨ address + length ≤ pages * pageSize then .ok answer
  else .error (.outOfBounds pages (max (address / pageSize) pages))

theorem access_past_end {α : Type} {pageSize pages address length : Nat} (answer : α)
    (positive : 0 < pageSize) (past : pages * pageSize ≤ address) (nonempty : length ≠ 0) :
    access pageSize pages address length answer = .error (.outOfBounds pages (address / pageSize)) := by
  have reached := (Nat.le_div_iff_mul_le positive).mpr past
  rw [access, if_neg (by omega), Nat.max_eq_left reached]

theorem inside_of_access {α : Type} {pageSize pages address length : Nat} {answer value : α}
    (answered : access pageSize pages address length answer = .ok value) (nonempty : length ≠ 0) :
    address + length ≤ pages * pageSize := by
  unfold access at answered
  split at answered
  · rename_i inside
    exact inside.resolve_left nonempty
  · cases answered

theorem access_next_page {α : Type} {pageSize pages address length : Nat} (answer : α)
    (positive : 0 < pageSize) (inside : address / pageSize < pages) :
    access pageSize pages (address + min length (pageSize - address % pageSize))
        (length - (pageSize - address % pageSize)) answer =
      access pageSize pages address length answer := by
  have split := Nat.div_add_mod address pageSize
  have remainder := Nat.mod_lt address positive
  have block := Nat.mul_le_mul_left pageSize (Nat.succ_le_of_lt inside)
  rw [Nat.mul_succ] at block
  unfold access
  rw [Nat.mul_comm pages]
  rcases Nat.le_total length (pageSize - address % pageSize) with short | long
  · rw [if_pos (by omega), if_pos (by omega)]
  · rw [Nat.min_eq_right long]
    have next : (address + (pageSize - address % pageSize)) / pageSize = address / pageSize + 1 := by
      rw [show address + (pageSize - address % pageSize) = pageSize * (address / pageSize + 1) by
        rw [Nat.mul_succ]
        omega]
      exact Nat.mul_div_cancel_left _ positive
    by_cases fits : length = 0 ∨ address + length ≤ pageSize * pages
    · rw [if_pos (by omega), if_pos fits]
    · rw [if_neg (by omega), if_neg fits, next]
      congr 2
      omega

theorem put_answer {arena : Arena} (wellFormed : arena.WellFormed) {id : BufferId} {buffer : Buffer}
    (live : arena.buffers.get? id = some buffer) (address : Nat) (data : List UInt8) :
    Action.answer (put id address data) arena =
      access arena.pageSize buffer.table.size address data.length () := by
  have positive := wellFormed.pageSize_pos
  induction address, data using put.induct generalizing arena buffer with
  | case1 address =>
      have nothing : put id address [] arena = .ok () arena := by simp [put]
      simp [Action.answer, Action.outcome, nothing, access]
  | case2 address data nonempty ih =>
      have length : data.length ≠ 0 := fun none => nonempty (List.length_eq_zero_iff.mp none)
      cases placed : arena.place? id address with
      | some place =>
          have kept := stored_sameTables arena id address place (data.take (arena.room address))
          have inside : address / arena.pageSize < buffer.table.size := by
            obtain ⟨physical, found, -⟩ := place?_eq_some_iff.mp placed
            rw [physicalPage?_of_live live, Option.map_eq_some_iff] at found
            obtain ⟨entry, listed, -⟩ := found
            exact (Array.getElem?_eq_some_iff.mp listed).1
          have stillLive : (arena.stored id address place
              (data.take (arena.room address))).buffers.get? id =
              some (buffer.setStale (address / arena.pageSize) true) := by
            simp [stored, Dictionary.get?_modify, live]
          have rest := ih arena (Nat.pos_iff_ne_zero.mp positive)
            (address + min data.length (arena.room address)) (kept.wellFormed wellFormed) stillLive
            positive
          have sameSize : (buffer.setStale (address / arena.pageSize) true).table.size =
              buffer.table.size := by simp [Buffer.setStale]
          rw [sameSize, List.length_drop] at rest
          rw [Action.answer, Action.outcome, put_of_place wellFormed placed nonempty]
          exact rest.trans (access_next_page () positive inside)
      | none =>
          have past := (place?_eq_none_iff positive).mp placed
          rw [extent_of_live live] at past
          rw [access_past_end () positive past length, Action.answer, Action.outcome,
            put_past_end positive live placed nonempty]

/-! ## Reading -/

theorem readFrom_of_place {arena : Arena} (wellFormed : arena.WellFormed) {id : BufferId}
    {buffer : Buffer} (live : arena.buffers.get? id = some buffer) {address place : Nat}
    (placed : arena.place? id address = some place) {length : Nat} (nonempty : length ≠ 0) :
    arena.readFrom buffer address length =
      (arena.readFrom buffer (address + min length (arena.room address))
        (length - min length (arena.room address))).map
          (arena.store.read place (min length (arena.room address)) ++ ·) := by
  have positive := wellFormed.pageSize_pos
  have fits : address + min length (arena.room address) < Size.limit := by
    have bound := room_le_extent positive placed
    have near : address + min length (arena.room address) + 0 ≤ arena.extent id := by omega
    exact start_lt wellFormed near
  obtain ⟨holder, found, located⟩ := locate_of_place wellFormed placed
  cases live.symm.trans found
  have inside : arena.checkRange place (min length (arena.room address)) = .ok () :=
    checkRange_eq_ok wellFormed
      (Nat.le_trans (Nat.add_le_add_left (Nat.min_le_right _ _) _) (place?_room wellFormed placed))
  rw [readFrom, dif_neg nonempty, dif_neg (Nat.pos_iff_ne_zero.mp positive)]
  simp only [located, inside, Size.add_eq_ok fits, bind, Except.bind, pure, Except.pure]
  cases arena.readFrom buffer _ _ <;> rfl

theorem readFrom_past_end {arena : Arena} (positive : 0 < arena.pageSize) {id : BufferId}
    {buffer : Buffer} (live : arena.buffers.get? id = some buffer) {address : Nat}
    (missing : arena.place? id address = none) {length : Nat} (nonempty : length ≠ 0) :
    arena.readFrom buffer address length =
      .error (.outOfBounds buffer.table.size (address / arena.pageSize)) := by
  rw [readFrom, dif_neg nonempty, dif_neg (Nat.pos_iff_ne_zero.mp positive)]
  simp only [locate_past_end positive live missing, bind, Except.bind]

def bytesFrom (arena : Arena) (id : BufferId) (address length : Nat) : List UInt8 :=
  (List.range' address length).filterMap (arena.byteAt? id)

theorem byteAt?_on_page {arena : Arena} (positive : 0 < arena.pageSize) {id : BufferId}
    {address place : Nat} (placed : arena.place? id address = some place) {distance : Nat}
    (near : distance < arena.room address) :
    arena.byteAt? id (address + distance) = some (arena.store.get (place + distance)) := by
  rw [byteAt?, place?_on_page positive placed near, Option.map_some]

theorem bytesFrom_on_page {arena : Arena} (positive : 0 < arena.pageSize) {id : BufferId}
    {address place : Nat} (placed : arena.place? id address = some place) {length : Nat}
    (short : length ≤ arena.room address) :
    arena.bytesFrom id address length = arena.store.read place length := by
  rw [bytesFrom, ByteStore.read, ← List.filterMap_eq_map, List.range'_eq_map_range,
    List.range'_eq_map_range, List.filterMap_map, List.filterMap_map]
  apply List.filterMap_congr
  intro distance member
  exact byteAt?_on_page positive placed (Nat.lt_of_lt_of_le (List.mem_range.mp member) short)

theorem bytesFrom_add (arena : Arena) (id : BufferId) (address first second : Nat) :
    arena.bytesFrom id address (first + second) =
      arena.bytesFrom id address first ++ arena.bytesFrom id (address + first) second := by
  rw [bytesFrom, ← List.range'_append_1, List.filterMap_append]
  rfl

/-- A read answers the bytes of the buffer, or faults at the first page that the buffer lacks. -/
theorem read_eq {arena : Arena} (wellFormed : arena.WellFormed) {id : BufferId} {buffer : Buffer}
    (live : arena.buffers.get? id = some buffer) (address length : Nat) :
    arena.read id address length =
      access arena.pageSize buffer.table.size address length
        (arena.bytesFrom id address length) := by
  have positive := wellFormed.pageSize_pos
  have whole : arena.read id address length = arena.readFrom buffer address length := by
    simp [read, buffer_of_live live, bind, Except.bind]
  rw [whole]
  clear whole
  -- One step reads what is wanted of the page of the address; the rest is read from the next on.
  induction address, length using readFrom.induct arena with
  | case1 address => simp [readFrom, access, bytesFrom, pure, Except.pure]
  | case2 address length nonempty empty => exact absurd empty (Nat.pos_iff_ne_zero.mp positive)
  | case3 address length nonempty sized _ ih =>
      cases placed : arena.place? id address with
      | some place =>
          have inside : address / arena.pageSize < buffer.table.size := by
            have bound := room_le_extent positive placed
            rw [extent_of_live live] at bound
            have remainder := Nat.mod_lt address positive
            unfold room at bound
            exact (Nat.div_lt_iff_lt_mul positive).mpr (by omega)
          have rest := ih (address + min length (arena.room address))
          have left : length - min length (arena.room address) = length - arena.room address := by
            omega
          have whole : min length (arena.room address) + (length - arena.room address) = length := by
            omega
          rw [readFrom_of_place wellFormed live placed nonempty, rest, left,
            ← bytesFrom_on_page positive placed (Nat.min_le_right _ _)]
          have joined := bytesFrom_add arena id address (min length (arena.room address))
            (length - arena.room address)
          rw [whole] at joined
          rw [joined, ← access_next_page _ positive inside]
          unfold access room
          split <;> rfl
      | none =>
          have past := (place?_eq_none_iff positive).mp placed
          rw [extent_of_live live] at past
          rw [readFrom_past_end positive live placed nonempty,
            access_past_end _ positive past nonempty]

theorem read_of_missing {arena : Arena} {id : BufferId} (missing : arena.buffers.get? id = none)
    (address length : Nat) : arena.read id address length = .error .unknownName := by
  simp [read, buffer_of_missing missing, bind, Except.bind]

theorem byteAt?_isSome {arena : Arena} (positive : 0 < arena.pageSize) {id : BufferId}
    {address : Nat} (inside : address < arena.extent id) : (arena.byteAt? id address).isSome := by
  rw [byteAt?, Option.isSome_map]
  by_contra missing
  have past := (place?_eq_none_iff positive).mp (Option.not_isSome_iff_eq_none.mp missing)
  omega

theorem bytesFrom_map {arena : Arena} (positive : 0 < arena.pageSize) {id : BufferId}
    {address length : Nat} (inside : address + length ≤ arena.extent id) :
    (arena.bytesFrom id address length).map some =
      (List.range' address length).map (arena.byteAt? id) := by
  induction length generalizing address with
  | zero => rfl
  | succ length ih =>
      have present := byteAt?_isSome positive (show address < arena.extent id by omega)
      obtain ⟨byte, found⟩ := Option.isSome_iff_exists.mp present
      have rest := ih (show address + 1 + length ≤ arena.extent id by omega)
      rw [bytesFrom, List.range'_succ, List.filterMap_cons, found, List.map_cons, List.map_cons, found]
      exact congrArg _ rest

theorem sizeInBytes_of_live {arena : Arena} (wellFormed : arena.WellFormed) {id : BufferId}
    {buffer : Buffer} (live : arena.buffers.get? id = some buffer) :
    arena.sizeInBytes id = .ok (arena.extent id) := by
  have space := Nat.le_trans (extent_le wellFormed id) wellFormed.addressable
  have small : Size.addressSpace < Size.limit := by decide
  have fits : buffer.table.size * arena.pageSize < Size.limit := by
    rw [← extent_of_live live]
    omega
  simp [sizeInBytes, sizeInPages_of_live live, Size.mul_eq_ok fits, extent_of_live live, bind,
    Except.bind]

theorem live_of_sizeInBytes {arena : Arena} (wellFormed : arena.WellFormed) {id : BufferId}
    {size : Nat} (sized : arena.sizeInBytes id = .ok size) :
    ∃ buffer, arena.buffers.get? id = some buffer ∧ size = arena.extent id := by
  cases live : arena.buffers.get? id with
  | none => simp [sizeInBytes, sizeInPages_of_missing live, bind, Except.bind] at sized
  | some buffer =>
      rw [sizeInBytes_of_live wellFormed live] at sized
      exact ⟨buffer, rfl, (Except.ok.inj sized).symm⟩

theorem read_inside {arena : Arena} (wellFormed : arena.WellFormed) {id : BufferId} {buffer : Buffer}
    (live : arena.buffers.get? id = some buffer) {address length : Nat}
    (inside : address + length ≤ arena.extent id) :
    arena.read id address length = .ok (arena.bytesFrom id address length) := by
  rw [extent_of_live live] at inside
  rw [read_eq wellFormed live, access, if_pos (.inr inside)]

theorem inside_of_read {arena : Arena} (wellFormed : arena.WellFormed) {id : BufferId}
    {address length : Nat} {bytes : List UInt8} (answered : arena.read id address length = .ok bytes)
    (nonempty : length ≠ 0) :
    ∃ buffer, arena.buffers.get? id = some buffer ∧ address + length ≤ arena.extent id := by
  cases live : arena.buffers.get? id with
  | none => simp [read_of_missing live] at answered
  | some buffer =>
      rw [read_eq wellFormed live] at answered
      exact ⟨buffer, rfl, extent_of_live live ▸ inside_of_access answered nonempty⟩

theorem bytesFrom_congr {arena after : Arena} {id : BufferId} {address length : Nat}
    (same : ∀ target, address ≤ target → target < address + length →
      after.byteAt? id target = arena.byteAt? id target) :
    after.bytesFrom id address length = arena.bytesFrom id address length := by
  apply List.filterMap_congr
  intro target member
  obtain ⟨reached, early⟩ := List.mem_range'_1.mp member
  exact same target reached early

theorem read_congr {arena after : Arena} (wellFormed : arena.WellFormed)
    (stillWellFormed : after.WellFormed) (pageSize : after.pageSize = arena.pageSize)
    {id : BufferId} (pages : after.tables.get? id = arena.tables.get? id) {address length : Nat}
    (bytes : ∀ target, address ≤ target → target < address + length →
      after.byteAt? id target = arena.byteAt? id target) :
    after.read id address length = arena.read id address length := by
  rw [tables_get?, tables_get?] at pages
  cases live : arena.buffers.get? id with
  | none =>
      rw [live, Option.map_none, Option.map_eq_none_iff] at pages
      rw [read_of_missing live, read_of_missing pages]
  | some buffer =>
      rw [live, Option.map_some, Option.map_eq_some_iff] at pages
      obtain ⟨left, stillLive, pages⟩ := pages
      have size : left.table.size = buffer.table.size := by
        rw [← Buffer.length_pages, pages, Buffer.length_pages]
      rw [read_eq wellFormed live, read_eq stillWellFormed stillLive, size, pageSize,
        bytesFrom_congr bytes]

theorem live_of_byteAt? {arena : Arena} (wellFormed : arena.WellFormed) {id : BufferId}
    {address : Nat} {byte : UInt8} (holds : arena.byteAt? id address = some byte) :
    ∃ buffer, arena.buffers.get? id = some buffer := by
  obtain ⟨place, placed, -⟩ := Option.map_eq_some_iff.mp holds
  obtain ⟨buffer, live, -⟩ := locate_of_place wellFormed placed
  exact ⟨buffer, live⟩

theorem read_of_bytes {arena after : Arena} (wellFormed : arena.WellFormed)
    (stillWellFormed : after.WellFormed) {id : BufferId} {address length : Nat} {bytes : List UInt8}
    (answered : arena.read id address length = .ok bytes) (nonempty : length ≠ 0)
    (kept : ∀ target byte, address ≤ target → target < address + length →
      arena.byteAt? id target = some byte → after.byteAt? id target = some byte) :
    after.read id address length = .ok bytes := by
  obtain ⟨buffer, live, inside⟩ := inside_of_read wellFormed answered nonempty
  have holds (target : Nat) (reached : address ≤ target) (early : target < address + length) :
      ∃ byte, arena.byteAt? id target = some byte ∧ after.byteAt? id target = some byte := by
    have present := byteAt?_isSome wellFormed.pageSize_pos (Nat.lt_of_lt_of_le early inside)
    obtain ⟨byte, found⟩ := Option.isSome_iff_exists.mp present
    exact ⟨byte, found, kept target byte reached early found⟩
  obtain ⟨first, -, foundFirst⟩ := holds address (Nat.le_refl _) (by omega)
  obtain ⟨last, -, foundLast⟩ := holds (address + length - 1) (by omega) (by omega)
  obtain ⟨left, stillLive⟩ := live_of_byteAt? stillWellFormed foundFirst
  have still := inside_of_byteAt? stillWellFormed.pageSize_pos foundLast
  rw [read_inside wellFormed live inside, Except.ok.injEq] at answered
  rw [read_inside stillWellFormed stillLive (by omega), ← answered]
  congr 1
  apply bytesFrom_congr
  intro target reached early
  obtain ⟨byte, before, now⟩ := holds target reached early
  rw [before, now]

theorem length_bytesFrom {arena : Arena} (positive : 0 < arena.pageSize) {id : BufferId}
    {address length : Nat} (inside : address + length ≤ arena.extent id) :
    (arena.bytesFrom id address length).length = length := by
  simpa using congrArg List.length (bytesFrom_map positive inside)

/-! ## Reading what was put -/

theorem put_of_inside {arena : Arena} (wellFormed : arena.WellFormed) {id : BufferId}
    {buffer : Buffer} (live : arena.buffers.get? id = some buffer) {address : Nat}
    {data : List UInt8} (inside : address + data.length ≤ arena.extent id) :
    put id address data arena = .ok () (Action.after (put id address data) arena) := by
  have answered := put_answer wellFormed live address data
  rw [extent_of_live live] at inside
  rw [access, if_pos (.inr inside)] at answered
  unfold Action.answer Action.outcome at answered
  unfold Action.after Action.outcome
  cases ended : put id address data arena with
  | ok answer after => rfl
  | error fault after => simp [ended] at answered

theorem inside_of_put {arena after : Arena} (wellFormed : arena.WellFormed) {id : BufferId}
    {address : Nat} {data : List UInt8} (ended : put id address data arena = .ok () after)
    (nonempty : data ≠ []) :
    ∃ buffer, arena.buffers.get? id = some buffer ∧ address + data.length ≤ arena.extent id := by
  cases live : arena.buffers.get? id with
  | none => simp [put_of_missing wellFormed.pageSize_pos live address nonempty] at ended
  | some buffer =>
      have answered := put_answer wellFormed live address data
      simp only [Action.answer, Action.outcome, ended] at answered
      have length : data.length ≠ 0 := by simpa using nonempty
      exact ⟨buffer, rfl, extent_of_live live ▸ inside_of_access answered.symm length⟩

theorem bytesFrom_put {arena : Arena} (wellFormed : arena.WellFormed) {id : BufferId}
    {address : Nat} {data : List UInt8} (inside : address + data.length ≤ arena.extent id) :
    (Action.after (put id address data) arena).bytesFrom id address data.length = data := by
  have same := put_sameTables id address data arena
  have stillWellFormed := same.wellFormed wellFormed
  have still : address + data.length ≤ (Action.after (put id address data) arena).extent id := by
    rwa [same.extent id]
  have bytes := bytesFrom_map stillWellFormed.pageSize_pos still
  refine List.map_injective_iff.mpr (Option.some_injective _) (bytes.trans ?_)
  apply List.ext_getElem?
  intro distance
  rw [List.getElem?_map, List.getElem?_map]
  rcases Nat.lt_or_ge distance data.length with near | far
  · have present := byteAt?_isSome wellFormed.pageSize_pos
      (show address + distance < arena.extent id by omega)
    obtain ⟨old, found⟩ := Option.isSome_iff_exists.mp present
    rw [List.getElem?_range' near, Option.map_some, Nat.one_mul, byteAt?_put wellFormed, found]
    simp [overlay, near]
  · rw [List.getElem?_eq_none (by simpa using far), List.getElem?_eq_none far]
    rfl

theorem bytesFrom_put_part {arena : Arena} (wellFormed : arena.WellFormed) {id : BufferId}
    {address : Nat} {first middle last : List UInt8}
    (inside : address + (first ++ (middle ++ last)).length ≤ arena.extent id) :
    (Action.after (put id address (first ++ (middle ++ last))) arena).bytesFrom id
      (address + first.length) middle.length = middle := by
  have same := put_sameTables id address (first ++ (middle ++ last)) arena
  have positive := (same.wellFormed wellFormed).pageSize_pos
  have whole := bytesFrom_put wellFormed inside
  rw [← same.extent] at inside
  generalize Action.after (put id address (first ++ (middle ++ last))) arena = after at *
  rw [List.length_append, List.length_append] at inside whole
  rw [bytesFrom_add, bytesFrom_add] at whole
  have rest := (List.append_inj whole (length_bytesFrom positive (by omega))).2
  exact (List.append_inj rest (length_bytesFrom positive (by omega))).1

theorem bytesFrom_put_prefix {arena : Arena} (wellFormed : arena.WellFormed) {id : BufferId}
    {address more : Nat} {data : List UInt8}
    (inside : address + (data.length + more) ≤ arena.extent id) :
    (Action.after (put id address data) arena).bytesFrom id address (data.length + more) =
      data ++ (arena.bytesFrom id address (data.length + more)).drop data.length := by
  have first : (arena.bytesFrom id address data.length).length = data.length :=
    length_bytesFrom wellFormed.pageSize_pos (by omega)
  rw [bytesFrom_add, bytesFrom_add, List.drop_left' first, bytesFrom_put wellFormed (by omega)]
  congr 1
  apply bytesFrom_congr
  intro target reached _
  rw [byteAt?_put wellFormed, overlay_eq_none_iff.mpr (.inr reached)]
  simp

/-! ## Flushing -/

theorem upload_of_owned {arena : Arena} (wellFormed : arena.WellFormed) {page : Nat}
    (owned : page ∈ arena.ownedPages) :
    arena.upload page = .ok
      ⟨page, page * arena.pageSize, arena.store.read (page * arena.pageSize) arena.pageSize⟩ := by
  have block := Nat.mul_le_mul_left arena.pageSize (Nat.succ_le_of_lt (lt_maxPages wellFormed owned))
  rw [Nat.mul_succ, Nat.mul_comm] at block
  have space := wellFormed.addressable
  have small : Size.addressSpace < Size.limit := by decide
  have fits : page * arena.pageSize < Size.limit := by omega
  simp [upload, Size.mul_eq_ok fits, checkRange_eq_ok wellFormed block, bind, Except.bind, pure,
    Except.pure]

theorem flushPage_ok {arena : Arena} (wellFormed : arena.WellFormed) (sink : Sink) {id : BufferId}
    {buffer : Buffer} (live : arena.buffers.get? id = some buffer) (report : FlushReport) {page : Nat}
    (inside : page < buffer.table.size) :
    ∃ value after, flushPage sink id report page arena = .ok value after := by
  have listed : buffer.table[page]? = some buffer.table[page] := Array.getElem?_eq_getElem inside
  have found : arena.physicalPage? id page = some buffer.table[page].physical := by
    rw [physicalPage?_of_live live, listed, Option.map_some]
  have uploaded := upload_of_owned wellFormed (mem_ownedPages found)
  by_cases stale : buffer.table[page].stale
  · cases verdict : sink buffer.table[page].physical with
    | none => simp [flushPage, buffer_of_live live, Buffer.entry, listed, stale, changeBuffer, uploaded,
        verdict]
    | some reason => simp [flushPage, buffer_of_live live, Buffer.entry, listed, stale, changeBuffer,
        uploaded, verdict]
  · simp [flushPage, buffer_of_live live, Buffer.entry, listed, stale]

theorem SameTables.live {arena after : Arena} (same : SameTables arena after) {id : BufferId}
    {buffer : Buffer} (live : arena.buffers.get? id = some buffer) :
    ∃ kept, after.buffers.get? id = some kept ∧ kept.table.size = buffer.table.size := by
  have listed : after.tables.get? id = some buffer.pages := by
    rw [same.tables, tables_get?, live, Option.map_some]
  rw [tables_get?, Option.map_eq_some_iff] at listed
  obtain ⟨kept, found, pages⟩ := listed
  refine ⟨kept, found, ?_⟩
  rw [← Buffer.length_pages, pages, Buffer.length_pages]

theorem flushBuffer_ok {arena : Arena} (wellFormed : arena.WellFormed) (sink : Sink) {id : BufferId}
    {buffer : Buffer} (live : arena.buffers.get? id = some buffer) (report : FlushReport) :
    ∃ value after, flushBuffer sink report id arena = .ok value after := by
  have loop := @Action.foldlM_ok Arena Nat FlushReport (Remarked arena) (flushPage sink id)
    (List.range buffer.table.size) ?_ { report with visited := report.visited + 1 } arena
    (Std.Refl.refl arena)
  · obtain ⟨value, after, ended, -⟩ := loop
    exact ⟨value, after, by simp [flushBuffer, sizeInPages_of_live live, ended]⟩
  · intro page member folded middle remarked
    obtain ⟨kept, found, size⟩ := remarked.live live
    have inside : page < kept.table.size := size ▸ List.mem_range.mp member
    obtain ⟨value, after, ended⟩ :=
      flushPage_ok (remarked.wellFormed wellFormed) sink found folded inside
    have step : Remarked middle after := (flushPage_remarked sink id folded page).of_ok ended
    exact ⟨value, after, ended, Trans.trans remarked step⟩

theorem flush_ok {arena : Arena} (wellFormed : arena.WellFormed) (sink : Sink) :
    ∃ value after, flush sink arena = .ok value after := by
  have loop := @Action.foldlM_ok Arena BufferId FlushReport (Remarked arena) (flushBuffer sink)
    arena.buffers.keys ?_ {} arena (Std.Refl.refl arena)
  · obtain ⟨value, after, ended, -⟩ := loop
    exact ⟨value, after, by simp [flush, ended]⟩
  · intro id member folded middle remarked
    cases live : arena.buffers.get? id with
    | none => exact absurd member (Dictionary.get?_eq_none_iff.mp live)
    | some buffer =>
        obtain ⟨kept, found, -⟩ := remarked.live live
        obtain ⟨value, after, ended⟩ :=
          flushBuffer_ok (remarked.wellFormed wellFormed) sink found folded
        have step : Remarked middle after := (flushBuffer_remarked sink folded id).of_ok ended
        exact ⟨value, after, ended, Trans.trans remarked step⟩

end TorusEngine.Paging.Arena
