import TorusEngine.Proofs.Paging.Marks

/-!
# Puts that reach past the end of a buffer

Inside a buffer a put changes the bytes that it covers, marks the pages on which they lie, and changes
nothing else. A put that reaches past the end faults at the first page that the buffer lacks, and what
it leaves is the arena after a put of the part that lies before the end (`put_past_end_eq`). A read
faults where a put does. Neither faults in any other way, wherever its address lies
(`puts_stop_at_end`).
-/

namespace TorusEngine.Paging.Arena

/-- A put that changes the bytes it covers, marks the pages they lie on, and does nothing else. -/
structure PutsExactly (arena : Arena) (id : BufferId) (address : Nat) (data : List UInt8)
    (after : Arena) : Prop where
  bytes : ∀ other target, after.byteAt? other target =
    if other = id ∧ address ≤ target ∧ target < address + data.length then data[target - address]?
    else arena.byteAt? other target
  marks : ∀ other page, after.slot? other page =
    if other = id ∧ address / arena.pageSize ≤ page ∧
        page ≤ (address + data.length - 1) / arena.pageSize then
      (arena.slot? other page).map ({ · with stale := true })
    else arena.slot? other page
  elsewhere : ∀ place, (∀ target, address ≤ target → target < address + data.length →
    arena.place? id target ≠ some place) → after.store.get place = arena.store.get place
  tables : SameTables arena after

def pageMissing (arena : Arena) (id : BufferId) (address : Nat) : Fault :=
  .outOfBounds (arena.pageCount id) (max (address / arena.pageSize) (arena.pageCount id))

structure StopsAtEnd (arena : Arena) (id : BufferId) (size : Nat) : Prop where
  whole : ∀ address data, data ≠ [] → address + data.length ≤ size →
    ∃ after, put id address data arena = .ok () after ∧ PutsExactly arena id address data after
  cut : ∀ address data, data ≠ [] → size < address + data.length →
    ∃ left, put id address (data.take (size - address)) arena = .ok () left ∧
      put id address data arena = .error (arena.pageMissing id address) left ∧
      (size ≤ address → left = arena)
  reads : ∀ address length, length = 0 ∨ address + length ≤ size →
    ∃ bytes, arena.read id address length = .ok bytes ∧
      bytes.map some = (List.range' address length).map (arena.byteAt? id)
  misses : ∀ address length, length ≠ 0 → size < address + length →
    arena.read id address length = .error (arena.pageMissing id address)
  unchanged : ∀ address length, (Call.read id address length).after arena = arena

variable {arena : Arena} {id : BufferId} {address : Nat} {data : List UInt8}

/-! ## Puts inside the buffer -/

theorem overlaps_iff {pageSize length page : Nat} (positive : 0 < pageSize) (nonempty : 0 < length) :
    Overlaps pageSize address length page ↔
      address / pageSize ≤ page ∧ page ≤ (address + length - 1) / pageSize := by
  constructor
  · rintro ⟨target, reached, early, rfl⟩
    exact ⟨Nat.div_le_div_right reached, Nat.div_le_div_right (by omega)⟩
  · rintro ⟨first, last⟩
    rw [Nat.le_div_iff_mul_le positive] at last
    rcases Nat.le_total (page * pageSize) address with begun | ahead
    · have same := Nat.le_antisymm first ((Nat.le_div_iff_mul_le positive).mpr begun)
      exact ⟨address, Nat.le_refl _, by omega, same⟩
    · exact ⟨page * pageSize, ahead, by omega, Nat.mul_div_cancel _ positive⟩

theorem get_put_elsewhere (wellFormed : arena.WellFormed) {spot : Nat}
    (apart : ∀ target, address ≤ target → target < address + data.length →
      arena.place? id target ≠ some spot) :
    (Action.after (put id address data) arena).store.get spot = arena.store.get spot := by
  -- One step stores what fits on the page of the address; the rest is put at the start of the next.
  induction address, data using put.induct generalizing arena with
  | case1 address =>
      have nothing : put id address [] arena = .ok () arena := by simp [put]
      rw [Action.after_of_ok nothing]
  | case2 address data nonempty ih =>
      have positive := wellFormed.pageSize_pos
      cases placed : arena.place? id address with
      | none => rw [after_put_past_end positive placed nonempty]
      | some place =>
          have kept := stored_sameTables arena id address place (data.take (arena.room address))
          have rest := ih arena (Nat.pos_iff_ne_zero.mp positive)
            (address + min data.length (arena.room address)) (kept.wellFormed wellFormed) <| by
              intro target reached early
              rw [kept.place?]
              rw [List.length_drop] at early
              exact apart target (by omega) (by omega)
          rw [after_put_of_place wellFormed placed nonempty, rest, stored, get_write_overlay]
          have missed : overlay place (data.take (arena.room address)) spot = none := by
            rw [overlay_eq_none_iff, List.length_take]
            by_contra hit
            obtain ⟨distance, rfl⟩ : ∃ distance, spot = place + distance := ⟨spot - place, by omega⟩
            exact apart (address + distance) (by omega) (by omega)
              (place?_on_page positive placed (by omega))
          rw [missed, Option.getD_none]

theorem put_putsExactly (wellFormed : arena.WellFormed) (nonempty : data ≠ [])
    (inside : address + data.length ≤ arena.extent id) :
    PutsExactly arena id address data (Action.after (put id address data) arena) where
  bytes := by
    intro other target
    rw [byteAt?_put wellFormed]
    by_cases covered : other = id ∧ address ≤ target ∧ target < address + data.length
    · rw [if_pos covered]
      obtain ⟨rfl, reached, early⟩ := covered
      obtain ⟨old, holds⟩ := Option.isSome_iff_exists.mp
        (byteAt?_isSome wellFormed.pageSize_pos (early.trans_le inside))
      have within : target - address < data.length := by omega
      simp [holds, overlay, reached, within]
    · rw [if_neg covered]
      cases arena.byteAt? other target with
      | none => rfl
      | some old =>
          rw [Option.map_some, Option.some.injEq]
          split
          · rename_i same
            have outside : target < address ∨ address + data.length ≤ target := by
              by_contra within
              exact covered ⟨same, by omega, by omega⟩
            rw [overlay_eq_none_iff.mpr outside, Option.getD_none]
          · rfl
  marks := by
    intro other page
    have marks := put_marks wellFormed id address data
    have overlaps := @overlaps_iff address arena.pageSize data.length page wellFormed.pageSize_pos
      (List.length_pos_iff.mpr nonempty)
    split
    · rename_i covered
      exact marks.inside other page ⟨covered.1, overlaps.mpr covered.2⟩
    · rename_i spared
      exact marks.outside other page fun covered => spared ⟨covered.1, overlaps.mp covered.2⟩
  elsewhere := fun _ apart => get_put_elsewhere wellFormed apart
  tables := put_sameTables id address data arena

/-! ## Puts past the end -/

theorem after_put_take (wellFormed : arena.WellFormed) :
    Action.after (put id address (data.take (arena.extent id - address))) arena =
      Action.after (put id address data) arena := by
  -- The parts that two puts store on the page of the address are the same, as the page is there.
  induction address, data using put.induct generalizing arena with
  | case1 address => rw [List.take_nil]
  | case2 address data nonempty ih =>
      have positive := wellFormed.pageSize_pos
      cases placed : arena.place? id address with
      | none =>
          have past := (place?_eq_none_iff positive).mp placed
          have nothing : put id address [] arena = .ok () arena := by simp [put]
          rw [after_put_past_end positive placed nonempty, Nat.sub_eq_zero_of_le past,
            List.take_zero, Action.after_of_ok nothing]
      | some place =>
          have kept := stored_sameTables arena id address place (data.take (arena.room address))
          have near := room_le_extent positive placed
          have some := List.length_pos_iff.mpr nonempty
          have within := Nat.mod_lt address positive
          have rest := ih arena (Nat.pos_iff_ne_zero.mp positive)
            (address + min data.length (arena.room address)) (kept.wellFormed wellFormed)
          rw [kept.extent] at rest
          have less : data.take (arena.extent id - address) ≠ [] := by
            rw [← List.length_pos_iff, List.length_take]
            unfold room at near
            omega
          have first : (data.take (arena.extent id - address)).take (arena.room address) =
              data.take (arena.room address) := by
            rw [List.take_take, Nat.min_eq_left (by omega)]
          have next : min (data.take (arena.extent id - address)).length (arena.room address) =
              min data.length (arena.room address) := by
            rw [List.length_take]
            omega
          have others : (data.take (arena.extent id - address)).drop (arena.room address) =
              (data.drop (arena.room address)).take
                (arena.extent id - (address + min data.length (arena.room address))) := by
            rw [List.drop_take]
            rcases Nat.le_total (arena.room address) data.length with long | short
            · rw [Nat.min_eq_right long]
              congr 1
              omega
            · rw [List.drop_eq_nil_of_le short, List.take_nil, List.take_nil]
          rw [after_put_of_place wellFormed placed less, first, next, others, rest,
            after_put_of_place wellFormed placed nonempty]

theorem pageCount_of_live {buffer : Buffer} (live : arena.buffers.get? id = some buffer) :
    arena.pageCount id = buffer.table.size := by
  rw [pageCount, live, Option.elim_some]

/-- A put past the end faults at the first missing page, behind a put of what lies before the end. -/
theorem put_past_end_eq (wellFormed : arena.WellFormed) {buffer : Buffer}
    (live : arena.buffers.get? id = some buffer) (nonempty : data ≠ [])
    (past : arena.extent id < address + data.length) :
    put id address data arena = .error (arena.pageMissing id address)
      (Action.after (put id address (data.take (arena.extent id - address))) arena) := by
  have answered := put_answer wellFormed live address data
  have length : data.length ≠ 0 := by simpa using nonempty
  rw [access, ← extent_of_live live, if_neg (by omega), ← pageCount_of_live live] at answered
  rw [after_put_take wellFormed]
  exact Action.error_of_answer answered

theorem put_before_end (wellFormed : arena.WellFormed) {buffer : Buffer}
    (live : arena.buffers.get? id = some buffer) :
    put id address (data.take (arena.extent id - address)) arena = .ok ()
      (Action.after (put id address (data.take (arena.extent id - address))) arena) := by
  rcases Nat.le_total (arena.extent id) address with past | before
  · rw [Nat.sub_eq_zero_of_le past, List.take_zero]
    have nothing : put id address [] arena = .ok () arena := by simp [put]
    rw [Action.after_of_ok nothing, nothing]
  · apply put_of_inside wellFormed live
    rw [List.length_take]
    omega

/-- After every run of calls on an arena, puts and reads of a buffer stop at its end: nothing is left
out before it, nothing is changed behind it, and the fault names the first page that is missing. -/
theorem puts_stop_at_end {config : MemoryConfig} {arena : Arena} (made : make config = .ok arena)
    (calls : List Call) {id : BufferId} {size : Nat}
    (sized : (Call.afterAll calls arena).sizeInBytes id = .ok size) :
    StopsAtEnd (Call.afterAll calls arena) id size := by
  have wellFormed := afterAll_wellFormed (make_wellFormed made) calls
  generalize Call.afterAll calls arena = final at *
  obtain ⟨buffer, live, rfl⟩ := live_of_sizeInBytes wellFormed sized
  constructor
  case whole =>
    intro address data nonempty inside
    exact ⟨_, put_of_inside wellFormed live inside, put_putsExactly wellFormed nonempty inside⟩
  case cut =>
    intro address data nonempty past
    refine ⟨_, put_before_end wellFormed live, put_past_end_eq wellFormed live nonempty past, ?_⟩
    intro behind
    rw [after_put_take wellFormed]
    exact after_put_past_end wellFormed.pageSize_pos
      ((place?_eq_none_iff wellFormed.pageSize_pos).mpr behind) nonempty
  case reads =>
    intro address length inside
    refine ⟨final.bytesFrom id address length, ?_, ?_⟩
    · rw [read_eq wellFormed live, access, ← extent_of_live live, if_pos inside]
    · rcases inside with rfl | inside
      · rfl
      · exact bytesFrom_map wellFormed.pageSize_pos inside
  case misses =>
    intro address length nonempty past
    rw [read_eq wellFormed live, access, ← extent_of_live live, if_neg (by omega), pageMissing,
      pageCount_of_live live]
  case unchanged => exact fun address length => Call.after_read id address length final

/-- A buffer of two pages in reverse order, of which a put past the end has written the last bytes. -/
def reversed : List Call :=
  [.createBuffer "a" 4, .createBuffer "b" 4, .dropBuffer 1, .dropBuffer 0, .createBuffer "c" 5,
    .put 2 6 [1, 2, 3, 4]]

theorem puts_stop_at_end_reversed : ∃ arena, make { pageSize := 4, maxPages := 3 } = .ok arena ∧
    (Call.afterAll reversed arena).sizeInBytes 2 = .ok 8 ∧
    StopsAtEnd (Call.afterAll reversed arena) 2 8 := by
  have made : make { pageSize := 4, maxPages := 3 } = .ok _ := rfl
  exact ⟨_, made, by decide +kernel, puts_stop_at_end made reversed (by decide +kernel)⟩

/-- The put has stored what fits before the end, on physical page 0, and marked that page. -/
example : (make { pageSize := 4, maxPages := 3 }).map (fun arena =>
    let after := Call.afterAll reversed arena
    ((after.buffers.get? 2).map (·.table.toList), after.store.read 0 8)) =
      .ok (some [⟨1, false⟩, ⟨0, true⟩], [0, 0, 1, 2, 0, 0, 0, 0]) := by
  decide +kernel

end TorusEngine.Paging.Arena
