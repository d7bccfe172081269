import TorusEngine.Proofs.Paging.Isolation

/-!
# The marks of pages

The entry of a page is its physical page together with its mark. Creating, resizing and dropping
buffers keeps the entries of the pages that stay, and pages that come are unmarked
(`resize_refits`). A put marks the pages that it overlaps, all of them and no other (`put_marks`).
-/

namespace TorusEngine.Paging

theorem Buffer.getElem?_append (buffer : Buffer) (pages : List Nat) (page : Nat) :
    (buffer.append pages).table[page]? = if page < buffer.table.size then buffer.table[page]?
      else pages[page - buffer.table.size]?.map fun physical => { physical } := by
  have table : (buffer.append pages).table =
      buffer.table ++ (pages.map fun physical => ({ physical } : PageEntry)).toArray := by
    simp [append]
  simp [table, Array.getElem?_append]

namespace Arena

def slot? (arena : Arena) (id : BufferId) (page : Nat) : Option PageEntry :=
  (arena.buffers.get? id).bind (·.table[page]?)

def pageCount (arena : Arena) (id : BufferId) : Nat :=
  (arena.buffers.get? id).elim 0 (·.table.size)

def Stale (arena : Arena) (id : BufferId) (page : Nat) : Prop :=
  ∃ entry, arena.slot? id page = some entry ∧ entry.stale = true

variable {arena middle after : Arena} {id other : BufferId} {page : Nat}

theorem lt_pageCount_iff :
    page < arena.pageCount id ↔ ∃ entry, arena.slot? id page = some entry := by
  unfold pageCount slot?
  cases arena.buffers.get? id with
  | none => simp
  | some buffer =>
      simp only [Option.elim_some, Option.bind_some]
      exact ⟨fun inside => ⟨_, Array.getElem?_eq_getElem inside⟩,
        fun ⟨_, found⟩ => (Array.getElem?_eq_some_iff.mp found).1⟩

theorem pageCount_eq (arena : Arena) (id : BufferId) :
    arena.pageCount id = (arena.tables.get? id).elim 0 List.length := by
  rw [pageCount, tables_get?]
  cases arena.buffers.get? id with
  | none => rfl
  | some buffer => exact buffer.length_pages.symm

theorem pageCount_of_sizeInPages {pages : Nat} (sized : arena.sizeInPages id = .ok pages) :
    arena.pageCount id = pages := by
  cases live : arena.buffers.get? id with
  | none => simp [sizeInPages_of_missing live] at sized
  | some buffer =>
      rw [sizeInPages_of_live live, Except.ok.injEq] at sized
      rw [pageCount, live, Option.elim_some, sized]

theorem extent_eq_pageCount (arena : Arena) (id : BufferId) :
    arena.extent id = arena.pageCount id * arena.pageSize := by
  cases live : arena.buffers.get? id with
  | none => simp [extent, pageCount, tables_get?, live]
  | some buffer => simp [extent_of_live live, pageCount, live]

theorem SameTables.pageCount (same : SameTables arena after) (id : BufferId) :
    after.pageCount id = arena.pageCount id := by
  rw [pageCount_eq, pageCount_eq, same.tables]

theorem Stale.lt_pageCount (stale : arena.Stale id page) : page < arena.pageCount id :=
  lt_pageCount_iff.mpr ⟨_, stale.choose_spec.1⟩

theorem physicalPage?_eq_slot (arena : Arena) (id : BufferId) (page : Nat) :
    arena.physicalPage? id page = (arena.slot? id page).map (·.physical) := by
  unfold slot?
  cases live : arena.buffers.get? id with
  | none => simp [physicalPage?, tables_get?, live]
  | some buffer => rw [physicalPage?_of_live live, Option.bind_some]

theorem physicalPage?_isSome :
    page < arena.pageCount id ↔ ∃ physical, arena.physicalPage? id page = some physical := by
  simp [lt_pageCount_iff, physicalPage?_eq_slot]

/-! ## Pages that come and go -/

/-- Every page that is there afterwards has the entry that it had, or is new and unmarked. -/
structure Refits (arena after : Arena) : Prop where
  pageSize : after.pageSize = arena.pageSize
  store : after.store = arena.store
  entries : ∀ id page entry, after.slot? id page = some entry →
    arena.slot? id page = some entry ∨ arena.slot? id page = none ∧ entry.stale = false

/-- No page goes either. -/
structure Adds (arena after : Arena) : Prop extends Refits arena after where
  kept : ∀ id page entry, arena.slot? id page = some entry → after.slot? id page = some entry

instance : Std.Refl Adds := ⟨fun _ => ⟨⟨rfl, rfl, fun _ _ _ => .inl⟩, fun _ _ _ found => found⟩⟩

instance : Trans Adds Adds Adds where
  trans := by
    intro arena middle after first second
    refine ⟨⟨second.pageSize.trans first.pageSize, second.store.trans first.store, ?_⟩, ?_⟩
    · intro id page entry found
      rcases second.entries id page entry found with between | ⟨none, unmarked⟩
      · exact first.entries id page entry between
      · refine .inr ⟨?_, unmarked⟩
        cases before : arena.slot? id page with
        | none => rfl
        | some old => cases none.symm.trans (first.kept id page old before)
    · exact fun id page entry found => second.kept id page entry (first.kept id page entry found)

theorem Refits.stale_iff (refits : Refits arena after) :
    after.Stale id page ↔ arena.Stale id page ∧ page < after.pageCount id := by
  constructor
  · rintro ⟨entry, found, marked⟩
    refine ⟨⟨entry, ?_, marked⟩, lt_pageCount_iff.mpr ⟨entry, found⟩⟩
    rcases refits.entries id page entry found with before | ⟨-, unmarked⟩
    · exact before
    · cases marked.symm.trans unmarked
  · rintro ⟨⟨old, before, marked⟩, still⟩
    obtain ⟨entry, found⟩ := lt_pageCount_iff.mp still
    rcases refits.entries id page entry found with same | ⟨none, -⟩
    · cases before.symm.trans same
      exact ⟨old, found, marked⟩
    · cases before.symm.trans none

theorem Refits.physicalPage? (refits : Refits arena after) (inside : page < arena.pageCount id)
    (still : page < after.pageCount id) :
    after.physicalPage? id page = arena.physicalPage? id page := by
  obtain ⟨old, before⟩ := lt_pageCount_iff.mp inside
  obtain ⟨entry, found⟩ := lt_pageCount_iff.mp still
  rcases refits.entries id page entry found with same | ⟨none, -⟩
  · rw [physicalPage?_eq_slot, physicalPage?_eq_slot, found, same]
  · cases before.symm.trans none

theorem refits_modify {pool : IndexPool} {change : Buffer → Buffer}
    (entries : ∀ (buffer : Buffer) (page : Nat) (entry : PageEntry),
      (change buffer).table[page]? = some entry →
      buffer.table[page]? = some entry ∨ buffer.table[page]? = none ∧ entry.stale = false) :
    Refits arena { arena with pool, buffers := arena.buffers.modify id change } where
  pageSize := rfl
  store := rfl
  entries := by
    intro other page entry found
    simp only [slot?, Dictionary.get?_modify] at found ⊢
    split at found
    · cases live : arena.buffers.get? other with
      | none => simp [live] at found
      | some buffer =>
          rw [live] at found
          exact entries buffer page entry found
    · exact .inl found

theorem adds_append (arena : Arena) (pool : IndexPool) (id : BufferId) (pages : List Nat) :
    Adds arena { arena with pool, buffers := arena.buffers.modify id (·.append pages) } where
  toRefits := by
    apply refits_modify
    intro buffer page entry found
    rw [Buffer.getElem?_append] at found
    split at found
    · exact .inl found
    · rename_i outside
      obtain ⟨physical, -, rfl⟩ := Option.map_eq_some_iff.mp found
      exact .inr ⟨Array.getElem?_eq_none (Nat.not_lt.mp outside), rfl⟩
  kept := by
    intro other page entry found
    simp only [slot?, Dictionary.get?_modify] at found ⊢
    split
    · obtain ⟨buffer, live, listed⟩ := Option.bind_eq_some_iff.mp found
      obtain ⟨inside, -⟩ := Array.getElem?_eq_some_iff.mp listed
      rw [live, Option.map_some, Option.bind_some, Buffer.getElem?_append, if_pos inside]
      exact listed
    · exact found

theorem createBuffer_adds (wellFormed : arena.WellFormed) (name : String) (bytes : Nat) :
    Adds arena (Action.after (createBuffer name bytes) arena) := by
  have result := createBuffer_result wellFormed name bytes
  rw [Action.after_eq_left]
  generalize createBuffer name bytes arena = ended at result
  cases result with
  | refused fault => exact Std.Refl.refl arena
  | @made pages pool took length =>
      have unused : arena.buffers.get? arena.nextBuffer = none := by
        refine Dictionary.get?_eq_none_iff.mpr fun used => ?_
        exact Nat.lt_irrefl _ (keys_used wellFormed _ used)
      refine ⟨⟨rfl, rfl, ?_⟩, ?_⟩
      · intro id page entry found
        simp only [Action.left, slot?, Dictionary.get?_insert] at found ⊢
        split at found
        · rename_i same
          subst same
          rw [Option.bind_some, Buffer.getElem?_append] at found
          obtain ⟨physical, -, rfl⟩ := Option.map_eq_some_iff.mp found
          rw [unused]
          exact .inr ⟨rfl, rfl⟩
        · exact .inl found
      · intro id page entry found
        simp only [Action.left, slot?, Dictionary.get?_insert] at found ⊢
        split
        · rename_i same
          subst same
          rw [unused] at found
          cases found
        · exact found

theorem resize_refits (wellFormed : arena.WellFormed) (id : BufferId) (bytes : Nat) :
    Refits arena (Action.after (resize id bytes) arena) := by
  have unchanged : Adds arena arena := Std.Refl.refl arena
  cases live : arena.buffers.get? id with
  | none =>
      rw [Action.after_of_error (resize_of_missing wellFormed live bytes)]
      exact unchanged.toRefits
  | some buffer =>
      have result := resize_result wellFormed live bytes
      rw [Action.after_eq_left]
      generalize resize id bytes arena = ended at result
      cases result with
      | refused | kept => exact unchanged.toRefits
      | @grown pages pool => exact (adds_append arena pool id pages).toRefits
      | shrunk shrinks given =>
          apply refits_modify
          intro buffer page entry found
          rw [Array.take_eq_extract, Array.getElem?_extract, Nat.zero_add] at found
          split at found
          · exact .inl found
          · cases found

theorem resize_adds (wellFormed : arena.WellFormed) {id : BufferId} {bytes : Nat}
    (more : arena.extent id < bytes) : Adds arena (Action.after (resize id bytes) arena) := by
  cases live : arena.buffers.get? id with
  | none =>
      rw [Action.after_of_error (resize_of_missing wellFormed live bytes)]
      exact Std.Refl.refl arena
  | some buffer =>
      have result := resize_result wellFormed live bytes
      rw [Action.after_eq_left]
      generalize resize id bytes arena = ended at result
      cases result with
      | refused | kept => exact Std.Refl.refl arena
      | @grown pages pool => exact adds_append arena pool id pages
      | shrunk shrinks given =>
          have enough := Size.le_max_ceilDiv_mul wellFormed.pageSize_pos bytes
          have fewer := Nat.mul_le_mul_right arena.pageSize (Nat.le_of_lt shrinks)
          rw [extent_of_live live] at more
          exact absurd (enough.trans fewer) (Nat.not_le.mpr more)

theorem length_ownedPages_modify {buffer : Buffer} (live : arena.buffers.get? id = some buffer) (pool : IndexPool) (change : Buffer → Buffer) :
    (ownedPages { arena with pool, buffers := arena.buffers.modify id change }).length +
        buffer.table.size = arena.ownedPages.length + (change buffer).table.size := by
  have before := (ownedPages_perm live).length_eq
  have changed := (ownedPages_modify live change).length_eq
  rw [List.length_append, Buffer.length_pages] at before changed
  change (ownedPages { arena with buffers := arena.buffers.modify id change }).length + _ = _
  omega

theorem length_ownedPages_of_resize (wellFormed : arena.WellFormed) {bytes : Nat}
    (resized : resize id bytes arena = .ok () after) :
    after.ownedPages.length + arena.pageCount id = arena.ownedPages.length + after.pageCount id := by
  cases live : arena.buffers.get? id with
  | none => cases (resize_of_missing wellFormed live bytes).symm.trans resized
  | some buffer =>
      have result := resize_result wellFormed live bytes
      rw [resized] at result
      cases result with
      | kept same => rfl
      | @grown pages pool took length grows =>
          simpa [pageCount, Dictionary.get?_modify, live] using
            length_ownedPages_modify live pool (·.append pages)
      | @shrunk pool shrinks given =>
          simpa [pageCount, Dictionary.get?_modify, live] using
            length_ownedPages_modify live pool fun buffer =>
              { buffer with table := buffer.table.take (max (bytes ⌈/⌉ arena.pageSize) 1) }

theorem dropBuffer_refits (wellFormed : arena.WellFormed) (id : BufferId) :
    Refits arena (Action.after (dropBuffer id) arena) := by
  obtain same | ⟨pool, same⟩ := after_dropBuffer wellFormed id
  · have unchanged : Adds arena arena := Std.Refl.refl arena
    rw [same]
    exact unchanged.toRefits
  · rw [same]
    refine ⟨rfl, rfl, fun other page entry found => .inl ?_⟩
    simp only [slot?] at found ⊢
    obtain ⟨buffer, kept, listed⟩ := Option.bind_eq_some_iff.mp found
    rw [Dictionary.get?_of_erase kept]
    exact listed

/-! ## Marks that are set and cleared -/

/-- A change that gives the pages of a certain kind a mark, and touches no other entry. -/
structure Marks (stale : Bool) (kind : BufferId → Nat → Prop) (arena after : Arena) : Prop where
  inside : ∀ id page, kind id page →
    after.slot? id page = (arena.slot? id page).map fun entry => { entry with stale }
  outside : ∀ id page, ¬ kind id page → after.slot? id page = arena.slot? id page

namespace Marks

variable {stale : Bool} {kind more : BufferId → Nat → Prop}

theorem trans (first : Marks stale kind arena middle) (second : Marks stale more middle after) :
    Marks stale (fun id page => kind id page ∨ more id page) arena after where
  inside := by
    intro id page either
    by_cases later : more id page
    · rw [second.inside id page later]
      by_cases earlier : kind id page
      · rw [first.inside id page earlier, Option.map_map]
        rfl
      · rw [first.outside id page earlier]
    · rw [second.outside id page later, first.inside id page (either.resolve_right later)]
  outside := by
    intro id page neither
    rw [second.outside id page fun later => neither (.inr later),
      first.outside id page fun earlier => neither (.inl earlier)]

theorem congr (marks : Marks stale kind arena after)
    (same : ∀ id page entry, arena.slot? id page = some entry → (more id page ↔ kind id page)) :
    Marks stale more arena after where
  inside := by
    intro id page asked
    cases found : arena.slot? id page with
    | some entry => rw [marks.inside id page ((same id page entry found).mp asked), found]
    | none =>
        by_cases before : kind id page
        · rw [marks.inside id page before, found]
        · rw [marks.outside id page before, found]
          rfl
  outside := by
    intro id page unasked
    cases found : arena.slot? id page with
    | some entry =>
        rw [marks.outside id page fun before => unasked ((same id page entry found).mpr before), found]
    | none =>
        by_cases before : kind id page
        · rw [marks.inside id page before, found]
          rfl
        · rw [marks.outside id page before, found]

theorem unchanged (none : ∀ id page entry, arena.slot? id page = some entry → ¬ kind id page) :
    Marks stale kind arena arena where
  inside := by
    intro id page asked
    cases found : arena.slot? id page with
    | some entry => exact absurd asked (none id page entry found)
    | none => rfl
  outside := fun _ _ _ => rfl

end Marks

theorem setStale_marks (arena : Arena) (store : ByteStore) (id : BufferId) (page : Nat) (stale : Bool) :
    Marks stale (fun other item => other = id ∧ item = page) arena
      { arena with store, buffers := arena.buffers.modify id (·.setStale page stale) } where
  inside := by
    rintro other item ⟨rfl, rfl⟩
    simp only [slot?, Dictionary.get?_modify, if_true]
    cases arena.buffers.get? other with
    | none => rfl
    | some buffer => simp [Buffer.setStale, Array.getElem?_modify]
  outside := by
    intro other item elsewhere
    simp only [slot?, Dictionary.get?_modify]
    split
    · rename_i same
      have apart : page ≠ item := fun equal => elsewhere ⟨same.symm, equal.symm⟩
      cases arena.buffers.get? other with
      | none => rfl
      | some buffer => simp [Buffer.setStale, Array.getElem?_modify, apart]
    · rfl

def Overlaps (pageSize address length page : Nat) : Prop :=
  ∃ target, address ≤ target ∧ target < address + length ∧ target / pageSize = page

theorem Overlaps.mono {pageSize address length start more page : Nat} (begins : start ≤ address)
    (ends : address + length ≤ start + more) (overlaps : Overlaps pageSize address length page) :
    Overlaps pageSize start more page := by
  obtain ⟨target, reached, early, here⟩ := overlaps
  exact ⟨target, begins.trans reached, early.trans_le ends, here⟩

theorem Overlaps.lt_pageCount {address length : Nat} (positive : 0 < arena.pageSize)
    (inside : address + length ≤ arena.extent id)
    (overlaps : Overlaps arena.pageSize address length page) : page < arena.pageCount id := by
  obtain ⟨target, -, early, rfl⟩ := overlaps
  obtain ⟨pages, listed, below⟩ := (inside_iff positive).mp (early.trans_le inside)
  rwa [pageCount_eq, listed, Option.elim_some]

/-- What is put lies on the page of its address, and on the pages of what comes after that page. -/
theorem overlaps_split {pageSize address length page : Nat} (positive : 0 < pageSize)
    (nonempty : 0 < length) : Overlaps pageSize address length page ↔ page = address / pageSize ∨
      Overlaps pageSize (address + min length (pageSize - address % pageSize))
        (length - (pageSize - address % pageSize)) page := by
  have split := Nat.div_add_mod address pageSize
  have remainder := Nat.mod_lt address positive
  constructor
  · rintro ⟨target, reached, early, rfl⟩
    rcases Nat.lt_or_ge target (address + (pageSize - address % pageSize)) with near | far
    · refine .inl ?_
      apply Nat.div_eq_of_lt_le
      · rw [Nat.mul_comm]
        omega
      · rw [Nat.succ_mul, Nat.mul_comm]
        omega
    · exact .inr ⟨target, by omega, by omega, rfl⟩
  · rintro (rfl | ⟨target, reached, early, rfl⟩)
    · exact ⟨address, Nat.le_refl _, by omega, rfl⟩
    · exact ⟨target, by omega, by omega, rfl⟩

theorem put_marks (wellFormed : arena.WellFormed) (id : BufferId) (address : Nat)
    (data : List UInt8) :
    Marks true (fun other page => other = id ∧ Overlaps arena.pageSize address data.length page) arena
      (Action.after (put id address data) arena) := by
  -- One step stores what fits on the page of the address; the rest is put at the start of the next.
  induction address, data using put.induct generalizing arena with
  | case1 address =>
      have nothing : put id address [] arena = .ok () arena := by simp [put]
      rw [Action.after_of_ok nothing]
      apply Marks.unchanged
      rintro other page entry - ⟨-, target, reached, early, -⟩
      exact absurd early (Nat.not_lt.mpr reached)
  | case2 address data nonempty ih =>
      have positive := wellFormed.pageSize_pos
      have length : 0 < data.length := List.length_pos_iff.mpr nonempty
      cases placed : arena.place? id address with
      | some place =>
          have kept := stored_sameTables arena id address place (data.take (arena.room address))
          rw [after_put_of_place wellFormed placed nonempty]
          have first : Marks true (fun other page => other = id ∧ page = address / arena.pageSize) arena
              (arena.stored id address place (data.take (arena.room address))) :=
            setStale_marks arena _ id _ true
          have rest := ih arena (Nat.pos_iff_ne_zero.mp positive)
            (address + min data.length (arena.room address)) (kept.wellFormed wellFormed)
          rw [kept.pageSize, List.length_drop] at rest
          refine (first.trans rest).congr fun other page entry _ => ?_
          rw [overlaps_split positive length, ← and_or_left]
          exact Iff.rfl
      | none =>
          rw [after_put_past_end positive placed nonempty]
          apply Marks.unchanged
          rintro other page entry found ⟨rfl, target, reached, -, rfl⟩
          have past := (place?_eq_none_iff positive).mp placed
          have outside := (place?_eq_none_iff positive).mpr (past.trans reached)
          rw [place?, physicalPage?_eq_slot, found] at outside
          cases outside

theorem markStale_marks (wellFormed : arena.WellFormed) (id : BufferId) (address : Nat) :
    Marks true (fun other page => other = id ∧ page = address / arena.pageSize) arena
      (Action.after (markStale id address) arena) := by
  have sized := Nat.pos_iff_ne_zero.mp wellFormed.pageSize_pos
  cases found : arena.slot? id (address / arena.pageSize) with
  | some entry =>
      obtain ⟨buffer, live, listed⟩ := Option.bind_eq_some_iff.mp found
      have marked : markStale id address arena = .ok () { arena with
          buffers := arena.buffers.modify id (·.setStale (address / arena.pageSize) true) } := by
        simp [markStale, sized, buffer_of_live live, Buffer.entry, listed, changeBuffer]
      rw [Action.after_of_ok marked]
      exact setStale_marks arena arena.store id _ true
  | none =>
      have unchanged : Action.after (markStale id address) arena = arena := by
        rw [Action.after_eq_left]
        unfold slot? at found
        cases live : arena.buffers.get? id with
        | none => simp [markStale, sized, buffer_of_missing live, Action.left]
        | some buffer =>
            rw [live] at found
            have missing : buffer.table[address / arena.pageSize]? = none := found
            simp [markStale, sized, buffer_of_live live, Buffer.entry, missing, Action.left]
      rw [unchanged]
      apply Marks.unchanged
      rintro other page entry there ⟨rfl, rfl⟩
      cases found.symm.trans there

end Arena

end TorusEngine.Paging
