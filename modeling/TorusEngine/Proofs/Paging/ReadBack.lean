import TorusEngine.Proofs.Paging.ObjectLists

/-!
# Reading a stored list back

A record that stores a list is read as that list (`Stores.read`), and its length as the list's
(`Stores.length`). Storing the list again puts bytes where they are already: pages are marked, but the
arena holds the same bytes on the same pages (`Stores.write_again`).
-/

namespace TorusEngine.Paging

/-! ## Bytes that are put where they are -/

theorem ByteStore.get_write_read (store : ByteStore) (offset length other : Nat) :
    (store.write offset (store.read offset length)).get other = store.get other := by
  rw [get_write]
  split
  · rename_i reached
    rcases Nat.lt_or_ge (other - offset) length with near | far
    · simp [read, List.getD_eq_getElem?_getD, List.getElem?_range' near, Nat.add_sub_cancel' reached]
    · rw [List.getD_eq_getElem?_getD, List.getElem?_eq_none (by simpa using far), Option.getD_none]
  · rfl

namespace Arena

variable {arena after : Arena} {id : BufferId} {address place : Nat} {data : List UInt8}

structure SameBytes (arena after : Arena) : Prop extends SameTables arena after where
  bytes : ∀ offset, after.store.get offset = arena.store.get offset

instance : Std.Refl SameBytes := ⟨fun arena => ⟨Std.Refl.refl arena, fun _ => rfl⟩⟩

instance : Trans SameBytes SameBytes SameBytes := ⟨fun first second =>
  ⟨Trans.trans first.toSameTables second.toSameTables, fun offset =>
    (second.bytes offset).trans (first.bytes offset)⟩⟩

theorem SameBytes.bytesFrom (same : SameBytes arena after) (id : BufferId) (address length : Nat) :
    after.bytesFrom id address length = arena.bytesFrom id address length := by
  refine bytesFrom_congr fun target _ _ => ?_
  rw [byteAt?, byteAt?, same.place?, funext same.bytes]

theorem stored_again (again : arena.store.read place data.length = data) :
    SameBytes arena (arena.stored id address place data) where
  toSameTables := stored_sameTables arena id address place data
  bytes := fun offset => by
    have same := arena.store.get_write_read place data.length offset
    rwa [again] at same

theorem put_again (wellFormed : arena.WellFormed)
    (again : arena.bytesFrom id address data.length = data) :
    SameBytes arena (Action.after (put id address data) arena) := by
  induction address, data using put.induct generalizing arena with
  | case1 address =>
      have nothing : put id address [] arena = .ok () arena := by simp [put]
      rw [Action.after_of_ok nothing]
      exact Std.Refl.refl arena
  | case2 address data nonempty ih =>
      have positive := wellFormed.pageSize_pos
      cases placed : arena.place? id address with
      | none =>
          rw [after_put_past_end positive placed nonempty]
          exact Std.Refl.refl arena
      | some place =>
          -- What fits on the page and what is put behind it are both as the buffer holds them.
          have parts : data.length = (data.take (arena.room address)).length +
              (data.drop (arena.room address)).length := by
            rw [← List.length_append, List.take_append_drop]
          have short : (data.take (arena.room address)).length ≤ arena.room address :=
            List.length_take_le _ _
          rw [parts, bytesFrom_add, bytesFrom_on_page positive placed short] at again
          obtain ⟨here, behind⟩ := List.append_inj
            (again.trans (List.take_append_drop (arena.room address) data).symm) (by simp)
          have first : SameBytes arena (arena.stored id address place _) := stored_again here
          rw [Action.after, Action.outcome, put_of_place wellFormed placed nonempty]
          refine Trans.trans first (ih arena (Nat.pos_iff_ne_zero.mp positive) _
            (first.wellFormed wellFormed) ?_)
          rw [first.bytesFrom, Nat.min_comm, ← List.length_take]
          exact behind

end Arena

namespace Variable

variable {field : Variable} {type : ElementType} {index element : Nat} {arena after : Arena}

theorem setElement_again (wellFormed : arena.WellFormed) {word : type.Word}
    (ended : field.setElement type index element word arena = .ok () after)
    (again : arena.bytesFrom field.buffer (field.start index element) type.size = type.bytes word) :
    Arena.SameBytes arena after := by
  obtain ⟨address, -, located, -⟩ := located_of_setElement wellFormed ended
  obtain ⟨-, rfl, -⟩ := address_eq_ok located
  rw [setElement_of_located located] at ended
  rw [← Action.after_of_ok ended]
  exact Arena.put_again wellFormed (by rw [ElementType.length_bytes, again])

theorem setSlice_again (wellFormed : arena.WellFormed) {words : List type.Word}
    (ended : field.setSlice type index words arena = .ok () after)
    (again : arena.bytesFrom field.buffer (field.start index 0) (words.length * type.size) =
      words.flatMap type.bytes) : Arena.SameBytes arena after := by
  rcases setSlice_ok wellFormed ended with ⟨-, rfl⟩ | ⟨-, address, _, _, -, -, located, -, -, rfl⟩
  · exact Std.Refl.refl _
  · obtain ⟨-, rfl, -⟩ := address_eq_ok located
    exact Arena.put_again wellFormed (by rw [ElementType.length_flatMap_bytes, again])

end Variable

/-! ## Records -/

namespace ObjectListTable

variable {table : ObjectListTable} {memory after : Memory} {window : Window} {index : Nat}
  {ids : List ObjectId}

theorem toInt_count {count : Nat} (small : count < 0x80000000) :
    (BitVec.ofNat 32 count).toInt.toNat = count := by
  rw [BitVec.toInt_eq_toNat_of_lt]
  · simp
    omega
  · simp
    omega

theorem Stores.length (small : table.capacity < 0x80000000)
    (stores : table.Stores index ids memory.arena) : table.length index memory = .ok ids.length := by
  have few := stores.few
  have count : (BitVec.ofNat (8 * ElementType.int.size) ids.length).toInt.toNat = ids.length :=
    toInt_count (by omega)
  simp only [ObjectListTable.length, stores.count, bind, Except.bind, pure, Except.pure, count,
    Nat.min_eq_left few]

theorem Placed.getSlice_ids (placed : Placed table memory window) (wellFormed : memory.WellFormed)
    (reached : window.Reaches memory.arena index) :
    table.ids.getSlice .int index memory.arena = .ok (ElementType.int.words table.capacity
      (memory.arena.bytesFrom window.buffer (index * window.objectSize + 4)
        (table.capacity * ElementType.int.size))) := by
  have counted : table.ids.kind.length = .ok table.capacity := by
    rw [placed.ids]
    rfl
  by_cases none : table.capacity = 0
  · simp [Variable.getSlice, counted, none, ElementType.words, bind, Except.bind, pure, Except.pure]
  · obtain ⟨buffer, present⟩ := reached.present (Schema.build_laidOut placed.built).2
    have named : table.ids.buffer = window.buffer := by rw [placed.ids]
    have start : table.ids.start index 0 = index * window.objectSize + 4 := by
      simp [placed.ids, Variable.start, Nat.add_comm]
    have located : table.ids.address .int index 0 = .ok (table.ids.start index 0) := by
      rw [placed.ids]
      exact (placed.idCell index (Nat.pos_of_ne_zero none)).located wellFormed.arena placed.built
        reached
    have inside : table.ids.start index 0 + table.capacity * ElementType.int.size ≤
        memory.arena.extent table.ids.buffer := by
      have slice := reached.slice_inside placed.built (placed.ids ▸ placed.named_ids) rfl
      rwa [placed.ids]
    rw [Variable.getSlice_of_inside wellFormed.arena (named ▸ present) counted none located inside,
      named, start]

theorem Stores.getSlice (placed : Placed table memory window) (wellFormed : memory.WellFormed)
    (reached : window.Reaches memory.arena index) (stores : table.Stores index ids memory.arena) :
    ∃ rest, table.ids.getSlice .int index memory.arena = .ok (ids ++ rest) := by
  have got := placed.getSlice_ids wellFormed reached
  obtain ⟨more, capacity⟩ := Nat.exists_eq_add_of_le stores.few
  rw [capacity, Nat.add_mul, Arena.bytesFrom_add, stores.bytesFrom_ids placed wellFormed,
    ElementType.words_flatMap] at got
  exact ⟨_, got⟩

theorem Stores.read (placed : Placed table memory window) (wellFormed : memory.WellFormed)
    (reached : window.Reaches memory.arena index) (small : table.capacity < 0x80000000)
    (stores : table.Stores index ids memory.arena) : table.read index memory = .ok ids := by
  obtain ⟨rest, got⟩ := stores.getSlice placed wellFormed reached
  simp [ObjectListTable.read, stores.length small, got, bind, Except.bind, pure, Except.pure]

theorem Stores.write_again (placed : Placed table memory window) (wellFormed : memory.WellFormed)
    {given : List ObjectId} (stores : table.Stores index (given.take table.capacity) memory.arena)
    {count : Nat} (written : table.write index given memory = .ok count after) :
    ∃ arena, after = { memory with arena } ∧ Arena.SameBytes memory.arena arena := by
  obtain ⟨arena, last, sliced, countSet, rfl, -⟩ := write_eq_ok.mp written
  have ids : Arena.SameBytes memory.arena arena := by
    refine Variable.setSlice_again wellFormed.arena sliced ?_
    have bytes := stores.bytesFrom_ids placed wellFormed
    rw [Nat.add_comm] at bytes
    simpa [placed.ids, Variable.start] using bytes
  have count : Arena.SameBytes arena last := by
    refine Variable.setElement_again (ids.wellFormed wellFormed.arena) countSet ?_
    rw [ids.bytesFrom]
    simpa [placed.count, Variable.start] using stores.bytesFrom_count placed wellFormed
  exact ⟨last, rfl, Trans.trans ids count⟩

theorem tryCreate_stores (wellFormed : memory.WellFormed) (placed : Placed table memory window)
    (made : table.tryCreate memory = .ok index after) : table.Stores index [] after.arena := by
  obtain ⟨hosted, -, -, placedThen, counted⟩ := tryCreate_counted wellFormed placed made
  obtain ⟨arena, set, rfl⟩ := Action.within_ok.mp counted
  have set : (placedThen.countCell index).set 0 _ = .ok () arena := placedThen.count ▸ set
  refine ⟨Nat.zero_le _, ?_, by simp⟩
  rw [placedThen.getElement_count]
  exact Memory.get_of_set (Memory.Call.after_wellFormed wellFormed _).arena _ set

theorem physicalAddress_answers (placed : Placed table memory window) (wellFormed : memory.WellFormed)
    (backs : memory.Backs window.buffer) (live : index ∈ window.pool.outstanding) :
    ∃ address, table.physicalAddress index memory = .ok address := by
  have backed := backs _ _ placed.found rfl
  have positive : 0 < window.objectSize := backed.objectSize_pos
  have inside := Memory.record_inside backed live
  rw [Window.Reaches, Nat.succ_mul] at inside
  have product := Size.mul_eq_ok (Arena.start_lt wellFormed.arena inside)
  cases located : memory.arena.place? window.buffer (index * window.objectSize) with
  | none =>
      have := (Arena.place?_eq_none_iff wellFormed.arena.pageSize_pos).mp located
      omega
  | some address =>
      obtain ⟨buffer, present, answered⟩ := Arena.locate_of_place wellFormed.arena located
      refine ⟨address, ?_⟩
      simp [physicalAddress, Memory.hosted, Memory.window, placed.found, Hosted.physicalAddress, product,
        Arena.toPhysical, Arena.buffer_of_live present, answered, bind, Except.bind, pure, Except.pure]

end ObjectListTable

end TorusEngine.Paging
