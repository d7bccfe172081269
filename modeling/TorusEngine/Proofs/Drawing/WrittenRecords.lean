import TorusEngine.Proofs.Drawing.DrawCalls
import TorusEngine.Proofs.Paging.Copies

/-!
# The records of draw lists are written

A draw list sends by two writes to its record, the object numbers and then their number. So all pages of
the record that a draw call needs were written since they came, and they stay: pages do not go from
under a live record (`Recorded.note`, `Recorded.send`).
-/

namespace TorusEngine.Paging.ObjectListTable

open Memory (Call)

variable {table : ObjectListTable} {memory : Memory} {window : Window} {index : Nat}

/-! ## Writes to a record -/

theorem Placed.direct_setElement (placed : Placed table memory window)
    (backs : memory.Backs window.buffer) (live : index ∈ window.pool.outstanding)
    (word : ElementType.int.Word) :
    (Call.setElement table.window "count" .int index 0 word).direct memory =
      some [.put table.count.buffer (table.count.start index 0) (ElementType.int.bytes word)] := by
  have backed := backs _ _ placed.found rfl
  have located : table.count.address .int index 0 = .ok (table.count.start index 0) := by
    rw [placed.count]
    exact (placed.countCell index).located backed.arena placed.built (Memory.record_inside backed live)
  simp [Call.direct, placed.fieldOf_count, Variable.elementPut, located]

theorem Placed.direct_setSlice (placed : Placed table memory window)
    (backs : memory.Backs window.buffer) (live : index ∈ window.pool.outstanding)
    {words : List ElementType.int.Word} (few : words.length ≤ table.capacity) (nonempty : words ≠ []) :
    (Call.setSlice table.window "ids" .int index words).direct memory =
      some [.put table.ids.buffer (table.ids.start index 0) (words.flatMap ElementType.int.bytes)] := by
  have backed := backs _ _ placed.found rfl
  have first : 0 < table.capacity := (List.length_pos_iff.mpr nonempty).trans_le few
  have counted : table.ids.kind.length = .ok table.capacity := by
    rw [placed.ids]
    rfl
  have located : table.ids.address .int index 0 = .ok (table.ids.start index 0) := by
    rw [placed.ids]
    exact (placed.idCell index first).located backed.arena placed.built
      (Memory.record_inside backed live)
  have fits : ¬ (table.capacity < words.length ∨ words = []) := by
    simp [nonempty, Nat.not_lt.mpr few]
  simp only [Call.direct, placed.fieldOf_ids, Variable.slicePut, counted, located, if_neg fits]

theorem Placed.count_inside (placed : Placed table memory window)
    (backs : memory.Backs window.buffer) (live : index ∈ window.pool.outstanding) :
    table.count.start index 0 + ElementType.int.size ≤ memory.arena.extent window.buffer := by
  rw [placed.count]
  exact (placed.countCell index).stop_le_extent placed.built
    (Memory.record_inside (backs _ _ placed.found rfl) live)

theorem Placed.id_inside (placed : Placed table memory window) (backs : memory.Backs window.buffer)
    (live : index ∈ window.pool.outstanding) {element : Nat} (few : element < table.capacity) :
    table.ids.start index element + ElementType.int.size ≤ memory.arena.extent window.buffer := by
  rw [placed.ids]
  exact (placed.idCell index few).stop_le_extent placed.built
    (Memory.record_inside (backs _ _ placed.found rfl) live)

end TorusEngine.Paging.ObjectListTable

namespace TorusEngine.Drawing

open Paging

namespace DrawList

def Occupies (list : DrawList) (pageSize : Nat) (id : BufferId) (page : Nat) : Prop :=
  id = list.table.count.buffer ∧
      Arena.Overlaps pageSize (list.table.count.start list.record 0) ElementType.int.size page ∨
    id = list.table.ids.buffer ∧ ∃ element < list.sent,
      Arena.Overlaps pageSize (list.table.ids.start list.record element) ElementType.int.size page

/-- The record is live in a window that its pages back, and what was sent is on written pages. -/
structure Recorded (list : DrawList) (written : PageLedger) (memory : Memory) : Prop where
  backs : memory.Backs list.table.count.buffer
  record : ∃ window, list.table.Placed memory window ∧ list.record ∈ window.pool.outstanding
  few : list.sent ≤ list.table.capacity
  written : list.sent ≠ 0 → ∀ id page, list.Occupies memory.arena.pageSize id page → written id page

variable {list : DrawList} {memory : Memory} {noted : Copied} {id : BufferId} {page : Nat}

theorem Recorded.of_unsent {written : PageLedger} (unsent : list.sent = 0)
    (backs : memory.Backs list.table.count.buffer)
    (record : ∃ window, list.table.Placed memory window ∧ list.record ∈ window.pool.outstanding) :
    list.Recorded written memory where
  backs := backs
  record := record
  few := unsent ▸ Nat.zero_le _
  written := fun some => absurd unsent some

theorem Recorded.used {written : PageLedger} (recorded : list.Recorded written memory)
    (wellFormed : memory.WellFormed) : list.table.count.buffer < memory.arena.nextBuffer := by
  obtain ⟨window, placed, -⟩ := recorded.record
  exact placed.buffer ▸ wellFormed.used _ _ placed.found

theorem Recorded.inside {written : PageLedger} (recorded : list.Recorded written memory)
    (wellFormed : memory.WellFormed) (occupied : list.Occupies memory.arena.pageSize id page) :
    id = list.table.count.buffer ∧ page < memory.arena.pageCount id := by
  obtain ⟨window, placed, live⟩ := recorded.record
  have backs : memory.Backs window.buffer := placed.buffer ▸ recorded.backs
  have positive := wellFormed.arena.pageSize_pos
  have ids : list.table.ids.buffer = window.buffer := by rw [placed.ids]
  rcases occupied with ⟨rfl, overlaps⟩ | ⟨rfl, element, few, overlaps⟩
  · refine ⟨rfl, overlaps.lt_pageCount positive ?_⟩
    rw [placed.buffer]
    exact placed.count_inside backs live
  · refine ⟨ids.trans placed.buffer.symm, overlaps.lt_pageCount positive ?_⟩
    rw [ids]
    exact placed.id_inside backs live (few.trans_le recorded.few)

theorem Recorded.note (recorded : list.Recorded noted.written memory) (wellFormed : memory.WellFormed)
    {call : Memory.Call} (spared : call.Spares list.table.count.buffer)
    (live : (call.after memory).Live list.table.window list.record) :
    list.Recorded (copyBook.note call memory noted).written (call.after memory) := by
  obtain ⟨window, placed, -⟩ := recorded.record
  obtain ⟨left, still, stillLive⟩ := live
  have pageSize : (call.after memory).arena.pageSize = memory.arena.pageSize :=
    call.pageSize_after wellFormed
  have between : list.Recorded (fun _ _ => True) (call.after memory) :=
    ⟨Memory.Call.after_backs wellFormed recorded.backs spared,
      ⟨left, placed.after wellFormed still, stillLive⟩, recorded.few, fun _ _ _ _ => trivial⟩
  refine ⟨between.backs, between.record, recorded.few, fun some id page occupied => ?_⟩
  have there := (between.inside (call.after_wellFormed wellFormed) occupied).2
  rw [pageSize] at occupied
  obtain ⟨rfl, here⟩ := recorded.inside wellFormed occupied
  exact Copied.written_note wellFormed (recorded.used wellFormed) spared here there
    (recorded.written some _ page occupied)

theorem Recorded.noteAll_direct (recorded : list.Recorded noted.written memory)
    (wellFormed : memory.WellFormed) {calls : List Memory.Call}
    (direct : ∀ call ∈ calls, ∀ memory, ∃ list, call.direct memory = some list)
    (spared : ∀ call ∈ calls, call.Spares list.table.count.buffer) :
    list.Recorded (copyBook.noteAll calls memory noted).written
      (Memory.Call.afterAll calls memory) := by
  induction calls generalizing memory noted with
  | nil => exact recorded
  | cons call rest ih =>
      obtain ⟨consists, same⟩ := direct call List.mem_cons_self memory
      obtain ⟨window, placed, live⟩ := recorded.record
      have still : (call.after memory).Live list.table.window list.record := by
        rw [Memory.Call.after_direct same]
        exact ⟨window, placed.found, live⟩
      exact ih (recorded.note wellFormed (spared call List.mem_cons_self) still)
        (call.after_wellFormed wellFormed)
        (fun other member => direct other (List.mem_cons_of_mem _ member))
        fun other member => spared other (List.mem_cons_of_mem _ member)

/-! ## Sending -/

def kept (list : DrawList) : List ObjectListTable.ObjectId :=
  (list.entries.map (·.objectId)).take list.table.capacity

def storing (list : DrawList) : List Memory.Call :=
  if list.dirty then
    [.setSlice list.table.window "ids" .int list.record list.kept,
      .setElement list.table.window "count" .int list.record 0 (BitVec.ofNat _ list.kept.length)]
  else []

theorem storing_direct (list : DrawList) :
    ∀ call ∈ list.storing, ∀ memory, ∃ calls, call.direct memory = some calls := by
  intro call member memory
  unfold storing at member
  split at member
  · simp only [List.mem_cons, List.not_mem_nil, or_false] at member
    obtain rfl | rfl := member <;> exact ⟨_, rfl⟩
  · cases member

theorem storing_spares (list : DrawList) (id : BufferId) : ∀ call ∈ list.storing, call.Spares id := by
  intro call member
  unfold storing at member
  split at member
  · simp only [List.mem_cons, List.not_mem_nil, or_false] at member
    obtain rfl | rfl := member <;> trivial
  · cases member

theorem Recorded.stored (recorded : list.Recorded noted.written memory)
    (wellFormed : memory.WellFormed) (dirty : list.dirty = true) (nonempty : list.kept ≠ [])
    (occupied : Occupies { list with sent := list.kept.length } memory.arena.pageSize id page) :
    (copyBook.noteAll list.storing memory noted).written id page := by
  obtain ⟨window, placed, live⟩ := recorded.record
  have backs : memory.Backs window.buffer := placed.buffer ▸ recorded.backs
  have few : list.kept.length ≤ list.table.capacity := List.length_take_le _ _
  have filled : Recorded { list with sent := list.kept.length } (fun _ _ => True) memory :=
    ⟨recorded.backs, recorded.record, few, fun _ _ _ _ => trivial⟩
  obtain ⟨rfl, inside⟩ := filled.inside wellFormed occupied
  let ids : Memory.Call := .setSlice list.table.window "ids" .int list.record list.kept
  have first := placed.direct_setSlice backs live few nonempty
  have wellFormedThen := ids.after_wellFormed wellFormed
  have placedThen : list.table.Placed (ids.after memory) window :=
    placed.after wellFormed (by rw [Memory.Call.after_direct first]; exact placed.found)
  have second := placedThen.direct_setElement (Memory.Call.after_backs wellFormed backs trivial) live
    (BitVec.ofNat _ list.kept.length)
  have used := recorded.used wellFormed
  have usedThen : list.table.count.buffer < (ids.after memory).arena.nextBuffer :=
    placed.buffer ▸ wellFormedThen.used _ _ placedThen.found
  have insideThen : page < (ids.after memory).arena.pageCount list.table.count.buffer := by
    rwa [Copied.pageCount_after_direct wellFormed used first trivial]
  have pageSize : (ids.after memory).arena.pageSize = memory.arena.pageSize :=
    ids.pageSize_after wellFormed
  have calls : list.storing = [ids, .setElement list.table.window "count" .int list.record 0
      (BitVec.ofNat _ list.kept.length)] := if_pos dirty
  rw [calls]
  refine Copied.written_note_direct wellFormedThen usedThen second trivial insideThen ?_
  rw [pageSize]
  rcases occupied with ⟨-, overlaps⟩ | ⟨buffer, element, stored, overlaps⟩
  · refine .inl ⟨_, List.mem_singleton_self _, rfl, ?_⟩
    rwa [ElementType.length_bytes]
  · refine .inr (Copied.written_note_direct wellFormed used first trivial inside ?_)
    refine .inl ⟨_, List.mem_singleton_self _, buffer, overlaps.mono ?_ ?_⟩
    · simp [Variable.start]
    · have below : element < list.kept.length := stored
      have reached := Nat.mul_le_mul_right ElementType.int.size (Nat.succ_le_of_lt below)
      simp only [ElementType.length_flatMap_bytes, Variable.start, placed.ids, FieldKind.elementType]
      rw [Nat.succ_mul] at reached
      omega

theorem Recorded.send (recorded : list.Recorded noted.written memory) (wellFormed : memory.WellFormed) :
    ∃ left, list.send memory = .ok (left.sent, left) (Memory.Call.afterAll list.storing memory) ∧
      left.Recorded (copyBook.noteAll list.storing memory noted).written
        (Memory.Call.afterAll list.storing memory) := by
  cases dirty : list.dirty with
  | false =>
      have calls : list.storing = [] := if_neg (by simp [dirty])
      rw [calls]
      exact ⟨list, Drawable.send_of_clean dirty memory, recorded⟩
  | true =>
      obtain ⟨window, placed, live⟩ := recorded.record
      have backs : memory.Backs window.buffer := placed.buffer ▸ recorded.backs
      obtain ⟨count, after, written⟩ := ObjectListTable.write_answers placed wellFormed backs live
        (list.entries.map (·.objectId))
      obtain ⟨rfl, same, -, -⟩ := ObjectListTable.write_ok placed wellFormed written
      have left : after = Memory.Call.afterAll list.storing memory := by
        rw [storing, if_pos dirty]
        exact same
      have still := recorded.noteAll_direct wellFormed list.storing_direct (list.storing_spares _)
      subst left
      refine ⟨{ list with sent := list.kept.length, dirty := false },
        Drawable.send_of_dirty dirty written, still.backs, still.record, List.length_take_le _ _,
        fun some id page occupied => ?_⟩
      rw [Memory.pageSize_afterAll wellFormed] at occupied
      exact recorded.stored wellFormed dirty (List.length_pos_iff.mp (Nat.pos_of_ne_zero some)) occupied

end DrawList

end TorusEngine.Drawing
