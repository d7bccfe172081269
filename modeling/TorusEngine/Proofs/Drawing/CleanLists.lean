import TorusEngine.Proofs.Drawing.WrittenRecords
import TorusEngine.Proofs.Paging.ReadBack

/-!
# Lists that are sent once

A draw list is stored again only if it was changed since. So there are four places that say what was
sent: the entries, the mark of a change, the count and the record. As long as a list is clean they agree
(`Reachable.current`): a send that is skipped answers what it would answer otherwise, and leaves the
bytes that it would leave (`stays_in_step`).
-/

namespace TorusEngine.Drawing

open Paging

namespace Drawable

variable {drawable : Drawable}

/-! ## Clean lists -/

/-- The record stores the front of the list, as much as fits, and the count says how much. -/
structure Current (drawable : Drawable) : Prop where
  sent : drawable.list.sent = drawable.list.kept.length
  stored : drawable.list.table.Stores drawable.list.record drawable.list.kept drawable.memory.arena

theorem Current.sent_eq (current : drawable.Current) :
    drawable.list.sent = min drawable.list.entries.length drawable.list.table.capacity := by
  rw [current.sent, DrawList.kept, List.length_take, Nat.min_comm]
  exact congrArg (min · _) (List.length_map _)

structure Sends (drawable after : Drawable) : Prop where
  answered : drawable.list.send drawable.memory = .ok (after.list.sent, after.list) after.memory
  left : after.list = { drawable.list with sent := after.list.sent, dirty := false }
  current : after.Current

theorem Sends.sent_eq {after : Drawable} (sends : drawable.Sends after) :
    after.list.sent = min drawable.list.entries.length drawable.list.table.capacity := by
  have entries : after.list.entries = drawable.list.entries := by rw [sends.left]
  have table : after.list.table = drawable.list.table := by rw [sends.left]
  rw [sends.current.sent_eq, entries, table]

theorem Sends.stored {after : Drawable} (sends : drawable.Sends after) :
    drawable.list.table.Stores drawable.list.record drawable.list.kept after.memory.arena := by
  have stored := sends.current.stored
  rw [sends.left] at stored
  exact stored

theorem after_send_of_dirty (dirty : drawable.list.dirty = true) {memory : Memory} {count : Nat}
    (written : drawable.list.table.write drawable.list.record
      (drawable.list.entries.map (·.objectId)) drawable.memory = .ok count memory) :
    Call.send.after drawable =
      ⟨memory, { drawable.list with sent := count, dirty := false }, drawable.sendIds⟩ := by
  simp [Call.after, send_of_dirty dirty written]

theorem Holds.write_answers (holds : drawable.Holds) (ids : List ObjectListTable.ObjectId) :
    ∃ count after, drawable.list.table.write drawable.list.record ids drawable.memory =
      .ok count after := by
  obtain ⟨window, placed, live⟩ := holds.record
  exact ObjectListTable.write_answers placed holds.wellFormed (placed.buffer ▸ holds.backs) live ids

theorem Holds.sends_dirty (holds : drawable.Holds) (dirty : drawable.list.dirty = true) :
    drawable.Sends (Call.send.after drawable) := by
  obtain ⟨window, placed, -⟩ := holds.record
  obtain ⟨count, memory, written⟩ := holds.write_answers (drawable.list.entries.map (·.objectId))
  obtain ⟨counted, -, -, stores⟩ := ObjectListTable.write_ok placed holds.wellFormed written
  rw [after_send_of_dirty dirty written]
  exact ⟨send_of_dirty dirty written, rfl, counted, stores⟩

theorem Current.sends (current : drawable.Current) (clean : drawable.list.dirty = false) :
    drawable.Sends (Call.send.after drawable) := by
  have sent := send_of_clean clean drawable.memory
  have left : Call.send.after drawable = ⟨drawable.memory, drawable.list, drawable.sendIds⟩ := by
    simp [Call.after, sent]
  rw [left]
  exact ⟨sent, by simp [← clean], current.sent, current.stored⟩

theorem Current.elsewhere (current : drawable.Current) (holds : drawable.Holds) {call : Memory.Call}
    (spares : (Call.elsewhere call).Spares drawable) :
    ((Call.elsewhere call).after drawable).Current := by
  obtain ⟨window, placed, -⟩ := holds.record
  obtain ⟨spared, live, unwritten⟩ := spares
  exact ⟨current.sent, current.stored.after placed holds.wellFormed live (placed.buffer ▸ spared)
    (unwritten window placed.found)⟩

theorem Reachable.current (reachable : Reachable drawable) :
    drawable.list.dirty = false → drawable.Current := by
  induction reachable with
  | made before between started tabled spared listed =>
      obtain ⟨wellFormed, -, ⟨window, placed⟩, record, created, rfl⟩ :=
        made_record started tabled spared listed
      intro clean
      have stores := ObjectListTable.tryCreate_stores wellFormed placed created
      have kept (table : ObjectListTable) : DrawList.kept { table, record } = [] := List.take_nil
      exact ⟨by rw [kept, List.length_nil], by rwa [kept]⟩
  | @call drawable reachable call spares current =>
      have holds := reachable.holds
      intro clean
      cases call with
      | elsewhere call => exact (current clean).elsewhere holds spares
      | send =>
          cases before : drawable.list.dirty with
          | false => exact ((current before).sends before).current
          | true => exact (holds.sends_dirty before).current
      -- All other calls mark the list as changed.
      | _ => cases clean

theorem Reachable.sends (reachable : Reachable drawable) :
    drawable.Sends (Call.send.after drawable) := by
  cases dirty : drawable.list.dirty with
  | false => exact (reachable.current dirty).sends dirty
  | true => exact reachable.holds.sends_dirty dirty

/-! ## Reading and drawing -/

theorem Current.sentIds (current : drawable.Current) (holds : drawable.Holds)
    (small : drawable.list.table.capacity < 0x80000000) :
    drawable.list.sentIds drawable.memory = .ok drawable.list.kept := by
  obtain ⟨window, placed, live⟩ := holds.record
  have reached := Memory.record_inside (holds.backs _ _ placed.found placed.buffer.symm) live
  exact current.stored.read placed holds.wellFormed reached small

theorem Sends.sentIds {after : Drawable} (sends : drawable.Sends after) (holds : after.Holds)
    (small : drawable.list.table.capacity < 0x80000000) :
    drawable.list.sentIds after.memory = .ok drawable.list.kept := by
  have ids := sends.current.sentIds holds
  rw [sends.left] at ids
  exact ids small

theorem Holds.length (holds : drawable.Holds) (small : drawable.list.table.capacity < 0x80000000)
    (some : drawable.list.sent ≠ 0) :
    drawable.list.table.length drawable.list.record drawable.memory = .ok drawable.list.sent := by
  obtain ⟨count, stores⟩ := holds.sent some
  rw [count]
  exact stores.length small

theorem Current.rewrites (current : drawable.Current) (holds : drawable.Holds)
    (clean : drawable.list.dirty = false) : ∃ arena,
      { drawable.list with dirty := true }.send drawable.memory =
        .ok (drawable.list.sent, drawable.list) { drawable.memory with arena } ∧
      Arena.SameBytes drawable.memory.arena arena := by
  obtain ⟨window, placed, -⟩ := holds.record
  obtain ⟨count, memory, written⟩ := holds.write_answers (drawable.list.entries.map (·.objectId))
  obtain ⟨arena, rfl, same⟩ := current.stored.write_again placed holds.wellFormed written
  obtain ⟨counted, -⟩ := ObjectListTable.write_ok placed holds.wellFormed written
  obtain rfl : count = drawable.list.sent := counted.trans current.sent.symm
  have answered := @send_of_dirty { drawable.list with dirty := true } rfl _ _ _ written
  exact ⟨arena, answered.trans (by simp [← clean]), same⟩

theorem render_of_unsent {list : DrawList} (unsent : list.sent = 0) (backend : Backend)
    (memory : Memory) : list.render backend memory = .ok none := by
  simp [DrawList.render, DrawList.call?, unsent, bind, Except.bind, pure, Except.pure]

theorem render_of_sent {list : DrawList} (sent : list.sent ≠ 0) {memory : Memory} {address : Nat}
    (located : list.physicalAddress memory = .ok address) (backend : Backend) :
    list.render backend memory =
      (DrawCall.submit ⟨address, list.sent⟩ backend).map fun _ => some ⟨address, list.sent⟩ := by
  simp only [DrawList.render, DrawList.call?, if_neg sent, located, bind, Except.bind, pure, Except.pure]
  cases DrawCall.submit ⟨address, list.sent⟩ backend <;> rfl

/-! ## The list and its record keep in step -/

structure InStep (drawable : Drawable) : Prop where
  current : drawable.list.dirty = false →
    drawable.list.sent = min drawable.list.entries.length drawable.list.table.capacity ∧
    drawable.list.sentIds drawable.memory =
      .ok ((drawable.list.entries.map (·.objectId)).take drawable.list.table.capacity)
  skips : drawable.list.dirty = false →
    drawable.list.send drawable.memory = .ok (drawable.list.sent, drawable.list) drawable.memory
  /-- If it stored the list all the same, it would answer the same and leave the same bytes. -/
  rewrites : drawable.list.dirty = false → ∃ arena,
    { drawable.list with dirty := true }.send drawable.memory =
      .ok (drawable.list.sent, drawable.list) { drawable.memory with arena } ∧
    Arena.SameBytes drawable.memory.arena arena
  sends : drawable.Sends (Call.send.after drawable)
  counted : drawable.list.sent = 0 ∨
    drawable.list.table.length drawable.list.record drawable.memory = .ok drawable.list.sent
  undrawn : drawable.list.sent = 0 → ∀ backend, drawable.list.render backend drawable.memory = .ok none
  drawn : 0 < drawable.list.sent → ∃ address,
    drawable.list.physicalAddress drawable.memory = .ok address ∧
    ∀ backend, drawable.list.render backend drawable.memory =
      (DrawCall.submit ⟨address, drawable.list.sent⟩ backend).map
        fun _ => some ⟨address, drawable.list.sent⟩

/-- What is sent is what is drawn, and a send may be skipped while the list is clean. -/
theorem stays_in_step (reachable : Reachable drawable)
    (small : drawable.list.table.capacity < 0x80000000) : drawable.InStep := by
  have holds := reachable.holds
  have current := reachable.current
  refine ⟨fun clean => ⟨(current clean).sent_eq, (current clean).sentIds holds small⟩,
    fun clean => send_of_clean clean _, fun clean => (current clean).rewrites holds clean,
    reachable.sends, ?_, fun unsent backend => render_of_unsent unsent backend _, fun some => ?_⟩
  · by_cases unsent : drawable.list.sent = 0
    · exact .inl unsent
    · exact .inr (holds.length small unsent)
  · obtain ⟨window, placed, live⟩ := holds.record
    obtain ⟨address, located⟩ := ObjectListTable.physicalAddress_answers placed holds.wellFormed
      (placed.buffer ▸ holds.backs) live
    exact ⟨address, located, fun backend => render_of_sent some.ne' located backend⟩

theorem stays_in_step_scattered : Reachable scattered ∧ scattered.list.table.capacity < 0x80000000 ∧
    scattered.list.dirty = false ∧ scattered.list.sent = 5 ∧ scattered.InStep :=
  ⟨scattered_reachable, by decide +kernel, by decide +kernel, by decide +kernel,
    stays_in_step scattered_reachable (by decide +kernel)⟩

end Drawable

end TorusEngine.Drawing
