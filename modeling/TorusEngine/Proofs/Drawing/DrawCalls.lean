import TorusEngine.Drawing.DrawList
import TorusEngine.Proofs.Paging.ObjectLists

/-!
# What draw calls point at

A run of a draw list is any sequence of changes and sends of the list, between which memory is put to
any other use that leaves the list's record to it. After every run the record holds what was sent last,
and a call carries the place of the record's first byte (`draws_what_was_sent`). A device that reads on
from there finds the list if the pages of the record follow each other in the arena. If they do not, it
reads bytes that are no part of the record (`scattered_draws_other_bytes`).
-/

namespace TorusEngine.Drawing

open Paging
open Paging.ObjectListTable (ObjectId encoded)

/-- A draw list in the memory that holds its record, and the object numbers that it sent last. -/
structure Drawable where
  memory : Memory
  list : DrawList
  ids : List ObjectId := []

namespace Drawable

inductive Call where
  | elsewhere (call : Memory.Call)
  | reset
  | push (entry : Entry)
  | sort
  | send

def sendIds (drawable : Drawable) : List ObjectId :=
  if drawable.list.dirty then
    (drawable.list.entries.map (·.objectId)).take drawable.list.table.capacity
  else drawable.ids

def Call.after : Call → Drawable → Drawable
  | elsewhere call, drawable => { drawable with memory := call.after drawable.memory }
  | reset, drawable => { drawable with list := drawable.list.reset }
  | push entry, drawable => { drawable with list := drawable.list.push entry }
  | sort, drawable => { drawable with list := drawable.list.sort }
  | send, drawable => match drawable.list.send drawable.memory with
      | .ok (_, list) memory => ⟨memory, list, drawable.sendIds⟩
      | .error _ memory => { drawable with memory := memory }

def Call.Spares (drawable : Drawable) : Call → Prop
  | elsewhere call => call.Spares drawable.list.table.count.buffer ∧
      (call.after drawable.memory).Live drawable.list.table.window drawable.list.record ∧
      ∀ window, drawable.memory.windows.get? drawable.list.table.window = some window →
        ∀ cell : window.Cell, cell.index = drawable.list.record →
          ¬call.Writes drawable.list.table.window cell
  | _ => True

/-- The draw lists of all tables and memories, after runs that leave their records to them. -/
inductive Reachable : Drawable → Prop where
  | made {config tableConfig : MemoryConfig} {memory middle after : Memory} {capacity : Nat}
      {table : ObjectListTable} {list : DrawList} (before between : List Memory.Call)
      (started : Memory.make config = .ok memory)
      (tabled : ObjectListTable.make capacity tableConfig (Memory.Call.afterAll before memory) =
        .ok table middle)
      (spared : ∀ call ∈ between, call.Spares table.count.buffer)
      (listed : DrawList.make table (Memory.Call.afterAll between middle) = .ok list after) :
      Reachable ⟨after, list, []⟩
  | call {drawable : Drawable} (reachable : Reachable drawable) (call : Call)
      (spares : call.Spares drawable) : Reachable (call.after drawable)

structure Holds (drawable : Drawable) : Prop where
  wellFormed : drawable.memory.WellFormed
  backs : drawable.memory.Backs drawable.list.table.count.buffer
  record : ∃ window, drawable.list.table.Placed drawable.memory window ∧
    drawable.list.record ∈ window.pool.outstanding
  sent : drawable.list.sent ≠ 0 → drawable.list.sent = drawable.ids.length ∧
    drawable.list.table.Stores drawable.list.record drawable.ids drawable.memory.arena

section Making

variable {config tableConfig : MemoryConfig} {memory middle after : Memory} {capacity : Nat}
  {table : ObjectListTable} {list : DrawList} {before between : List Memory.Call}

theorem made_record (started : Memory.make config = .ok memory)
    (tabled : ObjectListTable.make capacity tableConfig (Memory.Call.afterAll before memory) =
      .ok table middle)
    (spared : ∀ call ∈ between, call.Spares table.count.buffer)
    (listed : DrawList.make table (Memory.Call.afterAll between middle) = .ok list after) :
    (Memory.Call.afterAll between middle).WellFormed ∧
      (Memory.Call.afterAll between middle).Backs table.count.buffer ∧
      (∃ window, table.Placed (Memory.Call.afterAll between middle) window) ∧
      ∃ record, table.tryCreate (Memory.Call.afterAll between middle) = .ok record after ∧
        list = { table, record } := by
  have wellFormed := Memory.afterAll_wellFormed (Memory.make_wellFormed started) before
  obtain ⟨window, rfl, placed, -, fresh⟩ := ObjectListTable.make_placed wellFormed tabled
  have backs : Memory.Backs _ table.count.buffer :=
    @Memory.Call.after_backs _ wellFormed _ (placed.buffer ▸ fresh ▸ wellFormed.backs_unused)
      (.makeWindow "object-lists" window.schema tableConfig) trivial
  have wellFormed := Memory.Call.after_wellFormed wellFormed
    (.makeWindow "object-lists" window.schema tableConfig)
  obtain ⟨record, left, created, same⟩ := Action.bind_ok.mp listed
  cases same
  obtain ⟨_, _, popped, -⟩ := Action.bind_ok.mp created
  obtain ⟨last, _, found, -⟩ := Memory.onWindow_ok.mp popped
  exact ⟨Memory.afterAll_wellFormed wellFormed between, Memory.afterAll_backs wellFormed backs spared,
    ⟨last, placed.afterAll wellFormed found⟩, record, created, rfl⟩

theorem made_holds (started : Memory.make config = .ok memory)
    (tabled : ObjectListTable.make capacity tableConfig (Memory.Call.afterAll before memory) =
      .ok table middle)
    (spared : ∀ call ∈ between, call.Spares table.count.buffer)
    (listed : DrawList.make table (Memory.Call.afterAll between middle) = .ok list after) :
    Holds ⟨after, list, []⟩ := by
  obtain ⟨wellFormed, backs, ⟨window, placed⟩, record, created, rfl⟩ :=
    made_record started tabled spared listed
  obtain ⟨rfl, window, placed, live, -⟩ :=
    ObjectListTable.tryCreate_ok wellFormed backs placed created
  exact ⟨Memory.afterAll_wellFormed wellFormed _,
    Memory.afterAll_backs wellFormed backs (by simp [Memory.Call.Spares]), ⟨window, placed, live⟩,
    fun some => absurd rfl some⟩

end Making

theorem send_of_clean {list : DrawList} (clean : list.dirty = false) (memory : Memory) :
    list.send memory = .ok (list.sent, list) memory := by
  simp [DrawList.send, clean]

theorem send_of_dirty {list : DrawList} (dirty : list.dirty = true) {memory after : Memory}
    {count : Nat} (written : list.table.write list.record (list.entries.map (·.objectId)) memory =
      .ok count after) :
    list.send memory = .ok (count, { list with sent := count, dirty := false }) after := by
  simp [DrawList.send, dirty, written]

theorem Holds.send {drawable : Drawable} (holds : drawable.Holds) :
    (Call.send.after drawable).Holds := by
  obtain ⟨window, placed, live⟩ := holds.record
  cases dirty : drawable.list.dirty with
  | false =>
      have same : Call.send.after drawable = drawable := by
        simp [Call.after, sendIds, send_of_clean dirty, dirty]
      rwa [same]
  | true =>
      have backs : drawable.memory.Backs window.buffer := placed.buffer ▸ holds.backs
      obtain ⟨count, memory, written⟩ := ObjectListTable.write_answers placed holds.wellFormed backs
        live (drawable.list.entries.map (·.objectId))
      have left : Call.send.after drawable = ⟨memory, { drawable.list with
          sent := count, dirty := false }, drawable.sendIds⟩ := by
        simp [Call.after, send_of_dirty dirty written]
      have ids : drawable.sendIds = (drawable.list.entries.map (·.objectId)).take
          drawable.list.table.capacity := if_pos dirty
      obtain ⟨rfl, rfl, windows, stores⟩ :=
        ObjectListTable.write_ok placed holds.wellFormed written
      rw [left, ids]
      have placed := placed.afterAll holds.wellFormed (windows ▸ placed.found)
      exact ⟨Memory.afterAll_wellFormed holds.wellFormed _,
        Memory.afterAll_backs holds.wellFormed holds.backs (by simp [Memory.Call.Spares]),
        ⟨window, placed, live⟩, fun _ => ⟨rfl, stores⟩⟩

theorem Holds.after {drawable : Drawable} (holds : drawable.Holds) {call : Call}
    (spares : call.Spares drawable) : (call.after drawable).Holds := by
  cases call with
  | elsewhere call =>
      obtain ⟨window, placed, -⟩ := holds.record
      obtain ⟨spared, live, unwritten⟩ := spares
      obtain ⟨left, still, stillLive⟩ := id live
      refine ⟨Memory.Call.after_wellFormed holds.wellFormed call,
        Memory.Call.after_backs holds.wellFormed holds.backs spared,
        ⟨left, placed.after holds.wellFormed still, stillLive⟩, fun some => ?_⟩
      obtain ⟨count, stores⟩ := holds.sent some
      exact ⟨count, stores.after placed holds.wellFormed live (placed.buffer ▸ spared)
        (unwritten window placed.found)⟩
  | reset => exact ⟨holds.wellFormed, holds.backs, holds.record, fun some => absurd rfl some⟩
  | push entry => exact ⟨holds.wellFormed, holds.backs, holds.record, holds.sent⟩
  | sort => exact ⟨holds.wellFormed, holds.backs, holds.record, holds.sent⟩
  | send => exact holds.send

theorem Reachable.holds {drawable : Drawable} (reachable : Reachable drawable) : drawable.Holds := by
  induction reachable with
  | made before between started tabled spared listed => exact made_holds started tabled spared listed
  | call _ call spares holds => exact holds.after spares

/-- A draw call points at a stored list: its address is the place of the record's first byte, and the
record reads as the list. The arena's own bytes from there on are the list's if the pages of the record
follow each other. -/
structure Draws (drawable : Drawable) (call : DrawCall) : Prop where
  count : call.count = drawable.ids.length
  nonempty : drawable.ids ≠ []
  stored : ∃ window, drawable.memory.windows.get? drawable.list.table.window = some window ∧
    drawable.memory.arena.place? window.buffer (drawable.list.record * window.objectSize) =
      some call.address ∧
    drawable.memory.arena.read window.buffer (drawable.list.record * window.objectSize)
      (encoded drawable.ids).length = .ok (encoded drawable.ids) ∧
    (drawable.memory.arena.PagesFollow window.buffer (drawable.list.record * window.objectSize)
        (encoded drawable.ids).length →
      drawable.memory.arena.store.read call.address (encoded drawable.ids).length =
        encoded drawable.ids)

theorem draws_what_was_sent {drawable : Drawable} (reachable : Reachable drawable) {call : DrawCall}
    (drawn : drawable.list.call? drawable.memory = .ok (some call)) : drawable.Draws call := by
  have holds := reachable.holds
  obtain ⟨window, placed, live⟩ := holds.record
  have some : drawable.list.sent ≠ 0 := by
    intro none
    simp [DrawList.call?, none, pure, Except.pure] at drawn
  obtain ⟨count, stores⟩ := holds.sent some
  have address : drawable.list.physicalAddress drawable.memory = .ok call.address ∧
      call.count = drawable.list.sent := by
    cases located : drawable.list.physicalAddress drawable.memory with
    | error fault => simp [DrawList.call?, some, located, bind, Except.bind] at drawn
    | ok address =>
        simp [DrawList.call?, some, located, bind, Except.bind, pure, Except.pure] at drawn
        subst drawn
        exact ⟨rfl, rfl⟩
  have start := placed.place?_of_physicalAddress holds.wellFormed address.1
  have inside : drawable.list.record * window.objectSize + (encoded drawable.ids).length ≤
      drawable.memory.arena.extent window.buffer :=
    (stores.length_le placed).trans
      (Memory.record_inside (holds.backs _ _ placed.found placed.buffer.symm) live)
  obtain ⟨buffer, present⟩ := (holds.backs _ _ placed.found placed.buffer.symm).live
  have bytes := stores.bytesFrom placed holds.wellFormed
  refine ⟨address.2.trans count, fun empty => some (by simp [count, empty]), window, placed.found,
    start, ?_, fun follow => ?_⟩
  · rw [Arena.read_inside holds.wellFormed.arena present inside, bytes]
  · rw [← (follow.inOnePiece holds.wellFormed.arena.pageSize_pos).bytesFrom start, bytes]

def shuffled : Memory :=
  Memory.Call.afterAll
    [.arena (.createBuffer "a" 16), .arena (.createBuffer "b" 16), .arena (.dropBuffer 1),
      .arena (.dropBuffer 0)]
    { arena := { pageSize := 16, maxPages := 8, pool := .withCapacity 1 (Arena.pageGrowth 8) } }

def wideTable : ObjectListTable := ⟨0, ⟨2, 24, 0, .int⟩, ⟨2, 24, 4, .intArray 5⟩, 5⟩

def scattered : Drawable :=
  let table := Action.after (ObjectListTable.make 5 {}) shuffled
  let calls : List Call :=
    [.push ⟨0, 11, 0⟩, .push ⟨1, 12, 0⟩, .push ⟨2, 13, 0⟩, .push ⟨3, 14, 0⟩, .push ⟨4, 15, 0⟩, .send]
  calls.foldl (fun drawable call => call.after drawable)
    ⟨Action.after (DrawList.make wideTable) table, { table := wideTable, record := 0 }, []⟩

theorem scattered_reachable : Reachable scattered := by
  have started : Memory.make { pageSize := 16, maxPages := 8 } = .ok
      { arena := { pageSize := 16, maxPages := 8, pool := .withCapacity 1 (Arena.pageGrowth 8) } } :=
    rfl
  have tabled : ObjectListTable.make 5 {} shuffled =
      .ok wideTable (Action.after (ObjectListTable.make 5 {}) shuffled) :=
    Action.ok_of_answer (by decide +kernel)
  have record : wideTable.tryCreate (Action.after (ObjectListTable.make 5 {}) shuffled) = .ok 0 _ :=
    Action.ok_of_answer (by decide +kernel)
  have listed : DrawList.make wideTable (Action.after (ObjectListTable.make 5 {}) shuffled) =
      .ok { table := wideTable, record := 0 } _ := Action.ok_of_answer (by
        simp [DrawList.make, record, Action.answer, Action.outcome])
  have made := Reachable.made _ [] started tabled (by simp) listed
  exact (((((made.call (.push ⟨0, 11, 0⟩) trivial).call (.push ⟨1, 12, 0⟩) trivial).call
    (.push ⟨2, 13, 0⟩) trivial).call (.push ⟨3, 14, 0⟩) trivial).call (.push ⟨4, 15, 0⟩) trivial).call
    .send trivial

/-- The bytes from the call's address on need not be the list. -/
theorem scattered_draws_other_bytes : ∃ call, Reachable scattered ∧
    scattered.list.call? scattered.memory = .ok (some call) ∧
    scattered.memory.arena.store.read call.address (encoded scattered.ids).length ≠
      encoded scattered.ids :=
  ⟨⟨16, 5⟩, scattered_reachable, by decide +kernel, by decide +kernel⟩

theorem draws_what_was_sent_scattered : ∃ call, Reachable scattered ∧
    scattered.list.call? scattered.memory = .ok (some call) ∧ scattered.Draws call := by
  have drawn : scattered.list.call? scattered.memory = .ok (some ⟨16, 5⟩) := by decide +kernel
  exact ⟨_, scattered_reachable, drawn, draws_what_was_sent scattered_reachable drawn⟩

end Drawable

end TorusEngine.Drawing
