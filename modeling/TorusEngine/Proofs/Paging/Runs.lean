import TorusEngine.Proofs.Paging.Freeing
import TorusEngine.Proofs.Paging.Layout

/-!
# Runs of memory

A run is any sequence of calls on the arena, on its windows, on the freeing service and on the clock.
The windows of one memory have buffers of their own (`Call.after_wellFormed`), so each window whose
buffer no one else resizes stays backed by pages after every call (`capacity_backed`).
-/

namespace TorusEngine.Paging.Memory

/-! ## Calls -/

/-- What the users of memory, the freeing service and the clock do, in any order. -/
inductive Call where
  | arena (call : Arena.Call)
  | makeWindow (name : String) (schema : Schema) (config : MemoryConfig)
  | dropWindow (id : WindowId)
  | window (id : WindowId) (call : Hosted.Call)
  | setElement (id : WindowId) (name : String) (type : ElementType) (index element : Nat)
      (word : type.Word)
  | setSlice (id : WindowId) (name : String) (type : ElementType) (index : Nat)
      (words : List type.Word)
  | freeLater (id : WindowId) (indices : List Nat)
  | receive (message : Message)
  | wake (wakeup : Wakeup)
  | settle
  | stopService
  | advance (time : Nat)

def fieldOf? (memory : Memory) (id : WindowId) (name : String) : Option Variable :=
  (memory.windows.get? id).bind (·.fieldVariable? name)

def onVariable (id : WindowId) (name : String) (action : Variable → Action Arena Unit) :
    Action Memory Unit := do
  match (← get).fieldOf? id name with
  | some field => onArena (action field)
  | none => throw .unknownField

namespace Call

def perform : Call → Action Memory Unit
  | arena call => onArena call.perform
  | makeWindow name schema config => (fun _ => ()) <$> Memory.makeWindow name schema config
  | dropWindow id => modify (·.dropWindow id)
  | window id call => onWindow id call.perform
  | setElement id name type index element word =>
      onVariable id name (·.setElement type index element word)
  | setSlice id name type index words => onVariable id name (·.setSlice type index words)
  | freeLater id indices => Memory.freeLater id indices
  | receive message => modify (·.receive message)
  | wake wakeup => modify (·.wake wakeup)
  | settle => modify Memory.settle
  | stopService => modify Memory.stopService
  | advance time => modify fun memory => { memory with clock := memory.clock + time }

def after (call : Call) (memory : Memory) : Memory := Action.after call.perform memory

def afterAll (calls : List Call) (memory : Memory) : Memory :=
  calls.foldl (fun memory call => call.after memory) memory

/-- The calls after which the number of pages of a buffer is its window's doing. -/
def Spares (id : BufferId) : Call → Prop
  | arena call => call.Spares id
  | _ => True

/-- The calls on the arena that a call consists of, if it is on the arena alone. -/
def direct (memory : Memory) : Call → Option (List Arena.Call)
  | arena call => some [call]
  | setElement id name type index element word => some <| match memory.fieldOf? id name with
      | some field => field.elementPut type index element word
      | none => []
  | setSlice id name type index words => some <| match memory.fieldOf? id name with
      | some field => field.slicePut type index words
      | none => []
  | _ => none

theorem after_onArena {α : Type} (action : Action Arena α) (memory : Memory) :
    Action.after (onArena action) memory =
      { memory with arena := Action.after action memory.arena } :=
  Action.after_within _ _ _ _

theorem after_onVariable (id : WindowId) (name : String) (action : Variable → Action Arena Unit)
    (memory : Memory) : Action.after (onVariable id name action) memory =
      match memory.fieldOf? id name with
      | some field => { memory with arena := Action.after (action field) memory.arena }
      | none => memory := by
  rw [Action.after_eq_left]
  cases found : memory.fieldOf? id name with
  | none => simp [onVariable, found, Action.left]
  | some field =>
      have same := after_onArena (action field) memory
      rw [Action.after_eq_left] at same
      simpa [onVariable, found] using same

theorem after_direct {memory : Memory} {call : Call} {calls : List Arena.Call}
    (direct : call.direct memory = some calls) :
    call.after memory = { memory with arena := Arena.Call.afterAll calls memory.arena } := by
  cases call with
  | arena call =>
      cases direct
      exact after_onArena call.perform memory
  | setElement id name type index element word =>
      rw [after, perform, after_onVariable]
      simp only [Call.direct, Option.some.injEq] at direct
      cases found : memory.fieldOf? id name with
      | none =>
          simp only [found] at direct
          rw [← direct]
          rfl
      | some field =>
          simp only [found] at direct ⊢
          rw [← direct, field.after_setElement]
  | setSlice id name type index words =>
      rw [after, perform, after_onVariable]
      simp only [Call.direct, Option.some.injEq] at direct
      cases found : memory.fieldOf? id name with
      | none =>
          simp only [found] at direct
          rw [← direct]
          rfl
      | some field =>
          simp only [found] at direct ⊢
          rw [← direct, field.after_setSlice]
  | _ => cases direct

def Sets (id : WindowId) (position : String × Nat × Nat) : Call → Prop
  | setElement other name _ index element _ => other = id ∧ (name, index, element) = position
  | setSlice other name _ index words =>
      other = id ∧ ∃ element < words.length, (name, index, element) = position
  | _ => False

theorem direct_cases {memory : Memory} {call : Call} {calls : List Arena.Call}
    (direct : call.direct memory = some calls) :
    (∃ put, call = arena put ∧ calls = [put]) ∨ calls = [] ∨
      ∃ id window name field index elements, memory.windows.get? id = some window ∧
        window.fieldVariable? name = some field ∧
        Variable.SetsOnly field index elements calls ∧
        ∀ element, elements element → call.Sets id (name, index, element) := by
  cases call with
  | arena call =>
      cases direct
      exact .inl ⟨call, rfl, rfl⟩
  | setElement id name type index element word =>
      simp only [Call.direct, Option.some.injEq] at direct
      cases named : memory.fieldOf? id name with
      | none => exact .inr (.inl (by simpa [named] using direct.symm))
      | some field =>
          obtain ⟨window, found, named'⟩ := Option.bind_eq_some_iff.mp named
          simp only [named] at direct
          exact .inr (.inr ⟨id, window, name, field, index, (· = element), found, named',
            direct ▸ field.elementPut_setsOnly type index element word,
            fun _ same => ⟨rfl, same ▸ rfl⟩⟩)
  | setSlice id name type index words =>
      simp only [Call.direct, Option.some.injEq] at direct
      cases named : memory.fieldOf? id name with
      | none => exact .inr (.inl (by simpa [named] using direct.symm))
      | some field =>
          obtain ⟨window, found, named'⟩ := Option.bind_eq_some_iff.mp named
          simp only [named] at direct
          exact .inr (.inr ⟨id, window, name, field, index, (· < words.length), found, named',
            direct ▸ field.slicePut_setsOnly type index words,
            fun element few => ⟨rfl, element, few, rfl⟩⟩)
  | _ => cases direct

theorem direct_spares {memory : Memory} {call : Call} {calls : List Arena.Call}
    (direct : call.direct memory = some calls) {id : BufferId} (spared : call.Spares id) :
    ∀ put ∈ calls, put.Spares id := by
  obtain ⟨put, rfl, rfl⟩ | rfl | ⟨_, _, _, field, _, _, -, -, sets, -⟩ := direct_cases direct
  · intro other member
    rw [List.mem_singleton.mp member]
    exact spared
  · simp
  · exact sets.spared id

end Call

/-! ## What a call does -/

inductive Call.Leaves (memory : Memory) (call : Call) : Memory → Prop where
  | direct {calls : List Arena.Call} (consists : call.direct memory = some calls) :
      Leaves memory call { memory with arena := Arena.Call.afterAll calls memory.arena }
  | made {name : String} {bytes : Nat} {window : Window} {arena : Arena}
      (left : arena = (Arena.Call.createBuffer name bytes).after memory.arena)
      (buffer : window.buffer = memory.arena.nextBuffer) (more : window.buffer < arena.nextBuffer)
      (backed : Hosted.Backed ⟨window, arena⟩) :
      Leaves memory call { memory with
        arena
        windows := memory.windows.insert memory.nextWindow window
        nextWindow := memory.nextWindow + 1 }
  | dropped (id : WindowId) : Leaves memory call (memory.dropWindow id)
  | hosted {id : WindowId} {window : Window} (found : memory.windows.get? id = some window)
      (inner : Hosted.Call) :
      Leaves memory call (memory.putHosted id (inner.after ⟨window, memory.arena⟩))
  | freed {after : Memory} (frees : OnlyFrees memory after) : Leaves memory call after

theorem Call.makeWindow_leaves {memory : Memory} (wellFormed : memory.arena.WellFormed)
    (name : String) (schema : Schema) (config : MemoryConfig) (call : Call) :
    call.Leaves memory (Action.after (Memory.makeWindow name schema config) memory) := by
  rw [Action.after_eq_left]
  cases made : Window.make name schema config memory.arena with
  | error fault arena =>
      rw [Hosted.make_refused wellFormed made] at made
      have same : Action.left (Memory.makeWindow name schema config memory) = memory := by
        simp [Memory.makeWindow, Memory.onArena, Action.within_apply, made, Action.left]
      rw [same]
      exact .freed (Std.Refl.refl memory)
  | ok window arena =>
      obtain ⟨backed, buffer, bytes, left⟩ := Hosted.make_backed wellFormed made
      obtain ⟨table, live⟩ := backed.live
      have used := Arena.keys_used backed.arena _ (Dictionary.mem_keys_of_get? live)
      simp only [Memory.makeWindow, Memory.onArena, Action.bind_apply, Action.within_apply, made]
      exact .made left buffer used backed

theorem Call.after_leaves {memory : Memory} (wellFormed : memory.arena.WellFormed) (call : Call) :
    call.Leaves memory (call.after memory) := by
  have ofDirect : ∀ {calls}, call.direct memory = some calls →
      call.Leaves memory (call.after memory) := by
    intro calls consists
    rw [after_direct consists]
    exact .direct consists
  cases call with
  | arena call => exact ofDirect rfl
  | setElement id name type index element word => exact ofDirect rfl
  | setSlice id name type index words => exact ofDirect rfl
  | makeWindow name schema config =>
      rw [after, perform, Action.after_map]
      exact makeWindow_leaves wellFormed name schema config _
  | dropWindow id => exact .dropped id
  | window id call =>
      rw [after, perform, after_onWindow]
      cases found : memory.windows.get? id with
      | none => exact .freed (Std.Refl.refl memory)
      | some window => exact .hosted found call
  | freeLater id indices => exact .freed (freeLater_onlyFrees id indices memory)
  | receive message => exact .freed (receive_serves memory message).onlyFrees
  | wake wakeup => exact .freed (wake_serves memory wakeup).onlyFrees
  | settle => exact .freed (settle_serves memory).onlyFrees
  | stopService => exact .freed (stopService_serves memory).onlyFrees
  | advance time => exact .freed (OnlyFrees.of_sameWindows rfl rfl rfl)

/-! ## Windows have buffers of their own -/

structure WellFormed (memory : Memory) : Prop where
  arena : memory.arena.WellFormed
  numbered : ∀ id window, memory.windows.get? id = some window → id < memory.nextWindow
  used : ∀ id window, memory.windows.get? id = some window →
    window.buffer < memory.arena.nextBuffer
  apart : ∀ id window other second, memory.windows.get? id = some window →
    memory.windows.get? other = some second → window.buffer = second.buffer → id = other
  pools : ∀ id window, memory.windows.get? id = some window → window.pool.WellFormed

theorem WellFormed.step {memory after : Memory} (wellFormed : memory.WellFormed)
    (arena : after.arena.WellFormed) (nextBuffer : memory.arena.nextBuffer ≤ after.arena.nextBuffer)
    (nextWindow : after.nextWindow = memory.nextWindow)
    (windows : ∀ id changed, after.windows.get? id = some changed → ∃ window,
      memory.windows.get? id = some window ∧ changed.buffer = window.buffer ∧
        (window.pool.WellFormed → changed.pool.WellFormed)) : after.WellFormed where
  arena := arena
  numbered := by
    intro id changed found
    obtain ⟨window, before, -, -⟩ := windows id changed found
    exact nextWindow ▸ wellFormed.numbered id window before
  used := by
    intro id changed found
    obtain ⟨window, before, same, -⟩ := windows id changed found
    exact same ▸ Nat.lt_of_lt_of_le (wellFormed.used id window before) nextBuffer
  apart := by
    intro id changed other second found foundToo equal
    obtain ⟨window, before, same, -⟩ := windows id changed found
    obtain ⟨sibling, beforeToo, sameToo, -⟩ := windows other second foundToo
    exact wellFormed.apart id window other sibling before beforeToo (same ▸ sameToo ▸ equal)
  pools := by
    intro id changed found
    obtain ⟨window, before, -, keeps⟩ := windows id changed found
    exact keeps (wellFormed.pools id window before)

theorem WellFormed.onArena {memory : Memory} (wellFormed : memory.WellFormed)
    (calls : List Arena.Call) :
    WellFormed { memory with arena := Arena.Call.afterAll calls memory.arena } :=
  wellFormed.step (Arena.afterAll_wellFormed wellFormed.arena calls)
    (Arena.Call.afterAll_continues wellFormed.arena calls).nextBuffer rfl
    fun _ window found => ⟨window, found, rfl, fun pool => pool⟩

theorem OnlyFrees.wellFormed {memory after : Memory} (frees : OnlyFrees memory after)
    (wellFormed : memory.WellFormed) : after.WellFormed := by
  refine wellFormed.step (frees.arena ▸ wellFormed.arena) (by rw [frees.arena]) frees.nextWindow ?_
  intro id changed found
  obtain ⟨window, given, before, returned, same⟩ := frees.windows id changed found
  exact ⟨window, before, same ▸ rfl, returned.wellFormed⟩

theorem WellFormed.putHosted {memory : Memory} (wellFormed : memory.WellFormed) {id : WindowId}
    {window : Window} (found : memory.windows.get? id = some window) (call : Hosted.Call) :
    (memory.putHosted id (call.after ⟨window, memory.arena⟩)).WellFormed := by
  have resizes := call.after_resizes ⟨window, memory.arena⟩
  obtain ⟨pool, same⟩ := resizes.window
  obtain ⟨arena, continues⟩ := resizes.arena wellFormed.arena
  have pools : (call.after ⟨window, memory.arena⟩).window.pool.WellFormed :=
    (@Hosted.Call.after_bytes call ⟨window, memory.arena⟩ wellFormed.arena
      (wellFormed.pools id window found)).1
  refine wellFormed.step arena continues.nextBuffer rfl fun other changed foundAfter => ?_
  rw [get?_putHosted] at foundAfter
  split at foundAfter
  · rename_i equal
    subst equal
    rw [found, Option.map_some, Option.some.injEq] at foundAfter
    subst foundAfter
    exact ⟨window, found, same ▸ rfl, fun _ => pools⟩
  · exact ⟨changed, foundAfter, rfl, fun pool => pool⟩

theorem WellFormed.insertWindow {memory : Memory} (wellFormed : memory.WellFormed) {window : Window}
    {arena : Arena} (stillWellFormed : arena.WellFormed)
    (buffer : window.buffer = memory.arena.nextBuffer) (more : window.buffer < arena.nextBuffer)
    (pool : window.pool.WellFormed) : WellFormed { memory with
      arena
      windows := memory.windows.insert memory.nextWindow window
      nextWindow := memory.nextWindow + 1 } := by
  -- Buffer numbers do not come back, so the new window shares its buffer with none.
  have unused (id : WindowId) (present : Window) (found : memory.windows.get? id = some present) :
      present.buffer ≠ window.buffer := buffer ▸ Nat.ne_of_lt (wellFormed.used id present found)
  refine ⟨stillWellFormed, ?_, ?_, ?_, ?_⟩
  · intro id present found
    obtain ⟨rfl, -⟩ | found := Dictionary.get?_of_insert found
    · exact Nat.lt_succ_self _
    · exact Nat.lt_succ_of_lt (wellFormed.numbered id present found)
  · intro id present found
    obtain ⟨-, rfl⟩ | found := Dictionary.get?_of_insert found
    · exact more
    · exact Nat.lt_trans (buffer ▸ wellFormed.used id present found) more
  · intro id present other second found foundToo equal
    obtain ⟨rfl, rfl⟩ | found := Dictionary.get?_of_insert found <;>
      obtain ⟨rfl, rfl⟩ | foundToo := Dictionary.get?_of_insert foundToo
    · rfl
    · exact absurd equal.symm (unused other second foundToo)
    · exact absurd equal (unused id present found)
    · exact wellFormed.apart id present other second found foundToo equal
  · intro id present found
    obtain ⟨-, rfl⟩ | found := Dictionary.get?_of_insert found
    · exact pool
    · exact wellFormed.pools id present found

theorem Call.after_wellFormed {memory : Memory} (wellFormed : memory.WellFormed) (call : Call) :
    (call.after memory).WellFormed := by
  have leaves := call.after_leaves wellFormed.arena
  generalize call.after memory = after at *
  cases leaves with
  | direct consists => exact wellFormed.onArena _
  | made left buffer more backed =>
      exact wellFormed.insertWindow backed.arena buffer more backed.pool
  | dropped id =>
      refine wellFormed.step wellFormed.arena (Nat.le_refl _) rfl fun other changed found => ?_
      exact ⟨changed, Dictionary.get?_of_erase found, rfl, fun pool => pool⟩
  | hosted found inner => exact wellFormed.putHosted found inner
  | freed frees => exact frees.wellFormed wellFormed

theorem afterAll_wellFormed {memory : Memory} (wellFormed : memory.WellFormed) (calls : List Call) :
    (Call.afterAll calls memory).WellFormed := by
  induction calls generalizing memory with
  | nil => exact wellFormed
  | cons call rest ih => exact ih (call.after_wellFormed wellFormed)

theorem Call.after_window {memory : Memory} (wellFormed : memory.WellFormed) (call : Call)
    {id : WindowId} {window left : Window} (found : memory.windows.get? id = some window)
    (still : (call.after memory).windows.get? id = some left) :
    left.schema = window.schema ∧ left.buffer = window.buffer := by
  have leaves := call.after_leaves wellFormed.arena
  generalize call.after memory = after at *
  cases leaves with
  | direct consists =>
      cases found.symm.trans still
      exact ⟨rfl, rfl⟩
  | made arena buffer more backed =>
      rw [Dictionary.get?_insert,
        if_neg (Nat.ne_of_gt (wellFormed.numbered id window found))] at still
      cases found.symm.trans still
      exact ⟨rfl, rfl⟩
  | dropped other =>
      cases found.symm.trans (Dictionary.get?_of_erase still)
      exact ⟨rfl, rfl⟩
  | @hosted other host present inner =>
      obtain ⟨pool, same⟩ := (inner.after_resizes ⟨host, memory.arena⟩).window
      rw [get?_putHosted, found, same] at still
      split at still
      · rename_i equal
        subst equal
        cases present.symm.trans found
        cases still
        exact ⟨rfl, rfl⟩
      · cases still
        exact ⟨rfl, rfl⟩
  | freed frees =>
      obtain ⟨before, given, present, returned, same⟩ := frees.windows id left still
      cases found.symm.trans present
      rw [same]
      exact ⟨rfl, rfl⟩

/-- The number of a window that is gone does not come back. -/
theorem Call.after_numbered {memory : Memory} (wellFormed : memory.WellFormed) (call : Call) :
    memory.nextWindow ≤ (call.after memory).nextWindow ∧
      ∀ id < memory.nextWindow, (call.after memory).windows.get? id ≠ none →
        memory.windows.get? id ≠ none := by
  have leaves := call.after_leaves wellFormed.arena
  generalize call.after memory = after at *
  cases leaves with
  | direct consists => exact ⟨Nat.le_refl _, fun id _ still => still⟩
  | made arena buffer more backed =>
      refine ⟨Nat.le_succ _, fun id numbered still => ?_⟩
      rwa [Dictionary.get?_insert, if_neg (Nat.ne_of_gt numbered)] at still
  | dropped other =>
      refine ⟨Nat.le_refl _, fun id _ still gone => still ?_⟩
      show (memory.windows.erase other).get? id = none
      rw [Dictionary.get?_erase, gone, ite_self]
  | hosted found inner =>
      refine ⟨Nat.le_refl _, fun id _ still gone => still ?_⟩
      rw [get?_putHosted, gone, Option.map_none, ite_self]
  | freed frees =>
      refine ⟨frees.nextWindow ▸ Nat.le_refl _, fun id _ still gone => ?_⟩
      obtain ⟨changed, found⟩ := Option.ne_none_iff_exists'.mp still
      obtain ⟨window, given, before, -⟩ := frees.windows id changed found
      simp [gone] at before

theorem afterAll_numbered {memory : Memory} (wellFormed : memory.WellFormed) (calls : List Call) :
    ∀ id < memory.nextWindow, (Call.afterAll calls memory).windows.get? id ≠ none →
      memory.windows.get? id ≠ none := by
  induction calls generalizing memory with
  | nil => exact fun id _ still => still
  | cons call rest ih =>
      intro id numbered still
      obtain ⟨later, before⟩ := call.after_numbered wellFormed
      exact before id numbered
        (ih (call.after_wellFormed wellFormed) id (Nat.lt_of_lt_of_le numbered later) still)

theorem make_wellFormed {config : MemoryConfig} {memory : Memory} (made : make config = .ok memory) :
    memory.WellFormed := by
  unfold make at made
  obtain ⟨arena, started, same⟩ := bind_eq_ok.mp made
  cases same
  exact ⟨Arena.make_wellFormed started, by simp, by simp, by simp, by simp⟩

/-! ## Windows stay backed -/

/-- The window on a buffer, if there is one, is backed. -/
def Backs (memory : Memory) (buffer : BufferId) : Prop :=
  ∀ id window, memory.windows.get? id = some window → window.buffer = buffer →
    Hosted.Backed ⟨window, memory.arena⟩

theorem Backs.onArena {memory : Memory} {buffer : BufferId} (backs : memory.Backs buffer)
    (wellFormed : memory.WellFormed) {calls : List Arena.Call}
    (spared : ∀ call ∈ calls, call.Spares buffer) :
    Backs { memory with arena := Arena.Call.afterAll calls memory.arena } buffer := by
  rintro id window found rfl
  exact (backs id window found rfl).congr (Arena.afterAll_wellFormed wellFormed.arena calls)
    (Arena.Call.afterAll_continues wellFormed.arena calls)
    (Arena.Call.tables_afterAll wellFormed.arena (wellFormed.used id window found) spared)

theorem OnlyFrees.backs {memory after : Memory} (frees : OnlyFrees memory after) {buffer : BufferId}
    (backs : memory.Backs buffer) : after.Backs buffer := by
  intro id changed found same
  obtain ⟨window, given, before, returned, equal⟩ := frees.windows id changed found
  have backed := backs id window before (by rw [← same, equal])
  have size : changed.objectSize = window.objectSize := by rw [equal]; rfl
  have still : changed.buffer = window.buffer := by rw [equal]
  rw [frees.arena]
  constructor
  · exact backed.arena
  · exact size ▸ backed.objectSize_pos
  · exact size ▸ backed.objectSize_le
  · exact returned.wellFormed backed.pool
  · simp only [size]
    exact returned.growth_eq.trans backed.growth
  · simp only [size, still, returned.capacity_eq]
    exact backed.pages

theorem Backs.putHosted {memory : Memory} {buffer : BufferId} (backs : memory.Backs buffer)
    (wellFormed : memory.WellFormed) {id : WindowId} {window : Window}
    (found : memory.windows.get? id = some window) (call : Hosted.Call) :
    (memory.putHosted id (call.after ⟨window, memory.arena⟩)).Backs buffer := by
  have resizes := call.after_resizes ⟨window, memory.arena⟩
  obtain ⟨pool, sameWindow⟩ := resizes.window
  obtain ⟨arena, continues⟩ := resizes.arena wellFormed.arena
  intro other changed foundAfter same
  rw [get?_putHosted] at foundAfter
  split at foundAfter
  · rename_i equal
    subst equal
    rw [found, Option.map_some, Option.some.injEq] at foundAfter
    subst foundAfter
    rw [sameWindow] at same
    exact call.after_backed (backs id window found same)
  · rename_i different
    have apart : window.buffer ≠ changed.buffer := fun equal =>
      different (wellFormed.apart id window other changed found foundAfter equal)
    exact (backs other changed foundAfter same).congr arena continues
      (resizes.others wellFormed.arena (wellFormed.used other changed foundAfter) apart).1

theorem Call.after_backs {memory : Memory} (wellFormed : memory.WellFormed) {buffer : BufferId}
    (backs : memory.Backs buffer) {call : Call} (spared : call.Spares buffer) :
    (call.after memory).Backs buffer := by
  have leaves := call.after_leaves wellFormed.arena
  generalize call.after memory = after at *
  cases leaves with
  | direct consists => exact backs.onArena wellFormed (direct_spares consists spared)
  | @made name bytes window _ left new more backed =>
      subst left
      intro id present found same
      obtain ⟨-, rfl⟩ | found := Dictionary.get?_of_insert found
      · exact backed
      · have used := wellFormed.used id present found
        have spares : (Arena.Call.createBuffer name bytes).Spares present.buffer := trivial
        exact (backs id present found same).congr backed.arena
          ((Arena.Call.createBuffer name bytes).after_continues wellFormed.arena)
          (Arena.Call.tables_after wellFormed.arena spares used)
  | dropped id =>
      intro other window found
      exact backs other window (Dictionary.get?_of_erase found)
  | hosted found inner => exact backs.putHosted wellFormed found inner
  | freed frees => exact frees.backs backs

theorem afterAll_backs {memory : Memory} (wellFormed : memory.WellFormed) {buffer : BufferId}
    (backs : memory.Backs buffer) {calls : List Call} (spared : ∀ call ∈ calls, call.Spares buffer) :
    (Call.afterAll calls memory).Backs buffer := by
  induction calls generalizing memory with
  | nil => exact backs
  | cons call rest ih =>
      exact ih (call.after_wellFormed wellFormed)
        (Call.after_backs wellFormed backs (spared call List.mem_cons_self))
        fun later member => spared later (List.mem_cons_of_mem _ member)

theorem make_backs {config : MemoryConfig} {memory : Memory} (made : make config = .ok memory)
    (buffer : BufferId) : memory.Backs buffer := by
  unfold make at made
  obtain ⟨arena, started, same⟩ := bind_eq_ok.mp made
  cases same
  intro id window found
  simp at found

/-! ## Live records are in reach -/

structure InReach (window : Window) (arena : Arena) : Prop where
  cells : ∀ cell : window.Cell, cell.index ∈ window.pool.outstanding →
    (∃ word, cell.get arena = .ok word) ∧ ∀ word, ∃ after, cell.set word arena = .ok () after
  slices : ∀ name field length, window.fieldVariable? name = some field →
    field.kind.length = .ok length → ∀ index ∈ window.pool.outstanding,
      (∃ words, field.getSlice field.kind.elementType index arena = .ok words) ∧
      ∀ words, words.length ≤ length → ∃ after,
        field.setSlice field.kind.elementType index words arena = .ok () after

section Reach

variable {window : Window} {arena : Arena} {declared : List (String × FieldKind)} {index : Nat}

theorem record_inside (backed : Hosted.Backed ⟨window, arena⟩)
    (live : index ∈ window.pool.outstanding) : window.Reaches arena index := by
  have below := ((backed.pool.outstanding_iff index).mp live).1
  have marked := backed.pool.highWater_le
  exact (Nat.mul_le_mul_right _ (Nat.le_trans below marked)).trans backed.capacity_le

theorem inReach_of_backed (backed : Hosted.Backed ⟨window, arena⟩)
    (built : Schema.build declared = .ok window.schema) : InReach window arena where
  cells := fun cell live => cell.get_and_set backed.arena built (record_inside backed live)
  slices := fun _ _ _ found counted _ live =>
    (record_inside backed live).slices backed.arena built found counted

end Reach

structure CapacityBacked (memory : Memory) (window : Window) : Prop where
  bytes : ∃ size, memory.arena.sizeInBytes window.buffer = .ok size ∧
    window.pool.capacity * window.objectSize ≤ size ∧
      ∀ index ∈ window.pool.outstanding, (index + 1) * window.objectSize ≤ size
  pages : memory.arena.sizeInPages window.buffer =
    .ok (max (window.pool.capacity * window.objectSize ⌈/⌉ memory.arena.pageSize) 1)
  highWater_le : window.pool.highWater ≤ window.pool.capacity
  returned : ∀ index after,
    Hosted.tryCreate ⟨window, memory.arena⟩ = .ok index after ∨
      Hosted.create ⟨window, memory.arena⟩ = .ok index after → index ∈ after.window.pool.outstanding
  returned_many : ∀ count indices after,
    Hosted.tryCreateMany count ⟨window, memory.arena⟩ = .ok indices after ∨
      Hosted.createMany count ⟨window, memory.arena⟩ = .ok indices after →
        ∀ index ∈ indices, index ∈ after.window.pool.outstanding
  fields : ∀ declared, Schema.build declared = .ok window.schema → InReach window memory.arena

theorem capacityBacked_of_backed {memory : Memory} {window : Window}
    (backed : Hosted.Backed ⟨window, memory.arena⟩) : CapacityBacked memory window where
  bytes := ⟨_, backed.sizeInBytes, backed.capacity_le, fun _ live => record_inside backed live⟩
  pages := backed.pages
  highWater_le := backed.pool.highWater_le
  returned := by
    intro index after ended
    have made := Hosted.tryCreate_made backed (ended.elim id Hosted.create_eq_ok.mp)
    exact (made.outstanding_iff index).mpr (.inl List.mem_cons_self)
  returned_many := by
    intro count indices after ended index member
    have made := Hosted.createMany_made backed (ended.elim Hosted.createMany_of_tryCreateMany id)
    exact (made.2.outstanding_iff index).mpr (.inl member)
  fields := fun _ built => inReach_of_backed backed built

/-- After every run of calls, a window whose buffer no one else resizes has the pages that its
capacity needs, so its live records can be read and written. -/
theorem capacity_backed {config : MemoryConfig} {memory : Memory} (made : make config = .ok memory)
    (calls : List Call) {id : WindowId} {window : Window}
    (found : (Call.afterAll calls memory).windows.get? id = some window)
    (spared : ∀ call ∈ calls, call.Spares window.buffer) :
    CapacityBacked (Call.afterAll calls memory) window := by
  have backs := afterAll_backs (make_wellFormed made) (make_backs made window.buffer) spared
  exact capacityBacked_of_backed (backs id window found rfl)

def small : Memory :=
  { arena := { pageSize := 4, maxPages := 3, pool := .withCapacity 1 (Arena.pageGrowth 3) } }

/-- A window that meets an exhausted arena, and grows once another buffer is gone. -/
def meetingExhaustion : List Call :=
  [.makeWindow "w" ⟨[⟨"a", .short, 0⟩, ⟨"b", .byte, 2⟩], 3⟩ {}, .arena (.createBuffer "other" 5),
    .window 0 .tryCreate, .window 0 .tryCreate, .arena (.dropBuffer 1), .window 0 .tryCreate,
    .window 0 (.free 0), .window 0 .compact]

theorem capacity_backed_meetingExhaustion : ∃ window,
    make { pageSize := 4, maxPages := 3 } = .ok small ∧
    (Call.afterAll meetingExhaustion small).windows.get? 0 = some window ∧
    (∀ call ∈ meetingExhaustion, call.Spares window.buffer) ∧
    CapacityBacked (Call.afterAll meetingExhaustion small) window := by
  have made : make { pageSize := 4, maxPages := 3 } = .ok small := rfl
  have present : ((Call.afterAll meetingExhaustion small).windows.get? 0).map (·.buffer) =
      some 0 := by decide +kernel
  obtain ⟨window, found, buffer⟩ := Option.map_eq_some_iff.mp present
  have spared : ∀ call ∈ meetingExhaustion, call.Spares window.buffer := by
    simp [meetingExhaustion, Call.Spares, Arena.Call.Spares, buffer]
  exact ⟨window, made, found, spared, capacity_backed made meetingExhaustion found spared⟩

end TorusEngine.Paging.Memory
