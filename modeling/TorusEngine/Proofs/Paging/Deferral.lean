import TorusEngine.Proofs.Paging.FreeingSystem

/-!
# Deferred frees are kept account of

`Sound` is what every step of a freeing system keeps. A window marks the earliest wakeup that it knows to
be queued for it, and asks for another only if the deadline moves before the mark; the invariant ties the
mark to a wakeup on its way. The mark is rewritten when a wakeup comes early, since then that wakeup is
queued again for the deadline, and erased with the batch.
-/

namespace TorusEngine.Paging

namespace Pending

/-- A window has nothing pending, or a batch whose deadline lies between the marked wakeup and the longest
delay after the start. -/
inductive Shaped (maxDelay : Nat) : Pending → Prop where
  | empty : Shaped maxDelay {}
  | batch {indices : List Nat} {started deadline scheduled : Nat} (nonempty : indices ≠ [])
      (marked : scheduled ≤ deadline) (bounded : deadline ≤ started + maxDelay) :
      Shaped maxDelay ⟨indices, some started, some deadline, some scheduled⟩

theorem Shaped.times {pending : Pending} {maxDelay : Nat} (shaped : pending.Shaped maxDelay) :
    pending = {} ∨ ∃ started deadline scheduled, pending.started = some started ∧
      pending.deadline = some deadline ∧ pending.scheduled = some scheduled ∧
      scheduled ≤ deadline ∧ deadline ≤ started + maxDelay := by
  cases shaped with
  | empty => exact .inl rfl
  | batch nonempty marked bounded => exact .inr ⟨_, _, _, rfl, rfl, rfl, marked, bounded⟩

theorem Shaped.eq_empty {pending : Pending} {maxDelay : Nat} (shaped : pending.Shaped maxDelay)
    (none : pending.indices = []) : pending = {} := by
  cases shaped with
  | empty => rfl
  | batch nonempty marked bounded => exact absurd none nonempty

/-- What parking does: the batch grows, and the mark stays unless a new wakeup is asked for. -/
inductive Parked (maxDelay : Nat) (pending : Pending) (indices : List Nat) :
    Pending × Option Nat → Prop where
  | kept {after : Pending} (shaped : after.Shaped maxDelay)
      (grown : after.indices = pending.indices ++ indices)
      (same : after.scheduled = pending.scheduled) : Parked maxDelay pending indices (after, none)
  | asked {after : Pending} {time : Nat} (more : indices ≠ []) (shaped : after.Shaped maxDelay)
      (grown : after.indices = pending.indices ++ indices) (marked : after.scheduled = some time) :
      Parked maxDelay pending indices (after, some time)

theorem Shaped.park {pending : Pending} {maxDelay : Nat} (shaped : pending.Shaped maxDelay)
    (now minDelay : Nat) (indices : List Nat) :
    Parked maxDelay pending indices (pending.park now minDelay maxDelay indices) := by
  cases indices with
  | nil => exact .kept shaped (by simp) rfl
  | cons index rest =>
      cases shaped with
      | empty => exact .asked (by simp) (.batch (by simp) (Nat.le_refl _) (Nat.le_refl _)) rfl rfl
      | @batch indices started deadline scheduled nonempty marked bounded =>
          obtain ⟨first, others, rfl⟩ := List.exists_cons_of_ne_nil nonempty
          by_cases early : scheduled ≤ min (now + minDelay) (started + maxDelay)
          · simp only [Pending.park, deadlineAt, List.isEmpty_cons, Option.any_some, early, decide_true,
              if_true, Bool.false_eq_true, if_false]
            exact .kept (.batch (by simp) early (Nat.min_le_right _ _)) rfl rfl
          · simp only [Pending.park, deadlineAt, List.isEmpty_cons, Option.any_some, early, decide_false,
              Bool.false_eq_true, if_false]
            exact .asked (by simp) (.batch (by simp) (Nat.le_refl _) (Nat.min_le_right _ _)) rfl rfl

inductive Taken (maxDelay : Nat) (pass : Pass) (pending : Pending) : Found × Pending → Prop where
  | nothing (empty : pending = {}) : Taken maxDelay pass pending (.nothing, {})
  | early {after : Pending} {deadline : Nat} (shaped : after.Shaped maxDelay)
      (same : after.indices = pending.indices) (marked : after.scheduled = some deadline) :
      Taken maxDelay pass pending (.early deadline, after)
  | batch (due : ∀ now, pass = .sweeping now → ∃ deadline ≤ now, pending.deadline = some deadline) :
      Taken maxDelay pass pending (.batch pending.indices, {})

theorem Shaped.take {pending : Pending} {maxDelay : Nat} (shaped : pending.Shaped maxDelay)
    (pass : Pass) : Taken maxDelay pass pending (pass.take pending) := by
  cases pass with
  | sweeping now =>
      cases shaped with
      | empty => exact .nothing rfl
      | @batch indices started deadline scheduled nonempty marked bounded =>
          by_cases early : now < deadline
          · simp only [Pass.take, takeDue, early, if_true]
            exact .early (.batch nonempty (Nat.le_refl _) bounded) rfl rfl
          · simp only [Pass.take, takeDue, early, if_false]
            refine .batch fun _ same => ⟨deadline, ?_, rfl⟩
            cases same
            exact Nat.not_lt.mp early
  | draining =>
      cases shaped with
      | empty => exact .nothing rfl
      | batch nonempty marked bounded =>
          simp only [Pass.take, takeAll, List.isEmpty_iff, nonempty, if_false]
          exact .batch fun _ same => by cases same

end Pending

theorem Wakeup.mem_enqueue {wakeup other : Wakeup} {queue : List Wakeup} :
    other ∈ wakeup.enqueue queue ↔ other = wakeup ∨ other ∈ queue := by
  induction queue with
  | nil => simp [enqueue]
  | cons first rest ih =>
      unfold enqueue
      split <;> simp [ih, or_left_comm]

namespace Memory

variable {memory after : Memory} {id : WindowId} {window : Window} {batch indices : List Nat}
  {index : Nat}

theorem get?_changeWindow (memory : Memory) (id other : WindowId) (change : Window → Window) :
    (memory.changeWindow id change).windows.get? other =
      if id = other then (memory.windows.get? other).map change else memory.windows.get? other :=
  Dictionary.get?_modify _ _ _ _

theorem isLive_iff (found : memory.windows.get? id = some window) :
    memory.isLive id index = true ↔ index ∈ window.pool.outstanding := by
  simp [isLive, found]

theorem takenBack_of_samePool {left : Window} (found : memory.windows.get? id = some window)
    (still : after.windows.get? id = some left) (same : left.pool = window.pool) :
    memory.takenBack after id indices = [] := by
  simp [takenBack, isLive, found, still, same]

theorem takenBack_of_givenBack {left : Window} (found : memory.windows.get? id = some window)
    (still : after.windows.get? id = some left)
    (outstanding : ∀ index ∈ batch, index ∈ window.pool.outstanding)
    (given : IndexPool.GivenBack window.pool batch left.pool) :
    memory.takenBack after id batch = batch := by
  refine List.filter_eq_self.mpr fun index member => ?_
  have gone : after.isLive id index = false := by
    rw [Bool.eq_false_iff, ne_eq, isLive_iff still, given.outstanding_iff]
    exact fun live => live.2 member
  simp [(isLive_iff found).mpr (outstanding index member), gone]

theorem freeMany_ok (found : memory.windows.get? id = some window) (distinct : batch.Nodup)
    (outstanding : ∀ index ∈ batch, index ∈ window.pool.outstanding) :
    ∃ pool, onWindow id (Hosted.freeMany batch) memory =
        .ok () (memory.putHosted id ⟨{ window with pool }, memory.arena⟩) ∧
      IndexPool.GivenBack window.pool batch pool := by
  obtain ⟨pool, ended, given⟩ := IndexPool.giveBackMany_of_outstanding distinct outstanding
  have freed : Hosted.freeMany batch ⟨window, memory.arena⟩ =
      .ok () ⟨{ window with pool }, memory.arena⟩ := by
    rw [Hosted.freeMany, Hosted.onPool_apply, ended]
    rfl
  exact ⟨pool, onWindow_ok.mpr ⟨window, _, found, freed, rfl⟩, given⟩

theorem release_eq (found : memory.windows.get? id = some window) (distinct : batch.Nodup)
    (outstanding : ∀ index ∈ batch, index ∈ window.pool.outstanding) :
    ∃ pool, memory.release id batch =
        (memory.putHosted id ⟨{ window with pool }, memory.arena⟩).changeService
          (·.countBatch batch.length) ∧
      IndexPool.GivenBack window.pool batch pool := by
  obtain ⟨pool, ended, given⟩ := freeMany_ok found distinct outstanding
  exact ⟨pool, by simp only [release, ended], given⟩

structure SetsWindow (memory : Memory) (id : WindowId) (left : Window) (after : Memory) : Prop where
  windows : ∀ other, after.windows.get? other =
    if id = other then some left else memory.windows.get? other
  clock : after.clock = memory.clock

theorem SetsWindow.self {left : Window} (sets : memory.SetsWindow id left after) :
    after.windows.get? id = some left := (sets.windows id).trans (if_pos rfl)

theorem SetsWindow.other {left : Window} (sets : memory.SetsWindow id left after) {other : WindowId}
    (different : id ≠ other) : after.windows.get? other = memory.windows.get? other :=
  (sets.windows other).trans (if_neg different)

theorem changePending_sets (found : memory.windows.get? id = some window) (pending : Pending)
    (service : FreeingService) : SetsWindow memory id { window with pending }
      { memory.changeWindow id ({ · with pending }) with service } where
  windows := by
    intro other
    rw [get?_changeWindow]
    split
    · rename_i same
      rw [← same, found]
      rfl
    · rfl
  clock := rfl

/-- What freeing later does: the batch is parked, with a wakeup sent if one is asked for, or it goes back
at once because nobody takes the message. -/
inductive FreedLater (memory : Memory) (id : WindowId) (window : Window) (indices : List Nat)
    (after : Memory) : Prop where
  | parked {pending : Pending}
      (parked : window.pending.Parked window.maxDelay indices (pending, none))
      (sets : memory.SetsWindow id { window with pending } after)
      (service : after.service = memory.service)
  | sent {pending : Pending} {time : Nat}
      (parked : window.pending.Parked window.maxDelay indices (pending, some time))
      (sets : memory.SetsWindow id { window with pending } after)
      (runs : memory.service.phase = .running)
      (service : after.service =
        { memory.service with inbox := memory.service.inbox ++ [.schedule id time] })
  | refused {pool : IndexPool} (stopped : memory.service.phase ≠ .running)
      (given : IndexPool.GivenBack window.pool (window.pending.indices ++ indices) pool)
      (sets : memory.SetsWindow id { window with pool, pending := {} } after)
      (service : after.service = memory.service)

theorem freeLater_freed (found : memory.windows.get? id = some window)
    (shaped : window.pending.Shaped window.maxDelay)
    (distinct : (window.pending.indices ++ indices).Nodup)
    (outstanding : ∀ index ∈ window.pending.indices ++ indices, index ∈ window.pool.outstanding) :
    FreedLater memory id window indices (Action.after (freeLater id indices) memory) := by
  have parked := shaped.park memory.clock window.minDelay indices
  rw [Action.after_eq_left]
  simp only [freeLater, Action.bind_apply, Action.get_apply, Memory.window, found, Action.liftM_apply]
  generalize window.pending.park memory.clock window.minDelay window.maxDelay indices = result at parked ⊢
  obtain ⟨pending, wakeup⟩ := result
  cases wakeup with
  | none => exact .parked parked (changePending_sets found pending memory.service) rfl
  | some time =>
      by_cases runs : memory.service.phase = .running
      · have posted : memory.service.post (.schedule id time) = some
            { memory.service with inbox := memory.service.inbox ++ [.schedule id time] } := by
          simp [FreeingService.post, FreeingService.isRunning, runs]
        simp only [posted]
        exact .sent parked (changePending_sets found pending _) runs rfl
      · have posted : memory.service.post (.schedule id time) = none := by
          simp [FreeingService.post, FreeingService.isRunning, runs]
        simp only [posted]
        have grown : pending.indices = window.pending.indices ++ indices := by
          cases parked
          assumption
        have emptied := changePending_sets found {} memory.service
        have present := emptied.self
        obtain ⟨pool, ended, given⟩ := freeMany_ok present distinct outstanding
        simp only [Action.bind_apply, Action.set_apply, grown]
        have left : Action.left (onWindow id (Hosted.freeMany (window.pending.indices ++ indices))
            (memory.changeWindow id ({ · with pending := {} }))) = _ := congrArg Action.left ended
        rw [left]
        refine .refused runs given ⟨fun other => ?_, rfl⟩ rfl
        refine (get?_putHosted ..).trans ?_
        split
        · rename_i same
          cases same
          rw [present]
          rfl
        · rename_i different
          exact emptied.other different

end Memory

namespace FreeingSystem

variable {system after : FreeingSystem} {id other : WindowId} {window : Window} {time : Nat}

theorem note_self (history : WindowId → List Nat) (id : WindowId) (indices : List Nat) :
    note history id indices id = history id ++ indices := if_pos rfl

theorem note_other {history : WindowId → List Nat} {indices : List Nat} (different : id ≠ other) :
    note history id indices other = history other := if_neg different

theorem pending_of_found (found : system.memory.windows.get? id = some window) :
    system.pending id = window.pending.indices := by
  simp [pending, found]

/-! ## What every step keeps -/

/-- A wakeup is on its way, or was lost with the thread. -/
def Reminded (system : FreeingSystem) (id : WindowId) (time : Nat) : Prop :=
  system.Queued id time ∨ .schedule id time ∈ system.lost

structure Tended (system : FreeingSystem) (id : WindowId) (window : Window) : Prop where
  shaped : window.pending.Shaped window.maxDelay
  marked : ∀ time, window.pending.scheduled = some time → system.Reminded id time
  accounted : (system.deferred id).Perm
    (window.pending.indices ++ system.taken id ++ system.returned id)
  distinct : (window.pending.indices ++ system.taken id).Nodup
  outstanding : ∀ index ∈ window.pending.indices ++ system.taken id, index ∈ window.pool.outstanding

structure Sound (system : FreeingSystem) : Prop where
  wellFormed : system.memory.WellFormed
  numbered : ∀ id, system.memory.nextWindow ≤ id →
    system.deferred id = [] ∧ system.returned id = []
  held : ∀ id, system.stage.hand.window? = some id →
    ∃ window, system.memory.windows.get? id = some window
  clock : ∀ now hand, system.stage = .working (.sweeping now) hand → now ≤ system.memory.clock
  running : system.stage ≠ .exited →
    system.memory.service.phase = .running ∧ system.lost = []
  stopped : system.stage = .exited → system.memory.service.phase = .stopped ∧
    system.memory.service.inbox = [] ∧ system.memory.service.wakeups = []
  tended : ∀ id window, system.memory.windows.get? id = some window → system.Tended id window

theorem Tended.awaits (tended : system.Tended id window)
    (found : system.memory.windows.get? id = some window) (wellFormed : window.pool.WellFormed) :
    window.pool.Awaits (system.awaiting id) := by
  refine ⟨wellFormed, ?_⟩
  rw [awaiting, pending_of_found found]
  exact tended.outstanding

theorem Tended.carry (tended : system.Tended id window) {changed : Window}
    (same : changed = { window with pool := changed.pool })
    (outstanding : ∀ index ∈ window.pending.indices ++ system.taken id,
      index ∈ changed.pool.outstanding)
    (deferred : after.deferred id = system.deferred id)
    (returned : after.returned id = system.returned id) (taken : after.taken id = system.taken id)
    (reminded : ∀ time, system.Reminded id time → after.Reminded id time) :
    after.Tended id changed := by
  have pending : changed.pending = window.pending := by rw [same]
  have maxDelay : changed.maxDelay = window.maxDelay := by rw [same]
  constructor
  · rw [pending, maxDelay]
    exact tended.shaped
  · rw [pending]
    exact fun time marked => reminded time (tended.marked time marked)
  · rw [pending, deferred, returned, taken]
    exact tended.accounted
  · rw [pending, taken]
    exact tended.distinct
  · rw [pending, taken]
    exact outstanding

theorem Sound.taken_of_new (sound : system.Sound) (new : system.memory.nextWindow ≤ id) :
    system.taken id = [] := by
  unfold taken
  cases held : system.stage.hand with
  | releasing holder batch =>
      obtain ⟨window, found⟩ := sound.held holder (by rw [held]; rfl)
      have numbered := sound.wellFormed.numbered holder window found
      exact if_neg (Nat.ne_of_lt (Nat.lt_of_lt_of_le numbered new))
  | _ => rfl

/-! ## Steps of the thread -/

theorem Sound.of_sameWindows (sound : system.Sound) (arena : after.memory.arena = system.memory.arena)
    (windows : after.memory.windows = system.memory.windows)
    (nextWindow : after.memory.nextWindow = system.memory.nextWindow)
    (deferred : after.deferred = system.deferred) (returned : after.returned = system.returned)
    (taken : ∀ id, after.taken id = system.taken id)
    (reminded : ∀ id window time, system.memory.windows.get? id = some window →
      system.Reminded id time → after.Reminded id time)
    (held : ∀ id, after.stage.hand.window? = some id →
      ∃ window, system.memory.windows.get? id = some window)
    (clock : ∀ now hand, after.stage = .working (.sweeping now) hand → now ≤ after.memory.clock)
    (running : after.stage ≠ .exited →
      after.memory.service.phase = .running ∧ after.lost = [])
    (stopped : after.stage = .exited → after.memory.service.phase = .stopped ∧
      after.memory.service.inbox = [] ∧ after.memory.service.wakeups = []) : after.Sound where
  wellFormed := (Memory.OnlyFrees.of_sameWindows arena nextWindow windows).wellFormed sound.wellFormed
  numbered := by
    rw [nextWindow, deferred, returned]
    exact sound.numbered
  held := by
    rw [windows]
    exact held
  clock := clock
  running := running
  stopped := stopped
  tended := by
    rw [windows]
    intro id window found
    have tended := sound.tended id window found
    exact tended.carry rfl tended.outstanding (by rw [deferred]) (by rw [returned]) (taken id)
      fun time => reminded id window time found

theorem Sound.ask (sound : system.Sound) {service : FreeingService}
    (posted : system.memory.service.post .shutdown = some service) :
    Sound { system with memory := { system.memory with service } } := by
  unfold FreeingService.post at posted
  split at posted
  · rename_i runs
    cases posted
    refine sound.of_sameWindows rfl rfl rfl rfl rfl (fun _ => rfl) ?_ sound.held sound.clock
      sound.running ?_
    · rintro id window time - (queued | lost)
      · rcases queued with inbox | rest
        · exact .inl (.inl (List.mem_append_left _ inbox))
        · exact .inl (.inr rest)
      · exact .inr lost
    · intro exited
      have stopped := (sound.stopped exited).1
      simp [FreeingService.isRunning, stopped] at runs
  · cases posted

theorem Sound.schedule (sound : system.Sound) {deadline : Nat} {rest : List Message}
    (waiting : system.stage = .waiting)
    (first : system.memory.service.inbox = .schedule id deadline :: rest) :
    Sound { system with
      memory := system.memory.changeService fun service =>
        { service with inbox := rest }.countSchedule.queue id deadline
      stage := .timing } := by
  have running := sound.running (by simp [waiting])
  refine sound.of_sameWindows rfl rfl rfl rfl rfl (fun _ => by simp [taken, waiting, Stage.hand]) ?_
    (by simp [Stage.hand, Hand.window?]) (by simp) (fun _ => running) (by simp)
  rintro other window time - (queued | lost)
  · rcases queued with inbox | wakeup | carried
    · rw [first, List.mem_cons] at inbox
      rcases inbox with same | later
      · cases same
        exact .inl (.inr (.inl ⟨_, Wakeup.mem_enqueue.mpr (.inl rfl), rfl, rfl⟩))
      · exact .inl (.inl later)
    · obtain ⟨wakeup, member, same⟩ := wakeup
      exact .inl (.inr (.inl ⟨wakeup, Wakeup.mem_enqueue.mpr (.inr member), same⟩))
    · simp [waiting, Stage.hand, Hand.Carries] at carried
  · exact .inr lost

theorem Sound.shutdown (sound : system.Sound) {rest : List Message}
    (waiting : system.stage = .waiting) (first : system.memory.service.inbox = .shutdown :: rest) :
    Sound { system with
      memory := system.memory.changeService ({ · with inbox := rest })
      stage := .working .draining .idle } := by
  have running := sound.running (by simp [waiting])
  refine sound.of_sameWindows rfl rfl rfl rfl rfl (fun _ => by simp [taken, waiting, Stage.hand]) ?_
    (by simp [Stage.hand, Hand.window?]) (by simp) (fun _ => running) (by simp)
  rintro other window time - (queued | lost)
  · rcases queued with inbox | wakeup | carried
    · rw [first, List.mem_cons] at inbox
      exact .inl (.inl (inbox.resolve_left (by simp)))
    · exact .inl (.inr (.inl wakeup))
    · simp [waiting, Stage.hand, Hand.Carries] at carried
  · exact .inr lost

theorem Sound.turn (sound : system.Sound) {stage : Stage} (runs : system.stage ≠ .exited)
    (empty : system.stage.hand = .idle) (still : stage.hand = .idle) (stays : stage ≠ .exited)
    (clock : ∀ now hand, stage = .working (.sweeping now) hand → now ≤ system.memory.clock) :
    Sound { system with stage } := by
  refine sound.of_sameWindows rfl rfl rfl rfl rfl (fun _ => by simp [taken, empty, still]) ?_
    (by simp [still, Hand.window?]) clock (fun _ => sound.running runs) (fun exited => absurd exited stays)
  rintro other window time - (queued | lost)
  · rw [Queued, empty] at queued
    rw [Reminded, Queued, still]
    exact .inl queued
  · exact .inr lost

theorem Sound.pop (sound : system.Sound) {pass : Pass} {first : Wakeup} {rest : List Wakeup}
    (idle : system.stage = .working pass .idle)
    (queued : system.memory.service.wakeups = first :: rest) :
    Sound { system with
      memory := system.memory.changeService ({ · with wakeups := rest })
      stage := .working pass
        (if (system.memory.windows.get? first.window).isSome then .holding first else .idle) } := by
  have running := sound.running (by simp [idle])
  refine sound.of_sameWindows rfl rfl rfl rfl rfl ?_ ?_ ?_ ?_ (fun _ => running) (by simp)
  · intro id
    simp only [taken, idle, Stage.hand]
    split <;> rfl
  · rintro other window time found (sent | lost)
    · rcases sent with inbox | wakeup | carried
      · exact .inl (.inl inbox)
      · obtain ⟨wakeup, member, same, timed⟩ := wakeup
        rw [queued, List.mem_cons] at member
        rcases member with rfl | later
        · have live : (system.memory.windows.get? wakeup.window).isSome = true := by
            rw [same, found]
            rfl
          refine .inl (.inr (.inr ?_))
          simp only [Stage.hand, live, if_true]
          exact ⟨same, timed⟩
        · exact .inl (.inr (.inl ⟨wakeup, later, same, timed⟩))
      · simp [idle, Stage.hand, Hand.Carries] at carried
    · exact .inr lost
  · intro id held
    simp only [Stage.hand] at held
    split at held
    · rename_i live
      cases held
      exact Option.isSome_iff_exists.mp live
    · cases held
  · rintro now hand same
    cases same
    exact sound.clock now _ idle

theorem Sound.requeue (sound : system.Sound) {pass : Pass} {deadline : Nat}
    (holding : system.stage = .working pass (.requeueing id deadline)) :
    Sound { system with
      memory := system.memory.changeService (·.queue id deadline)
      stage := .working pass .idle } := by
  have running := sound.running (by simp [holding])
  refine sound.of_sameWindows rfl rfl rfl rfl rfl ?_ ?_ (by simp [Stage.hand, Hand.window?]) ?_
    (fun _ => running) (by simp)
  · intro id
    simp only [taken, holding, Stage.hand]
    rfl
  · rintro other window time - (queued | lost)
    · rcases queued with inbox | wakeup | carried
      · exact .inl (.inl inbox)
      · obtain ⟨wakeup, member, same⟩ := wakeup
        exact .inl (.inr (.inl ⟨wakeup, Wakeup.mem_enqueue.mpr (.inr member), same⟩))
      · rw [holding] at carried
        obtain ⟨rfl, rfl⟩ := carried
        exact .inl (.inr (.inl ⟨_, Wakeup.mem_enqueue.mpr (.inl rfl), rfl, rfl⟩))
    · exact .inr lost
  · rintro now hand same
    cases same
    exact sound.clock now _ holding

theorem Sound.exit (sound : system.Sound) (idle : system.stage = .working .draining .idle)
    (drained : system.memory.service.wakeups = []) :
    Sound { system with
      memory := system.memory.changeService (·.finish .stopped)
      stage := .exited
      lost := system.memory.service.inbox } := by
  have running := sound.running (by simp [idle])
  refine sound.of_sameWindows rfl rfl rfl rfl rfl ?_ ?_ (by simp [Stage.hand, Hand.window?]) (by simp)
    (by simp) (fun _ => ⟨rfl, rfl, rfl⟩)
  · intro id
    simp only [taken, idle, Stage.hand]
  · rintro other window time - (queued | lost)
    · rcases queued with inbox | ⟨wakeup, member, -⟩ | carried
      · exact .inr inbox
      · simp [drained] at member
      · simp [idle, Stage.hand, Hand.Carries] at carried
    · simp [running.2] at lost

/-! ## Steps on a window -/

theorem Sound.of_window (sound : system.Sound)
    (frees : system.memory.OnlyFrees after.memory)
    (found : system.memory.windows.get? id = some window) {changed : Window}
    (sets : system.memory.SetsWindow id changed after.memory)
    (deferred : ∀ other, id ≠ other → after.deferred other = system.deferred other)
    (returned : ∀ other, id ≠ other → after.returned other = system.returned other)
    (taken : ∀ other, id ≠ other → after.taken other = system.taken other)
    (reminded : ∀ other time, id ≠ other → system.Reminded other time → after.Reminded other time)
    (held : ∀ other, after.stage.hand.window? = some other →
      other = id ∨ system.stage.hand.window? = some other)
    (sweeping : ∀ now hand, after.stage = .working (.sweeping now) hand →
      ∃ hand, system.stage = .working (.sweeping now) hand)
    (running : after.stage ≠ .exited →
      after.memory.service.phase = .running ∧ after.lost = [])
    (stopped : after.stage = .exited → after.memory.service.phase = .stopped ∧
      after.memory.service.inbox = [] ∧ after.memory.service.wakeups = [])
    (tended : after.Tended id changed) : after.Sound where
  wellFormed := frees.wellFormed sound.wellFormed
  numbered := by
    intro other new
    rw [frees.nextWindow] at new
    have numbered := sound.wellFormed.numbered id window found
    have different : id ≠ other := Nat.ne_of_lt (Nat.lt_of_lt_of_le numbered new)
    rw [deferred other different, returned other different]
    exact sound.numbered other new
  held := by
    intro other holds
    rw [sets.windows]
    split
    · exact ⟨changed, rfl⟩
    · rename_i different
      exact sound.held other ((held other holds).resolve_left (Ne.symm different))
  clock := by
    intro now hand same
    obtain ⟨before, same⟩ := sweeping now hand same
    rw [sets.clock]
    exact sound.clock now before same
  running := running
  stopped := stopped
  tended := by
    intro other present here
    rw [sets.windows] at here
    split at here
    · rename_i same
      cases same
      cases here
      exact tended
    · rename_i different
      have before := sound.tended other present here
      exact before.carry rfl before.outstanding (deferred other different) (returned other different)
        (taken other different) fun time => reminded other time different

theorem Hand.batch_ofFound (id other : WindowId) (found : Found) :
    (Hand.ofFound id found).batch other = if id = other then (match found with
      | .batch indices => indices
      | _ => []) else [] := by
  cases found <;> simp [Hand.ofFound, Hand.batch]

theorem Sound.take (sound : system.Sound) {pass : Pass} {wakeup : Wakeup}
    (holding : system.stage = .working pass (.holding wakeup))
    (found : system.memory.windows.get? wakeup.window = some window) :
    Sound { system with
      memory := system.memory.changeWindow wakeup.window
        ({ · with pending := (pass.take window.pending).2 })
      stage := .working pass (.ofFound wakeup.window (pass.take window.pending).1) } := by
  have tended := sound.tended _ _ found
  have running := sound.running (by simp [holding])
  have empty : ∀ id, system.taken id = [] := fun id => by
    simp only [taken, holding, Stage.hand]
    rfl
  have took := tended.shaped.take pass
  generalize pass.take window.pending = result at took ⊢
  have frees := Memory.OnlyFrees.changePending system.memory wakeup.window result.2
  have sets := Memory.changePending_sets found result.2 system.memory.service
  refine sound.of_window frees found sets (fun _ _ => rfl) (fun _ _ => rfl) ?_ ?_ ?_ ?_
    (fun _ => running) (by simp) ?_
  · intro other different
    rw [empty]
    simp only [taken, Stage.hand, Hand.batch_ofFound, different, if_false]
  · rintro other time different (queued | lost)
    · rcases queued with inbox | wakeup | carried
      · exact .inl (.inl inbox)
      · exact .inl (.inr (.inl wakeup))
      · rw [holding] at carried
        exact absurd carried.1 different
    · exact .inr lost
  · intro other holds
    left
    obtain ⟨found, rest⟩ := result
    cases found <;> simp [Stage.hand, Hand.ofFound, Hand.window?] at holds <;> exact holds.symm
  · rintro now hand same
    cases same
    exact ⟨_, holding⟩
  · -- The batch stays with the window or moves to the thread's hand as a whole.
    have accounted := tended.accounted
    have distinct := tended.distinct
    have outstanding := tended.outstanding
    rw [empty, List.append_nil] at accounted distinct outstanding
    cases took with
    | nothing same =>
        rw [same] at accounted
        refine ⟨.empty, by simp, ?_, ?_, ?_⟩ <;> simp [taken, Stage.hand, Hand.ofFound, Hand.batch]
        exact accounted
    | early shaped same marked =>
        refine ⟨shaped, ?_, ?_, ?_, ?_⟩
        · intro time scheduled
          cases marked.symm.trans scheduled
          exact .inl (.inr (.inr ⟨rfl, rfl⟩))
        · simpa [taken, Stage.hand, Hand.ofFound, Hand.batch, same] using accounted
        · simpa [taken, Stage.hand, Hand.ofFound, Hand.batch, same] using distinct
        · simpa [taken, Stage.hand, Hand.ofFound, Hand.batch, same] using outstanding
    | batch due =>
        refine ⟨.empty, by simp, ?_, ?_, ?_⟩
        · simpa [taken, Stage.hand, Hand.ofFound, Hand.batch] using accounted
        · simpa [taken, Stage.hand, Hand.ofFound, Hand.batch] using distinct
        · simpa [taken, Stage.hand, Hand.ofFound, Hand.batch] using outstanding

theorem Sound.release_eq (sound : system.Sound) {pass : Pass} {batch : List Nat}
    (holding : system.stage = .working pass (.releasing id batch)) :
    ∃ window pool memory, system.memory.windows.get? id = some window ∧
      system.memory.SetsWindow id { window with pool } memory ∧
      system.memory.OnlyFrees memory ∧
      memory.service = system.memory.service.countBatch batch.length ∧
      IndexPool.GivenBack window.pool batch pool ∧
      system.release pass id batch = { system with
        memory
        stage := .working pass .idle
        returned := note system.returned id batch } := by
  obtain ⟨window, found⟩ := sound.held id (by rw [holding]; rfl)
  have tended := sound.tended id window found
  have held : system.taken id = batch := by
    rw [taken, holding]
    exact if_pos rfl
  have distinct : batch.Nodup := held ▸ (List.nodup_append.mp tended.distinct).2.1
  have outstanding : ∀ index ∈ batch, index ∈ window.pool.outstanding := fun index member =>
    tended.outstanding index (List.mem_append_right _ (held ▸ member))
  obtain ⟨pool, released, given⟩ := Memory.release_eq found distinct outstanding
  have sets : system.memory.SetsWindow id { window with pool } (system.memory.release id batch) := by
    rw [released]
    refine ⟨fun other => ?_, rfl⟩
    rw [Memory.changeService, Memory.get?_putHosted]
    split
    · rename_i same
      rw [← same, found]
      rfl
    · rfl
  have service : (system.memory.release id batch).service =
      system.memory.service.countBatch batch.length := by
    rw [released]
    rfl
  have runs : (system.memory.release id batch).service.isRunning = true := by
    rw [service]
    exact decide_eq_true (sound.running (by simp [holding])).1
  have back : system.memory.takenBack (system.memory.release id batch) id batch = batch :=
    Memory.takenBack_of_givenBack found sets.self outstanding given
  refine ⟨window, pool, _, found, sets, (Memory.release_serves _ _ _).onlyFrees, service, given, ?_⟩
  simp only [FreeingSystem.release, runs, if_true, back]

theorem Sound.release (sound : system.Sound) {pass : Pass} {batch : List Nat}
    (holding : system.stage = .working pass (.releasing id batch)) :
    (system.release pass id batch).Sound := by
  obtain ⟨window, pool, memory, found, sets, frees, service, given, left⟩ := sound.release_eq holding
  rw [left]
  have tended := sound.tended id window found
  have held : ∀ other, system.taken other = if id = other then batch else [] := fun other => by
    rw [taken, holding]
    rfl
  have reminded : ∀ other time, system.Reminded other time → Reminded { system with
      memory
      stage := .working pass .idle
      returned := note system.returned id batch } other time := by
    rintro other time (queued | lost)
    · rcases queued with inbox | wakeup | carried
      · exact .inl (.inl (by rwa [service]))
      · exact .inl (.inr (.inl (by rwa [service])))
      · simp [holding, Stage.hand, Hand.Carries] at carried
    · exact .inr lost
  refine sound.of_window frees found sets (fun _ _ => rfl)
    (fun _ => note_other) ?_ (fun other time _ => reminded other time)
    (by simp [Stage.hand, Hand.window?]) ?_ ?_ (by simp) ?_
  · intro other different
    rw [held, if_neg different]
    rfl
  · rintro now hand same
    cases same
    exact ⟨_, holding⟩
  · rintro -
    rw [service]
    exact sound.running (by simp [holding])
  · have accounted := tended.accounted
    have apart := tended.distinct
    have live := tended.outstanding
    rw [held, if_pos rfl] at accounted apart live
    obtain ⟨pendingDistinct, -, disjoint⟩ := List.nodup_append.mp apart
    refine ⟨tended.shaped, fun time marked => reminded id time (tended.marked time marked), ?_, ?_, ?_⟩
    · simp only [taken, Stage.hand, Hand.batch, List.append_nil, note_self]
      refine accounted.trans ?_
      rw [List.append_assoc]
      exact List.perm_append_comm.append_left _
    · simpa [taken, Stage.hand, Hand.batch] using pendingDistinct
    · intro index member
      have pending : index ∈ window.pending.indices := by
        simpa [taken, Stage.hand, Hand.batch] using member
      refine (given.outstanding_iff index).mpr ⟨live index (List.mem_append_left _ pending), ?_⟩
      exact fun gone => disjoint index pending index gone rfl

theorem Tended.grow (tended : system.Tended id window) {pending : Pending} {indices : List Nat}
    (shaped : pending.Shaped window.maxDelay) (grown : pending.indices = window.pending.indices ++ indices)
    (reminded : ∀ time, pending.scheduled = some time → after.Reminded id time)
    (deferred : after.deferred id = system.deferred id ++ indices)
    (returned : after.returned id = system.returned id) (taken : after.taken id = system.taken id)
    (distinct : indices.Nodup)
    (once : ∀ index ∈ indices, index ∉ window.pending.indices ++ system.taken id)
    (live : ∀ index ∈ indices, index ∈ window.pool.outstanding) :
    after.Tended id { window with pending } := by
  have moved : (window.pending.indices ++ indices ++ system.taken id).Perm
      (window.pending.indices ++ system.taken id ++ indices) := by
    rw [List.append_assoc, List.append_assoc]
    exact List.perm_append_comm.append_left _
  refine ⟨shaped, reminded, ?_, ?_, ?_⟩ <;> rw [taken, grown]
  · rw [deferred, returned]
    refine (tended.accounted.append_right indices).trans ?_
    refine List.Perm.trans ?_ (moved.symm.append_right _)
    rw [List.append_assoc, List.append_assoc (_ ++ _)]
    exact List.perm_append_comm.append_left _
  · refine moved.nodup_iff.mpr (List.nodup_append.mpr ⟨tended.distinct, distinct, ?_⟩)
    rintro index awaiting other deferred rfl
    exact once index deferred awaiting
  · intro index member
    rcases List.mem_append.mp (moved.mem_iff.mp member) with awaiting | deferred
    · exact tended.outstanding index awaiting
    · exact live index deferred

theorem Sound.freedLater (sound : system.Sound) {indices : List Nat}
    (owned : system.Owns id indices) (found : system.memory.windows.get? id = some window) :
    (∀ index ∈ window.pending.indices ++ indices, index ∈ window.pool.outstanding) ∧
      Memory.FreedLater system.memory id window indices
        (Action.after (Memory.freeLater id indices) system.memory) := by
  obtain ⟨host, present, live⟩ := owned.live
  cases found.symm.trans present
  have tended := sound.tended id window found
  have once := owned.once
  rw [awaiting, pending_of_found found] at once
  have distinct : (window.pending.indices ++ indices).Nodup := by
    refine List.nodup_append.mpr ⟨(List.nodup_append.mp tended.distinct).1, owned.distinct, ?_⟩
    rintro index pending other deferred rfl
    exact once index deferred (List.mem_append_left _ pending)
  have outstanding : ∀ index ∈ window.pending.indices ++ indices,
      index ∈ window.pool.outstanding := by
    intro index member
    rcases List.mem_append.mp member with pending | deferred
    · exact tended.outstanding index (List.mem_append_left _ pending)
    · exact live index deferred
  exact ⟨outstanding, Memory.freeLater_freed found tended.shaped distinct outstanding⟩

/-- A step that leaves the thread where it is, and notes what was freed of a window and what came back. -/
theorem Sound.of_note (sound : system.Sound) {memory : Memory} {indices back : List Nat}
    {changed : Window} (found : system.memory.windows.get? id = some window)
    (frees : system.memory.OnlyFrees memory) (sets : system.memory.SetsWindow id changed memory)
    (inbox : system.memory.service.inbox ⊆ memory.service.inbox)
    (wakeups : memory.service.wakeups = system.memory.service.wakeups)
    (phase : memory.service.phase = system.memory.service.phase)
    (stopped : system.stage = .exited → memory.service.inbox = [])
    (tended : (∀ other time, system.Reminded other time → Reminded { system with
        memory
        deferred := note system.deferred id indices
        returned := note system.returned id back } other time) → Tended { system with
      memory
      deferred := note system.deferred id indices
      returned := note system.returned id back } id changed) : Sound { system with
        memory
        deferred := note system.deferred id indices
        returned := note system.returned id back } := by
  have reminded : ∀ other time, system.Reminded other time → Reminded { system with
      memory
      deferred := note system.deferred id indices
      returned := note system.returned id back } other time := by
    rintro other time (queued | lost)
    · left
      rcases queued with posted | wakeup | carried
      · exact .inl (inbox posted)
      · right
        left
        rwa [wakeups]
      · exact .inr (.inr carried)
    · exact .inr lost
  refine sound.of_window frees found sets (fun _ => note_other) (fun _ => note_other) (fun _ _ => rfl)
    (fun other time _ => reminded other time) (fun _ holds => .inr holds)
    (fun _ hand same => ⟨hand, same⟩) ?_ ?_ (tended reminded)
  · rw [phase]
    exact sound.running
  · intro exited
    rw [phase, wakeups]
    exact ⟨(sound.stopped exited).1, stopped exited, (sound.stopped exited).2.2⟩

theorem Sound.freeLater (sound : system.Sound) {indices : List Nat}
    (owned : system.Owns id indices) : (system.freeLater id indices).Sound := by
  obtain ⟨window, found, live⟩ := owned.live
  have tended := sound.tended id window found
  have once := owned.once
  rw [awaiting, pending_of_found found] at once
  obtain ⟨outstanding, freed⟩ := sound.freedLater owned found
  have frees := Memory.freeLater_onlyFrees id indices system.memory
  unfold FreeingSystem.freeLater
  rw [pending_of_found found]
  dsimp only
  generalize Action.after (Memory.freeLater id indices) system.memory = after at *
  cases freed with
  | @parked pending parked sets service =>
      rw [Memory.takenBack_of_samePool found sets.self rfl]
      cases parked with | kept shaped grown same => ?_
      refine sound.of_note found frees sets (by simp [service]) (by rw [service]) (by rw [service])
        (fun exited => by rw [service]; exact (sound.stopped exited).2.1) fun reminded => ?_
      -- The mark is the old one, so its wakeup is still on its way.
      exact tended.grow shaped grown
        (fun time marked => reminded id time (tended.marked time (same ▸ marked)))
        (note_self ..) ((note_self ..).trans (List.append_nil _)) rfl owned.distinct once live
  | @sent pending time parked sets runs service =>
      rw [Memory.takenBack_of_samePool found sets.self rfl]
      cases parked with | asked more shaped grown marked => ?_
      refine sound.of_note found frees sets (by simp [service]) (by rw [service]) (by rw [service])
        (fun exited => by simp [(sound.stopped exited).1] at runs) fun _ => ?_
      refine tended.grow shaped grown (fun other scheduled => ?_) (note_self ..)
        ((note_self ..).trans (List.append_nil _)) rfl owned.distinct once live
      -- The mark is new, and so is the message for it.
      cases marked.symm.trans scheduled
      refine .inl (.inl ?_)
      rw [service]
      exact List.mem_append_right _ (List.mem_singleton_self _)
  | @refused pool refuses given sets service =>
      rw [Memory.takenBack_of_givenBack found sets.self outstanding given]
      have exited : system.stage = .exited := by
        by_contra runs
        exact refuses (sound.running runs).1
      have empty : system.taken id = [] := by rw [taken, exited]; rfl
      refine sound.of_note found frees sets (by simp [service]) (by rw [service]) (by rw [service])
        (fun exited => by rw [service]; exact (sound.stopped exited).2.1) fun _ => ?_
      have accounted := tended.accounted
      rw [empty, List.append_nil] at accounted
      refine ⟨.empty, by simp, ?_, by simp [taken, exited, Stage.hand, Hand.batch],
        by simp [taken, exited, Stage.hand, Hand.batch]⟩
      simp only [taken, exited, Stage.hand, Hand.batch, note_self, List.append_nil, List.nil_append]
      refine (accounted.append_right indices).trans ?_
      rw [List.append_assoc]
      exact List.perm_append_comm_assoc ..

end FreeingSystem

end TorusEngine.Paging
