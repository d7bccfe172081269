import TorusEngine.Paging.Memory
import TorusEngine.Proofs.Paging.WindowCalls

/-!
# Deferred frees

The freeing service works in a few kinds of steps (`Served`): it rearranges its own queue, looks at the
batch of a window, takes it, and gives records back. So whatever it does, and whatever is asked of it,
only gives records back to the pools of their windows (`OnlyFrees`). The arena and the sizes of the pools
stay as they are.
-/

namespace TorusEngine.Paging.Memory

structure OnlyFrees (memory after : Memory) : Prop where
  arena : after.arena = memory.arena
  nextWindow : after.nextWindow = memory.nextWindow
  windows : ∀ id changed, after.windows.get? id = some changed → ∃ window given,
    memory.windows.get? id = some window ∧
      IndexPool.GivenBack window.pool given changed.pool ∧
      changed = { window with pool := changed.pool, pending := changed.pending }

namespace OnlyFrees

instance : Std.Refl OnlyFrees where
  refl := fun _ => ⟨rfl, rfl, fun _ window found => ⟨window, [], found, .nil _, rfl⟩⟩

instance : Trans OnlyFrees OnlyFrees OnlyFrees where
  trans := by
    intro memory middle after first second
    refine ⟨second.arena.trans first.arena, second.nextWindow.trans first.nextWindow, ?_⟩
    intro id changed found
    obtain ⟨between, later, foundBetween, givenLater, sameLater⟩ := second.windows id changed found
    obtain ⟨window, sooner, foundFirst, givenSooner, sameSooner⟩ :=
      first.windows id between foundBetween
    refine ⟨window, sooner ++ later, foundFirst, givenSooner.append givenLater, ?_⟩
    rw [sameLater, sameSooner]

theorem of_sameWindows {memory after : Memory} (arena : after.arena = memory.arena)
    (nextWindow : after.nextWindow = memory.nextWindow) (windows : after.windows = memory.windows) :
    OnlyFrees memory after :=
  ⟨arena, nextWindow, fun _ window found => ⟨window, [], windows ▸ found, .nil _, rfl⟩⟩

theorem changePending (memory : Memory) (id : WindowId) (pending : Pending) :
    OnlyFrees memory (memory.changeWindow id ({ · with pending })) := by
  refine ⟨rfl, rfl, fun other changed found => ?_⟩
  rw [changeWindow, Dictionary.get?_modify] at found
  split at found
  · obtain ⟨window, present, rfl⟩ := Option.map_eq_some_iff.mp found
    rename_i same
    exact ⟨window, [], same ▸ present, .nil _, rfl⟩
  · exact ⟨changed, [], found, .nil _, rfl⟩

end OnlyFrees

theorem after_onWindow {α : Type} (id : WindowId) (action : Action Hosted α) (memory : Memory) :
    Action.after (onWindow id action) memory = match memory.windows.get? id with
      | some window => memory.putHosted id (Action.after action ⟨window, memory.arena⟩)
      | none => memory := by
  rw [Action.after_eq_left]
  cases found : memory.windows.get? id with
  | none => simp [onWindow, hosted, window, found, bind, Except.bind, Action.left]
  | some window =>
      simp only [onWindow, hosted, Memory.window, found, bind, Except.bind, pure, Except.pure]
      cases ended : action ⟨window, memory.arena⟩ with
      | ok answer after => rw [Action.after_of_ok ended, Action.left]
      | error fault after => rw [Action.after_of_error ended, Action.left]

theorem onWindow_ok {α : Type} {id : WindowId} {action : Action Hosted α} {memory after : Memory}
    {answer : α} : onWindow id action memory = .ok answer after ↔ ∃ window left,
      memory.windows.get? id = some window ∧ action ⟨window, memory.arena⟩ = .ok answer left ∧
        memory.putHosted id left = after := by
  cases found : memory.windows.get? id with
  | none => simp [onWindow, hosted, window, found, bind, Except.bind]
  | some window =>
      simp only [onWindow, hosted, Memory.window, found, bind, Except.bind, pure, Except.pure]
      cases ended : action ⟨window, memory.arena⟩ <;> simp [ended, and_assoc]

theorem get?_putHosted (memory : Memory) (id other : WindowId) (hosted : Hosted) :
    (memory.putHosted id hosted).windows.get? other =
      if id = other then (memory.windows.get? other).map fun _ => hosted.window
      else memory.windows.get? other :=
  Dictionary.get?_modify _ _ _ _

theorem freeMany_onlyFrees (id : WindowId) (indices : List Nat) :
    Action.Respects OnlyFrees (onWindow id (Hosted.freeMany indices)) := by
  intro memory
  rw [after_onWindow]
  cases found : memory.windows.get? id with
  | none => exact Std.Refl.refl memory
  | some window =>
      obtain ⟨given, -, returned⟩ := IndexPool.giveBackMany_returns indices window.pool
      have left : Action.after (Hosted.freeMany indices) ⟨window, memory.arena⟩ =
          Hosted.withPool ⟨window, memory.arena⟩
            (Action.after (IndexPool.giveBackMany indices) window.pool) :=
        Hosted.after_onPool _ _
      dsimp only
      rw [left]
      refine ⟨rfl, rfl, fun other changed foundAfter => ?_⟩
      rw [get?_putHosted] at foundAfter
      split at foundAfter
      · rename_i same
        subst same
        rw [found, Option.map_some, Option.some.injEq] at foundAfter
        subst foundAfter
        exact ⟨window, given, found, returned, rfl⟩
      · exact ⟨changed, [], foundAfter, .nil _, rfl⟩

/-! ## Steps of the service -/

/-- The service works in these steps. Its messages are taken out of its inbox and never put there. -/
inductive Served (memory : Memory) : Memory → Prop where
  | service {service : FreeingService}
      (inbox : service.inbox = memory.service.inbox ∨ service.inbox = []) :
      Served memory { memory with service }
  | looked {id : WindowId} {window : Window} (found : memory.windows.get? id = some window)
      (now : Nat) :
      Served memory (memory.changeWindow id ({ · with pending := (window.pending.takeDue now).2 }))
  | emptied (id : WindowId) : Served memory (memory.changeWindow id ({ · with pending := {} }))
  | freed (id : WindowId) (batch : List Nat) :
      Served memory (Action.after (onWindow id (Hosted.freeMany batch)) memory)

abbrev Serves : Memory → Memory → Prop := Relation.ReflTransGen Served

theorem Serves.foldl {α : Type} {step : Memory → α → Memory}
    (steps : ∀ memory item, Serves memory (step memory item)) (items : List α) (memory : Memory) :
    Serves memory (items.foldl step memory) := by
  induction items generalizing memory with
  | nil => exact .refl
  | cons item rest ih => exact (steps memory item).trans (ih _)

theorem release_serves (memory : Memory) (id : WindowId) (batch : List Nat) :
    Serves memory (memory.release id batch) := by
  have freed : Served memory (Action.after (onWindow id (Hosted.freeMany batch)) memory) :=
    .freed id batch
  unfold release
  cases ended : onWindow id (Hosted.freeMany batch) memory with
  | ok answer after =>
      rw [Action.after_of_ok ended] at freed
      exact (Relation.ReflTransGen.single freed).tail (.service (.inl rfl))
  | error fault after =>
      rw [Action.after_of_error ended] at freed
      exact (Relation.ReflTransGen.single freed).tail (.service (.inr rfl))

theorem wake_serves (memory : Memory) (wakeup : Wakeup) : Serves memory (memory.wake wakeup) := by
  unfold wake
  split
  · exact .refl
  · cases found : memory.windows.get? wakeup.window with
    | none => exact .refl
    | some window =>
        have looked := Relation.ReflTransGen.single (Served.looked found memory.clock)
        dsimp only
        cases (window.pending.takeDue memory.clock).1 with
        | nothing => exact looked
        | early deadline => exact looked.tail (.service (.inl rfl))
        | batch indices => exact looked.trans (release_serves _ _ _)

theorem wakeDue_serves (memory : Memory) : Serves memory memory.wakeDue := by
  have started : Serves memory { memory with service := (memory.service.takeDue memory.clock).2 } :=
    .single (.service (.inl rfl))
  exact started.trans (Serves.foldl wake_serves _ _)

theorem releaseAll_serves (memory : Memory) (wakeup : Wakeup) :
    Serves memory (memory.releaseAll wakeup) := by
  unfold releaseAll
  split
  · exact .refl
  · split
    · exact .refl
    · have emptied : Serves memory (memory.changeWindow wakeup.window ({ · with pending := {} })) :=
        .single (.emptied wakeup.window)
      dsimp only
      split
      · exact emptied
      · exact emptied.trans (release_serves _ _ _)

theorem receive_serves (memory : Memory) (message : Message) :
    Serves memory (memory.receive message) := by
  unfold receive
  split
  · exact .refl
  · cases message with
    | schedule window deadline =>
        exact (Relation.ReflTransGen.single (.service (.inl rfl))).trans (wakeDue_serves _)
    | shutdown =>
        have drained := Serves.foldl releaseAll_serves memory.service.wakeups memory
        dsimp only
        split
        · exact drained.tail (.service (.inr rfl))
        · exact drained

theorem settle_serves (memory : Memory) : Serves memory memory.settle := by
  have emptied : Serves memory (memory.changeService ({ · with inbox := [] })) :=
    .single (.service (.inr rfl))
  have received := Serves.foldl receive_serves memory.service.inbox
    (memory.changeService ({ · with inbox := [] }))
  exact (emptied.trans received).trans (wakeDue_serves _)

theorem stopService_serves (memory : Memory) : Serves memory memory.stopService := by
  unfold stopService
  split
  · rename_i service posted
    -- The shutdown that is posted is taken out of the inbox again by the first step of `settle`.
    have emptied : Serves memory { memory with service := { service with inbox := [] } } :=
      .single (.service (.inr rfl))
    have received := Serves.foldl receive_serves service.inbox
      { memory with service := { service with inbox := [] } }
    exact (emptied.trans received).trans (wakeDue_serves _)
  · exact .refl

theorem Served.onlyFrees {memory after : Memory} (served : Served memory after) :
    OnlyFrees memory after := by
  cases served with
  | service inbox => exact .of_sameWindows rfl rfl rfl
  | looked found now => exact .changePending _ _ _
  | emptied id => exact .changePending _ _ _
  | freed id batch => exact freeMany_onlyFrees id batch memory

theorem Serves.onlyFrees {memory after : Memory} (serves : Serves memory after) :
    OnlyFrees memory after := by
  induction serves with
  | refl => exact Std.Refl.refl memory
  | tail _ last ih => exact Trans.trans ih last.onlyFrees

/-! ## Freeing later -/

/-- What freeing later leaves, once the window has parked the indices. A message that nobody takes sends
the batch back to the pool at once. -/
inductive Parks (memory : Memory) (id : WindowId) : Pending × Option Nat → Memory → Prop where
  | kept {pending : Pending} :
      Parks memory id (pending, none) (memory.changeWindow id ({ · with pending }))
  | sent {pending : Pending} {deadline : Nat} (runs : memory.service.isRunning = true) :
      Parks memory id (pending, some deadline) { memory.changeWindow id ({ · with pending }) with
        service := { memory.service with
          inbox := memory.service.inbox ++ [.schedule id deadline] } }
  | refused {pending : Pending} {deadline : Nat} (stopped : memory.service.isRunning = false) :
      Parks memory id (pending, some deadline)
        (Action.after (onWindow id (Hosted.freeMany pending.indices))
          (memory.changeWindow id ({ · with pending := {} })))

theorem freeLater_unknown {memory : Memory} {id : WindowId} (absent : memory.windows.get? id = none)
    (indices : List Nat) : Action.after (freeLater id indices) memory = memory := by
  rw [Action.after_eq_left]
  simp [freeLater, window, absent, Action.left]

theorem freeLater_parks {memory : Memory} {id : WindowId} {window : Window}
    (found : memory.windows.get? id = some window) (indices : List Nat) :
    memory.Parks id (window.pending.park memory.clock window.minDelay window.maxDelay indices)
      (Action.after (freeLater id indices) memory) := by
  rw [Action.after_eq_left]
  simp only [freeLater, Action.bind_apply, Action.get_apply, Memory.window, found, Action.liftM_apply]
  generalize window.pending.park memory.clock window.minDelay window.maxDelay indices = result
  obtain ⟨pending, wakeup⟩ := result
  cases wakeup with
  | none => exact .kept
  | some deadline =>
      cases runs : memory.service.isRunning with
      | true =>
          simp only [FreeingService.post, runs, if_true]
          exact .sent runs
      | false =>
          simp only [FreeingService.post, runs, Bool.false_eq_true, if_false, Action.bind_apply,
            Action.set_apply, ← Action.after_eq_left]
          exact .refused runs

theorem freeLater_onlyFrees (id : WindowId) (indices : List Nat) :
    Action.Respects OnlyFrees (freeLater id indices) := by
  intro memory
  cases found : memory.windows.get? id with
  | none =>
      rw [freeLater_unknown found]
      exact Std.Refl.refl memory
  | some window =>
      have parks := freeLater_parks found indices
      generalize window.pending.park _ _ _ _ = result at parks
      generalize Action.after (freeLater id indices) memory = after at parks ⊢
      cases parks with
      | kept => exact .changePending memory id _
      | @sent pending deadline runs =>
          have changed := OnlyFrees.changePending memory id pending
          exact Trans.trans changed (OnlyFrees.of_sameWindows rfl rfl rfl)
      | @refused pending deadline stopped =>
          have emptied := OnlyFrees.changePending memory id {}
          exact Trans.trans emptied (freeMany_onlyFrees id pending.indices _)

end TorusEngine.Paging.Memory
