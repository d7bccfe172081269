import TorusEngine.Proofs.Paging.Deferral

/-!
# The account of deferred frees

Beside the thread, the owners of windows call memory as they like. With their calls every step keeps
the account, so each reachable system has it.
-/

namespace TorusEngine.Paging

theorem Window.make_pending {name : String} {schema : Schema} {config : MemoryConfig}
    {arena left : Arena} {window : Window} (made : Window.make name schema config arena = .ok window left) :
    window.pending = {} := by
  obtain ⟨_, _, -, sized⟩ := Action.bind_ok.mp made
  obtain ⟨_, _, -, measured⟩ := Action.bind_ok.mp sized
  obtain ⟨_, _, -, backed⟩ := Action.bind_ok.mp measured
  obtain ⟨_, _, -, answered⟩ := Action.bind_ok.mp backed
  cases answered
  rfl

theorem Memory.FreedLater.keeps {memory after : Memory} {id other : WindowId}
    {window host left : Window} {indices : List Nat}
    (freed : Memory.FreedLater memory other host indices after)
    (present : memory.windows.get? other = some host) (runs : memory.service.phase = .running)
    (found : memory.windows.get? id = some window) (still : after.windows.get? id = some left) :
    window.pending.indices ⊆ left.pending.indices := by
  have grows {pending : Pending} (sets : memory.SetsWindow other { host with pending } after)
      (grown : pending.indices = host.pending.indices ++ indices) :
      window.pending.indices ⊆ left.pending.indices := by
    by_cases same : other = id
    · cases same
      cases found.symm.trans present
      cases sets.self.symm.trans still
      rw [grown]
      exact List.subset_append_left _ _
    · cases found.symm.trans ((sets.other same).symm.trans still)
      exact fun _ member => member
  cases freed with
  | parked parked sets service =>
      cases parked with | kept shaped grown same => exact grows sets grown
  | sent parked sets runs service =>
      cases parked with | asked more shaped grown marked => exact grows sets grown
  | refused refuses given sets service => exact absurd runs refuses

namespace FreeingSystem

variable {system after : FreeingSystem} {id : WindowId} {window : Window}

/-! ## Calls of the owners -/

/-- What the owners of windows can do to memory beside the thread. -/
structure Aside (system : FreeingSystem) (after : Memory) : Prop where
  wellFormed : after.WellFormed
  service : after.service = system.memory.service
  nextWindow : system.memory.nextWindow ≤ after.nextWindow
  clock : system.memory.clock ≤ after.clock
  held : ∀ id, system.stage.hand.window? = some id →
    ∀ window, system.memory.windows.get? id = some window →
      ∃ changed, after.windows.get? id = some changed
  windows : ∀ id changed, after.windows.get? id = some changed →
    (∃ window, system.memory.windows.get? id = some window ∧
      changed = { window with pool := changed.pool } ∧
      ∀ index ∈ system.awaiting id, index ∈ changed.pool.outstanding) ∨
    (system.memory.nextWindow ≤ id ∧ changed.pending = {})

theorem Sound.aside (sound : system.Sound) {memory : Memory} (aside : system.Aside memory) :
    Sound { system with memory } where
  wellFormed := aside.wellFormed
  numbered := fun id new => sound.numbered id (Nat.le_trans aside.nextWindow new)
  held := by
    intro id holds
    obtain ⟨window, found⟩ := sound.held id holds
    exact aside.held id holds window found
  clock := fun now hand same => Nat.le_trans (sound.clock now hand same) aside.clock
  running := by
    rw [aside.service]
    exact sound.running
  stopped := by
    rw [aside.service]
    exact sound.stopped
  tended := by
    intro id changed here
    rcases aside.windows id changed here with ⟨window, found, same, outstanding⟩ | ⟨new, empty⟩
    · rw [awaiting, pending_of_found found] at outstanding
      refine (sound.tended id window found).carry same outstanding rfl rfl rfl fun time => ?_
      rw [Reminded, Reminded, Queued, Queued, aside.service]
      exact fun reminded => reminded
    · obtain ⟨deferred, returned⟩ := sound.numbered id new
      have taken : FreeingSystem.taken { system with memory } id = [] := sound.taken_of_new new
      refine ⟨?_, ?_, ?_, ?_, ?_⟩ <;> simp [empty, taken, deferred, returned, Pending.Shaped.empty]

theorem Aside.of_sameWindows (sound : system.Sound) {memory : Memory}
    (wellFormed : memory.WellFormed) (service : memory.service = system.memory.service)
    (nextWindow : memory.nextWindow = system.memory.nextWindow)
    (clock : system.memory.clock ≤ memory.clock)
    (windows : memory.windows = system.memory.windows) : system.Aside memory where
  wellFormed := wellFormed
  service := service
  nextWindow := nextWindow ▸ Nat.le_refl _
  clock := clock
  held := fun id _ window found => ⟨window, windows ▸ found⟩
  windows := by
    intro id changed here
    rw [windows] at here
    refine .inl ⟨changed, here, rfl, ?_⟩
    rw [awaiting, pending_of_found here]
    exact (sound.tended id changed here).outstanding

theorem Aside.onWindow (sound : system.Sound) (id : WindowId) {call : Hosted.Call}
    (permitted : system.Permits (.window id call)) :
    system.Aside ((Memory.Call.window id call).after system.memory) := by
  have wellFormed := (Memory.Call.window id call).after_wellFormed sound.wellFormed
  rw [Memory.Call.after, Memory.Call.perform, Memory.after_onWindow] at wellFormed ⊢
  cases found : system.memory.windows.get? id with
  | none =>
      simp only [found] at wellFormed ⊢
      exact Aside.of_sameWindows sound wellFormed rfl rfl (Nat.le_refl _) rfl
  | some window =>
      simp only [found] at wellFormed ⊢
      have tended := sound.tended id window found
      have awaits := tended.awaits found (sound.wellFormed.pools id window found)
      have still := @Hosted.Call.after_awaits call ⟨window, system.memory.arena⟩ _ awaits permitted
      have resized := (call.after_resizes ⟨window, system.memory.arena⟩).window
      rw [Hosted.Call.after] at still resized
      generalize Action.after call.perform ⟨window, system.memory.arena⟩ = hosted at *
      obtain ⟨pool, same⟩ := resized
      refine ⟨wellFormed, rfl, Nat.le_refl _, Nat.le_refl _, ?_, ?_⟩
      · intro other _ present foundToo
        rw [Memory.get?_putHosted, foundToo]
        split
        · exact ⟨hosted.window, rfl⟩
        · exact ⟨present, rfl⟩
      · intro other changed here
        rw [Memory.get?_putHosted] at here
        split at here
        · rename_i equal
          cases equal
          rw [found] at here
          cases here
          exact .inl ⟨window, found, by rw [same], still.outstanding⟩
        · refine .inl ⟨changed, here, rfl, ?_⟩
          rw [awaiting, pending_of_found here]
          exact (sound.tended other changed here).outstanding

theorem Aside.dropWindow (sound : system.Sound) (free : system.stage.hand.window? ≠ some id) :
    system.Aside (system.memory.dropWindow id) where
  wellFormed := (Memory.Call.dropWindow id).after_wellFormed sound.wellFormed
  service := rfl
  nextWindow := Nat.le_refl _
  clock := Nat.le_refl _
  held := by
    intro other holds window found
    have different : id ≠ other := fun same => free (same ▸ holds)
    refine ⟨window, ?_⟩
    rw [Memory.dropWindow, Dictionary.get?_erase, if_neg different, found]
  windows := by
    intro other changed here
    have present := Dictionary.get?_of_erase here
    refine .inl ⟨changed, present, rfl, ?_⟩
    rw [awaiting, pending_of_found present]
    exact (sound.tended other changed present).outstanding

theorem Aside.makeWindow (sound : system.Sound) (name : String) (schema : Schema)
    (config : MemoryConfig) :
    system.Aside ((Memory.Call.makeWindow name schema config).after system.memory) := by
  have wellFormed := (Memory.Call.makeWindow name schema config).after_wellFormed sound.wellFormed
  rw [Memory.Call.after, Memory.Call.perform, Action.after_map, Action.after_eq_left] at wellFormed ⊢
  unfold Memory.makeWindow Memory.onArena at wellFormed ⊢
  rw [Action.bind_apply, Action.within_apply] at wellFormed ⊢
  cases made : Window.make name schema config system.memory.arena with
  | error fault arena =>
      simp only [made] at wellFormed ⊢
      exact Aside.of_sameWindows sound wellFormed rfl rfl (Nat.le_refl _) rfl
  | ok window arena =>
      simp only [made] at wellFormed ⊢
      have empty := Window.make_pending made
      refine ⟨wellFormed, rfl, Nat.le_succ _, Nat.le_refl _, ?_, ?_⟩
      · intro id _ present found
        have different : system.memory.nextWindow ≠ id :=
          Nat.ne_of_gt (sound.wellFormed.numbered id present found)
        exact ⟨present, (Dictionary.get?_insert ..).trans ((if_neg different).trans found)⟩
      · intro id changed here
        obtain ⟨rfl, rfl⟩ | found := Dictionary.get?_of_insert here
        · exact .inr ⟨Nat.le_refl _, empty⟩
        · refine .inl ⟨changed, found, rfl, ?_⟩
          rw [awaiting, pending_of_found found]
          exact (sound.tended id changed found).outstanding

theorem Aside.call (sound : system.Sound) (call : Memory.Call) (permitted : system.Permits call) :
    system.Aside (call.after system.memory) := by
  have wellFormed := call.after_wellFormed sound.wellFormed
  have direct : ∀ {calls}, call.direct system.memory = some calls →
      system.Aside (call.after system.memory) := by
    intro calls consists
    rw [Memory.Call.after_direct consists] at wellFormed ⊢
    exact Aside.of_sameWindows sound wellFormed rfl rfl (Nat.le_refl _) rfl
  cases call with
  | arena call => exact direct rfl
  | setElement id name type index element word => exact direct rfl
  | setSlice id name type index words => exact direct rfl
  | makeWindow name schema config => exact Aside.makeWindow sound name schema config
  | dropWindow id => exact Aside.dropWindow sound permitted
  | window id call => exact Aside.onWindow sound id permitted
  | advance time => exact Aside.of_sameWindows sound wellFormed rfl rfl (Nat.le_add_right _ _) rfl
  | _ => exact permitted.elim

/-! ## Reachable systems -/

theorem Step.sound (step : Step system after) (sound : system.Sound) : after.Sound := by
  cases step with
  | call call permitted => exact sound.aside (Aside.call sound call permitted)
  | freeLater owned => exact sound.freeLater owned
  | ask posted => exact sound.ask posted
  | schedule waiting first => exact sound.schedule waiting first
  | shutdown waiting first => exact sound.shutdown waiting first
  | timeout waiting queued due =>
      exact sound.turn (by simp [waiting]) (by simp [waiting, Stage.hand]) rfl (by simp) (by simp)
  | look timing =>
      refine sound.turn (by simp [timing]) (by simp [timing, Stage.hand]) rfl (by simp) ?_
      rintro now hand same
      cases same
      exact Nat.le_refl _
  | pop idle queued reached => exact sound.pop idle queued
  | take holding found => exact sound.take holding found
  | requeue holding => exact sound.requeue holding
  | release holding => exact sound.release holding
  | rest idle later =>
      exact sound.turn (by simp [idle]) (by simp [idle, Stage.hand]) rfl (by simp) (by simp)
  | exit idle drained => exact sound.exit idle drained

theorem Reachable.sound (reachable : Reachable system) : system.Sound := by
  induction reachable with
  | start made =>
      have wellFormed := Memory.make_wellFormed made
      obtain ⟨arena, -, same⟩ := bind_eq_ok.mp made
      cases same
      exact ⟨wellFormed, fun _ _ => ⟨rfl, rfl⟩, by simp [Stage.hand, Hand.window?], by simp,
        fun _ => ⟨rfl, rfl⟩, by simp, by simp⟩
  | step _ step sound => exact step.sound sound

/-! ## Batches leave when they are due -/

theorem Sound.take_keeps_or_takes (sound : system.Sound) {pass : Pass} {wakeup : Wakeup}
    (holding : system.stage = .working pass (.holding wakeup))
    (found : system.memory.windows.get? wakeup.window = some window) :
    window.pending.indices ⊆ (pass.take window.pending).2.indices ∨ system.stage.Closing ∨
      (Hand.ofFound wakeup.window (pass.take window.pending).1).batch wakeup.window =
          window.pending.indices ∧
        ∃ deadline ≤ system.memory.clock, window.pending.deadline = some deadline := by
  have took := (sound.tended _ _ found).shaped.take pass
  generalize pass.take window.pending = result at took ⊢
  cases took with
  | nothing empty => simp [empty]
  | early shaped same marked =>
      left
      rw [same]
      exact fun _ member => member
  | batch due =>
      right
      cases pass with
      | draining =>
          left
          rw [holding]
          trivial
      | sweeping now =>
          right
          obtain ⟨deadline, past, timed⟩ := due now rfl
          refine ⟨if_pos rfl, deadline, ?_, timed⟩
          exact Nat.le_trans past (sound.clock now _ holding)

theorem Sound.keeps_or_takes (sound : system.Sound) (step : Step system after) {left : Window}
    (found : system.memory.windows.get? id = some window)
    (still : after.memory.windows.get? id = some left) :
    window.pending.indices ⊆ left.pending.indices ∨ system.stage.Closing ∨
      after.taken id = window.pending.indices ∧
        ∃ deadline ≤ system.memory.clock, window.pending.deadline = some deadline := by
  have unchanged (same : after.memory.windows.get? id = system.memory.windows.get? id) :
      window.pending.indices ⊆ left.pending.indices := by
    cases found.symm.trans (same.symm.trans still)
    exact fun _ member => member
  cases step with
  | call call permitted =>
      left
      rcases (Aside.call sound call permitted).windows id left still with
        ⟨before, present, same, -⟩ | ⟨new, -⟩
      · cases found.symm.trans present
        rw [same]
        exact fun _ member => member
      · exact absurd new (Nat.not_le.mpr (sound.wellFormed.numbered id window found))
  | @freeLater other indices owned =>
      obtain ⟨host, present, -⟩ := owned.live
      by_cases exited : system.stage = .exited
      · right
        left
        rw [exited]
        trivial
      · exact .inl ((sound.freedLater owned present).2.keeps present (sound.running exited).1 found still)
  | @take pass wakeup host holding present =>
      have sets := Memory.changePending_sets present (pass.take host.pending).2 system.memory.service
      by_cases same : wakeup.window = id
      · cases same
        cases found.symm.trans present
        cases sets.self.symm.trans still
        exact sound.take_keeps_or_takes holding found
      · exact .inl (unchanged (sets.other same))
  | @release pass other batch holding =>
      left
      obtain ⟨host, pool, memory, present, sets, -, -, -, released⟩ := sound.release_eq holding
      rw [released] at still unchanged
      by_cases same : other = id
      · cases same
        cases found.symm.trans present
        cases sets.self.symm.trans still
        exact fun _ member => member
      · exact unchanged (sets.other same)
  | _ => exact .inl (unchanged rfl)

/-! ## The account of a window -/

structure AccountsFor (system : FreeingSystem) (id : WindowId) (window : Window) : Prop where
  accounted : (system.deferred id).Perm
    (window.pending.indices ++ system.taken id ++ system.returned id)
  once : (window.pending.indices ++ system.taken id).Nodup
  outstanding : ∀ index ∈ window.pending.indices ++ system.taken id, index ∈ window.pool.outstanding
  kept : ∀ index ∈ window.pending.indices ++ system.taken id,
    ¬ Hosted.HandsOut ⟨window, system.memory.arena⟩ index
  bounded : ∀ deadline, window.pending.deadline = some deadline →
    ∃ started, window.pending.started = some started ∧ deadline ≤ started + window.maxDelay
  awaited : window.pending.indices ≠ [] → system.stage ≠ .exited →
    ∃ deadline time, window.pending.deadline = some deadline ∧ time ≤ deadline ∧
      system.Queued id time
  due : ¬ system.stage.Closing → ∀ after left, Step system after →
    after.memory.windows.get? id = some left → ¬ window.pending.indices ⊆ left.pending.indices →
    after.taken id = window.pending.indices ∧
      ∃ deadline ≤ system.memory.clock, window.pending.deadline = some deadline

theorem Sound.accountsFor (sound : system.Sound)
    (found : system.memory.windows.get? id = some window) : system.AccountsFor id window := by
  have tended := sound.tended id window found
  have awaits := tended.awaits found (sound.wellFormed.pools id window found)
  rw [awaiting, pending_of_found found] at awaits
  refine ⟨tended.accounted, tended.distinct, tended.outstanding,
    fun index member hands => hands.fresh awaits member, ?_, ?_, ?_⟩
  · rintro deadline timed
    rcases tended.shaped.times with none | ⟨started, _, _, began, same, -, -, bounded⟩
    · simp [none] at timed
    · cases same.symm.trans timed
      exact ⟨started, began, bounded⟩
  · intro waiting running
    rcases tended.shaped.times with none | ⟨_, deadline, scheduled, -, timed, marked, early, -⟩
    · exact absurd (by rw [none]) waiting
    · refine ⟨deadline, scheduled, timed, early, ?_⟩
      rcases tended.marked scheduled marked with queued | lost
      · exact queued
      · simp [(sound.running running).2] at lost
  · intro opened after left step still gone
    rcases sound.keeps_or_takes step found still with kept | closing | took
    · exact absurd kept gone
    · exact absurd closing opened
    · exact took

end FreeingSystem

end TorusEngine.Paging
