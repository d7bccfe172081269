import TorusEngine.Proofs.Paging.Account

/-!
# Shutting down the freeing thread

A shutdown releases what any wakeup in front of it leads to, so a run in which nobody frees later ends
with every record returned. Between the receipt of the shutdown and the end of the thread, messages are
still taken but no longer read. A batch whose wakeup was sent then stays pending, and frees that follow
it join it.
-/

namespace TorusEngine.Paging

namespace FreeingSystem

variable {system after : FreeingSystem} {id : WindowId} {window : Window}

/-- What an exited thread left pending was marked for a wakeup that came after the shutdown. -/
theorem Sound.lost_of_stranded (sound : system.Sound) (exited : system.stage = .exited)
    (found : system.memory.windows.get? id = some window) (stranded : window.pending ≠ {}) :
    ∃ time, .schedule id time ∈ system.lost := by
  have tended := sound.tended id window found
  obtain ⟨-, empty, drained⟩ := sound.stopped exited
  rcases tended.shaped.times with none | ⟨started, deadline, scheduled, -, -, marked, -, -⟩
  · exact absurd none stranded
  · refine ⟨scheduled, ?_⟩
    rcases tended.marked scheduled marked with queued | lost
    · simp [Queued, empty, drained, exited, Stage.hand, Hand.Carries] at queued
    · exact lost

theorem Sound.returned_of_exited (sound : system.Sound) (exited : system.stage = .exited)
    (found : system.memory.windows.get? id = some window)
    (heard : ∀ time, .schedule id time ∉ system.lost) :
    window.pending.indices = [] ∧ (system.deferred id).Perm (system.returned id) := by
  have none : window.pending = {} := by
    by_contra stranded
    obtain ⟨time, lost⟩ := sound.lost_of_stranded exited found stranded
    exact heard time lost
  have accounted := (sound.tended id window found).accounted
  rw [none, taken, exited] at accounted
  exact ⟨by rw [none], accounted⟩

/-- No message but another shutdown comes behind a shutdown. -/
structure Orderly (system : FreeingSystem) : Prop where
  behind : system.memory.service.inbox.Pairwise fun first later =>
    first = .shutdown → later = .shutdown
  closing : system.stage.Closing →
    ∀ message ∈ system.memory.service.inbox ++ system.lost, message = .shutdown

/-- Runs in which nobody frees later. -/
inductive Quiet (system : FreeingSystem) : FreeingSystem → Prop where
  | refl : Quiet system system
  | step {middle after : FreeingSystem} (run : Quiet system middle) (step : Step middle after)
      (quiet : ∀ id, after.deferred id = middle.deferred id) : Quiet system after

theorem Orderly.of_sameService (orderly : system.Orderly)
    (service : after.memory.service.inbox = system.memory.service.inbox)
    (lost : after.lost = system.lost) (closing : after.stage.Closing → system.stage.Closing) :
    after.Orderly where
  behind := service ▸ orderly.behind
  closing := by
    rw [service, lost]
    exact fun closes => orderly.closing (closing closes)

theorem Orderly.step (orderly : system.Orderly) (sound : system.Sound) (step : Step system after)
    (quiet : ∀ id, after.deferred id = system.deferred id) : after.Orderly := by
  cases step with
  | call call permitted =>
      exact orderly.of_sameService (by rw [(Aside.call sound call permitted).service]) rfl fun closes => closes
  | @freeLater id indices owned =>
      obtain ⟨window, found, -⟩ := owned.live
      obtain ⟨-, freed⟩ := sound.freedLater owned found
      cases freed with
      | parked parked sets service => exact orderly.of_sameService (by rw [← service]; rfl) rfl fun closes => closes
      | sent parked sets runs service =>
          -- A wakeup is only asked for when there is something to free, so this step is not quiet.
          cases parked with | asked more shaped grown marked => ?_
          have none := quiet id
          simp [FreeingSystem.freeLater, note_self] at none
          exact absurd none more
      | refused refuses given sets service =>
          exact orderly.of_sameService (by rw [← service]; rfl) rfl fun closes => closes
  | ask posted =>
      unfold FreeingService.post at posted
      split at posted
      · cases posted
        constructor
        · exact List.pairwise_append.mpr ⟨orderly.behind, by simp, by simp⟩
        · intro closes message member
          simp only [List.mem_append, List.mem_singleton] at member
          rcases member with (inbox | rfl) | lost
          · exact orderly.closing closes message (List.mem_append_left _ inbox)
          · rfl
          · exact orderly.closing closes message (List.mem_append_right _ lost)
      · cases posted
  | schedule waiting first =>
      have behind := orderly.behind
      rw [first] at behind
      exact ⟨(List.pairwise_cons.mp behind).2, fun closes => closes.elim⟩
  | shutdown waiting first =>
      have behind := orderly.behind
      rw [first] at behind
      obtain ⟨after, rest⟩ := List.pairwise_cons.mp behind
      refine ⟨rest, fun _ message member => ?_⟩
      have none := (sound.running (by simp [waiting])).2
      simp only [none, List.append_nil] at member
      exact after message member rfl
  | timeout waiting queued due => exact ⟨orderly.behind, fun closes => closes.elim⟩
  | look timing => exact ⟨orderly.behind, fun closes => closes.elim⟩
  | @pop pass first rest idle queued reached =>
      refine orderly.of_sameService rfl rfl fun closes => ?_
      rw [idle]
      cases pass <;> exact closes
  | @take pass wakeup window holding found =>
      refine orderly.of_sameService rfl rfl fun closes => ?_
      rw [holding]
      cases pass <;> exact closes
  | @requeue pass id deadline holding =>
      refine orderly.of_sameService rfl rfl fun closes => ?_
      rw [holding]
      cases pass <;> exact closes
  | @release pass id batch holding =>
      obtain ⟨window, pool, memory, -, -, -, service, -, released⟩ := sound.release_eq holding
      rw [released]
      refine orderly.of_sameService (by rw [service]; rfl) rfl fun closes => ?_
      rw [holding]
      cases pass <;> exact closes
  | rest idle later => exact ⟨orderly.behind, fun closes => closes.elim⟩
  | exit idle drained =>
      refine ⟨.nil, fun _ message member => ?_⟩
      have closes : system.stage.Closing := by
        rw [idle]
        trivial
      exact orderly.closing closes message (List.mem_append_left _ member)

theorem Orderly.of_unasked (opened : ¬ system.stage.Closing)
    (unasked : .shutdown ∉ system.memory.service.inbox) : system.Orderly := by
  refine ⟨?_, fun closes => absurd closes opened⟩
  exact List.pairwise_of_forall_mem_list fun first member _ _ same => absurd (same ▸ member) unasked

theorem Quiet.sound (run : Quiet system after) (sound : system.Sound) : after.Sound := by
  induction run with
  | refl => exact sound
  | step _ step _ sound => exact step.sound sound

theorem Quiet.orderly (run : Quiet system after) (sound : system.Sound) (orderly : system.Orderly) :
    after.Orderly := by
  induction run with
  | refl => exact orderly
  | step run step quiet orderly => exact orderly.step (run.sound sound) step quiet

theorem Orderly.heard (orderly : system.Orderly) (exited : system.stage = .exited) (id : WindowId)
    (time : Nat) : .schedule id time ∉ system.lost := by
  intro lost
  have closes : system.stage.Closing := by
    rw [exited]
    trivial
  cases orderly.closing closes _ (List.mem_append_right _ lost)

theorem Quiet.releases_all (run : Quiet system after) (sound : system.Sound)
    (opened : ¬ system.stage.Closing) (unasked : .shutdown ∉ system.memory.service.inbox)
    (exited : after.stage = .exited) (found : after.memory.windows.get? id = some window) :
    window.pending.indices = [] ∧ (after.deferred id).Perm (after.returned id) := by
  have orderly := run.orderly sound (.of_unasked opened unasked)
  exact (run.sound sound).returned_of_exited exited found fun time => orderly.heard exited id time

/-! ## Nothing is lost and nothing is freed twice -/

structure LosesNothing (system : FreeingSystem) : Prop where
  accounts : ∀ id window, system.memory.windows.get? id = some window →
    system.AccountsFor id window
  unbroken : system.memory.service.phase ≠ .broken
  shutdown : ¬ system.stage.Closing → .shutdown ∉ system.memory.service.inbox →
    ∀ after, Quiet system after → after.stage = .exited →
    ∀ id window, after.memory.windows.get? id = some window →
    window.pending.indices = [] ∧ (after.deferred id).Perm (after.returned id)

theorem deferral_loses_nothing (reachable : Reachable system) : system.LosesNothing where
  accounts := fun _ _ => reachable.sound.accountsFor
  unbroken := by
    by_cases exited : system.stage = .exited
    · simp [(reachable.sound.stopped exited).1]
    · simp [(reachable.sound.running exited).1]
  shutdown := fun opened unasked _ run exited _ _ =>
    run.releases_all reachable.sound opened unasked exited

def roomy : Memory :=
  { arena := { pageSize := 16, maxPages := 8, pool := .withCapacity 1 (Arena.pageGrowth 8) } }

def furnished : FreeingSystem where
  memory := Memory.Call.afterAll
    [.makeWindow "w" ⟨[⟨"x", .int, 0⟩], 4⟩ {}, .window 0 .create, .window 0 .create] roomy

theorem furnished_reachable : Reachable furnished := by
  have made : Memory.make { pageSize := 16, maxPages := 8 } = .ok roomy := rfl
  have started := Reachable.start made
  have windowed := started.step (.call (.makeWindow "w" ⟨[⟨"x", .int, 0⟩], 4⟩ {}) trivial)
  have first := windowed.step (.call (.window 0 .create) (by simp [Permits, Hosted.Call.freed]))
  exact first.step (.call (.window 0 .create) (by simp [Permits, Hosted.Call.freed]))

theorem Owns.of_isLive {index : Nat} (live : system.memory.isLive id index = true)
    (once : index ∉ system.awaiting id) : system.Owns id [index] := by
  obtain ⟨window, found, outstanding⟩ := (Option.any_eq_true ..).mp live
  refine ⟨List.nodup_singleton index, ⟨window, found, ?_⟩, by simpa using once⟩
  simpa using outstanding

/-- The second record pulls the deadline before the wakeup that is queued. -/
theorem deferral_loses_nothing_pulled : ∃ system, Reachable system ∧
    system.pending 0 = [0, 1] ∧ system.memory.service.inbox = [.schedule 0 100] ∧
    system.memory.service.wakeups = [⟨500, 1, 0⟩] ∧ system.LosesNothing := by
  have parked := furnished_reachable.step
    (@Step.freeLater _ 0 [0] (.of_isLive (by decide +kernel) (by decide +kernel)))
  have received := parked.step (@Step.schedule _ 0 500 [] rfl (by decide +kernel))
  have pulled := received.step
    (@Step.freeLater _ 0 [1] (.of_isLive (by decide +kernel) (by decide +kernel)))
  exact ⟨_, pulled, by decide +kernel, by decide +kernel, by decide +kernel,
    deferral_loses_nothing pulled⟩

/-! ## Behind the shutdown -/

structure AfterExit (system : FreeingSystem) : Prop where
  returned : ∀ id window, system.memory.windows.get? id = some window →
    (∀ time, .schedule id time ∉ system.lost) →
    window.pending.indices = [] ∧ (system.deferred id).Perm (system.returned id)
  immediate : ∀ id indices, system.pending id = [] → system.Owns id indices →
    (system.freeLater id indices).pending id = [] ∧
      (system.freeLater id indices).returned id = system.returned id ++ indices

theorem Sound.freeLater_of_exited (sound : system.Sound) (exited : system.stage = .exited)
    {indices : List Nat} (none : system.pending id = []) (owned : system.Owns id indices) :
    (system.freeLater id indices).pending id = [] ∧
      (system.freeLater id indices).returned id = system.returned id ++ indices := by
  obtain ⟨window, found, -⟩ := owned.live
  obtain ⟨outstanding, freed⟩ := sound.freedLater owned found
  have empty : window.pending.indices = [] := (pending_of_found found).symm.trans none
  simp only [FreeingSystem.freeLater, note_self, none]
  rw [empty] at outstanding
  cases freed with
  | parked parked sets service =>
      cases parked with | kept shaped grown same => ?_
      rw [(sound.tended id window found).shaped.eq_empty empty] at grown same
      rcases shaped.times with rfl | ⟨_, _, scheduled, -, -, marked, -⟩
      · obtain rfl : [] = indices := grown
        rw [pending_of_found sets.self]
        exact ⟨rfl, rfl⟩
      · cases same.symm.trans marked
  | sent parked sets runs service => simp [(sound.stopped exited).1] at runs
  | refused refuses given sets service =>
      rw [empty] at given
      rw [Memory.takenBack_of_givenBack found sets.self outstanding given, pending_of_found sets.self]
      exact ⟨rfl, by simp⟩

theorem after_exit (reachable : Reachable system) (exited : system.stage = .exited) :
    system.AfterExit where
  returned := fun _ _ => reachable.sound.returned_of_exited exited
  immediate := fun _ _ => reachable.sound.freeLater_of_exited exited

/-- A thread that has exited after a record was freed later behind the shutdown. -/
def overtaken : FreeingSystem :=
  let draining := { furnished with stage := .working .draining .idle }
  let parked := draining.freeLater 0 [0]
  { parked with
    memory := parked.memory.changeService (·.finish .stopped)
    stage := .exited
    lost := parked.memory.service.inbox }

theorem overtaken_reachable : Reachable overtaken := by
  have asked := furnished_reachable.step (@Step.ask _ { inbox := [.shutdown] } rfl)
  have draining := asked.step (@Step.shutdown _ [] rfl rfl)
  have parked := draining.step
    (@Step.freeLater _ 0 [0] (.of_isLive (by decide +kernel) (by decide +kernel)))
  exact parked.step (.exit rfl (by decide +kernel))

theorem after_exit_overtaken : Reachable overtaken ∧ overtaken.stage = .exited ∧
    overtaken.lost = [.schedule 0 500] ∧ overtaken.AfterExit :=
  ⟨overtaken_reachable, rfl, by decide +kernel, after_exit overtaken_reachable rfl⟩

/-- What is freed behind the shutdown stays pending, and so do frees after the exit that are not due
before its wakeup. -/
theorem overtaken_strands : Reachable overtaken ∧ overtaken.stage = .exited ∧
    overtaken.pending 0 = [0] ∧ overtaken.deferred 0 = [0] ∧ overtaken.returned 0 = [] ∧
    ∃ later, Reachable later ∧ later.stage = .exited ∧
      later.Owns 0 [1] ∧ (later.freeLater 0 [1]).pending 0 = [0, 1] ∧
      (later.freeLater 0 [1]).returned 0 = [] := by
  refine ⟨overtaken_reachable, rfl, by decide +kernel, by decide +kernel, by decide +kernel, ?_⟩
  have later := overtaken_reachable.step (.call (.advance 500) trivial)
  exact ⟨_, later, rfl, .of_isLive (by decide +kernel) (by decide +kernel), by decide +kernel,
    by decide +kernel⟩

end FreeingSystem

end TorusEngine.Paging
