import TorusEngine.Proofs.Paging.Shutdown

/-!
# The service working alone

A program with one thread of its own lets the service work by `Memory.settle` and ends it by
`Memory.stopService`. Both do what the freeing thread does when no one comes between its steps, so such
a program stays among the reachable systems, and its shutdown leaves nothing pending.
-/

namespace TorusEngine.Paging

/-! ## The queue of wakeups -/

namespace Wakeup

def Ordered (queue : List Wakeup) : Prop := queue.Pairwise (·.deadline ≤ ·.deadline)

theorem enqueue_ordered {queue : List Wakeup} (ordered : Ordered queue) (wakeup : Wakeup) :
    Ordered (wakeup.enqueue queue) := by
  induction queue with
  | nil => exact List.pairwise_singleton ..
  | cons first rest ih =>
      obtain ⟨least, sorted⟩ := List.pairwise_cons.mp ordered
      unfold enqueue
      split
      · rename_i sooner
        refine List.pairwise_cons.mpr ⟨fun other member => ?_, ih sorted⟩
        rcases mem_enqueue.mp member with rfl | later
        · simp only [before, Bool.or_eq_true, Bool.and_eq_true, decide_eq_true_eq] at sooner
          omega
        · exact least other later
      · rename_i later
        have first : wakeup.deadline ≤ first.deadline := by
          simp only [before, Bool.or_eq_true, Bool.and_eq_true, decide_eq_true_eq] at later
          omega
        refine List.pairwise_cons.mpr ⟨fun other member => ?_, ordered⟩
        rcases List.mem_cons.mp member with rfl | member
        · exact first
        · exact Nat.le_trans first (least other member)

theorem enqueue_append {wakeup : Wakeup} {due : List Wakeup}
    (sooner : ∀ first ∈ due, first.deadline < wakeup.deadline) (later : List Wakeup) :
    wakeup.enqueue (due ++ later) = due ++ wakeup.enqueue later := by
  induction due with
  | nil => rfl
  | cons first rest ih =>
      obtain ⟨early, others⟩ := List.forall_mem_cons.mp sooner
      simp [enqueue, before, early, ih others]

theorem Ordered.split {queue : List Wakeup} (ordered : Ordered queue) (now : Nat) :
    queue = queue.filter (·.deadline ≤ now) ++ queue.filter (now < ·.deadline) := by
  induction queue with
  | nil => rfl
  | cons first rest ih =>
      obtain ⟨least, sorted⟩ := List.pairwise_cons.mp ordered
      by_cases due : first.deadline ≤ now
      · simpa [due, Nat.not_lt.mpr due] using ih sorted
      · have none : rest.filter (·.deadline ≤ now) = [] := by
          refine List.filter_eq_nil_iff.mpr fun other member => ?_
          have := least other member
          simp only [decide_eq_true_eq]
          omega
        have all : rest.filter (now < ·.deadline) = rest := by
          refine List.filter_eq_self.mpr fun other member => ?_
          have := least other member
          simp only [decide_eq_true_eq]
          omega
        simp [due, Nat.not_le.mp due, none, all]

def enqueueAll (again queue : List Wakeup) : List Wakeup :=
  again.foldl (fun queue wakeup => wakeup.enqueue queue) queue

theorem enqueueAll_append (again more queue : List Wakeup) :
    enqueueAll (again ++ more) queue = enqueueAll more (enqueueAll again queue) :=
  List.foldl_append

theorem enqueueAll_ordered {queue : List Wakeup} (ordered : Ordered queue) (again : List Wakeup) :
    Ordered (enqueueAll again queue) := by
  induction again generalizing queue with
  | nil => exact ordered
  | cons wakeup rest ih => exact ih (enqueue_ordered ordered wakeup)

theorem mem_enqueueAll {other : Wakeup} {again queue : List Wakeup}
    (member : other ∈ enqueueAll again queue) : other ∈ again ∨ other ∈ queue := by
  induction again generalizing queue with
  | nil => exact .inr member
  | cons wakeup rest ih =>
      rcases ih member with later | queued
      · exact .inl (List.mem_cons_of_mem _ later)
      · rcases mem_enqueue.mp queued with rfl | queued
        · exact .inl List.mem_cons_self
        · exact .inr queued

theorem enqueueAll_behind {due again : List Wakeup}
    (sooner : ∀ first ∈ due, ∀ wakeup ∈ again, first.deadline < wakeup.deadline)
    (later : List Wakeup) : enqueueAll again (due ++ later) = due ++ enqueueAll again later := by
  induction again generalizing later with
  | nil => rfl
  | cons wakeup rest ih =>
      have behind := enqueue_append (fun first member => sooner first member wakeup List.mem_cons_self)
        later
      rw [enqueueAll, List.foldl_cons, behind]
      exact ih (fun first member other more => sooner first member other (List.mem_cons_of_mem _ more)) _

end Wakeup

theorem Pass.Reaches.before {pass : Pass} {first later : Wakeup} (reached : pass.Reaches first)
    (unreached : ¬ pass.Reaches later) : first.deadline < later.deadline := by
  cases pass with
  | sweeping now => exact Nat.lt_of_le_of_lt reached (Nat.not_le.mp unreached)
  | draining => exact absurd trivial unreached

theorem Pass.unreached_of_early {pass : Pass} {pending after : Pending} {deadline : Nat}
    (early : pass.take pending = (.early deadline, after)) {wakeup : Wakeup}
    (timed : wakeup.deadline = deadline) : ¬ pass.Reaches wakeup := by
  cases pass with
  | sweeping now =>
      simp only [take, Pending.takeDue] at early
      split at early
      · simp at early
      · split at early
        · cases early
          rw [Reaches, timed]
          omega
        · simp at early
  | draining =>
      cases empty : pending.indices.isEmpty <;> simp [take, Pending.takeAll, empty] at early

namespace Memory

def attend (pass : Pass) (memory : Memory) (wakeup : Wakeup) : Memory :=
  match memory.windows.get? wakeup.window with
  | none => memory
  | some window =>
      let (found, pending) := pass.take window.pending
      let taken := memory.changeWindow wakeup.window ({ · with pending })
      match found with
      | .nothing => taken
      | .early deadline => taken.changeService (·.queue wakeup.window deadline)
      | .batch indices => taken.release wakeup.window indices

theorem wake_eq_attend {memory : Memory} (runs : memory.service.isRunning = true) (wakeup : Wakeup) :
    memory.wake wakeup = memory.attend (.sweeping memory.clock) wakeup := by
  simp only [wake, runs, Bool.not_true, Bool.false_eq_true, if_false]
  rfl

theorem releaseAll_eq_attend {memory : Memory} (runs : memory.service.isRunning = true)
    (wakeup : Wakeup) : memory.releaseAll wakeup = memory.attend .draining wakeup := by
  simp only [releaseAll, runs, Bool.not_true, Bool.false_eq_true, if_false, attend]
  cases memory.windows.get? wakeup.window with
  | none => rfl
  | some window =>
      cases empty : window.pending.indices.isEmpty <;> simp [Pass.take, Pending.takeAll, empty]

def withQueues (memory : Memory) (inbox : List Message) (wakeups : List Wakeup) : Memory :=
  memory.changeService ({ · with inbox, wakeups })

theorem release_withQueues {memory : Memory} {id : WindowId} {batch : List Nat}
    {inbox : List Message} {wakeups : List Wakeup}
    (runs : ((memory.withQueues inbox wakeups).release id batch).service.isRunning = true) :
    (memory.withQueues inbox wakeups).release id batch =
        (memory.release id batch).withQueues inbox wakeups ∧
      (memory.release id batch).service = memory.service.countBatch batch.length ∧
      (memory.release id batch).clock = memory.clock := by
  cases freed : onWindow id (Hosted.freeMany batch) (memory.withQueues inbox wakeups) with
  | error fault after =>
      simp [release, freed, changeService, FreeingService.finish, FreeingService.isRunning] at runs
  | ok answer after =>
      obtain ⟨window, left, found, ended, rfl⟩ := onWindow_ok.mp freed
      have plain : onWindow id (Hosted.freeMany batch) memory = .ok answer (memory.putHosted id left) :=
        onWindow_ok.mpr ⟨window, left, found, ended, rfl⟩
      simp only [release, freed, plain]
      exact ⟨rfl, rfl, rfl⟩

end Memory

namespace FreeingSystem

variable {system after : FreeingSystem} {memory : Memory} {inbox : List Message}

theorem Quiet.trans {middle : FreeingSystem} (first : Quiet system middle) (second : Quiet middle after) :
    Quiet system after := by
  induction second with
  | refl => exact first
  | step _ step quiet run => exact run.step step quiet

/-! ## One wakeup after the other -/

theorem Sound.release_runs (sound : system.Sound) {pass : Pass} {id : WindowId} {batch : List Nat}
    (holding : system.stage = .working pass (.releasing id batch)) :
    (system.memory.release id batch).service.isRunning = true ∧
      (system.release pass id batch).stage = .working pass .idle := by
  obtain ⟨window, pool, memory, -, -, -, service, -, released⟩ := sound.release_eq holding
  have left : system.memory.release id batch = memory := congrArg FreeingSystem.memory released
  refine ⟨?_, by rw [released]⟩
  rw [left, service]
  exact decide_eq_true (sound.running (by simp [holding])).1

/-- What part of a pass does to memory, and the wakeups that it queued again. -/
structure Attended (pass : Pass) (memory left : Memory) (again : List Wakeup) : Prop where
  unreached : ∀ other ∈ again, ¬ pass.Reaches other
  wakeups : left.service.wakeups = Wakeup.enqueueAll again memory.service.wakeups
  inbox : left.service.inbox = memory.service.inbox
  clock : left.clock = memory.clock

theorem Attended.trans {pass : Pass} {middle left : Memory} {again more : List Wakeup}
    (first : Attended pass memory middle again) (second : Attended pass middle left more) :
    Attended pass memory left (again ++ more) where
  unreached := fun other member =>
    (List.mem_append.mp member).elim (first.unreached other) (second.unreached other)
  wakeups := by rw [Wakeup.enqueueAll_append, ← first.wakeups, second.wakeups]
  inbox := second.inbox.trans first.inbox
  clock := second.clock.trans first.clock

theorem Sound.attend_run (sound : system.Sound) {pass : Pass} {wakeup : Wakeup} {rest : List Wakeup}
    (idle : system.stage = .working pass .idle)
    (here : system.memory = memory.withQueues inbox (wakeup :: rest))
    (reached : pass.Reaches wakeup) :
    ∃ after again, Quiet system after ∧ after.stage = .working pass .idle ∧
      after.memory = (memory.attend pass wakeup).withQueues inbox (Wakeup.enqueueAll again rest) ∧
      Attended pass memory (memory.attend pass wakeup) again := by
  have queued : system.memory.service.wakeups = wakeup :: rest := by rw [here]; rfl
  have popped : Step system _ := .pop idle queued reached
  have run := Quiet.refl.step popped fun _ => rfl
  have left : system.memory.changeService ({ · with wakeups := rest }) =
      memory.withQueues inbox rest := by rw [here]; rfl
  have windows : system.memory.windows = memory.windows := by rw [here]; rfl
  rw [left, windows] at run
  cases found : memory.windows.get? wakeup.window with
  | none =>
      have same : memory.attend pass wakeup = memory := by simp [Memory.attend, found]
      rw [found] at run
      rw [same]
      exact ⟨_, [], run, rfl, rfl, ⟨by simp, rfl, rfl, rfl⟩⟩
  | some window =>
      rw [found] at run
      have took : Step _ _ := @Step.take { system with
        memory := memory.withQueues inbox rest
        stage := .working pass (.holding wakeup) } pass wakeup window rfl found
      have run := run.step took fun _ => rfl
      cases taken : pass.take window.pending with
      | mk result pending =>
          rw [taken] at run
          cases result with
          | nothing =>
              have same : memory.attend pass wakeup =
                  memory.changeWindow wakeup.window ({ · with pending }) := by
                simp [Memory.attend, found, taken]
              rw [same]
              exact ⟨_, [], run, rfl, rfl, ⟨by simp, rfl, rfl, rfl⟩⟩
          | early deadline =>
              have same : memory.attend pass wakeup =
                  (memory.changeWindow wakeup.window ({ · with pending })).changeService
                    (·.queue wakeup.window deadline) := by
                simp [Memory.attend, found, taken]
              have again : Step _ _ := @Step.requeue { system with
                memory := (memory.withQueues inbox rest).changeWindow wakeup.window ({ · with pending })
                stage := .working pass (.requeueing wakeup.window deadline) } pass _ _ rfl
              rw [same]
              refine ⟨_, [⟨deadline, memory.service.order + 1, wakeup.window⟩],
                run.step again fun _ => rfl, rfl, rfl, ⟨?_, rfl, rfl, rfl⟩⟩
              simpa using Pass.unreached_of_early taken rfl
          | batch indices =>
              have same : memory.attend pass wakeup =
                  (memory.changeWindow wakeup.window ({ · with pending })).release wakeup.window
                    indices := by
                simp [Memory.attend, found, taken]
              have released : Step _ _ := @Step.release { system with
                memory := (memory.withQueues inbox rest).changeWindow wakeup.window ({ · with pending })
                stage := .working pass (.releasing wakeup.window indices) } pass _ _ rfl
              obtain ⟨runs, back⟩ := (run.sound sound).release_runs rfl
              obtain ⟨left, service, clock⟩ := @Memory.release_withQueues
                (memory.changeWindow wakeup.window ({ · with pending })) _ _ inbox rest runs
              rw [same]
              exact ⟨_, [], run.step released fun _ => rfl, back, left,
                ⟨by simp, by rw [service]; rfl, by rw [service]; rfl, clock⟩⟩

theorem Sound.runs (sound : system.Sound) (stays : system.stage ≠ .exited) {wakeups : List Wakeup}
    (here : system.memory = memory.withQueues inbox wakeups) : memory.service.isRunning = true := by
  have phase := (sound.running stays).1
  rw [here] at phase
  exact decide_eq_true phase

theorem Sound.attendAll_run (sound : system.Sound) {pass : Pass} (act : Memory → Wakeup → Memory)
    {due later : List Wakeup} (idle : system.stage = .working pass .idle)
    (here : system.memory = memory.withQueues inbox (due ++ later))
    (reached : ∀ wakeup ∈ due, pass.Reaches wakeup)
    (acts : ∀ left wakeup, left.service.isRunning = true → left.clock = memory.clock →
      act left wakeup = left.attend pass wakeup) :
    ∃ after again, Quiet system after ∧ after.stage = .working pass .idle ∧
      after.memory = (due.foldl act memory).withQueues inbox (Wakeup.enqueueAll again later) ∧
      Attended pass memory (due.foldl act memory) again := by
  induction due generalizing system memory later with
  | nil => exact ⟨system, [], .refl, idle, here, ⟨by simp, rfl, rfl, rfl⟩⟩
  | cons wakeup rest ih =>
      obtain ⟨this, others⟩ := List.forall_mem_cons.mp reached
      have runs := sound.runs (by simp [idle]) here
      rw [List.cons_append] at here
      obtain ⟨middle, again, run, idle, left, attended⟩ := sound.attend_run idle here this
      rw [Wakeup.enqueueAll_behind fun first member other more =>
        (others first member).before (attended.unreached other more)] at left
      rw [← acts memory wakeup runs rfl] at left attended
      obtain ⟨after, more, further, idle, same, rested⟩ := ih (run.sound sound) idle left others
        fun left wakeup runs same => acts left wakeup runs (same.trans attended.clock)
      refine ⟨after, again ++ more, run.trans further, idle, ?_, attended.trans rested⟩
      rw [Wakeup.enqueueAll_append]
      exact same

/-! ## One message after the other -/

theorem Sound.wakeDue_run (sound : system.Sound) (timing : system.stage = .timing)
    (ordered : Wakeup.Ordered memory.service.wakeups)
    (here : system.memory = memory.withQueues inbox memory.service.wakeups) :
    ∃ after, Quiet system after ∧ after.stage = .waiting ∧
      after.memory = memory.wakeDue.withQueues inbox memory.wakeDue.service.wakeups ∧
      memory.wakeDue.service.inbox = memory.service.inbox ∧
      Wakeup.Ordered memory.wakeDue.service.wakeups := by
  have clock : system.memory.clock = memory.clock := by rw [here]; rfl
  have looked : Step system _ := .look timing
  have run := Quiet.refl.step looked fun _ => rfl
  rw [clock] at run
  have front : system.memory = ({ memory with service := (memory.service.takeDue memory.clock).2 } :
      Memory).withQueues inbox (memory.service.wakeups.filter (·.deadline ≤ memory.clock) ++
        memory.service.wakeups.filter (memory.clock < ·.deadline)) := by
    rw [← ordered.split memory.clock, here]
    rfl
  have reached : ∀ wakeup ∈ memory.service.wakeups.filter (·.deadline ≤ memory.clock),
      (Pass.sweeping memory.clock).Reaches wakeup := fun wakeup member =>
    show wakeup.deadline ≤ memory.clock by simpa using (List.mem_filter.mp member).2
  obtain ⟨after, again, further, idle, same, attended⟩ := (run.sound sound).attendAll_run Memory.wake
    rfl front reached fun left wakeup runs same => by rw [Memory.wake_eq_attend runs, same]
  have queued : memory.wakeDue.service.wakeups = Wakeup.enqueueAll again
      (memory.service.wakeups.filter (memory.clock < ·.deadline)) := attended.wakeups
  have rested : Step after _ := .rest idle (by
    intro first least
    rw [same] at least
    rcases Wakeup.mem_enqueueAll (List.mem_of_mem_head? least) with unreached | later
    · exact Nat.not_le.mp (attended.unreached first unreached)
    · exact of_decide_eq_true (List.mem_filter.mp later).2)
  refine ⟨_, (run.trans further).step rested fun _ => rfl, rfl, ?_, attended.inbox, ?_⟩
  · rw [queued]
    exact same
  · rw [queued]
    exact Wakeup.enqueueAll_ordered (ordered.filter _) again

theorem Memory.receive_of_stopped (stopped : memory.service.isRunning = false) (message : Message) :
    memory.receive message = memory := by
  simp [Memory.receive, stopped]

theorem Sound.receiveAll_run (sound : system.Sound) {messages : List Message}
    (waiting : system.stage = .waiting) (empty : memory.service.inbox = [])
    (ordered : Wakeup.Ordered memory.service.wakeups)
    (here : system.memory = memory.withQueues messages memory.service.wakeups) :
    ∃ after, Quiet system after ∧ after.memory = messages.foldl Memory.receive memory ∧
      (after.stage = .waiting ∧ .shutdown ∉ messages ∧ after.memory.service.inbox = [] ∧
          Wakeup.Ordered after.memory.service.wakeups ∨
        after.stage = .exited) := by
  induction messages generalizing system memory with
  | nil =>
      have same : memory.withQueues [] memory.service.wakeups = memory := by
        rw [← empty]
        rfl
      rw [same] at here
      exact ⟨system, .refl, here, .inl ⟨waiting, by simp, here ▸ empty, here ▸ ordered⟩⟩
  | cons message rest ih =>
      have runs := sound.runs (by simp [waiting]) here
      have first : system.memory.service.inbox = message :: rest := by rw [here]; rfl
      cases message with
      | schedule id deadline =>
          have scheduled : Step system _ := .schedule waiting first
          have run := Quiet.refl.step scheduled fun _ => rfl
          have received : memory.receive (.schedule id deadline) = (memory.changeService fun service =>
              service.countSchedule.queue id deadline).wakeDue := by
            simp [Memory.receive, runs]
          obtain ⟨middle, further, waiting, left, inbox, sorted⟩ :=
            @Sound.wakeDue_run _ (memory.changeService fun service =>
              service.countSchedule.queue id deadline) rest (run.sound sound) rfl
              (Wakeup.enqueue_ordered ordered _) (by rw [here]; rfl)
          rw [← received] at left inbox sorted
          have run := run.trans further
          obtain ⟨after, last, same, ended⟩ := ih (run.sound sound) waiting (inbox.trans empty) sorted left
          refine ⟨after, run.trans last, same, ?_⟩
          simpa using ended
      | shutdown =>
          have asked : Step system _ := .shutdown waiting first
          have run := Quiet.refl.step asked fun _ => rfl
          obtain ⟨middle, again, further, idle, left, attended⟩ :=
            @Sound.attendAll_run _ memory rest (run.sound sound) .draining Memory.releaseAll
              memory.service.wakeups [] rfl (by rw [here, List.append_nil]; rfl) (fun _ _ => trivial)
              fun left wakeup runs _ => Memory.releaseAll_eq_attend runs wakeup
          -- A drain reaches every wakeup, so it queues none again.
          have none : again = [] :=
            List.eq_nil_iff_forall_not_mem.mpr fun other member => attended.unreached other member trivial
          subst none
          have run := run.trans further
          have exited : Step middle _ := .exit idle (by rw [left]; rfl)
          have runsStill := (run.sound sound).runs (by simp [idle]) left
          have received : memory.receive .shutdown = (memory.service.wakeups.foldl Memory.releaseAll
              memory).changeService (·.finish .stopped) := by
            simp [Memory.receive, runs, runsStill]
          have rested : rest.foldl Memory.receive (memory.receive .shutdown) = memory.receive .shutdown := by
            refine List.foldl_fixed' (Memory.receive_of_stopped ?_) rest
            rw [received]
            rfl
          refine ⟨_, run.step exited fun _ => rfl, ?_, .inr rfl⟩
          rw [List.foldl_cons, rested, received, left]
          rfl

theorem Memory.wakeDue_of_later (later : ∀ wakeup ∈ memory.service.wakeups,
    memory.clock < wakeup.deadline) : memory.wakeDue = memory := by
  have none : memory.service.wakeups.filter (·.deadline ≤ memory.clock) = [] := by
    simpa using later
  have all : memory.service.wakeups.filter (memory.clock < ·.deadline) = memory.service.wakeups := by
    simpa using later
  simp only [Memory.wakeDue, FreeingService.takeDue, none, all, List.foldl_nil]

theorem Sound.settle_run (sound : system.Sound) (waiting : system.stage = .waiting)
    (ordered : Wakeup.Ordered system.memory.service.wakeups) :
    ∃ after, Quiet system after ∧ after.memory = system.memory.settle ∧
      (after.stage = .waiting ∧ .shutdown ∉ system.memory.service.inbox ∧
          after.memory.service.inbox = [] ∧ Wakeup.Ordered after.memory.service.wakeups ∨
        after.stage = .exited) := by
  obtain ⟨middle, run, left, ended⟩ :=
    @Sound.receiveAll_run _ (system.memory.changeService ({ · with inbox := [] })) sound
      system.memory.service.inbox waiting rfl ordered rfl
  have settled : system.memory.settle = middle.memory.wakeDue := by rw [left]; rfl
  rw [settled]
  have stays (later : ∀ wakeup ∈ middle.memory.service.wakeups,
      middle.memory.clock < wakeup.deadline) : middle.memory = middle.memory.wakeDue :=
    (Memory.wakeDue_of_later later).symm
  rcases ended with ⟨waiting, unasked, empty, sorted⟩ | exited
  · cases queued : middle.memory.service.wakeups with
    | nil =>
        refine ⟨middle, run, stays (by simp [queued]), .inl ⟨waiting, unasked, empty, sorted⟩⟩
    | cons first rest =>
        by_cases due : first.deadline ≤ middle.memory.clock
        · have timed : Step middle _ := .timeout waiting queued due
          have run := run.step timed fun _ => rfl
          obtain ⟨after, further, waiting, same, inbox, sorted⟩ :=
            @Sound.wakeDue_run _ middle.memory middle.memory.service.inbox (run.sound sound) rfl sorted rfl
          have same : after.memory = middle.memory.wakeDue := by
            rw [same, ← inbox]
            rfl
          refine ⟨after, run.trans further, same, .inl ⟨waiting, unasked, ?_, ?_⟩⟩
          · rw [same, inbox, empty]
          · rw [same]
            exact sorted
        · refine ⟨middle, run, stays ?_, .inl ⟨waiting, unasked, empty, sorted⟩⟩
          intro wakeup member
          rw [queued] at sorted member
          rcases List.mem_cons.mp member with rfl | member
          · exact Nat.not_le.mp due
          · exact Nat.lt_of_lt_of_le (Nat.not_le.mp due) ((List.pairwise_cons.mp sorted).1 wakeup member)
  · have drained := ((run.sound sound).stopped exited).2.2
    exact ⟨middle, run, stays (by simp [drained]), .inr exited⟩

/-! ## Programs with one thread -/

/-- The thread has nothing in its hands and was not told to end, unless it has ended, and then no wakeup
was lost. -/
structure AtRest (system : FreeingSystem) : Prop where
  stage : system.stage = .waiting ∨ system.stage = .exited
  ordered : Wakeup.Ordered system.memory.service.wakeups
  unasked : .shutdown ∉ system.memory.service.inbox
  heard : ∀ id time, .schedule id time ∉ system.lost

theorem Sound.atRest_of_exited (sound : system.Sound) (orderly : system.Orderly)
    (exited : system.stage = .exited) : system.AtRest := by
  obtain ⟨-, empty, drained⟩ := sound.stopped exited
  refine ⟨.inr exited, ?_, by simp [empty], orderly.heard exited⟩
  rw [drained]
  exact .nil

theorem Sound.settle_of_exited (sound : system.Sound) (exited : system.stage = .exited) :
    system.memory.settle = system.memory := by
  obtain ⟨-, empty, drained⟩ := sound.stopped exited
  have cleared : system.memory.changeService ({ · with inbox := [] }) = system.memory := by
    rw [← empty]
    rfl
  rw [Memory.settle, empty, cleared]
  exact Memory.wakeDue_of_later (by simp [drained])

theorem AtRest.settle_run (rests : system.AtRest) (sound : system.Sound) :
    ∃ after, Quiet system after ∧ after.AtRest ∧ after.memory = system.memory.settle := by
  rcases rests.stage with waiting | exited
  · obtain ⟨after, run, left, ended⟩ := sound.settle_run waiting rests.ordered
    refine ⟨after, run, ?_, left⟩
    have opened : ¬ system.stage.Closing := by simp [waiting, Stage.Closing]
    rcases ended with ⟨waiting, -, empty, ordered⟩ | exited
    · have none := ((run.sound sound).running (by simp [waiting])).2
      exact ⟨.inl waiting, ordered, by simp [empty], by simp [none]⟩
    · exact (run.sound sound).atRest_of_exited (run.orderly sound (.of_unasked opened rests.unasked))
        exited
  · exact ⟨system, .refl, rests, (sound.settle_of_exited exited).symm⟩

theorem AtRest.stopService_run (rests : system.AtRest) (sound : system.Sound) :
    ∃ after, Quiet system after ∧ after.AtRest ∧ after.stage = .exited ∧
      after.memory = system.memory.stopService := by
  rcases rests.stage with waiting | exited
  · have posted : system.memory.service.post .shutdown = some
        { system.memory.service with inbox := system.memory.service.inbox ++ [.shutdown] } := by
      simp [FreeingService.post, FreeingService.isRunning, sound.running (by simp [waiting])]
    have asked : Step system _ := .ask posted
    have run := Quiet.refl.step asked fun _ => rfl
    obtain ⟨after, further, left, ended⟩ := (run.sound sound).settle_run waiting rests.ordered
    have stopped : system.memory.stopService = after.memory := by
      rw [left, Memory.stopService, posted]
    have exited : after.stage = .exited := by simpa using ended
    have opened : ¬ system.stage.Closing := by simp [waiting, Stage.Closing]
    have run := run.trans further
    exact ⟨after, run, (run.sound sound).atRest_of_exited
      (run.orderly sound (.of_unasked opened rests.unasked)) exited, exited, stopped.symm⟩
  · have posted : system.memory.service.post .shutdown = none := by
      simp [FreeingService.post, FreeingService.isRunning, sound.stopped exited]
    exact ⟨system, .refl, rests, exited, by rw [Memory.stopService, posted]⟩

theorem Quiet.reachable (run : Quiet system after) (reachable : Reachable system) : Reachable after := by
  induction run with
  | refl => exact reachable
  | step _ step _ reached => exact reached.step step

/-- What a careful program asks of memory. The service takes its messages and wakeups by itself. -/
def Allows (system : FreeingSystem) : Memory.Call → Prop
  | .freeLater id indices => system.Owns id indices
  | .receive _ | .wake _ => False
  | .settle | .stopService => True
  | call => system.Permits call

theorem AtRest.allows (rests : system.AtRest) {call : Memory.Call}
    (allowed : Allows { memory := system.memory } call) : system.Allows call := by
  have hand : system.stage.hand = .idle := by
    rcases rests.stage with waiting | exited
    · rw [waiting]
      rfl
    · rw [exited]
      rfl
  have awaiting : system.awaiting = FreeingSystem.awaiting { memory := system.memory } := by
    funext id
    rw [FreeingSystem.awaiting, taken, hand]
    rfl
  cases call with
  | freeLater id indices => exact ⟨allowed.distinct, allowed.live, awaiting ▸ allowed.once⟩
  | window id call => exact fun index member waits => allowed index member (awaiting ▸ waits)
  | dropWindow id =>
      change system.stage.hand.window? ≠ some id
      simp [hand, Hand.window?]
  | _ => exact allowed

theorem AtRest.aside (rests : system.AtRest) {memory : Memory} (aside : system.Aside memory) :
    AtRest { system with memory } where
  stage := rests.stage
  ordered := aside.service ▸ rests.ordered
  unasked := aside.service ▸ rests.unasked
  heard := rests.heard

theorem AtRest.freeLater (rests : system.AtRest) (sound : system.Sound) {id : WindowId}
    {indices : List Nat} (owned : system.Owns id indices) : (system.freeLater id indices).AtRest := by
  obtain ⟨window, found, -⟩ := owned.live
  obtain ⟨-, freed⟩ := sound.freedLater owned found
  have queues : ((system.freeLater id indices).memory.service.wakeups =
      system.memory.service.wakeups) ∧ (.shutdown ∈ (system.freeLater id indices).memory.service.inbox →
        .shutdown ∈ system.memory.service.inbox) := by
    cases freed with
    | parked parked sets service => exact ⟨by rw [← service]; rfl, by rw [← service]; exact fun asked => asked⟩
    | sent parked sets runs service =>
        unfold FreeingSystem.freeLater
        dsimp only
        rw [service]
        simp
    | refused refuses given sets service =>
        exact ⟨by rw [← service]; rfl, by rw [← service]; exact fun asked => asked⟩
  exact ⟨rests.stage, queues.1 ▸ rests.ordered, fun asked => rests.unasked (queues.2 asked), rests.heard⟩

theorem AtRest.call (rests : system.AtRest) (reachable : Reachable system) {call : Memory.Call}
    (allowed : system.Allows call) :
    ∃ after, Reachable after ∧ after.AtRest ∧ after.memory = call.after system.memory := by
  have sound := reachable.sound
  have beside (permitted : system.Permits call) :
      ∃ after, Reachable after ∧ after.AtRest ∧ after.memory = call.after system.memory :=
    ⟨_, reachable.step (.call call permitted), rests.aside (Aside.call sound call permitted), rfl⟩
  cases call with
  | freeLater id indices =>
      exact ⟨_, reachable.step (.freeLater allowed), rests.freeLater sound allowed, rfl⟩
  | settle =>
      obtain ⟨after, run, rested, left⟩ := rests.settle_run sound
      exact ⟨after, run.reachable reachable, rested, left⟩
  | stopService =>
      obtain ⟨after, run, rested, -, left⟩ := rests.stopService_run sound
      exact ⟨after, run.reachable reachable, rested, left⟩
  | receive message => exact allowed.elim
  | wake wakeup => exact allowed.elim
  | _ => exact beside allowed

/-- Memory as a careful program with one thread can leave it. -/
inductive Managed : Memory → Prop where
  | make {config : MemoryConfig} {memory : Memory} (made : Memory.make config = .ok memory) :
      Managed memory
  | call {memory : Memory} (managed : Managed memory) {call : Memory.Call}
      (allowed : Allows { memory } call) : Managed (call.after memory)

theorem Managed.reachable (managed : Managed memory) :
    ∃ system, Reachable system ∧ system.AtRest ∧ system.memory = memory := by
  induction managed with
  | @make config memory made =>
      have started : Reachable { memory } := .start made
      refine ⟨_, started, ?_, rfl⟩
      obtain ⟨arena, -, same⟩ := bind_eq_ok.mp made
      cases same
      exact ⟨.inl rfl, .nil, by simp, by simp⟩
  | call _ allowed before =>
      obtain ⟨system, reachable, rests, rfl⟩ := before
      exact rests.call reachable (rests.allows allowed)

/-- Once the service of a careful program has stopped, no record waits for it, whenever it was freed. -/
theorem Managed.pending_of_stopped (managed : Managed memory)
    (stopped : memory.service.isRunning = false) {id : WindowId} {window : Window}
    (found : memory.windows.get? id = some window) : window.pending = {} := by
  obtain ⟨system, reachable, rests, rfl⟩ := managed.reachable
  have exited : system.stage = .exited := by
    by_contra stays
    simp [FreeingService.isRunning, reachable.sound.running stays] at stopped
  have returned := reachable.sound.returned_of_exited exited found (rests.heard id)
  exact (reachable.sound.tended id window found).shaped.eq_empty returned.1

theorem Managed.pending_of_stopService (managed : Managed memory) {id : WindowId} {window : Window}
    (found : memory.stopService.windows.get? id = some window) : window.pending = {} := by
  obtain ⟨system, reachable, rests, rfl⟩ := managed.reachable
  obtain ⟨after, run, -, exited, left⟩ := rests.stopService_run reachable.sound
  have stopped : system.memory.stopService.service.isRunning = false := by
    rw [← left]
    simp [FreeingService.isRunning, (run.sound reachable.sound).stopped exited]
  have managed : Managed system.memory.stopService :=
    @Managed.call _ managed .stopService trivial
  exact managed.pending_of_stopped stopped found

end FreeingSystem

end TorusEngine.Paging
