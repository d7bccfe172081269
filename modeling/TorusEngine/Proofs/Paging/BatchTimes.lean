import TorusEngine.Proofs.Paging.Account

/-!
# Wakeups and deadlines of a batch

A window asks the service for a wakeup only when the deadline of its batch moves before every wakeup that
it knows of. The first call of a batch sets the deadline to its latest, so only the second one can move it
forward; from then on the deadline can only rise, since the clock does. What the service does with its
wakeups, early or stray, moves the mark onto the deadline or ends the batch (`Pending.Handled`), and so
costs no message either.

A history (`Moment`) is any sequence of calls on memory and of looks that the service takes at a window,
with whatever time the service believes it to be. `Batch` notes what became of the batch of one window.
-/

namespace TorusEngine.Paging

namespace Pending

inductive Handled (pending : Pending) : Pending → Prop where
  | same : Handled pending pending
  | marked {deadline : Nat} (pends : pending.deadline = some deadline) :
      Handled pending { pending with scheduled := some deadline }
  | released : Handled pending {}

theorem takeDue_handled (pending : Pending) (now : Nat) :
    pending.Handled (pending.takeDue now).2 := by
  unfold takeDue
  split
  · exact .same
  · rename_i deadline pends
    split
    · exact .marked pends
    · exact .released

theorem Handled.trans {pending middle after : Pending} (first : pending.Handled middle)
    (second : middle.Handled after) : pending.Handled after := by
  cases second with
  | same => exact first
  | released => exact .released
  | marked pends =>
      cases first with
      | same => exact .marked pends
      | marked before =>
          cases before.symm.trans pends
          exact .marked before
      | released => cases pends

theorem Handled.deadline {pending after : Pending} (handled : pending.Handled after)
    (pends : after.indices ≠ []) : after.deadline = pending.deadline := by
  cases handled with
  | same => rfl
  | marked due => exact due.symm ▸ rfl
  | released => exact absurd rfl pends

theorem Handled.eq_empty {after : Pending} (handled : Handled {} after) : after = {} := by
  cases handled with
  | same | released => rfl
  | marked pends => cases pends

end Pending

namespace Memory

variable {memory after : Memory} {id : WindowId} {window : Window}

/-! ## What is left of a window -/

structure Handles (memory after : Memory) : Prop where
  clock : memory.clock ≤ after.clock
  inbox : after.service.inbox = memory.service.inbox ∨ after.service.inbox = []
  windows : ∀ id changed, after.windows.get? id = some changed → ∃ window,
    memory.windows.get? id = some window ∧ changed.minDelay = window.minDelay ∧
      changed.maxDelay = window.maxDelay ∧ window.pending.Handled changed.pending

theorem Handles.of_sameWindows (clock : memory.clock ≤ after.clock)
    (inbox : after.service.inbox = memory.service.inbox ∨ after.service.inbox = [])
    (same : after.windows = memory.windows) : memory.Handles after :=
  ⟨clock, inbox, fun _ window found => ⟨window, same ▸ found, rfl, rfl, .same⟩⟩

theorem Handles.refl (memory : Memory) : memory.Handles memory :=
  of_sameWindows (Nat.le_refl _) (.inl rfl) rfl

theorem Handles.trans {middle : Memory} (first : memory.Handles middle)
    (second : middle.Handles after) : memory.Handles after where
  clock := Nat.le_trans first.clock second.clock
  inbox := second.inbox.elim (fun same => first.inbox.imp same.trans same.trans) .inr
  windows := by
    intro id changed found
    obtain ⟨between, foundBetween, minSame, maxSame, later⟩ := second.windows id changed found
    obtain ⟨window, foundFirst, minBefore, maxBefore, sooner⟩ :=
      first.windows id between foundBetween
    exact ⟨window, foundFirst, minSame.trans minBefore, maxSame.trans maxBefore, sooner.trans later⟩

theorem Handles.changeWindow {change : Window → Window}
    (keeps : ∀ window, memory.windows.get? id = some window →
      (change window).minDelay = window.minDelay ∧ (change window).maxDelay = window.maxDelay ∧
        window.pending.Handled (change window).pending) :
    memory.Handles (memory.changeWindow id change) := by
  refine ⟨Nat.le_refl _, .inl rfl, fun other changed found => ?_⟩
  rw [Memory.changeWindow, Dictionary.get?_modify] at found
  split at found
  · rename_i same
    subst same
    obtain ⟨window, present, rfl⟩ := Option.map_eq_some_iff.mp found
    exact ⟨window, present, keeps window present⟩
  · exact ⟨changed, found, rfl, rfl, .same⟩

theorem Handles.putHosted {hosted : Hosted} (found : memory.windows.get? id = some window)
    (keeps : ∃ pool, hosted.window = { window with pool }) :
    memory.Handles (memory.putHosted id hosted) := by
  obtain ⟨pool, same⟩ := keeps
  refine ⟨Nat.le_refl _, .inl rfl, fun other changed foundAfter => ?_⟩
  rw [get?_putHosted] at foundAfter
  split at foundAfter
  · rename_i equal
    subst equal
    rw [found, Option.map_some, Option.some.injEq, same] at foundAfter
    subst foundAfter
    exact ⟨window, found, rfl, rfl, .same⟩
  · exact ⟨changed, foundAfter, rfl, rfl, .same⟩

theorem onWindow_handles (id : WindowId) (call : Hosted.Call) :
    Action.Respects Handles (onWindow id call.perform) := by
  intro memory
  rw [after_onWindow]
  cases found : memory.windows.get? id with
  | none => exact .refl memory
  | some window => exact .putHosted found (call.after_resizes ⟨window, memory.arena⟩).window

theorem Served.handles (served : memory.Served after) : memory.Handles after := by
  cases served with
  | service inbox => exact .of_sameWindows (Nat.le_refl _) inbox rfl
  | looked found now =>
      refine .changeWindow fun window present => ⟨rfl, rfl, ?_⟩
      cases found.symm.trans present
      exact Pending.takeDue_handled _ now
  | emptied id => exact .changeWindow fun window _ => ⟨rfl, rfl, .released⟩
  | freed id batch => exact onWindow_handles id (.freeMany batch) memory

theorem Serves.handles (serves : memory.Serves after) : memory.Handles after := by
  induction serves with
  | refl => exact .refl memory
  | tail _ last ih => exact ih.trans last.handles

/-! ## Histories -/

/-- The service looks at the batch of a window, at a time that it may have read long ago. -/
def look (memory : Memory) (id : WindowId) (now : Nat) : Memory :=
  match memory.windows.get? id with
  | some window => memory.changeWindow id ({ · with pending := (window.pending.takeDue now).2 })
  | none => memory

inductive Moment where
  | call (call : Call)
  | look (id : WindowId) (now : Nat)

def pending (memory : Memory) (id : WindowId) : Pending :=
  (memory.windows.get? id).elim {} (·.pending)

end Memory

def Message.isFor (id : WindowId) : Message → Bool
  | .schedule window _ => window = id
  | .shutdown => false

/-- What is noted of the batch of a window: when the first call added to it, how many calls have, and how
many wakeups the service was asked for since. -/
structure Batch where
  start : Nat := 0
  frees : Nat := 0
  wakeups : Nat := 0
deriving DecidableEq

def Batch.joined (batch : Batch) (now wakeups : Nat) : Batch where
  start := if batch.frees = 0 then now else batch.start
  frees := batch.frees + 1
  wakeups := batch.wakeups + wakeups

namespace Memory.Moment

def after : Moment → Memory → Memory
  | .call made, memory => made.after memory
  | look id now, memory => memory.look id now

def adds (id : WindowId) : Moment → Bool
  | .call (.freeLater other indices) => other = id && !indices.isEmpty
  | _ => false

def asks (id : WindowId) (moment : Moment) (memory : Memory) : Nat :=
  ((moment.after memory).service.inbox.drop memory.service.inbox.length).countP (·.isFor id)

/-- A batch ends when nothing of it is pending any more. -/
def note (id : WindowId) (moment : Moment) (memory : Memory) (batch : Batch) : Batch :=
  if ((moment.after memory).pending id).indices = [] then {}
  else if moment.adds id then batch.joined memory.clock (moment.asks id memory)
  else { batch with wakeups := batch.wakeups + moment.asks id memory }

def afterAll (id : WindowId) (moments : List Moment) (start : Memory × Batch) : Memory × Batch :=
  moments.foldl (fun now moment => (moment.after now.1, moment.note id now.1 now.2)) start

end Memory.Moment

/-! ## The times of a batch -/

/-- The times of a pending batch, given what is noted of it. While only one call has added to the batch, a
wakeup for its deadline is known; from the second call on, the deadline cannot be past what a call at the
present time would set. -/
inductive Batch.Fits (minDelay maxDelay clock : Nat) : Batch → Pending → Prop where
  | none : Fits minDelay maxDelay clock {} {}
  | begun {indices : List Nat} {start wakeups : Nat} (nonempty : indices ≠ []) (past : start ≤ clock)
      (few : wakeups ≤ 1) : Fits minDelay maxDelay clock ⟨start, 1, wakeups⟩
        ⟨indices, some start, some (start + maxDelay), some (start + maxDelay)⟩
  | joined {indices : List Nat} {start frees wakeups deadline scheduled : Nat}
      (nonempty : indices ≠ []) (past : start ≤ clock) (more : 2 ≤ frees) (few : wakeups ≤ 2)
      (marked : scheduled ≤ deadline) (recent : deadline ≤ clock + minDelay)
      (bounded : deadline ≤ start + maxDelay) : Fits minDelay maxDelay clock ⟨start, frees, wakeups⟩
        ⟨indices, some start, some deadline, some scheduled⟩

namespace Batch.Fits

variable {minDelay maxDelay clock : Nat} {batch : Batch} {pending : Pending}

theorem few (fits : batch.Fits minDelay maxDelay clock pending) : batch.wakeups ≤ 2 := by
  cases fits with
  | none => exact Nat.zero_le _
  | begun _ _ few => exact Nat.le_succ_of_le few
  | joined _ _ _ few => exact few

theorem nonempty (fits : batch.Fits minDelay maxDelay clock pending) (begun : 0 < batch.frees) :
    pending.indices ≠ [] := by
  cases fits with
  | none => exact absurd begun (Nat.lt_irrefl 0)
  | begun nonempty | joined nonempty => exact nonempty

theorem due (fits : batch.Fits minDelay maxDelay clock pending) (begun : 0 < batch.frees) :
    ∃ deadline, pending.deadline = some deadline := by
  cases fits with
  | none => exact absurd begun (Nat.lt_irrefl 0)
  | begun | joined => exact ⟨_, rfl⟩

theorem handled (fits : batch.Fits minDelay maxDelay clock pending) {after : Pending}
    (handled : pending.Handled after) {later : Nat} (passed : clock ≤ later) :
    Fits minDelay maxDelay later (if after.indices = [] then {} else batch) after := by
  cases handled with
  | released => exact .none
  | same =>
      cases fits with
      | none => exact .none
      | begun nonempty past few =>
          rw [if_neg nonempty]
          exact .begun nonempty (Nat.le_trans past passed) few
      | joined nonempty past more few marked recent bounded =>
          rw [if_neg nonempty]
          exact .joined nonempty (by omega) more few marked (by omega) bounded
  | marked pends =>
      cases fits with
      | none => cases pends
      | begun nonempty past few =>
          cases pends
          rw [if_neg nonempty]
          exact .begun nonempty (Nat.le_trans past passed) few
      | joined nonempty past more few marked recent bounded =>
          cases pends
          rw [if_neg nonempty]
          exact .joined nonempty (by omega) more few (Nat.le_refl _) (by omega) bounded

end Batch.Fits

def Batch.nextDeadline (batch : Batch) (minDelay maxDelay now : Nat) : Nat :=
  if batch.frees = 0 then now + maxDelay else min (now + minDelay) (batch.start + maxDelay)

structure Batch.Joins (minDelay maxDelay now : Nat) (batch : Batch) (pending : Pending)
    (result : Pending × Option Nat) : Prop where
  fits : (batch.joined now (result.2.elim 0 fun _ => 1)).Fits minDelay maxDelay now result.1
  deadline : result.1.deadline = some (batch.nextDeadline minDelay maxDelay now)
  rises : 2 ≤ batch.frees → ∃ sooner, pending.deadline = some sooner ∧
    sooner ≤ batch.nextDeadline minDelay maxDelay now

theorem Batch.Fits.park {minDelay maxDelay now : Nat} {batch : Batch} {pending : Pending}
    (fits : batch.Fits minDelay maxDelay now pending) {indices : List Nat} (more : indices ≠ []) :
    batch.Joins minDelay maxDelay now pending (pending.park now minDelay maxDelay indices) := by
  obtain ⟨index, rest, rfl⟩ := List.exists_cons_of_ne_nil more
  cases fits with
  | none => exact ⟨.begun (by simp) (Nat.le_refl _) (Nat.le_refl _), rfl, fun few => absurd few (by simp)⟩
  | @begun present start wakeups nonempty past few =>
      obtain ⟨first, others, rfl⟩ := List.exists_cons_of_ne_nil nonempty
      by_cases known : start + maxDelay ≤ min (now + minDelay) (start + maxDelay)
      · simp only [Pending.park, Pending.deadlineAt, List.isEmpty_cons, Option.any_some, known,
          decide_true, if_true, Bool.false_eq_true, if_false]
        exact ⟨.joined (by simp) past (Nat.le_refl _) (by simp; omega) known (Nat.min_le_left _ _)
          (Nat.min_le_right _ _), rfl, fun twice => absurd twice (by simp)⟩
      · simp only [Pending.park, Pending.deadlineAt, List.isEmpty_cons, Option.any_some, known,
          decide_false, Bool.false_eq_true, if_false]
        exact ⟨.joined (by simp) past (Nat.le_refl _) (by simp; omega) (Nat.le_refl _)
          (Nat.min_le_left _ _) (Nat.min_le_right _ _), rfl, fun twice => absurd twice (by simp)⟩
  | @joined present start frees wakeups deadline scheduled nonempty past many few marked recent bounded =>
      obtain ⟨first, others, rfl⟩ := List.exists_cons_of_ne_nil nonempty
      have rises : deadline ≤ min (now + minDelay) (start + maxDelay) := Nat.le_min.mpr ⟨recent, bounded⟩
      have known : scheduled ≤ min (now + minDelay) (start + maxDelay) := Nat.le_trans marked rises
      have several : frees ≠ 0 := by omega
      simp only [Pending.park, Pending.deadlineAt, List.isEmpty_cons, Option.any_some, known,
        decide_true, if_true, Bool.false_eq_true, if_false]
      have next : Batch.nextDeadline ⟨start, frees, wakeups⟩ minDelay maxDelay now =
          min (now + minDelay) (start + maxDelay) := if_neg several
      refine ⟨?_, by rw [next], fun _ => ⟨deadline, rfl, next ▸ rises⟩⟩
      simp only [Batch.joined, several, if_false]
      exact .joined (by simp) past (by omega) few known (Nat.min_le_left _ _) (Nat.min_le_right _ _)

namespace Memory

variable {memory after : Memory} {id : WindowId} {window : Window}

/-! ## What a moment does -/

structure Keeps (id : WindowId) (memory after : Memory) : Prop where
  clock : memory.clock ≤ after.clock
  silent : (after.service.inbox.drop memory.service.inbox.length).countP (·.isFor id) = 0
  window : ∀ changed, after.windows.get? id = some changed →
    (∃ window, memory.windows.get? id = some window ∧ changed.minDelay = window.minDelay ∧
      changed.maxDelay = window.maxDelay ∧ window.pending.Handled changed.pending) ∨
    memory.windows.get? id = none ∧ changed.pending = {}

theorem Handles.keeps (handles : memory.Handles after) (id : WindowId) : Keeps id memory after where
  clock := handles.clock
  silent := by
    obtain same | empty := handles.inbox
    · simp [same]
    · simp [empty]
  window := fun changed found => .inl (handles.windows id changed found)

theorem freeLater_nothing (id : WindowId) (memory : Memory) :
    Action.after (freeLater id []) memory = memory := by
  cases found : memory.windows.get? id with
  | none => exact freeLater_unknown found []
  | some window =>
      have parks := freeLater_parks found []
      rw [show window.pending.park memory.clock window.minDelay window.maxDelay [] =
        (window.pending, none) from rfl] at parks
      generalize Action.after (freeLater id []) memory = after at parks ⊢
      cases parks with
      | kept =>
          have same : memory.windows.modify id ({ · with pending := window.pending }) =
              memory.windows := by
            refine Dictionary.modify_of_same fun present here => ?_
            cases found.symm.trans here
            rfl
          rw [changeWindow, same]

theorem Keeps.thenHandles {middle : Memory} (keeps : Keeps id memory middle)
    (handles : middle.Handles after) : Keeps id memory after where
  clock := Nat.le_trans keeps.clock handles.clock
  silent := by
    obtain same | empty := handles.inbox
    · rw [same]
      exact keeps.silent
    · simp [empty]
  window := by
    intro changed found
    obtain ⟨between, foundBetween, minSame, maxSame, later⟩ := handles.windows id changed found
    obtain ⟨window, foundFirst, minBefore, maxBefore, sooner⟩ | ⟨absent, empty⟩ :=
      keeps.window between foundBetween
    · exact .inl ⟨window, foundFirst, minSame.trans minBefore, maxSame.trans maxBefore,
        sooner.trans later⟩
    · exact .inr ⟨absent, (empty ▸ later).eq_empty⟩

theorem changeOther_keeps {other : WindowId} (different : other ≠ id) (change : Window → Window)
    (memory : Memory) : Keeps id memory (memory.changeWindow other change) where
  clock := Nat.le_refl _
  silent := by simp [changeWindow]
  window := by
    intro changed found
    rw [changeWindow, Dictionary.get?_modify, if_neg different] at found
    exact .inl ⟨changed, found, rfl, rfl, .same⟩

theorem freeLater_keeps {other : WindowId} (different : other ≠ id) (indices : List Nat)
    (memory : Memory) : Keeps id memory (Action.after (freeLater other indices) memory) := by
  cases found : memory.windows.get? other with
  | none =>
      rw [freeLater_unknown found]
      exact (Handles.refl memory).keeps id
  | some window =>
      have parks := freeLater_parks found indices
      generalize window.pending.park _ _ _ _ = result at parks
      generalize Action.after (freeLater other indices) memory = after at parks ⊢
      cases parks with
      | kept => exact changeOther_keeps different _ memory
      | @sent pending deadline runs =>
          have kept := changeOther_keeps different ({ · with pending }) memory
          exact ⟨kept.clock, by simp [Message.isFor, different], kept.window⟩
      | refused stopped =>
          exact (changeOther_keeps different _ memory).thenHandles (onWindow_handles other (.freeMany _) _)

theorem makeWindow_keeps (wellFormed : memory.WellFormed) (name : String) (schema : Schema)
    (config : MemoryConfig) (id : WindowId) :
    Keeps id memory ((Call.makeWindow name schema config).after memory) := by
  rw [Call.after, Call.perform, Action.after_map, Action.after_eq_left]
  unfold Memory.makeWindow Memory.onArena
  rw [Action.bind_apply, Action.within_apply]
  cases made : Window.make name schema config memory.arena with
  | error fault arena =>
      have same : memory.Handles { memory with arena } := .of_sameWindows (Nat.le_refl _) (.inl rfl) rfl
      exact same.keeps id
  | ok window arena =>
      refine ⟨Nat.le_refl _, by simp [Action.modifyGet_apply, Action.left], fun changed here => ?_⟩
      obtain ⟨rfl, rfl⟩ | found := Dictionary.get?_of_insert here
      · refine .inr ⟨?_, Window.make_pending made⟩
        exact Option.eq_none_iff_forall_ne_some.mpr fun old present =>
          Nat.lt_irrefl _ (wellFormed.numbered _ old present)
      · exact .inl ⟨changed, found, rfl, rfl, .same⟩

theorem look_serves (memory : Memory) (id : WindowId) (now : Nat) :
    Serves memory (memory.look id now) := by
  unfold look
  cases found : memory.windows.get? id with
  | none => exact .refl
  | some window => exact .single (.looked found now)

theorem Call.after_handles (call : Call) (memory : Memory) :
    (∃ name schema config, call = .makeWindow name schema config) ∨
      (∃ id indices, call = .freeLater id indices) ∨
      (∀ id, (Moment.call call).adds id = false) ∧ memory.Handles (call.after memory) := by
  have direct : ∀ {calls}, call.direct memory = some calls → memory.Handles (call.after memory) := by
    intro calls consists
    rw [after_direct consists]
    exact .of_sameWindows (Nat.le_refl _) (.inl rfl) rfl
  cases call with
  | makeWindow name schema config => exact .inl ⟨name, schema, config, rfl⟩
  | freeLater id indices => exact .inr (.inl ⟨id, indices, rfl⟩)
  | arena call => exact .inr (.inr ⟨fun _ => rfl, direct rfl⟩)
  | setElement id name type index element word => exact .inr (.inr ⟨fun _ => rfl, direct rfl⟩)
  | setSlice id name type index words => exact .inr (.inr ⟨fun _ => rfl, direct rfl⟩)
  | dropWindow id =>
      refine .inr (.inr ⟨fun _ => rfl, Nat.le_refl _, .inl rfl, fun other window found => ?_⟩)
      exact ⟨window, Dictionary.get?_of_erase found, rfl, rfl, .same⟩
  | window id call => exact .inr (.inr ⟨fun _ => rfl, onWindow_handles id call memory⟩)
  | receive message => exact .inr (.inr ⟨fun _ => rfl, (receive_serves memory message).handles⟩)
  | wake wakeup => exact .inr (.inr ⟨fun _ => rfl, (wake_serves memory wakeup).handles⟩)
  | settle => exact .inr (.inr ⟨fun _ => rfl, (settle_serves memory).handles⟩)
  | stopService => exact .inr (.inr ⟨fun _ => rfl, (stopService_serves memory).handles⟩)
  | advance time =>
      exact .inr (.inr ⟨fun _ => rfl, .of_sameWindows (Nat.le_add_right _ _) (.inl rfl) rfl⟩)

/-! ## What every history keeps -/

structure Notes (memory : Memory) (id : WindowId) (batch : Batch) : Prop where
  wellFormed : memory.WellFormed
  absent : memory.windows.get? id = none → batch = {}
  fits : ∀ window, memory.windows.get? id = some window →
    batch.Fits window.minDelay window.maxDelay memory.clock window.pending

theorem pending_of_found (found : memory.windows.get? id = some window) :
    memory.pending id = window.pending := by
  simp [pending, found]

theorem pending_of_absent (absent : memory.windows.get? id = none) : memory.pending id = {} := by
  simp [pending, absent]

theorem Notes.few {batch : Batch} (notes : memory.Notes id batch) : batch.wakeups ≤ 2 := by
  cases found : memory.windows.get? id with
  | none =>
      rw [notes.absent found]
      exact Nat.zero_le _
  | some window => exact (notes.fits window found).few

namespace Moment

theorem after_wellFormed (moment : Moment) (wellFormed : memory.WellFormed) :
    (moment.after memory).WellFormed := by
  cases moment with
  | call call => exact call.after_wellFormed wellFormed
  | look id now => exact (look_serves memory id now).onlyFrees.wellFormed wellFormed

theorem keeps_or_adds (moment : Moment) (wellFormed : memory.WellFormed) (id : WindowId) :
    ((memory.windows.get? id = none ∨ moment.adds id = false) ∧ Keeps id memory (moment.after memory)) ∨
      ∃ indices window, indices ≠ [] ∧ moment = .call (.freeLater id indices) ∧
        memory.windows.get? id = some window := by
  cases moment with
  | look other now => exact .inl ⟨.inr rfl, (look_serves memory other now).handles.keeps id⟩
  | call call =>
      obtain ⟨name, schema, config, rfl⟩ | ⟨other, indices, rfl⟩ | ⟨silent, handles⟩ :=
        call.after_handles memory
      · exact .inl ⟨.inr rfl, makeWindow_keeps wellFormed name schema config id⟩
      · by_cases different : other ≠ id
        · exact .inl ⟨.inr (by simp [adds, different]), freeLater_keeps different indices memory⟩
        · cases not_ne_iff.mp different
          cases found : memory.windows.get? id with
          | none =>
              have same : after (.call (.freeLater id indices)) memory = memory :=
                freeLater_unknown found indices
              exact .inl ⟨.inl rfl, same.symm ▸ (Handles.refl memory).keeps id⟩
          | some window =>
              cases indices with
              | nil =>
                  have same : after (.call (.freeLater id [])) memory = memory :=
                    freeLater_nothing id memory
                  exact .inl ⟨.inr (by simp [adds]), same.symm ▸ (Handles.refl memory).keeps id⟩
              | cons index rest => exact .inr ⟨index :: rest, window, by simp, rfl, rfl⟩
      · exact .inl ⟨.inr (silent id), handles.keeps id⟩

/-- What adding indices to the batch of a window leaves: what the window has parked, with the message
that it asks for, or nothing, if the service takes no more messages. -/
structure Adds (id : WindowId) (moment : Moment) (memory : Memory) (window : Window)
    (result : Pending × Option Nat) : Prop where
  clock : (moment.after memory).clock = memory.clock
  window : ∃ changed, (moment.after memory).windows.get? id = some changed ∧
    changed.minDelay = window.minDelay ∧ changed.maxDelay = window.maxDelay ∧
    (changed.pending = result.1 ∧ moment.asks id memory = result.2.elim 0 (fun _ => 1) ∨
      memory.service.isRunning = false ∧ changed.pending = {} ∧ moment.asks id memory = 0)

theorem adds_of_found (found : memory.windows.get? id = some window) (indices : List Nat) :
    Adds id (.call (.freeLater id indices)) memory window
      (window.pending.park memory.clock window.minDelay window.maxDelay indices) := by
  have changes : ∀ pending, (memory.changeWindow id ({ · with pending })).windows.get? id =
      some { window with pending } := by
    intro pending
    rw [get?_changeWindow, if_pos rfl, found, Option.map_some]
  have parks := freeLater_parks found indices
  have left : after (.call (.freeLater id indices)) memory =
      Action.after (freeLater id indices) memory := rfl
  generalize window.pending.park _ _ _ _ = result at parks ⊢
  generalize Action.after (freeLater id indices) memory = reached at parks left
  cases parks with
  | @kept pending =>
      refine ⟨by rw [left]; rfl, { window with pending }, left ▸ changes pending, rfl, rfl, .inl ⟨rfl, ?_⟩⟩
      simp [asks, left, Memory.changeWindow]
  | @sent pending deadline runs =>
      refine ⟨by rw [left]; rfl, { window with pending }, left ▸ changes pending, rfl, rfl, .inl ⟨rfl, ?_⟩⟩
      simp [asks, left, Message.isFor]
  | @refused pending deadline stopped =>
      rw [after_onWindow, changes {}] at left
      dsimp only at left
      obtain ⟨pool, same⟩ := ((Hosted.Call.freeMany pending.indices).after_resizes
        ⟨{ window with pending := {} }, memory.arena⟩).window
      refine ⟨by rw [left]; rfl, { window with pool, pending := {} }, ?_, rfl, rfl,
        .inr ⟨stopped, rfl, by simp [asks, left, putHosted, Memory.changeWindow]⟩⟩
      rw [left, get?_putHosted, if_pos rfl, changes {}]
      exact congrArg some same

theorem note_of_keeps {moment : Moment} {batch : Batch} (silent : moment.asks id memory = 0)
    (nothing : moment.adds id = false) : moment.note id memory batch =
      if ((moment.after memory).pending id).indices = [] then {} else batch := by
  simp [note, silent, nothing]

theorem keeps_notes {moment : Moment} {batch : Batch} (notes : memory.Notes id batch)
    (keeps : Keeps id memory (moment.after memory))
    (nothing : memory.windows.get? id = none ∨ moment.adds id = false) :
    (moment.after memory).Notes id (moment.note id memory batch) where
  wellFormed := moment.after_wellFormed notes.wellFormed
  absent := fun gone => if_pos (congrArg Pending.indices (pending_of_absent gone))
  fits := by
    intro changed here
    obtain ⟨window, found, minSame, maxSame, handled⟩ | ⟨absent, empty⟩ := keeps.window changed here
    · have nothing := nothing.resolve_left (by simp [found])
      rw [note_of_keeps keeps.silent nothing, pending_of_found here, minSame, maxSame]
      exact (notes.fits window found).handled handled keeps.clock
    · have ended : moment.note id memory batch = {} :=
        if_pos (by rw [pending_of_found here, empty])
      rw [ended, empty]
      exact .none

/-- The step of the induction for a call that adds to the batch: where the batch stays pending, its notes
and its times are those of `Batch.Joins`. -/
theorem adds_notes {moment : Moment} {batch : Batch} {indices : List Nat}
    (notes : memory.Notes id batch) (found : memory.windows.get? id = some window)
    (more : indices ≠ []) (freed : moment = .call (.freeLater id indices)) :
    (moment.after memory).Notes id (moment.note id memory batch) where
  wellFormed := moment.after_wellFormed notes.wellFormed
  absent := fun gone => if_pos (congrArg Pending.indices (pending_of_absent gone))
  fits := by
    intro changed here
    subst freed
    have joins := (notes.fits window found).park more
    have adds := adds_of_found found indices
    generalize window.pending.park _ _ _ _ = result at joins adds
    obtain ⟨left, foundAfter, minSame, maxSame, ended⟩ := adds.window
    cases foundAfter.symm.trans here
    rw [minSame, maxSame, adds.clock]
    obtain ⟨same, asked⟩ | ⟨-, empty, -⟩ := ended
    · have pends : ((after (.call (.freeLater id indices)) memory).pending id).indices ≠ [] := by
        rw [pending_of_found here, same]
        exact joins.fits.nonempty (Nat.succ_pos _)
      rw [note, if_neg pends, if_pos (by simp [Moment.adds, more]), asked, same]
      exact joins.fits
    · have served : ((after (.call (.freeLater id indices)) memory).pending id).indices = [] := by
        rw [pending_of_found here, empty]
      rw [note, if_pos served, empty]
      exact .none

theorem after_notes (moment : Moment) {batch : Batch} (notes : memory.Notes id batch) :
    (moment.after memory).Notes id (moment.note id memory batch) := by
  obtain ⟨nothing, keeps⟩ | ⟨indices, window, more, freed, found⟩ :=
    moment.keeps_or_adds notes.wellFormed id
  · exact keeps_notes notes keeps nothing
  · exact adds_notes notes found more freed

theorem afterAll_notes (moments : List Moment) {batch : Batch} (notes : memory.Notes id batch) :
    (afterAll id moments (memory, batch)).1.Notes id (afterAll id moments (memory, batch)).2 := by
  induction moments generalizing memory batch with
  | nil => exact notes
  | cons moment rest ih => exact ih (moment.after_notes notes)

end Moment

theorem make_notes {config : MemoryConfig} (made : make config = .ok memory) (id : WindowId) :
    memory.Notes id {} where
  wellFormed := make_wellFormed made
  absent := fun _ => rfl
  fits := by
    unfold make at made
    obtain ⟨arena, started, same⟩ := bind_eq_ok.mp made
    cases same
    simp

/-! ## Two wakeups, and deadlines that only rise -/

/-- What a moment costs, and what it does to the deadline of a batch that stays pending. -/
structure Timely (id : WindowId) (memory : Memory) (batch : Batch) (moment : Moment) : Prop where
  few : batch.wakeups + moment.asks id memory ≤ 2
  stays : ∀ window, memory.windows.get? id = some window → moment.adds id = true →
    memory.service.isRunning = true → ((moment.after memory).pending id).indices ≠ []
  first : ∀ window, memory.windows.get? id = some window → moment.adds id = true → batch.frees = 0 →
    ((moment.after memory).pending id).indices ≠ [] →
      ((moment.after memory).pending id).deadline = some (memory.clock + window.maxDelay)
  later : ∀ window, memory.windows.get? id = some window → moment.adds id = true → 0 < batch.frees →
    ((moment.after memory).pending id).indices ≠ [] →
      ((moment.after memory).pending id).deadline =
        some (min (memory.clock + window.minDelay) (batch.start + window.maxDelay))
  rises : 2 ≤ batch.frees → ((moment.after memory).pending id).indices ≠ [] →
    ∃ sooner later, (memory.pending id).deadline = some sooner ∧
      ((moment.after memory).pending id).deadline = some later ∧ sooner ≤ later
  nothing : (Call.freeLater id []).after memory = memory

namespace Moment

variable {batch : Batch} {moment : Moment}

theorem keeps_timely (notes : memory.Notes id batch) (keeps : Keeps id memory (moment.after memory))
    (nothing : memory.windows.get? id = none ∨ moment.adds id = false) :
    memory.Timely id batch moment where
  few := by
    have silent : moment.asks id memory = 0 := keeps.silent
    rw [silent]
    exact notes.few
  stays := fun window found adds => absurd nothing (by simp [found, adds])
  first := fun window found adds => absurd nothing (by simp [found, adds])
  later := fun window found adds => absurd nothing (by simp [found, adds])
  rises := by
    intro twice pends
    cases here : (moment.after memory).windows.get? id with
    | none => exact absurd (congrArg Pending.indices (pending_of_absent here)) pends
    | some changed =>
        rw [pending_of_found here] at pends ⊢
        obtain ⟨window, found, -, -, handled⟩ | ⟨-, empty⟩ := keeps.window changed here
        · rw [pending_of_found found]
          obtain ⟨deadline, due⟩ := (notes.fits window found).due (Nat.lt_of_lt_of_le Nat.two_pos twice)
          exact ⟨deadline, deadline, due, (handled.deadline pends).trans due, Nat.le_refl _⟩
        · exact absurd (congrArg Pending.indices empty) pends
  nothing := freeLater_nothing id memory

theorem adds_timely {indices : List Nat} (notes : memory.Notes id batch)
    (found : memory.windows.get? id = some window) (more : indices ≠ [])
    (freed : moment = .call (.freeLater id indices)) : memory.Timely id batch moment := by
  subst freed
  have joins := (notes.fits window found).park more
  have adds := adds_of_found found indices
  generalize window.pending.park _ _ _ _ = result at joins adds
  obtain ⟨changed, here, -, -, ended⟩ := adds.window
  have due (pends : changed.pending.indices ≠ []) : changed.pending.deadline =
      some (batch.nextDeadline window.minDelay window.maxDelay memory.clock) := by
    obtain ⟨same, -⟩ | ⟨-, empty, -⟩ := ended
    · rw [same, joins.deadline]
    · exact absurd (congrArg Pending.indices empty) pends
  constructor
  case few =>
    obtain ⟨-, asked⟩ | ⟨-, -, silent⟩ := ended
    · rw [asked]
      exact joins.fits.few
    · rw [silent]
      exact notes.few
  case stays =>
    intro _ _ _ runs
    rw [pending_of_found here]
    obtain ⟨same, -⟩ | ⟨stopped, -⟩ := ended
    · exact same ▸ joins.fits.nonempty (Nat.succ_pos _)
    · exact absurd runs (by simp [stopped])
  case first =>
    rw [pending_of_found here]
    intro present foundToo _ none pends
    cases found.symm.trans foundToo
    rw [due pends, Batch.nextDeadline, if_pos none]
  case later =>
    rw [pending_of_found here]
    intro present foundToo _ begun pends
    cases found.symm.trans foundToo
    rw [due pends, Batch.nextDeadline, if_neg (Nat.ne_of_gt begun)]
  case rises =>
    rw [pending_of_found here]
    intro twice pends
    obtain ⟨sooner, before, le⟩ := joins.rises twice
    exact ⟨sooner, _, pending_of_found found ▸ before, due pends, le⟩
  case nothing => exact freeLater_nothing id memory

theorem timely (moment : Moment) (notes : memory.Notes id batch) : memory.Timely id batch moment := by
  obtain ⟨nothing, keeps⟩ | ⟨indices, window, more, freed, found⟩ :=
    moment.keeps_or_adds notes.wellFormed id
  · exact keeps_timely notes keeps nothing
  · exact adds_timely notes found more freed

end Moment

/-- In every history, a batch costs the service no more than two messages, from the first index that is
freed later until the batch is released. Its deadline is the longest delay after the first call, then the
shortest delay after the latest one, but never past the former; from the second call on it only rises. -/
theorem batches_cost_two_wakeups {config : MemoryConfig} (made : make config = .ok memory)
    (id : WindowId) (moments : List Moment) (moment : Moment) :
    let now := Moment.afterAll id moments (memory, {})
    Timely id now.1 now.2 moment :=
  moment.timely (Moment.afterAll_notes moments (make_notes made id))

/-- Two calls at once, a third one later, and a look that comes too early. -/
def burst : List Moment :=
  [.call (.makeWindow "w" ⟨[⟨"x", .int, 0⟩], 4⟩ { minFreeDelay := 40, maxFreeDelay := 200 }),
    .call (.window 0 (.createMany 3)), .call (.freeLater 0 [0]), .call (.freeLater 0 [1]),
    .call (.advance 30), .call (.freeLater 0 [2]), .look 0 60]

theorem batches_cost_two_wakeups_burst :
    make { pageSize := 4, maxPages := 3 } = .ok small ∧
    (Moment.afterAll 0 burst (small, {})).2 = ⟨0, 3, 2⟩ ∧
    Timely 0 (Moment.afterAll 0 burst (small, {})).1 ⟨0, 3, 2⟩ (.call .settle) := by
  have made : make { pageSize := 4, maxPages := 3 } = .ok small := rfl
  have noted : (Moment.afterAll 0 burst (small, {})).2 = ⟨0, 3, 2⟩ := by decide +kernel
  refine ⟨made, noted, ?_⟩
  rw [← noted]
  exact batches_cost_two_wakeups made 0 burst (.call .settle)

end Memory

end TorusEngine.Paging
