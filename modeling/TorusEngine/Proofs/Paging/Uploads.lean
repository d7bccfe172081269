import TorusEngine.Proofs.Paging.Flushing
import TorusEngine.Proofs.Paging.Runs

/-!
# Flushes hand over what was marked

Whoever writes through a buffer can keep a ledger of the pages that are due: a put enters the pages
that it overlaps, a flush of the buffer strikes them out, and so does the loss of a page, so that a page
that comes back starts anew. After every run of calls on memory, a flush of the arena hands over
exactly the pages that are due, each of them once and whole, and leaves none behind
(`flushes_hand_over_due_pages`). No page is handed over twice in one flush, so a sink that answers as
it likes is a function of the page.
-/

namespace TorusEngine.Paging

/-- What is noted down about a run: what follows from a call on the arena, and what is left when other
calls have added or taken pages. -/
structure Bookkeeping (σ : Type) where
  call : Arena.Call → Arena → σ → σ
  refit : Arena → σ → σ

namespace Bookkeeping

variable {σ : Type} (book : Bookkeeping σ)

def noteCalls : List Arena.Call → Arena → σ → σ
  | [], _, noted => noted
  | call :: rest, arena, noted => noteCalls rest (call.after arena) (book.call call arena noted)

def note (call : Memory.Call) (memory : Memory) (noted : σ) : σ :=
  match call.direct memory with
  | some calls => book.noteCalls calls memory.arena noted
  | none => book.refit (call.after memory).arena noted

def noteAll : List Memory.Call → Memory → σ → σ
  | [], _, noted => noted
  | call :: rest, memory, noted => noteAll rest (call.after memory) (book.note call memory noted)

theorem noteAll_append (first second : List Memory.Call) (memory : Memory) (noted : σ) :
    book.noteAll (first ++ second) memory noted =
      book.noteAll second (Memory.Call.afterAll first memory) (book.noteAll first memory noted) := by
  induction first generalizing memory noted with
  | nil => rfl
  | cons call rest ih => exact ih _ _

end Bookkeeping

abbrev PageLedger := BufferId → Nat → Prop

def PageLedger.keptBy (ledger : PageLedger) (arena : Arena) : PageLedger := fun id page =>
  page < arena.pageCount id ∧ ledger id page

/-- The pages that were written or marked since they came and since their buffer was last flushed. -/
def dueBook : Bookkeeping PageLedger where
  call := fun call arena due => PageLedger.keptBy
    (fun id page => call.Touches arena.pageSize id page ∨ due id page ∧ ¬ call.Flushes id)
    (call.after arena)
  refit := fun arena due => due.keptBy arena

structure HandsOverDue (due : PageLedger) (arena : Arena) (sink : Sink) (handed : List Upload)
    (report : FlushReport) (after : Arena) : Prop where
  once : (handed.map (·.page)).Nodup
  due : ∀ physical, physical ∈ handed.map (·.page) ↔
    ∃ id page, due id page ∧ arena.physicalPage? id page = some physical
  whole : ∀ upload ∈ handed, upload.offset = upload.page * arena.pageSize ∧
    upload.bytes = arena.store.read upload.offset arena.pageSize
  uploads : report.uploads = handed.filter fun upload => (sink upload.page).isNone
  failures : report.failures = handed.filterMap fun upload =>
    (sink upload.page).map fun reason => ⟨upload.page, reason⟩
  counted : report.uploads.length + report.failures.length = handed.length
  visited : report.visited = arena.buffers.size
  clean : ∀ id buffer, after.buffers.get? id = some buffer → buffer.staleCount = 0
  again : ∀ next, ∃ left, Arena.flush next after = .ok { visited := arena.buffers.size } left

/-! ## Windows add or take pages -/

namespace Hosted

def Adds (hosted after : Hosted) : Prop := hosted.arena.WellFormed →
  after.arena.WellFormed ∧ Arena.Adds hosted.arena after.arena

instance : Std.Refl Adds := ⟨fun hosted arena => ⟨arena, Std.Refl.refl hosted.arena⟩⟩

instance : Trans Adds Adds Adds where
  trans := by
    intro hosted middle after first second arena
    obtain ⟨middleArena, added⟩ := first arena
    obtain ⟨afterArena, more⟩ := second middleArena
    exact ⟨afterArena, Trans.trans added more⟩

theorem onPool_adds {α : Type} (action : Action IndexPool α) :
    Action.Respects Adds (onPool action) := by
  intro hosted arena
  rw [after_onPool]
  exact ⟨arena, Std.Refl.refl hosted.arena⟩

theorem fitBuffer_adds : Action.Respects Adds fitBuffer := by
  intro hosted
  rcases after_fitBuffer hosted with same | ⟨size, needed, sized, short, resized⟩
  · rw [same]
    exact Std.Refl.refl hosted
  · rw [resized]
    intro arena
    obtain ⟨buffer, live, rfl⟩ := Arena.live_of_sizeInBytes arena sized
    exact ⟨Arena.resize_wellFormed arena _ needed, Arena.resize_adds arena short⟩

theorem tryCreate_adds : Action.Respects Adds tryCreate :=
  tryCreate_respects (onPool_adds _) (fun _ => onPool_adds _) (fun _ => onPool_adds _) fitBuffer_adds

theorem Call.after_refits (call : Hosted.Call) {hosted : Hosted} (arena : hosted.arena.WellFormed)
    (pool : hosted.window.pool.WellFormed) : Arena.Refits hosted.arena (call.after hosted).arena := by
  by_cases compacts : call = compact
  · subst compacts
    have left : after compact hosted = Action.after Hosted.compact hosted := Action.after_map _ _ _
    have unchanged : Arena.Adds hosted.arena hosted.arena := Std.Refl.refl hosted.arena
    rw [left]
    obtain ⟨pool, -, same | resized⟩ := after_compact pool
    · rw [same]
      exact unchanged.toRefits
    · rw [resized]
      exact Arena.resize_refits arena _ _
  · have adds : Adds hosted (call.after hosted) := call.respects tryCreate_adds
      (fun _ => onPool_adds _) (fun same => absurd same compacts) hosted
    exact (adds arena).2.toRefits

end Hosted

namespace Memory

theorem Call.afterAll_cons (call : Call) (rest : List Call) (memory : Memory) :
    afterAll (call :: rest) memory = afterAll rest (call.after memory) := rfl

theorem Call.afterAll_append (first second : List Call) (memory : Memory) :
    afterAll (first ++ second) memory = afterAll second (afterAll first memory) :=
  List.foldl_append

theorem Call.after_flush (sink : Sink) (memory : Memory) :
    Call.afterAll [.arena (.flush sink)] memory =
      { memory with arena := (Arena.Call.flush sink).after memory.arena } :=
  @after_direct memory (.arena (.flush sink)) [.flush sink] rfl

theorem Call.unmarked_after_flush {memory : Memory} (wellFormed : memory.WellFormed) (sink : Sink)
    (id : BufferId) (page : Nat) :
    ¬ (Call.afterAll [.arena (.flush sink)] memory).arena.Stale id page := by
  rw [after_flush]
  intro stale
  exact ((Arena.Call.flush_marks wellFormed.arena sink).2.stale_cleared_iff.mp stale).2 trivial

theorem slot?_of_make {config : MemoryConfig} {memory : Memory} (made : make config = .ok memory)
    (id : BufferId) (page : Nat) : memory.arena.slot? id page = none := by
  obtain ⟨arena, started, same⟩ := bind_eq_ok.mp made
  cases same
  obtain ⟨-, -, rfl⟩ := Arena.make_ok started
  rfl

theorem Call.after_refits {memory : Memory} (wellFormed : memory.WellFormed) {call : Call}
    (other : call.direct memory = none) : Arena.Refits memory.arena (call.after memory).arena := by
  have unchanged : Arena.Adds memory.arena memory.arena := Std.Refl.refl memory.arena
  have leaves := call.after_leaves wellFormed.arena
  generalize call.after memory = after at *
  cases leaves with
  | direct consists => cases other.symm.trans consists
  | @made name bytes window _ left =>
      subst left
      rw [Arena.Call.after_createBuffer]
      exact (Arena.createBuffer_adds wellFormed.arena name bytes).toRefits
  | dropped => exact unchanged.toRefits
  | @hosted id window found inner =>
      exact @Hosted.Call.after_refits inner ⟨window, memory.arena⟩ wellFormed.arena
        (wellFormed.pools id window found)
  | freed frees =>
      rw [frees.arena]
      exact unchanged.toRefits

theorem Call.pageSize_after {memory : Memory} (wellFormed : memory.WellFormed) (call : Call) :
    (call.after memory).arena.pageSize = memory.arena.pageSize := by
  cases consists : call.direct memory with
  | some calls =>
      rw [after_direct consists]
      exact (Arena.Call.afterAll_continues wellFormed.arena calls).pageSize
  | none => exact (call.after_refits wellFormed consists).pageSize

theorem pageSize_afterAll {memory : Memory} (wellFormed : memory.WellFormed) (calls : List Call) :
    (Call.afterAll calls memory).arena.pageSize = memory.arena.pageSize := by
  induction calls generalizing memory with
  | nil => rfl
  | cons call rest ih =>
      exact (ih (call.after_wellFormed wellFormed)).trans (call.pageSize_after wellFormed)

end Memory

namespace Bookkeeping

variable {σ : Type} {book : Bookkeeping σ} {keeps : σ → Arena → Prop}

theorem noteAll_keeps
    (calls : ∀ {arena noted} call, arena.WellFormed → keeps noted arena →
      keeps (book.call call arena noted) (call.after arena))
    (refits : ∀ {arena after noted}, Arena.Refits arena after → keeps noted arena →
      keeps (book.refit after noted) after)
    {memory : Memory} (wellFormed : memory.WellFormed) {noted : σ} (kept : keeps noted memory.arena)
    (run : List Memory.Call) :
    keeps (book.noteAll run memory noted) (Memory.Call.afterAll run memory).arena := by
  have direct (list : List Arena.Call) {arena : Arena} (arenaWellFormed : arena.WellFormed) {noted : σ}
      (kept : keeps noted arena) :
      keeps (book.noteCalls list arena noted) (Arena.Call.afterAll list arena) := by
    induction list generalizing arena noted with
    | nil => exact kept
    | cons call rest ih =>
        exact ih (call.after_wellFormed arenaWellFormed) (calls call arenaWellFormed kept)
  induction run generalizing memory noted with
  | nil => exact kept
  | cons call rest ih =>
      apply ih (call.after_wellFormed wellFormed)
      unfold note
      cases consists : call.direct memory with
      | some list =>
          rw [Memory.Call.after_direct consists]
          exact direct list wellFormed.arena kept
      | none => exact refits (call.after_refits wellFormed consists) kept

end Bookkeeping

def TellsMarks (due : PageLedger) (arena : Arena) : Prop :=
  ∀ id page, due id page ↔ arena.Stale id page

theorem TellsMarks.noteAll {memory : Memory} (wellFormed : memory.WellFormed) {due : PageLedger}
    (tells : TellsMarks due memory.arena) (run : List Memory.Call) :
    TellsMarks (dueBook.noteAll run memory due) (Memory.Call.afterAll run memory).arena := by
  refine Bookkeeping.noteAll_keeps ?_ ?_ wellFormed tells run
  · intro arena due call arenaWellFormed tells id page
    rw [call.stale_after arenaWellFormed, ← tells id page]
    exact Iff.rfl
  · intro arena after due refits tells id page
    rw [refits.stale_iff, ← tells id page, and_comm]
    exact Iff.rfl

namespace Arena

variable {arena after : Arena} {due : PageLedger} {sink : Sink}

theorem length_handOver (sink : Sink) (handed : List Upload) :
    (FlushReport.handOver {} sink handed).uploads.length +
      (FlushReport.handOver {} sink handed).failures.length = handed.length := by
  induction handed with
  | nil => rfl
  | cons upload rest ih =>
      cases verdict : sink upload.page <;>
        simp [FlushReport.handOver, verdict] at ih ⊢ <;> omega

theorem staleCount_of_clean (clean : ∀ id page, ¬ after.Stale id page) {id : BufferId}
    {buffer : Buffer} (live : after.buffers.get? id = some buffer) : buffer.staleCount = 0 := by
  rw [Buffer.staleCount, List.countP_eq_zero]
  intro entry member marked
  obtain ⟨page, listed⟩ := List.mem_iff_getElem?.mp member
  rw [Array.getElem?_toList] at listed
  exact clean id page ⟨entry, by rw [slot?, live]; exact listed, marked⟩

theorem handed_of_clean (clean : ∀ id page, ¬ after.Stale id page) : after.handed = [] := by
  rw [List.eq_nil_iff_forall_not_mem]
  intro upload member
  obtain ⟨⟨id, page, stale, -⟩, -⟩ := mem_handed_iff.mp member
  exact clean id page stale

theorem flush_handsOverDue (wellFormed : arena.WellFormed) (tells : TellsMarks due arena)
    (sink : Sink) : ∃ report after, flush sink arena = .ok report after ∧
      HandsOverDue due arena sink arena.handed report after := by
  obtain ⟨after, ended, remarked, cleared⟩ := flush_result wellFormed sink
  have clean (id : BufferId) (page : Nat) : ¬ after.Stale id page := fun stale =>
    (cleared.stale_cleared_iff.mp stale).2 trivial
  refine ⟨_, after, ended, ?_⟩
  constructor
  case once => exact handed_nodup wellFormed
  case due =>
    intro physical
    simp only [tells _ _, List.mem_map, mem_handed_iff]
    constructor
    · rintro ⟨upload, ⟨marked, -⟩, rfl⟩
      exact marked
    · rintro ⟨id, page, stale, found⟩
      exact ⟨arena.contents physical, ⟨⟨id, page, stale, found⟩, rfl⟩, rfl⟩
  case whole =>
    intro upload member
    rw [(mem_handed_iff.mp member).2]
    exact ⟨rfl, rfl⟩
  case uploads => exact List.nil_append _
  case failures => exact List.nil_append _
  case counted => exact length_handOver sink arena.handed
  case visited => rfl
  case clean => exact fun id buffer live => staleCount_of_clean clean live
  case again =>
    intro next
    obtain ⟨left, again, -⟩ := flush_result (remarked.wellFormed wellFormed) next
    have same : after.buffers.size = arena.buffers.size := by
      simpa [Dictionary.keys, Dictionary.size] using congrArg List.length remarked.keys
    rw [handed_of_clean clean, FlushReport.handOver_nil, same] at again
    exact ⟨left, again⟩

end Arena

namespace Memory

/-- After every run of calls on memory, a flush hands over the pages that are due, each once and whole,
and a flush after that hands over nothing, whatever the sinks say. -/
theorem flushes_hand_over_due_pages {config : MemoryConfig} {memory : Memory}
    (made : make config = .ok memory) (calls : List Call) (sink : Sink) :
    ∃ handed report after, Arena.flush sink (Call.afterAll calls memory).arena = .ok report after ∧
      HandsOverDue (dueBook.noteAll calls memory fun _ _ => False) (Call.afterAll calls memory).arena
        sink handed report after := by
  have wellFormed := make_wellFormed made
  have nothing : TellsMarks (fun _ _ => False) memory.arena := by
    rintro id page
    refine ⟨False.elim, fun ⟨entry, found, _⟩ => ?_⟩
    cases (slot?_of_make made id page).symm.trans found
  have tells := nothing.noteAll wellFormed calls
  obtain ⟨report, after, ended, hands⟩ :=
    Arena.flush_handsOverDue (afterAll_wellFormed wellFormed calls).arena tells sink
  exact ⟨_, report, after, ended, hands⟩

/-- A put over the end of a page, a buffer that is flushed alone and written again, and a window of
which nobody flushes the page. -/
def strayingWrites : List Call :=
  [.arena (.createBuffer "a" 5), .arena (.put 0 3 [7, 8]), .arena (.flushBuffer (fun _ => none) 0),
    .makeWindow "w" ⟨[⟨"a", .short, 0⟩, ⟨"b", .byte, 2⟩], 3⟩ {}, .window 1 .tryCreate,
    .arena (.put 0 4 [9]), .arena (.put 1 0 [1, 2])]

def lastRefused : Sink := fun page => if page = 2 then some "full" else none

theorem flushes_hand_over_due_pages_strayingWrites :
    make { pageSize := 4, maxPages := 3 } = .ok small ∧
    ((Action.answer (Arena.flush lastRefused) (Call.afterAll strayingWrites small).arena).toOption.map
      fun report => (report.visited, report.uploads, report.failures)) =
        some (2, [⟨1, 4, [9, 0, 0, 0]⟩], [⟨2, "full"⟩]) ∧
    ∃ handed report after,
      Arena.flush lastRefused (Call.afterAll strayingWrites small).arena = .ok report after ∧
      HandsOverDue (dueBook.noteAll strayingWrites small fun _ _ => False)
        (Call.afterAll strayingWrites small).arena lastRefused handed report after := by
  have made : make { pageSize := 4, maxPages := 3 } = .ok small := rfl
  exact ⟨made, by decide +kernel, flushes_hand_over_due_pages made strayingWrites _⟩

end Memory

end TorusEngine.Paging
