import TorusEngine.Proofs.Paging.Uploads

/-!
# Copies of pages

A sink can keep, for each physical page, the bytes of its last upload. As long as it takes every page,
what it keeps of a page that is not marked is what the arena has there, provided the page was written
since it came to its buffer (`Copied.Agrees.noteAll`). A page that came and was not written is another
matter: the mark that it had in a former buffer is gone, and what is kept of it may be older still.

The argument needs that pages have one owner. Bytes change by puts, and a put marks the pages of its
own buffer; no other table leads to the same bytes.
-/

namespace TorusEngine.Paging

/-! ## What a sink keeps -/

abbrev PageCopies := Nat → Option (List UInt8)

namespace PageCopies

def take (copies : PageCopies) (uploads : List Upload) : PageCopies :=
  uploads.foldl (fun copies upload => Function.update copies upload.page (some upload.bytes)) copies

theorem take_of_mem {copies : PageCopies} {uploads : List Upload} {physical : Nat}
    {bytes : List UInt8} (whole : ∀ upload ∈ uploads, upload.page = physical → upload.bytes = bytes)
    (uploaded : copies physical = some bytes ∨ ∃ upload ∈ uploads, upload.page = physical) :
    copies.take uploads physical = some bytes := by
  induction uploads generalizing copies with
  | nil =>
      obtain kept | ⟨upload, ⟨⟩, -⟩ := uploaded
      exact kept
  | cons upload rest ih =>
      rw [take, List.foldl_cons, ← take]
      apply ih fun other member => whole other (List.mem_cons_of_mem _ member)
      by_cases here : upload.page = physical
      · subst here
        exact .inl (by rw [Function.update_self, whole upload List.mem_cons_self rfl])
      · rw [Function.update_of_ne (Ne.symm here)]
        obtain kept | ⟨other, member, there⟩ := uploaded
        · exact .inl kept
        · obtain rfl | member := List.mem_cons.mp member
          · exact absurd there here
          · exact .inr ⟨other, member, there⟩

end PageCopies

namespace FlushReport

theorem uploads_of_unfailing {report : FlushReport} {sink : Sink} {handed : List Upload}
    (unfailing : (report.handOver sink handed).failures = []) :
    (report.handOver sink handed).uploads = report.uploads ++ handed := by
  have none : ∀ upload ∈ handed, (sink upload.page).isNone = true := by
    have failures := (List.append_eq_nil_iff.mp unfailing).2
    intro upload member
    have taken := List.filterMap_eq_nil_iff.mp failures upload member
    simpa using taken
  rw [handOver, List.filter_eq_self.mpr none]

end FlushReport

namespace Arena

variable {arena after : Arena} {id other : BufferId} {page physical : Nat}

/-! ## What a call reports -/

def Call.report (arena : Arena) : Call → FlushReport
  | flush sink => (Action.answer (Arena.flush sink) arena).toOption.getD {}
  | flushBuffer sink id => (Action.answer (Arena.flushBuffer sink {} id) arena).toOption.getD {}
  | _ => {}

/-- Every upload of a call carries the contents of its page, and a flush that takes every page uploads
the marked ones. -/
structure ReportsContents (arena : Arena) (flushes : BufferId → Prop) (report : FlushReport) :
    Prop where
  whole : ∀ upload ∈ report.uploads, upload = arena.contents upload.page
  marked : report.failures = [] → ∀ id page physical, flushes id → arena.Stale id page →
    arena.physicalPage? id page = some physical → arena.contents physical ∈ report.uploads

theorem reportsContents_handOver {flushes : BufferId → Prop} {visited : Nat} {sink : Sink}
    {handed : List Upload} (whole : ∀ upload ∈ handed, upload = arena.contents upload.page)
    (marked : ∀ id page physical, flushes id → arena.Stale id page →
      arena.physicalPage? id page = some physical → arena.contents physical ∈ handed) :
    ReportsContents arena flushes (FlushReport.handOver { visited } sink handed) where
  whole := fun upload member => whole upload (List.mem_of_mem_filter member)
  marked := by
    intro unfailing id page physical flushed stale owned
    rw [FlushReport.uploads_of_unfailing unfailing]
    exact marked id page physical flushed stale owned

theorem Call.reportsContents (wellFormed : arena.WellFormed) (call : Call) :
    ReportsContents arena call.Flushes (call.report arena) := by
  have nothing {report : FlushReport} {flushes : BufferId → Prop} (none : report.uploads = [])
      (never : ∀ id page, flushes id → ¬ arena.Stale id page) :
      ReportsContents arena flushes report := by
    constructor
    · intro upload member
      rw [none] at member
      cases member
    · exact fun _ id page _ flushed stale => absurd stale (never id page flushed)
  cases call with
  | flush sink =>
      obtain ⟨after, ended, -⟩ := flush_result wellFormed sink
      simp only [report, Action.answer, Action.outcome, ended, Except.toOption, Option.getD_some]
      refine reportsContents_handOver (fun upload member => (mem_handed_iff.mp member).2) ?_
      exact fun id page physical _ stale owned => mem_handed_iff.mpr ⟨⟨id, page, stale, owned⟩, rfl⟩
  | flushBuffer sink target =>
      cases live : arena.buffers.get? target with
      | some buffer =>
          obtain ⟨after, ended, -⟩ := flushBuffer_result wellFormed sink {} live
          simp only [report, Action.answer, Action.outcome, ended, Except.toOption, Option.getD_some]
          apply reportsContents_handOver
          · intro upload member
            obtain ⟨page, -, offered⟩ := List.mem_flatMap.mp member
            exact (mem_offer_iff.mp offered).2.2
          · rintro _ page physical rfl stale owned
            exact List.mem_flatMap.mpr ⟨page, List.mem_range.mpr stale.lt_pageCount,
              mem_offer_iff.mpr ⟨stale, owned, rfl⟩⟩
      | none =>
          apply nothing
          · simp [report, Action.answer, Action.outcome, Arena.flushBuffer, sizeInPages_of_missing live,
              Except.toOption]
          · rintro id page rfl ⟨entry, found, -⟩
            simp [slot?, live] at found
  | _ => exact nothing rfl fun id page flushed => flushed.elim

/-! ## What a call leaves of a page -/

theorem SameTables.physicalPage? (same : SameTables arena after) (id : BufferId) (page : Nat) :
    after.physicalPage? id page = arena.physicalPage? id page := by
  rw [Arena.physicalPage?, Arena.physicalPage?, same.tables]

theorem Call.after_kinds (wellFormed : arena.WellFormed) (call : Call) :
    Refits arena (call.after arena) ∨ Remarked arena (call.after arena) ∨
      ∃ id address data, call = .put id address data := by
  cases call with
  | createBuffer name bytes =>
      rw [after_createBuffer]
      exact .inl (createBuffer_adds wellFormed name bytes).toRefits
  | resize target bytes => exact .inl (resize_refits wellFormed target bytes)
  | dropBuffer target => exact .inl (dropBuffer_refits wellFormed target)
  | put target address data => exact .inr (.inr ⟨target, address, data, rfl⟩)
  | read target address length =>
      rw [after_read]
      exact .inr (.inl (Std.Refl.refl arena))
  | markStale target address => exact .inr (.inl (markStale_remarked target address arena))
  | flushBuffer sink target => exact .inr (.inl (after_flushBuffer sink target arena))
  | flush sink => exact .inr (.inl (after_flush sink arena))

theorem Call.physicalPage?_after (wellFormed : arena.WellFormed) (call : Call)
    (inside : page < arena.pageCount id) (still : page < (call.after arena).pageCount id) :
    (call.after arena).physicalPage? id page = arena.physicalPage? id page := by
  obtain refits | remarked | ⟨target, address, data, rfl⟩ := call.after_kinds wellFormed
  · exact refits.physicalPage? inside still
  · exact remarked.physicalPage? id page
  · exact (put_sameTables target address data arena).physicalPage? id page

theorem contents_congr (pageSize : after.pageSize = arena.pageSize) (store : after.store = arena.store)
    (physical : Nat) : after.contents physical = arena.contents physical := by
  rw [contents, contents, pageSize, store]

theorem contents_put (wellFormed : arena.WellFormed) (id : BufferId) (address : Nat)
    (data : List UInt8) (owned : arena.physicalPage? other page = some physical)
    (apart : ¬ (other = id ∧ Overlaps arena.pageSize address data.length page)) :
    (Action.after (put id address data) arena).contents physical = arena.contents physical := by
  have positive := wellFormed.pageSize_pos
  have same := put_sameTables id address data arena
  have start : page * arena.pageSize / arena.pageSize = page := Nat.mul_div_cancel _ positive
  have placed : arena.place? other (page * arena.pageSize) = some (physical * arena.pageSize) := by
    simp [place?, start, owned]
  have room : arena.pageSize ≤ arena.room (page * arena.pageSize) := by simp [Arena.room]
  -- The contents of an owned page are the bytes at its logical addresses, where the put is known.
  have bytes : (Action.after (put id address data) arena).bytesFrom other (page * arena.pageSize)
      arena.pageSize = arena.bytesFrom other (page * arena.pageSize) arena.pageSize := by
    apply bytesFrom_congr
    intro target reached early
    have here : target / arena.pageSize = page :=
      Nat.div_eq_of_lt_le reached (by rwa [Nat.succ_mul])
    rw [byteAt?_put wellFormed]
    split
    · rename_i equal
      have missed : overlay address data target = none := by
        rw [overlay_eq_none_iff]
        by_contra covered
        exact apart ⟨equal, target, by omega, by omega, here⟩
      rw [missed]
      exact Option.map_id'
    · exact Option.map_id'
  have left := @bytesFrom_on_page (Action.after (put id address data) arena) (same.pageSize ▸ positive)
    other _ _ ((same.place? other _).trans placed) arena.pageSize
    (by rw [Arena.room, same.pageSize]; exact room)
  rw [bytes, bytesFrom_on_page positive placed room] at left
  rw [contents, contents, same.pageSize, left]

theorem Call.contents_after (wellFormed : arena.WellFormed) (call : Call)
    (owned : arena.physicalPage? id page = some physical)
    (untouched : ¬ call.Touches arena.pageSize id page) :
    (call.after arena).contents physical = arena.contents physical := by
  obtain refits | remarked | ⟨target, address, data, rfl⟩ := call.after_kinds wellFormed
  · exact contents_congr refits.pageSize refits.store physical
  · exact contents_congr remarked.pageSize remarked.store physical
  · exact contents_put wellFormed target address data owned untouched

def Call.Puts (pageSize : Nat) : Call → BufferId → Nat → Prop
  | put id address data, other, page => other = id ∧ Overlaps pageSize address data.length page
  | _, _, _ => False

theorem Call.touches_of_puts {call : Call} {pageSize : Nat} (puts : call.Puts pageSize id page) :
    call.Touches pageSize id page := by
  cases call with
  | put => exact puts
  | _ => exact puts.elim

end Arena

/-! ## Copies along a run -/

/-- The pages that were written since they came, what a sink has kept, and the uploads that failed. -/
structure Copied where
  written : PageLedger := fun _ _ => False
  copies : PageCopies := fun _ => none
  failures : List UploadFailure := []

def copyBook : Bookkeeping Copied where
  call := fun call arena noted => {
    written := PageLedger.keptBy
      (fun id page => call.Puts arena.pageSize id page ∨ noted.written id page) (call.after arena)
    copies := noted.copies.take (call.report arena).uploads
    failures := noted.failures ++ (call.report arena).failures }
  refit := fun arena noted => { noted with written := noted.written.keptBy arena }

namespace Copied

/-- Unless an upload failed, what is kept of a page that was written and is not marked is what the page
holds. -/
structure Agrees (noted : Copied) (arena : Arena) : Prop where
  within : ∀ id page, noted.written id page → page < arena.pageCount id
  copies : noted.failures = [] → ∀ id page physical, noted.written id page → ¬ arena.Stale id page →
    arena.physicalPage? id page = some physical →
      noted.copies physical = some (arena.contents physical).bytes

variable {arena after : Arena} {noted : Copied}

theorem Agrees.refit (agrees : noted.Agrees arena) (refits : Arena.Refits arena after) :
    (copyBook.refit after noted).Agrees after where
  within := fun id page kept => kept.1
  copies := by
    rintro unfailing id page physical ⟨still, written⟩ unmarked owned
    have inside := agrees.within id page written
    rw [refits.physicalPage? inside still] at owned
    have before : ¬ arena.Stale id page := fun stale => unmarked (refits.stale_iff.mpr ⟨stale, still⟩)
    rw [Arena.contents_congr refits.pageSize refits.store]
    exact agrees.copies unfailing id page physical written before owned

theorem Agrees.call (agrees : noted.Agrees arena) (wellFormed : arena.WellFormed) (call : Arena.Call) :
    (copyBook.call call arena noted).Agrees (call.after arena) where
  within := fun id page kept => kept.1
  copies := by
    rintro unfailing id page physical ⟨still, either⟩ unmarked owned
    obtain ⟨before, unfailingNow⟩ := List.append_eq_nil_iff.mp unfailing
    obtain ⟨whole, flushed⟩ := call.reportsContents wellFormed
    -- The page was neither put nor marked just now, so it was written before and has kept its bytes.
    rw [call.stale_after wellFormed, not_and] at unmarked
    obtain ⟨untouched, cleared⟩ := not_or.mp (unmarked still)
    have written : noted.written id page :=
      either.resolve_left fun puts => untouched (Arena.Call.touches_of_puts puts)
    have inside := agrees.within id page written
    rw [call.physicalPage?_after wellFormed inside still] at owned
    rw [call.contents_after wellFormed owned untouched]
    refine PageCopies.take_of_mem (fun upload member same => ?_) ?_
    · rw [whole upload member, same]
    · by_cases stale : arena.Stale id page
      · have flushes : call.Flushes id := by
          by_contra kept
          exact cleared ⟨stale, kept⟩
        exact .inr ⟨_, flushed unfailingNow id page physical flushes stale owned, rfl⟩
      · exact .inl (agrees.copies before id page physical written stale owned)

theorem Agrees.noteAll {memory : Memory} (wellFormed : memory.WellFormed)
    (agrees : noted.Agrees memory.arena) (run : List Memory.Call) :
    (copyBook.noteAll run memory noted).Agrees (Memory.Call.afterAll run memory).arena :=
  Bookkeeping.noteAll_keeps (fun call wellFormed agrees => agrees.call wellFormed call)
    (fun refits agrees => agrees.refit refits) wellFormed agrees run

theorem agrees_new (arena : Arena) : ({} : Copied).Agrees arena where
  within := fun _ _ written => written.elim
  copies := fun _ _ _ _ written => written.elim

/-! ## What stays written -/

section Written

variable {memory : Memory} {id : BufferId} {page : Nat}

theorem written_call {call : Arena.Call} (still : page < (call.after arena).pageCount id)
    (either : call.Puts arena.pageSize id page ∨ noted.written id page) :
    (copyBook.call call arena noted).written id page := ⟨still, either⟩

theorem written_noteCalls (wellFormed : arena.WellFormed) (used : id < arena.nextBuffer)
    {calls : List Arena.Call} (spared : ∀ call ∈ calls, call.Spares id)
    (inside : page < arena.pageCount id)
    (either : (∃ call ∈ calls, call.Puts arena.pageSize id page) ∨ noted.written id page) :
    (copyBook.noteCalls calls arena noted).written id page := by
  induction calls generalizing arena noted with
  | nil =>
      obtain ⟨call, ⟨⟩, -⟩ | written := either
      exact written
  | cons call rest ih =>
      have tables := Arena.Call.tables_after wellFormed (spared call List.mem_cons_self) used
      have continues := call.after_continues wellFormed
      have still : page < (call.after arena).pageCount id := by
        rwa [Arena.pageCount_eq, tables, ← Arena.pageCount_eq]
      apply ih (call.after_wellFormed wellFormed) (used.trans_le continues.nextBuffer)
        (fun other member => spared other (List.mem_cons_of_mem _ member)) still
      rw [continues.pageSize]
      obtain ⟨other, member, puts⟩ | written := either
      · obtain rfl | member := List.mem_cons.mp member
        · exact .inr (written_call still (.inl puts))
        · exact .inl ⟨other, member, puts⟩
      · exact .inr (written_call still (.inr written))

theorem written_note_direct (wellFormed : memory.WellFormed) (used : id < memory.arena.nextBuffer)
    {call : Memory.Call} {calls : List Arena.Call} (consists : call.direct memory = some calls)
    (spared : call.Spares id) (inside : page < memory.arena.pageCount id)
    (either : (∃ call ∈ calls, call.Puts memory.arena.pageSize id page) ∨ noted.written id page) :
    (copyBook.note call memory noted).written id page := by
  rw [Bookkeeping.note, consists]
  exact written_noteCalls wellFormed.arena used (Memory.Call.direct_spares consists spared) inside
    either

theorem written_note (wellFormed : memory.WellFormed) (used : id < memory.arena.nextBuffer)
    {call : Memory.Call} (spared : call.Spares id) (inside : page < memory.arena.pageCount id)
    (still : page < (call.after memory).arena.pageCount id) (written : noted.written id page) :
    (copyBook.note call memory noted).written id page := by
  cases consists : call.direct memory with
  | some calls => exact written_note_direct wellFormed used consists spared inside (.inr written)
  | none =>
      rw [Bookkeeping.note, consists]
      exact ⟨still, written⟩

theorem pageCount_after_direct (wellFormed : memory.WellFormed) (used : id < memory.arena.nextBuffer)
    {call : Memory.Call} {calls : List Arena.Call} (consists : call.direct memory = some calls)
    (spared : call.Spares id) :
    (call.after memory).arena.pageCount id = memory.arena.pageCount id := by
  rw [Memory.Call.after_direct consists, Arena.pageCount_eq, Arena.pageCount_eq,
    Arena.Call.tables_afterAll wellFormed.arena used (Memory.Call.direct_spares consists spared)]

end Written

end Copied

end TorusEngine.Paging
