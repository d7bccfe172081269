import TorusEngine.Proofs.Paging.Marks

/-!
# What a flush hands over

A flush goes through the pages of the live buffers, hands over the marked ones and clears their marks.
What it hands over was there before it began (`flush_result`): the marks are cleared one by one, but no
page is in two tables, so no mark is cleared for another page.
-/

namespace TorusEngine.Paging

namespace FlushReport

def handOver (report : FlushReport) (sink : Sink) (uploads : List Upload) : FlushReport where
  visited := report.visited
  uploads := report.uploads ++ uploads.filter fun upload => (sink upload.page).isNone
  failures := report.failures ++ uploads.filterMap fun upload =>
    (sink upload.page).map fun reason => ⟨upload.page, reason⟩

theorem handOver_nil (report : FlushReport) (sink : Sink) : report.handOver sink [] = report := by
  simp [handOver]

theorem handOver_append (report : FlushReport) (sink : Sink) (first second : List Upload) :
    report.handOver sink (first ++ second) = (report.handOver sink first).handOver sink second := by
  simp [handOver, List.append_assoc]

end FlushReport

namespace Arena

def contents (arena : Arena) (physical : Nat) : Upload :=
  ⟨physical, physical * arena.pageSize,
    arena.store.read (physical * arena.pageSize) arena.pageSize⟩

def offer (arena : Arena) (id : BufferId) (page : Nat) : List Upload :=
  (arena.slot? id page).elim [] fun entry =>
    if entry.stale then [arena.contents entry.physical] else []

def offers (arena : Arena) (id : BufferId) : List Upload :=
  (List.range (arena.pageCount id)).flatMap (arena.offer id)

def handed (arena : Arena) : List Upload := arena.buffers.keys.flatMap arena.offers

variable {arena after : Arena} {sink : Sink} {id : BufferId} {page : Nat}

theorem Remarked.offer_eq (same : Remarked arena after)
    (entry : after.slot? id page = arena.slot? id page) :
    after.offer id page = arena.offer id page := by
  unfold offer contents
  rw [entry, same.store, same.pageSize]

theorem Remarked.offers_eq (same : Remarked arena after)
    (entries : ∀ page, after.slot? id page = arena.slot? id page) :
    after.offers id = arena.offers id := by
  rw [offers, offers, same.pageCount id]
  exact List.flatMap_congr fun page _ => same.offer_eq (entries page)

theorem SameTables.keys (same : SameTables arena after) : after.buffers.keys = arena.buffers.keys := by
  simpa [Arena.tables] using congrArg Dictionary.keys same.tables

theorem get?_of_mem_keys (member : id ∈ arena.buffers.keys) :
    ∃ buffer, arena.buffers.get? id = some buffer := by
  cases live : arena.buffers.get? id with
  | some buffer => exact ⟨buffer, rfl⟩
  | none => exact absurd member (Dictionary.get?_eq_none_iff.mp live)

theorem flushPage_result (wellFormed : arena.WellFormed) (sink : Sink) (report : FlushReport)
    (inside : page < arena.pageCount id) : ∃ after,
    flushPage sink id report page arena = .ok (report.handOver sink (arena.offer id page)) after ∧
      Marks false (fun other item => other = id ∧ item = page) arena after := by
  obtain ⟨entry, found⟩ := lt_pageCount_iff.mp inside
  obtain ⟨buffer, live, listed⟩ := Option.bind_eq_some_iff.mp found
  have owned : arena.physicalPage? id page = some entry.physical := by
    rw [physicalPage?_eq_slot, found, Option.map_some]
  have uploaded := upload_of_owned wellFormed (mem_ownedPages owned)
  cases stale : entry.stale with
  | false =>
      refine ⟨arena, ?_, ?_⟩
      · simp [flushPage, buffer_of_live live, Buffer.entry, listed, stale, offer, found,
          FlushReport.handOver_nil]
      · refine ⟨?_, fun _ _ _ => rfl⟩
        rintro other item ⟨rfl, rfl⟩
        rw [found, Option.map_some, ← stale]
  | true =>
      refine ⟨_, ?_, setStale_marks arena arena.store id page false⟩
      cases verdict : sink entry.physical with
      | none => simp [flushPage, buffer_of_live live, Buffer.entry, listed, stale, changeBuffer,
          uploaded, verdict, offer, found, FlushReport.handOver, contents]
      | some reason => simp [flushPage, buffer_of_live live, Buffer.entry, listed, stale,
          changeBuffer, uploaded, verdict, offer, found, FlushReport.handOver, contents]

theorem flushPages_result (wellFormed : arena.WellFormed) (sink : Sink) (report : FlushReport)
    {pages : List Nat} (distinct : pages.Nodup) (inside : ∀ page ∈ pages, page < arena.pageCount id) :
    ∃ after, pages.foldlM (flushPage sink id) report arena =
        .ok (report.handOver sink (pages.flatMap (arena.offer id))) after ∧
      Remarked arena after ∧ Marks false (fun other item => other = id ∧ item ∈ pages) arena after := by
  induction pages generalizing arena report with
  | nil =>
      refine ⟨arena, ?_, Std.Refl.refl arena, Marks.unchanged ?_⟩
      · rw [List.flatMap_nil, FlushReport.handOver_nil]
        rfl
      · rintro other item entry - ⟨-, member⟩
        cases member
  | cons page rest ih =>
      obtain ⟨fresh, distinct⟩ := List.nodup_cons.mp distinct
      obtain ⟨middle, first, cleared⟩ :=
        flushPage_result wellFormed sink report (inside page List.mem_cons_self)
      have remarked : Remarked arena middle := (flushPage_remarked sink id report page).of_ok first
      obtain ⟨after, others, further, left⟩ := ih (remarked.wellFormed wellFormed)
        (report.handOver sink (arena.offer id page)) distinct fun item member =>
          (remarked.pageCount id).symm ▸ inside item (List.mem_cons_of_mem _ member)
      -- The pages that are still to come have kept their entries.
      have later : rest.flatMap (middle.offer id) = rest.flatMap (arena.offer id) := by
        apply List.flatMap_congr
        intro item member
        refine remarked.offer_eq (cleared.outside id item ?_)
        rintro ⟨-, rfl⟩
        exact fresh member
      refine ⟨after, ?_, Trans.trans remarked further, (cleared.trans left).congr ?_⟩
      · simp only [List.foldlM_cons, Action.bind_apply, first]
        rw [others, later, List.flatMap_cons, FlushReport.handOver_append]
      · intro other item entry _
        rw [← and_or_left, List.mem_cons]

theorem flushBuffer_result (wellFormed : arena.WellFormed) (sink : Sink) (report : FlushReport)
    {buffer : Buffer} (live : arena.buffers.get? id = some buffer) : ∃ after,
    flushBuffer sink report id arena = .ok
        (FlushReport.handOver { report with visited := report.visited + 1 } sink (arena.offers id))
        after ∧
      Remarked arena after ∧ Marks false (fun other _ => other = id) arena after := by
  have count : arena.pageCount id = buffer.table.size := by
    rw [pageCount, live, Option.elim_some]
  obtain ⟨after, ended, remarked, cleared⟩ := flushPages_result wellFormed sink
    { report with visited := report.visited + 1 } (@List.nodup_range (arena.pageCount id))
    fun page member => List.mem_range.mp member
  refine ⟨after, ?_, remarked, cleared.congr ?_⟩
  · rw [count] at ended
    simp only [flushBuffer, Action.bind_apply, Action.get_apply, sizeInPages_of_live live,
      Action.liftM_apply]
    rw [ended, offers, count]
  · intro other page entry found
    refine ⟨fun same => ⟨same, ?_⟩, fun both => both.1⟩
    rw [← same]
    exact List.mem_range.mpr (lt_pageCount_iff.mpr ⟨entry, found⟩)

theorem flushBuffers_result (wellFormed : arena.WellFormed) (sink : Sink) (report : FlushReport)
    {ids : List BufferId} (distinct : ids.Nodup) (live : ∀ id ∈ ids, id ∈ arena.buffers.keys) :
    ∃ after, ids.foldlM (flushBuffer sink) report arena = .ok
        (FlushReport.handOver { report with visited := report.visited + ids.length } sink
          (ids.flatMap arena.offers)) after ∧
      Remarked arena after ∧ Marks false (fun other _ => other ∈ ids) arena after := by
  induction ids generalizing arena report with
  | nil =>
      refine ⟨arena, ?_, Std.Refl.refl arena, Marks.unchanged ?_⟩
      · rw [List.flatMap_nil, FlushReport.handOver_nil]
        rfl
      · rintro other item entry - ⟨⟩
  | cons id rest ih =>
      obtain ⟨fresh, distinct⟩ := List.nodup_cons.mp distinct
      obtain ⟨buffer, found⟩ := get?_of_mem_keys (live id List.mem_cons_self)
      obtain ⟨middle, first, remarked, cleared⟩ := flushBuffer_result wellFormed sink report found
      obtain ⟨after, others, further, left⟩ := ih (remarked.wellFormed wellFormed)
        (FlushReport.handOver { report with visited := report.visited + 1 } sink (arena.offers id))
        distinct fun other member =>
          remarked.keys.symm ▸ live other (List.mem_cons_of_mem _ member)
      -- The buffers that are still to come have kept their entries.
      have later : rest.flatMap middle.offers = rest.flatMap arena.offers := by
        apply List.flatMap_congr
        intro other member
        apply remarked.offers_eq
        intro page
        apply cleared.outside
        rintro rfl
        exact fresh member
      refine ⟨after, ?_, Trans.trans remarked further, (cleared.trans left).congr ?_⟩
      · simp only [List.foldlM_cons, Action.bind_apply, first]
        rw [others, later]
        simp [FlushReport.handOver, Nat.add_right_comm, Nat.add_assoc, List.append_assoc]
      · intro other page entry _
        rw [List.mem_cons]

theorem flush_result (wellFormed : arena.WellFormed) (sink : Sink) : ∃ after,
    flush sink arena = .ok
        (FlushReport.handOver { visited := arena.buffers.size } sink arena.handed) after ∧
      Remarked arena after ∧ Marks false (fun _ _ => True) arena after := by
  obtain ⟨after, ended, remarked, cleared⟩ := flushBuffers_result wellFormed sink {}
    arena.buffers.nodup_keys fun id member => member
  have size : arena.buffers.keys.length = arena.buffers.size := by
    simp [Dictionary.keys, Dictionary.size]
  refine ⟨after, ?_, remarked, cleared.congr ?_⟩
  · rw [← size]
    simpa [flush, handed] using ended
  · intro id page entry found
    obtain ⟨buffer, live, -⟩ := Option.bind_eq_some_iff.mp found
    exact iff_of_true trivial (Dictionary.mem_keys_of_get? live)

/-! ## What is handed over -/

theorem mem_offer_iff {upload : Upload} : upload ∈ arena.offer id page ↔
    arena.Stale id page ∧ arena.physicalPage? id page = some upload.page ∧
      upload = arena.contents upload.page := by
  unfold offer Stale
  rw [physicalPage?_eq_slot]
  cases found : arena.slot? id page with
  | none => simp
  | some entry =>
      cases stale : entry.stale with
      | false => simp [stale]
      | true =>
          simp only [Option.elim_some, stale, if_true, List.mem_singleton, Option.some.injEq,
            exists_eq_left', Option.map_some, true_and]
          constructor
          · rintro rfl
            exact ⟨rfl, rfl⟩
          · rintro ⟨same, whole⟩
            rw [same]
            exact whole

theorem mem_handed_iff {upload : Upload} : upload ∈ arena.handed ↔
    (∃ id page, arena.Stale id page ∧ arena.physicalPage? id page = some upload.page) ∧
      upload = arena.contents upload.page := by
  simp only [handed, offers, List.mem_flatMap, mem_offer_iff, List.mem_range]
  constructor
  · rintro ⟨id, -, page, -, stale, found, whole⟩
    exact ⟨⟨id, page, stale, found⟩, whole⟩
  · rintro ⟨⟨id, page, stale, found⟩, whole⟩
    have ⟨entry, there, _⟩ := stale
    obtain ⟨buffer, live, -⟩ := Option.bind_eq_some_iff.mp there
    exact ⟨id, Dictionary.mem_keys_of_get? live, page, stale.lt_pageCount, stale, found, whole⟩

theorem handed_nodup (wellFormed : arena.WellFormed) : (arena.handed.map (·.page)).Nodup := by
  have owner {id page physical} (member : physical ∈ (arena.offer id page).map (·.page)) :
      arena.physicalPage? id page = some physical := by
    obtain ⟨upload, offered, rfl⟩ := List.mem_map.mp member
    exact (mem_offer_iff.mp offered).2.1
  rw [handed, List.map_flatMap, List.nodup_flatMap]
  refine ⟨fun id _ => ?_, arena.buffers.nodup_keys.imp ?_⟩
  · rw [offers, List.map_flatMap, List.nodup_flatMap]
    refine ⟨fun page _ => ?_, List.nodup_range.imp ?_⟩
    · unfold offer
      cases arena.slot? id page with
      | none => exact List.nodup_nil
      | some entry =>
          rw [Option.elim_some]
          split
          · exact List.nodup_singleton _
          · exact List.nodup_nil
    · intro page other different physical here there
      exact different (physicalPage?_injective wellFormed (owner here) (owner there)).2
  · intro id other different physical here there
    simp only [offers, List.map_flatMap, List.mem_flatMap] at here there
    obtain ⟨page, -, here⟩ := here
    obtain ⟨second, -, there⟩ := there
    exact different (physicalPage?_injective wellFormed (owner here) (owner there)).1

/-! ## What calls do to marks -/

/-- The pages that a call marks, whether or not their buffer has them. -/
def Call.Touches (pageSize : Nat) : Call → BufferId → Nat → Prop
  | put id address data, other, page => other = id ∧ Overlaps pageSize address data.length page
  | markStale id address, other, page => other = id ∧ page = address / pageSize
  | _, _, _ => False

def Call.Flushes : Call → BufferId → Prop
  | flushBuffer _ id, other => other = id
  | flush _, _ => True
  | _, _ => False

theorem Marks.stale_iff {kind : BufferId → Nat → Prop} (marks : Marks true kind arena after) :
    after.Stale id page ↔ page < after.pageCount id ∧ (kind id page ∨ arena.Stale id page) := by
  rw [lt_pageCount_iff, Stale]
  by_cases asked : kind id page
  · simp only [marks.inside id page asked]
    cases arena.slot? id page <;> simp [asked]
  · rw [Stale, marks.outside id page asked]
    constructor
    · rintro ⟨entry, found, stale⟩
      exact ⟨⟨entry, found⟩, .inr ⟨entry, found, stale⟩⟩
    · rintro ⟨-, kept⟩
      exact kept.resolve_left asked

theorem Marks.stale_cleared_iff {kind : BufferId → Nat → Prop} (marks : Marks false kind arena after) :
    after.Stale id page ↔ arena.Stale id page ∧ ¬ kind id page := by
  unfold Stale
  by_cases asked : kind id page
  · simp only [marks.inside id page asked]
    cases arena.slot? id page <;> simp [asked]
  · rw [marks.outside id page asked]
    exact (and_iff_left asked).symm

theorem Call.flush_marks (wellFormed : arena.WellFormed) (sink : Sink) :
    Remarked arena ((flush sink).after arena) ∧
      Marks false (fun _ _ => True) arena ((flush sink).after arena) := by
  obtain ⟨after, ended, cleared⟩ := flush_result wellFormed sink
  rw [Call.after, perform, Action.after_map, Action.after_of_ok ended]
  exact cleared

theorem Call.flushBuffer_marks (wellFormed : arena.WellFormed) (sink : Sink) (target : BufferId) :
    Remarked arena ((flushBuffer sink target).after arena) ∧
      Marks false (fun other _ => other = target) arena ((flushBuffer sink target).after arena) := by
  rw [Call.after, perform, Action.after_map]
  cases live : arena.buffers.get? target with
  | some buffer =>
      obtain ⟨after, ended, cleared⟩ := flushBuffer_result wellFormed sink {} live
      rw [Action.after_of_ok ended]
      exact cleared
  | none =>
      have refused : Arena.flushBuffer sink {} target arena = .error .unknownName arena := by
        simp [Arena.flushBuffer, sizeInPages_of_missing live]
      rw [Action.after_of_error refused]
      refine ⟨Std.Refl.refl arena, Marks.unchanged ?_⟩
      rintro other page entry found rfl
      simp [slot?, live] at found

/-- A page is marked if a call has just marked it, or if it was and no flush has cleared it. -/
theorem Call.stale_after (wellFormed : arena.WellFormed) (call : Call) :
    (call.after arena).Stale id page ↔ page < (call.after arena).pageCount id ∧
      (call.Touches arena.pageSize id page ∨ arena.Stale id page ∧ ¬ call.Flushes id) := by
  have refitted {after : Arena} (refits : Refits arena after) :
      after.Stale id page ↔ page < after.pageCount id ∧
        (False ∨ arena.Stale id page ∧ ¬ False) := by
    rw [refits.stale_iff, false_or, not_false_eq_true, and_true, and_comm]
  have marked {kind : BufferId → Nat → Prop} {after : Arena} (marks : Marks true kind arena after) :
      after.Stale id page ↔ page < after.pageCount id ∧
        (kind id page ∨ arena.Stale id page ∧ ¬ False) := by
    rw [marks.stale_iff, not_false_eq_true, and_true]
  have cleared {kind : BufferId → Nat → Prop} {after : Arena} (remarked : Remarked arena after)
      (marks : Marks false kind arena after) : after.Stale id page ↔
        page < after.pageCount id ∧ (False ∨ arena.Stale id page ∧ ¬ kind id page) := by
    rw [marks.stale_cleared_iff, false_or, remarked.pageCount]
    exact ⟨fun both => ⟨both.1.lt_pageCount, both⟩, fun both => both.2⟩
  cases call with
  | createBuffer name bytes =>
      rw [after_createBuffer]
      exact refitted (createBuffer_adds wellFormed name bytes).toRefits
  | resize target bytes => exact refitted (resize_refits wellFormed target bytes)
  | dropBuffer target => exact refitted (dropBuffer_refits wellFormed target)
  | put target address data => exact marked (put_marks wellFormed target address data)
  | read target address length =>
      have unchanged : Adds arena arena := Std.Refl.refl arena
      rw [after_read]
      exact refitted unchanged.toRefits
  | markStale target address => exact marked (markStale_marks wellFormed target address)
  | flushBuffer sink target =>
      obtain ⟨remarked, marks⟩ := flushBuffer_marks wellFormed sink target
      exact cleared remarked marks
  | flush sink =>
      obtain ⟨remarked, marks⟩ := flush_marks wellFormed sink
      exact cleared remarked marks

end Arena

end TorusEngine.Paging
