import TorusEngine.Proofs.Paging.IndexPool
import TorusEngine.Proofs.Size

/-!
# Pools through their history

A run makes any calls on a pool, whatever its growth and shrink rules propose. Beside the pool it keeps
the log of the indices that were given back, the latest first, so the place of an index in the log says
how long it waits. `Call.changes` lists what a call can do to a pool. After every run the indices below
the high-water mark are those that are handed out and those that wait, and the one that has waited
longest is handed out next (`indices_partitioned`).
-/

namespace TorusEngine.Paging.IndexPool

/-! ## Calls -/

inductive Call where
  | pop
  | popMany (count : Nat)
  | popConsecutive (count : Nat)
  | giveBack (index : Nat)
  | giveBackMany (indices : List Nat)
  | compact (shrink : Shrink)
  | setGrowth (growth : Growth)

namespace Call

def perform : Call → Action IndexPool Unit
  | pop => (fun _ => ()) <$> IndexPool.pop
  | popMany count => (fun _ => ()) <$> IndexPool.popMany count
  | popConsecutive count => (fun _ => ()) <$> IndexPool.popConsecutive count
  | giveBack index => IndexPool.giveBack index
  | giveBackMany indices => IndexPool.giveBackMany indices
  | compact shrink => (fun _ => ()) <$> IndexPool.compact shrink
  | setGrowth growth => modify ({ · with growth })

def after (call : Call) (pool : IndexPool) : IndexPool := Action.after call.perform pool

def offered : Call → List Nat
  | giveBack index => [index]
  | giveBackMany indices => indices
  | _ => []

end Call

/-- The indices that a pool takes back of those offered: all before the first that is not out. -/
def takenBack (pool : IndexPool) : List Nat → List Nat
  | [] => []
  | index :: rest =>
      if index ∈ pool.outstanding then
        index :: takenBack (Action.after (giveBack index) pool) rest
      else []

def Call.note (call : Call) (pool : IndexPool) (log : List Nat) : List Nat :=
  (pool.takenBack call.offered).reverse ++ log

inductive Reachable : IndexPool → List Nat → Prop where
  | made (capacity : Nat) (growth : Growth) : Reachable (withCapacity capacity growth) []
  | call {pool : IndexPool} {log : List Nat} (reachable : Reachable pool log) (call : Call) :
      Reachable (call.after pool) (call.note pool log)

/-! ## What a call can do -/

def withRun (pool : IndexPool) (capacity count : Nat) : IndexPool :=
  { pool with
    capacity
    highWater := pool.highWater + count
    outstanding := (List.range' pool.highWater count).foldl (·.insert ·) pool.outstanding }

inductive Changed (pool : IndexPool) : List Nat → IndexPool → Prop where
  | popped {indices : List Nat} {after : IndexPool} (popped : PoppedAll pool indices after) :
      Changed pool [] after
  | raised {capacity : Nat} (raised : pool.capacity ≤ capacity) : Changed pool [] { pool with capacity }
  | run {capacity count : Nat} (room : pool.highWater + count ≤ capacity) :
      Changed pool [] (pool.withRun capacity count)
  | givenBack {given : List Nat} {after : IndexPool} (taken : GivenBack pool given after) :
      Changed pool given after
  | trimmed {capacity : Nat} (least : pool.trim.highWater ≤ capacity) :
      Changed pool [] { pool.trim with capacity }
  | regrown (growth : Growth) : Changed pool [] { pool with growth }

theorem popInto_pops (count : Nat) (popped : List Nat) (pool : IndexPool) :
    ∃ indices, PoppedAll pool indices (Action.after (popInto count popped) pool) ∧
      ∀ answer, Action.answer (popInto count popped) pool = .ok answer →
        answer = popped.reverse ++ indices ∧ indices.length = count := by
  induction count generalizing popped pool with
  | zero =>
      refine ⟨[], .nil pool, fun answer answered => ?_⟩
      cases answered
      exact ⟨(List.append_nil _).symm, rfl⟩
  | succ count ih =>
      cases ran : pop pool with
      | error fault after =>
          rw [popInto, Action.after_bind, ran, pop_error ran]
          refine ⟨[], .nil pool, fun answer answered => ?_⟩
          simp [Action.answer, Action.outcome, ran] at answered
      | ok index middle =>
          obtain ⟨indices, others, answers⟩ := ih (index :: popped) middle
          rw [popInto, Action.after_bind, ran]
          refine ⟨index :: indices, .cons (pop_ok ran) others, fun answer answered => ?_⟩
          have later : Action.answer (popInto count (index :: popped)) middle = .ok answer := by
            simpa [Action.answer, Action.outcome, popInto, ran] using answered
          obtain ⟨same, length⟩ := answers answer later
          exact ⟨by simpa using same, by simpa using length⟩

theorem popMany_pops (count : Nat) (pool : IndexPool) :
    ∃ indices, PoppedAll pool indices (Action.after (popMany count) pool) ∧
      ∀ answer, Action.answer (popMany count) pool = .ok answer →
        answer = indices ∧ indices.length = count := by
  cases listed : Size.checkBlock count 8 with
  | error fault =>
      rw [popMany, Action.after_bind, Action.liftM_apply, listed]
      refine ⟨[], .nil pool, fun answer answered => ?_⟩
      cases answered
  | ok fits =>
      obtain ⟨indices, popped, answers⟩ := popInto_pops count [] pool
      rw [popMany, Action.after_bind, Action.liftM_apply, listed]
      refine ⟨indices, popped, fun answer answered => ?_⟩
      have same : Action.answer (popInto count []) pool = .ok answer := by
        simpa [Action.answer, Action.outcome, popMany, listed] using answered
      simpa using answers answer same

theorem grow_raises {pool after : IndexPool} (grown : grow pool = .ok () after) :
    ∃ capacity, pool.capacity < capacity ∧ after = { pool with capacity } := by
  cases proposal : pool.growth pool.capacity with
  | error fault => simp [grow, proposal] at grown
  | ok proposed =>
      by_cases fits : pool.capacity + 1 < Size.limit
      · rw [grow_of_proposal proposal fits] at grown
        cases grown
        exact ⟨_, Nat.lt_of_lt_of_le (Nat.lt_succ_self _) (Nat.le_max_right _ _), rfl⟩
      · simp [grow, proposal, Size.add, fits] at grown

theorem reserve_eq {pool : IndexPool} {count : Nat} (fits : pool.highWater + count < Size.limit) :
    reserve count pool =
      if pool.highWater + count ≤ pool.capacity then .ok () pool
      else match grow pool with
        | .ok _ after => reserve count after
        | .error fault after => .error fault after := by
  rw [reserve, Size.add_eq_ok fits]
  dsimp only
  split
  · rfl
  · split <;> rename_i ran <;> rw [ran]

theorem reserve_raises (count : Nat) (pool : IndexPool) :
    ∃ capacity, pool.capacity ≤ capacity ∧
      (reserve count pool = .ok () { pool with capacity } ∧ pool.highWater + count ≤ capacity ∨
        ∃ fault, reserve count pool = .error fault { pool with capacity }) := by
  have fits {pool : IndexPool} {sum : Nat} (added : Size.add pool.highWater count = .ok sum) :
      pool.highWater + count < Size.limit := by
    obtain ⟨rfl, fits⟩ := Size.eq_of_add_eq_ok added
    exact fits
  induction pool using reserve.induct count with
  | case1 pool fault refused =>
      exact ⟨pool.capacity, Nat.le_refl _, .inr ⟨fault, by rw [reserve, refused]⟩⟩
  | case2 pool sum added room =>
      have ran := reserve_eq (fits added)
      rw [if_pos room] at ran
      exact ⟨pool.capacity, Nat.le_refl _, .inl ⟨ran, room⟩⟩
  | case3 pool sum added short fault after refused =>
      have ran := reserve_eq (fits added)
      rw [if_neg short, refused, grow_error refused] at ran
      exact ⟨pool.capacity, Nat.le_refl _, .inr ⟨fault, ran⟩⟩
  | case4 pool sum added short answer after grown ih =>
      have ran := reserve_eq (fits added)
      rw [if_neg short, grown] at ran
      obtain ⟨raised, above, rfl⟩ := grow_raises grown
      obtain ⟨capacity, least, ended⟩ := ih
      exact ⟨capacity, above.le.trans least, ran ▸ ended⟩

def Growth.Answers (growth : Growth) : Prop := ∀ capacity, ∃ proposed, growth capacity = .ok proposed

theorem reserve_answers {count : Nat} {pool : IndexPool}
    (fits : pool.highWater + count < Size.limit) (answers : Growth.Answers pool.growth) :
    ∃ capacity, reserve count pool = .ok () { pool with capacity } ∧
      pool.highWater + count ≤ capacity := by
  induction pool using reserve.induct count with
  | case1 pool fault refused => simp [Size.add_eq_ok fits] at refused
  | case2 pool sum added room =>
      have ran := reserve_eq fits
      rw [if_pos room] at ran
      exact ⟨pool.capacity, ran, room⟩
  | case3 pool sum added short fault after refused =>
      obtain ⟨proposed, proposal⟩ := answers pool.capacity
      simp [grow_of_proposal proposal (by omega)] at refused
  | case4 pool sum added short answer after grown ih =>
      have ran := reserve_eq fits
      rw [if_neg short, grown] at ran
      obtain ⟨raised, -, rfl⟩ := grow_raises grown
      obtain ⟨capacity, ended, room⟩ := ih fits answers
      exact ⟨capacity, ran.trans ended, room⟩

theorem popConsecutive_of_reserve {count capacity : Nat} {pool : IndexPool}
    (reserved : reserve count pool = .ok () { pool with capacity }) :
    popConsecutive count pool = .ok pool.highWater (pool.withRun capacity count) := by
  simp [popConsecutive, reserved, withRun]

theorem giveBackMany_takes (indices : List Nat) (pool : IndexPool) :
    GivenBack pool (pool.takenBack indices) (Action.after (giveBackMany indices) pool) := by
  induction indices generalizing pool with
  | nil => exact .nil pool
  | cons index rest ih =>
      rw [giveBackMany, Action.after_bind, takenBack]
      by_cases outstanding : index ∈ pool.outstanding
      · have given := giveBack_of_outstanding outstanding
        rw [if_pos outstanding, given, Action.after_of_ok given]
        exact .cons outstanding (ih _)
      · rw [if_neg outstanding, giveBack_of_not_outstanding outstanding]
        exact .nil pool

theorem giveBack_takes (index : Nat) (pool : IndexPool) :
    GivenBack pool (pool.takenBack [index]) (Action.after (giveBack index) pool) := by
  have taken := giveBackMany_takes [index] pool
  rw [giveBackMany, Action.after_bind] at taken
  by_cases outstanding : index ∈ pool.outstanding
  · have given := giveBack_of_outstanding outstanding
    rw [given] at taken
    rw [Action.after_of_ok given]
    exact taken
  · have refused := giveBack_of_not_outstanding outstanding
    rw [refused] at taken
    rw [Action.after_of_error refused]
    exact taken

theorem Call.changes {pool : IndexPool} (wellFormed : pool.WellFormed) (call : Call) :
    Changed pool (pool.takenBack call.offered) (call.after pool) := by
  cases call with
  | pop =>
      rw [after, perform, Action.after_map]
      cases ran : IndexPool.pop pool with
      | ok index left =>
          rw [Action.after_of_ok ran]
          exact .popped (.cons (pop_ok ran) (.nil left))
      | error fault left =>
          rw [Action.after_of_error ran, pop_error ran]
          exact .popped (.nil pool)
  | popMany count =>
      rw [after, perform, Action.after_map]
      obtain ⟨indices, popped, -⟩ := popMany_pops count pool
      exact .popped popped
  | popConsecutive count =>
      rw [after, perform, Action.after_map]
      obtain ⟨capacity, least, ⟨reserved, room⟩ | ⟨fault, refused⟩⟩ := reserve_raises count pool
      · rw [Action.after_of_ok (popConsecutive_of_reserve reserved)]
        exact .run room
      · rw [IndexPool.popConsecutive, Action.after_bind, refused]
        exact .raised least
  | giveBack index => exact .givenBack (giveBack_takes index pool)
  | giveBackMany indices => exact .givenBack (giveBackMany_takes indices pool)
  | compact shrink =>
      have compacted := compact_eq wellFormed shrink
      have inOrder := (trim_wellFormed wellFormed).highWater_le
      rw [after, perform, Action.after_map]
      cases proposal : shrink pool.trim.highWater pool.capacity with
      | ok proposed =>
          rw [proposal] at compacted
          rw [Action.after_of_ok compacted]
          exact .trimmed (Nat.le_max_left _ _)
      | error fault =>
          rw [proposal] at compacted
          rw [Action.after_of_error compacted]
          exact .trimmed inOrder
  | setGrowth growth => exact .regrown growth

/-! ## What runs keep -/

structure Waits (pool : IndexPool) (log : List Nat) : Prop where
  logged : ∀ index ∈ pool.free.toList, index ∈ log
  inOrder : pool.free.toList.Pairwise fun first later => log.idxOf later < log.idxOf first

section Kept

variable {pool after : IndexPool} {log given : List Nat}

theorem mem_foldl_insert (indices : List Nat) (set : Std.TreeSet Nat) (index : Nat) :
    index ∈ indices.foldl (·.insert ·) set ↔ index ∈ set ∨ index ∈ indices := by
  induction indices generalizing set with
  | nil => simp
  | cons first rest ih =>
      rw [List.foldl_cons, ih, Std.TreeSet.mem_insert, Nat.compare_eq_eq, List.mem_cons,
        eq_comm (a := first)]
      tauto

theorem withRun_outstanding (pool : IndexPool) (capacity count index : Nat) :
    index ∈ (pool.withRun capacity count).outstanding ↔
      index ∈ pool.outstanding ∨ pool.highWater ≤ index ∧ index < pool.highWater + count := by
  rw [withRun, mem_foldl_insert, List.mem_range'_1]

theorem withRun_wellFormed (wellFormed : pool.WellFormed) {capacity count : Nat}
    (room : pool.highWater + count ≤ capacity) : (pool.withRun capacity count).WellFormed := by
  refine ⟨wellFormed.distinct, fun index => ?_, fun index queued => ?_, room⟩
  · have below := wellFormed.free_below index
    rw [withRun_outstanding, wellFormed.outstanding_iff]
    show _ ↔ index < pool.highWater + count ∧ index ∉ pool.free.toList
    constructor
    · rintro (⟨handed, absent⟩ | ⟨above, fresh⟩)
      · exact ⟨by omega, absent⟩
      · exact ⟨fresh, fun queued => Nat.not_lt.mpr above (below queued)⟩
    · rintro ⟨bound, absent⟩
      rcases Nat.lt_or_ge index pool.highWater with handed | above
      · exact .inl ⟨handed, absent⟩
      · exact .inr ⟨above, bound⟩
  · exact Nat.lt_add_right count (wellFormed.free_below index queued)

theorem Changed.wellFormed (changed : Changed pool given after) (wellFormed : pool.WellFormed) :
    after.WellFormed := by
  cases changed with
  | popped popped => exact popped.wellFormed wellFormed
  | raised raised =>
      exact ⟨wellFormed.distinct, wellFormed.outstanding_iff, wellFormed.free_below,
        wellFormed.highWater_le.trans raised⟩
  | run room => exact withRun_wellFormed wellFormed room
  | givenBack taken => exact taken.wellFormed wellFormed
  | trimmed least =>
      have trimmed := trim_wellFormed wellFormed
      exact ⟨trimmed.distinct, trimmed.outstanding_iff, trimmed.free_below, least⟩
  | regrown growth =>
      exact ⟨wellFormed.distinct, wellFormed.outstanding_iff, wellFormed.free_below,
        wellFormed.highWater_le⟩

theorem PoppedAll.free_sublist {indices : List Nat} (popped : PoppedAll pool indices after) :
    after.free.toList.Sublist pool.free.toList := by
  induction popped with
  | nil => exact List.Sublist.refl _
  | cons first others ih =>
      refine ih.trans ?_
      cases first with
      | freed queued => exact queued ▸ List.sublist_cons_self _ _
      | fresh | grown => exact List.Sublist.refl _

theorem Waits.of_sublist (waits : pool.Waits log)
    (fewer : after.free.toList.Sublist pool.free.toList) : after.Waits log :=
  ⟨fun index queued => waits.logged index (fewer.subset queued), waits.inOrder.sublist fewer⟩

theorem Waits.push (wellFormed : pool.WellFormed) (waits : pool.Waits log) {index : Nat}
    (outstanding : index ∈ pool.outstanding) :
    Waits { pool with free := pool.free.push index, outstanding := pool.outstanding.erase index }
      (index :: log) := by
  have absent := ((wellFormed.outstanding_iff index).mp outstanding).2
  -- An index that is out does not wait, so all that wait move back by one place in the log.
  have other : ∀ queued ∈ pool.free.toList, (index :: log).idxOf queued = log.idxOf queued + 1 :=
    fun queued member => List.idxOf_cons_ne _ fun same => absent (same ▸ member)
  refine ⟨fun queued member => ?_, ?_⟩
  · rw [Fifo.toList_push, List.mem_append, List.mem_singleton] at member
    rcases member with member | rfl
    · exact List.mem_cons_of_mem _ (waits.logged queued member)
    · exact List.mem_cons_self
  · rw [Fifo.toList_push]
    refine List.pairwise_append.mpr ⟨?_, List.pairwise_singleton _ _, ?_⟩
    · refine waits.inOrder.imp_of_mem fun {first later} one two before => ?_
      rw [other first one, other later two]
      exact Nat.succ_lt_succ before
    · intro queued member last same
      rw [List.mem_singleton.mp same, other queued member, List.idxOf_cons_self]
      exact Nat.succ_pos _

theorem GivenBack.waits (taken : GivenBack pool given after) (wellFormed : pool.WellFormed)
    (waits : pool.Waits log) : after.Waits (given.reverse ++ log) := by
  induction taken generalizing log with
  | nil => exact waits
  | @cons pool after index rest outstanding others ih =>
      have first : GivenBack pool [index] _ := .cons outstanding (.nil _)
      have later := ih (first.wellFormed wellFormed) (waits.push wellFormed outstanding)
      rwa [List.reverse_cons, List.append_assoc]

theorem Changed.waits (changed : Changed pool given after) (wellFormed : pool.WellFormed)
    (waits : pool.Waits log) : after.Waits (given.reverse ++ log) := by
  cases changed with
  | popped popped => exact waits.of_sublist popped.free_sublist
  | raised | run | regrown => exact waits.of_sublist (List.Sublist.refl _)
  | givenBack taken => exact taken.waits wellFormed waits
  | trimmed =>
      refine waits.of_sublist ?_
      show pool.trim.free.toList.Sublist _
      rw [trim_free wellFormed]
      exact List.filter_sublist

theorem Reachable.keeps (reachable : Reachable pool log) : pool.WellFormed ∧ pool.Waits log := by
  induction reachable with
  | made capacity growth =>
      exact ⟨withCapacity_wellFormed capacity growth, by constructor <;> simp [withCapacity, Fifo.toList]⟩
  | call _ call kept =>
      have changed := call.changes kept.1
      exact ⟨changed.wellFormed kept.1, changed.waits kept.1 kept.2⟩

end Kept

/-! ## The whole property -/

/-- The indices below the high-water mark are divided into those that are handed out and those that
wait, and the latter wait in the order in which they were given back. An index that was given back waits
until it is handed out again or compaction lowers the mark below it. -/
structure Partitioned (pool : IndexPool) (log : List Nat) : Prop where
  wellFormed : pool.WellFormed
  counted : pool.outstandingCount = .ok pool.outstanding.size
  waits : pool.Waits log
  waiting_iff : ∀ index, index ∈ pool.free.toList ↔
    index ∈ log ∧ index < pool.highWater ∧ index ∉ pool.outstanding

/-- The index that a pool hands out next: the one that waits longest, or a fresh one if none waits. -/
inductive Next (pool : IndexPool) (log : List Nat) : Nat → Prop where
  | waiting {index : Nat} (queued : index ∈ pool.free.toList)
      (longest : ∀ other ∈ pool.free.toList, log.idxOf other ≤ log.idxOf index) : Next pool log index
  | fresh (drained : pool.free.toList = []) : Next pool log pool.highWater

/-- The indices that a pool hands out next, one by one: those that wait, and fresh ones behind them. -/
def upcoming (pool : IndexPool) (count : Nat) : List Nat :=
  pool.free.toList.take count ++ List.range' pool.highWater (count - pool.free.toList.length)

/-- Indices that were out wait behind all others, and nothing else has changed. -/
structure TakesBack (pool : IndexPool) (given : List Nat) (after : IndexPool) : Prop where
  outstanding : ∀ index ∈ given, index ∈ pool.outstanding
  distinct : given.Nodup
  free : after.free.toList = pool.free.toList ++ given
  outstanding_iff : ∀ other, other ∈ after.outstanding ↔ other ∈ pool.outstanding ∧ other ∉ given
  highWater : after.highWater = pool.highWater
  capacity : after.capacity = pool.capacity
  growth : after.growth = pool.growth

/-- How a call ends that gives back many indices: it takes all, or those before the first that is not
out. -/
inductive EndsGiving (pool : IndexPool) (indices : List Nat) : EStateM.Result Fault IndexPool Unit → Prop
  where
  | all {after : IndexPool} (taken : pool.TakesBack indices after) : EndsGiving pool indices (.ok () after)
  | stopped {given rest : List Nat} {index : Nat} {after : IndexPool}
      (split : indices = given ++ index :: rest) (taken : pool.TakesBack given after)
      (returned : index ∉ after.outstanding) :
      EndsGiving pool indices (.error (.violated (.notOutstanding index)) after)

/-- What a pool answers, as long as its growth rule proposes capacities and no index is too large. -/
structure Serves (pool : IndexPool) (log : List Nat) : Prop where
  pop : Growth.Answers pool.growth →
    (pool.free.toList = [] → pool.highWater + 1 < Size.limit) →
    ∃ index after, IndexPool.pop pool = .ok index after ∧ pool.Next log index ∧
      index ∉ pool.outstanding ∧
      ∀ other, other ∈ after.outstanding ↔ other = index ∨ other ∈ pool.outstanding
  popMany : ∀ count indices after, IndexPool.popMany count pool = .ok indices after →
    indices = pool.upcoming count ∧ indices.length = count ∧ indices.Nodup ∧
      (∀ index ∈ indices, index ∉ pool.outstanding) ∧
      ∀ other, other ∈ after.outstanding ↔ other ∈ indices ∨ other ∈ pool.outstanding
  popMany_answers : Growth.Answers pool.growth → ∀ count, count * 8 ≤ Size.largestBlock →
    (pool.free.toList.length < count →
      pool.highWater + (count - pool.free.toList.length) < Size.limit) →
    ∃ indices after, IndexPool.popMany count pool = .ok indices after
  popConsecutive : Growth.Answers pool.growth →
    ∀ count, pool.highWater + count < Size.limit →
    ∃ first after, IndexPool.popConsecutive count pool = .ok first after ∧
      (∀ index, first ≤ index → index < first + count →
        index ∉ pool.outstanding ∧ index ∉ pool.free.toList) ∧
      after.free = pool.free ∧
      ∀ other, other ∈ after.outstanding ↔
        other ∈ pool.outstanding ∨ first ≤ other ∧ other < first + count
  giveBack : ∀ index fault after, IndexPool.giveBack index pool = .error fault after ↔
    index ∉ pool.outstanding ∧ fault = .violated (.notOutstanding index) ∧ after = pool
  giveBack_queues : ∀ index ∈ pool.outstanding, ∃ after,
    IndexPool.giveBack index pool = .ok () after ∧ pool.TakesBack [index] after
  giveBackMany : ∀ indices, EndsGiving pool indices (IndexPool.giveBackMany indices pool)
  compact : ∀ shrink : Shrink, (∀ least capacity, ∃ proposed, shrink least capacity = .ok proposed) →
    ∃ capacity after, IndexPool.compact shrink pool = .ok capacity after ∧
      after.capacity = capacity ∧ after.highWater ≤ capacity ∧ capacity ≤ pool.capacity

section Serving

variable {pool : IndexPool} {log : List Nat}

theorem GivenBack.takesBack {given : List Nat} {after : IndexPool} (back : GivenBack pool given after) :
    pool.TakesBack given after where
  outstanding := back.outstanding
  distinct := back.distinct
  free := back.free_eq
  outstanding_iff := back.outstanding_iff
  highWater := back.highWater_eq
  capacity := back.capacity_eq
  growth := back.growth_eq

theorem giveBackMany_endsGiving (indices : List Nat) (pool : IndexPool) :
    EndsGiving pool indices (giveBackMany indices pool) := by
  obtain ⟨after, ran, taken⟩ | ⟨given, index, rest, after, split, taken, returned, ran⟩ :=
    giveBackMany_ends indices pool
  · exact ran ▸ .all taken.takesBack
  · exact ran ▸ .stopped split taken.takesBack returned

theorem Waits.waiting_iff (waits : pool.Waits log) (wellFormed : pool.WellFormed) (index : Nat) :
    index ∈ pool.free.toList ↔ index ∈ log ∧ index < pool.highWater ∧ index ∉ pool.outstanding := by
  have logged := waits.logged index
  have below := wellFormed.free_below index
  rw [wellFormed.outstanding_iff]
  tauto

theorem WellFormed.outstandingCount_size (wellFormed : pool.WellFormed) :
    pool.outstandingCount = .ok pool.outstanding.size := by
  have distinct : pool.outstanding.toList.Nodup :=
    Std.TreeSet.distinct_toList.imp fun apart same => apart (Nat.compare_eq_eq.mpr same)
  rw [wellFormed.outstandingCount_eq, wellFormed.handedOut_eq distinct fun _ => Std.TreeSet.mem_toList,
    Std.TreeSet.length_toList]

theorem Popped.next {index : Nat} {after : IndexPool} (popped : Popped pool index after)
    (waits : pool.Waits log) : pool.Next log index := by
  cases popped with
  | freed queued =>
      refine .waiting (by simp [queued]) fun other member => ?_
      have inOrder := waits.inOrder
      rw [queued] at member inOrder
      rcases List.mem_cons.mp member with rfl | later
      · exact Nat.le_refl _
      · exact (List.rel_of_pairwise_cons inOrder later).le
  | fresh drained | grown drained => exact .fresh drained

theorem WellFormed.pop_answers (wellFormed : pool.WellFormed) (answers : Growth.Answers pool.growth)
    (fits : pool.free.toList = [] → pool.highWater + 1 < Size.limit) :
    ∃ index after, pop pool = .ok index after := by
  cases queued : pool.free.pop? with
  | some entry => exact ⟨entry.1, _, pop_of_freed queued⟩
  | none =>
      have fits := fits (Fifo.toList_eq_nil_of_pop? queued)
      have inOrder := wellFormed.highWater_le
      rcases Nat.lt_or_ge pool.highWater pool.capacity with room | full
      · exact ⟨_, _, (pop_of_room queued room).trans (takeFresh_eq pool)⟩
      · obtain ⟨proposed, proposal⟩ := answers pool.capacity
        exact IndexPool.pop_answers proposal (by omega)

theorem Popped.upcoming_succ {index : Nat} {after : IndexPool} (popped : Popped pool index after)
    (count : Nat) : pool.upcoming (count + 1) = index :: after.upcoming count := by
  cases popped with
  | freed queued => simp [upcoming, queued]
  | fresh drained | grown drained => simp [upcoming, drained, List.range'_succ]

theorem PoppedAll.eq_upcoming {indices : List Nat} {after : IndexPool}
    (popped : PoppedAll pool indices after) : indices = pool.upcoming indices.length := by
  induction popped with
  | nil => simp [upcoming]
  | cons first others ih => rw [List.length_cons, first.upcoming_succ, ← ih]

theorem WellFormed.popInto_answers (wellFormed : pool.WellFormed)
    (answers : Growth.Answers pool.growth) {count : Nat} (fits : pool.free.toList.length < count →
      pool.highWater + (count - pool.free.toList.length) < Size.limit) (made : List Nat) :
    ∃ indices after, popInto count made pool = .ok indices after := by
  induction count generalizing pool made with
  | zero => exact ⟨_, _, rfl⟩
  | succ count ih =>
      have room : pool.free.toList = [] → pool.highWater + 1 < Size.limit := by
        intro drained
        rw [drained] at fits
        have := fits (Nat.succ_pos count)
        simp at this
        omega
      obtain ⟨index, middle, ran⟩ := wellFormed.pop_answers answers room
      have popped := pop_ok ran
      -- One less waits or one more is fresh, so what the other pops need is within the bound as well.
      have later : middle.free.toList.length < count →
          middle.highWater + (count - middle.free.toList.length) < Size.limit := by
        cases popped with
        | freed queued => simpa [queued] using fits
        | fresh drained | grown drained =>
            simp only [drained, List.length_nil] at fits ⊢
            omega
      obtain ⟨indices, after, others⟩ := ih (popped.wellFormed wellFormed)
        (popped.growth_eq ▸ answers) later (index :: made)
      exact ⟨indices, after, by simp [popInto, ran, others]⟩

theorem Waits.serves (wellFormed : pool.WellFormed) (waits : pool.Waits log) : pool.Serves log where
  pop := by
    intro answers fits
    obtain ⟨index, after, ran⟩ := wellFormed.pop_answers answers fits
    have popped := pop_ok ran
    exact ⟨index, after, ran, popped.next waits, popped.fresh_index wellFormed, popped.outstanding_iff⟩
  popMany := by
    intro count indices after ran
    obtain ⟨listed, popped, answers⟩ := popMany_pops count pool
    rw [Action.after_of_ok ran] at popped
    obtain ⟨rfl, length⟩ := answers indices (by simp [Action.answer, Action.outcome, ran])
    exact ⟨length ▸ popped.eq_upcoming, length, popped.distinct wellFormed, popped.fresh wellFormed,
      popped.outstanding_iff⟩
  popMany_answers := by
    intro answers count block fits
    obtain ⟨indices, after, ran⟩ := wellFormed.popInto_answers answers fits []
    exact ⟨indices, after, by simp [IndexPool.popMany, Size.checkBlock, block, ran]⟩
  popConsecutive := by
    intro answers count fits
    obtain ⟨capacity, reserved, room⟩ := reserve_answers fits answers
    refine ⟨pool.highWater, _, popConsecutive_of_reserve reserved, fun index above _ => ⟨?_, ?_⟩, rfl,
      pool.withRun_outstanding capacity count⟩
    · exact fun out => Nat.not_lt.mpr above ((wellFormed.outstanding_iff index).mp out).1
    · exact fun queued => Nat.not_lt.mpr above (wellFormed.free_below index queued)
  giveBack := by
    intro index fault after
    by_cases outstanding : index ∈ pool.outstanding
    · simp [giveBack_of_outstanding outstanding, outstanding]
    · simp [giveBack_of_not_outstanding outstanding, outstanding, eq_comm]
  giveBack_queues := by
    intro index outstanding
    have taken : GivenBack pool [index] _ := .cons outstanding (.nil _)
    exact ⟨_, giveBack_of_outstanding outstanding, taken.takesBack⟩
  giveBackMany indices := giveBackMany_endsGiving indices pool
  compact := by
    intro shrink answers
    obtain ⟨proposed, proposal⟩ := answers pool.trim.highWater pool.capacity
    have compacted := compact_eq wellFormed shrink
    rw [proposal] at compacted
    have inOrder := (trim_wellFormed wellFormed).highWater_le
    rw [trim_capacity] at inOrder
    exact ⟨_, _, compacted, rfl, Nat.le_max_left _ _, Nat.max_le.mpr ⟨inOrder, Nat.min_le_right _ _⟩⟩

end Serving

/-- After every run the indices below the high-water mark are divided into those that are handed out and
those that wait, and every call finds them so: an index that is handed out is never out already. -/
theorem indices_partitioned {pool : IndexPool} {log : List Nat} (reachable : Reachable pool log) :
    pool.Partitioned log ∧ pool.Serves log := by
  obtain ⟨wellFormed, waits⟩ := reachable.keeps
  exact ⟨⟨wellFormed, wellFormed.outstandingCount_size, waits, waits.waiting_iff wellFormed⟩,
    waits.serves wellFormed⟩

/-- Calls on a pool whose growth and shrink rules propose no capacity at all. -/
def stingyCalls : List Call :=
  [.popMany 3, .giveBackMany [2, 0], .popConsecutive 2, .giveBack 4, .compact fun _ _ => .ok 0]

def stingy : IndexPool :=
  stingyCalls.foldl (fun pool call => call.after pool) (withCapacity 1 fun _ => .ok 0)

theorem stingy_reachable : Reachable stingy [4, 0, 2] := by
  have reached := (Reachable.made 1 fun _ => .ok 0).call (.popMany 3)
    |>.call (.giveBackMany [2, 0]) |>.call (.popConsecutive 2) |>.call (.giveBack 4)
    |>.call (.compact fun _ _ => .ok 0)
  convert reached using 1
  · rfl
  · decide +kernel

/-- Of two indices that wait the one that came back first is handed out, though it is the larger. -/
theorem indices_partitioned_stingy : Reachable stingy [4, 0, 2] ∧ stingy.free.toList = [2, 0] ∧
    stingy.highWater = 4 ∧ stingy.capacity = 4 ∧ stingy.outstandingCount = .ok 2 ∧
    Action.answer pop stingy = .ok 2 ∧ stingy.Partitioned [4, 0, 2] ∧ stingy.Serves [4, 0, 2] := by
  obtain ⟨partitioned, serves⟩ := indices_partitioned stingy_reachable
  exact ⟨stingy_reachable, by decide +kernel, by decide +kernel, by decide +kernel, by decide +kernel,
    by decide +kernel, partitioned, serves⟩

end TorusEngine.Paging.IndexPool
