import TorusEngine.Proofs.Paging.Compaction
import TorusEngine.Proofs.Paging.PoolHistory

/-!
# Pools after compaction

Compaction lowers the high-water mark of a pool to one past the highest index that is out, and forgets
the free indices above it. The other free indices (`survivors`) keep their places in the queue, so they
are handed out first, and after them the indices from the new mark on (`compaction_keeps_order`).
-/

namespace TorusEngine.Paging.IndexPool

variable {pool after : IndexPool}

/-- The free indices below the highest index that is out, in the order in which they wait. -/
def survivors (pool : IndexPool) : List Nat := pool.free.toList.filter (· < pool.reach)

/-- The indices that a compacted pool hands out next: those that survived, and fresh ones behind them. -/
def reissued (pool : IndexPool) (count : Nat) : List Nat :=
  pool.survivors.take count ++ List.range' pool.reach (count - pool.survivors.length)

structure Trims (pool after : IndexPool) : Prop where
  highWater : after.highWater = pool.reach
  free : after.free.toList = pool.survivors
  outstanding_iff : ∀ index, index ∈ after.outstanding ↔ index ∈ pool.outstanding
  growth : after.growth = pool.growth

/-- What a pool answers that is asked for indices one after the other and gets none back. -/
structure Reissues (pool after : IndexPool) : Prop where
  inOrder : ∀ count indices left, popInto count [] after = .ok indices left →
    indices = pool.reissued count
  answers : Growth.Answers pool.growth → ∀ count,
    (pool.survivors.length < count →
      pool.reach + (count - pool.survivors.length) < Size.limit) →
    ∃ left, popInto count [] after = .ok (pool.reissued count) left
  fresh : ∀ count, (pool.reissued count).length = count ∧ (pool.reissued count).Nodup ∧
    ∀ index ∈ pool.reissued count, index ∉ pool.outstanding

theorem length_upcoming (pool : IndexPool) (count : Nat) : (pool.upcoming count).length = count := by
  rw [upcoming, List.length_append, List.length_take, List.length_range']
  omega

theorem eq_upcoming_of_popInto {count : Nat} {indices : List Nat}
    (ran : popInto count [] pool = .ok indices after) : indices = pool.upcoming count := by
  obtain ⟨popped, all, answers⟩ := popInto_pops count [] pool
  obtain ⟨same, length⟩ := answers indices (by simp [Action.answer, Action.outcome, ran])
  rw [List.reverse_nil, List.nil_append] at same
  rw [same, all.eq_upcoming, length]

namespace WellFormed

theorem nodup_upcoming (wellFormed : pool.WellFormed) (count : Nat) : (pool.upcoming count).Nodup := by
  refine List.nodup_append.mpr ⟨wellFormed.distinct.sublist (List.take_sublist _ _),
    List.nodup_range', ?_⟩
  rintro index waiting fresh run rfl
  have below := wellFormed.free_below index (List.mem_of_mem_take waiting)
  exact Nat.not_le.mpr below (List.mem_range'_1.mp run).1

theorem not_mem_outstanding_of_upcoming (wellFormed : pool.WellFormed) {count index : Nat}
    (comes : index ∈ pool.upcoming count) : index ∉ pool.outstanding := by
  intro outstanding
  obtain ⟨below, absent⟩ := (wellFormed.outstanding_iff index).mp outstanding
  rcases List.mem_append.mp comes with waiting | fresh
  · exact absent (List.mem_of_mem_take waiting)
  · exact Nat.not_le.mpr below (List.mem_range'_1.mp fresh).1

end WellFormed

theorem trims_trim (wellFormed : pool.WellFormed) (capacity : Nat) :
    pool.Trims { pool.trim with capacity } where
  highWater := wellFormed.trim_highWater
  free := by
    show pool.trim.free.toList = _
    rw [trim_free wellFormed, wellFormed.trim_highWater, survivors]
  outstanding_iff := trim_outstanding wellFormed
  growth := trim_growth pool

namespace Trims

theorem upcoming_eq (trims : pool.Trims after) (count : Nat) :
    after.upcoming count = pool.reissued count := by
  rw [upcoming, trims.free, trims.highWater, reissued]

theorem reissues (trims : pool.Trims after) (wellFormed : after.WellFormed) : pool.Reissues after where
  inOrder := by
    intro count indices left ran
    rw [eq_upcoming_of_popInto ran, trims.upcoming_eq]
  answers := by
    intro answers count fits
    rw [← trims.free, ← trims.highWater] at fits
    obtain ⟨indices, left, ran⟩ := wellFormed.popInto_answers (trims.growth ▸ answers) fits []
    rw [← trims.upcoming_eq, ← eq_upcoming_of_popInto ran]
    exact ⟨left, ran⟩
  fresh := by
    intro count
    rw [← trims.upcoming_eq]
    exact ⟨length_upcoming after count, wellFormed.nodup_upcoming count, fun index comes outstanding =>
      wellFormed.not_mem_outstanding_of_upcoming comes ((trims.outstanding_iff index).mpr outstanding)⟩

end Trims

/-- How compaction by a shrink rule ends. What the rule proposes for the new high-water mark and the old
capacity decides. -/
inductive Compacts (pool : IndexPool) (shrink : Shrink) : EStateM.Result Fault IndexPool Nat → Prop where
  | lowered {proposed : Nat} {after : IndexPool}
      (proposal : shrink pool.reach pool.capacity = .ok proposed) (trims : pool.Trims after)
      (capacity : after.capacity = max pool.reach (min proposed pool.capacity))
      (covers : pool.reach ≤ after.capacity) (fewer : after.capacity ≤ pool.capacity)
      (reissues : pool.Reissues after) : Compacts pool shrink (.ok after.capacity after)
  | failed {fault : Fault} {after : IndexPool}
      (refusal : shrink pool.reach pool.capacity = .error fault) (trims : pool.Trims after)
      (capacity : after.capacity = pool.capacity)
      (reissues : pool.Reissues after) : Compacts pool shrink (.error fault after)

/-- After every run, compaction trims the free indices above the highest that is out and no others, and
the indices that are handed out next are the free ones that are left, in their old order, and then those
from the new mark on. -/
theorem compaction_keeps_order {log : List Nat} (reachable : Reachable pool log) (shrink : Shrink) :
    Compacts pool shrink (compact shrink pool) := by
  have wellFormed := reachable.keeps.1
  have covered : pool.reach ≤ pool.capacity := by
    rw [← wellFormed.trim_highWater]
    exact (trim_highWater_le pool).trans wellFormed.highWater_le
  have ended := compact_eq wellFormed shrink
  rw [wellFormed.trim_highWater] at ended
  rw [ended]
  cases proposal : shrink pool.reach pool.capacity with
  | ok proposed =>
      have trims := trims_trim wellFormed (max pool.reach (min proposed pool.capacity))
      have still := compacted_wellFormed wellFormed proposed
      rw [wellFormed.trim_highWater] at still
      exact .lowered proposal trims rfl (Nat.le_max_left _ _)
        (Nat.max_le.mpr ⟨covered, Nat.min_le_right _ _⟩) (trims.reissues still)
  | error fault =>
      have trims := trims_trim wellFormed pool.trim.capacity
      exact .failed proposal trims (trim_capacity pool) (trims.reissues (trim_wellFormed wellFormed))

/-- Eight indices, of which the highest three came back, and two others among them. -/
def tailFreed : IndexPool :=
  Call.after (.giveBackMany [3, 7, 1, 5, 6]) (Call.after (.popMany 8) (withCapacity 1))

theorem tailFreed_reachable : Reachable tailFreed [6, 5, 1, 7, 3] := by
  have reached := (Reachable.made 1 doubling).call (.popMany 8) |>.call (.giveBackMany [3, 7, 1, 5, 6])
  convert reached using 1
  · rfl
  · decide +kernel

/-- The rule asks for no capacity at all and gets what the index 4 needs. Indices 3 and 1 are handed out
first, in the order in which they came back, and 5 is fresh again. -/
theorem compaction_keeps_order_tailFreed : Reachable tailFreed [6, 5, 1, 7, 3] ∧
    tailFreed.reach = 5 ∧ tailFreed.survivors = [3, 1] ∧ tailFreed.reissued 4 = [3, 1, 5, 6] ∧
    Action.answer (compact fun _ _ => .ok 0) tailFreed = .ok 5 ∧
    Compacts tailFreed (fun _ _ => .ok 0) (compact (fun _ _ => .ok 0) tailFreed) := by
  have reach : tailFreed.reach = 5 := by
    rw [← tailFreed_reachable.keeps.1.trim_highWater]
    decide +kernel
  have survivors : tailFreed.survivors = [3, 1] := by
    rw [IndexPool.survivors, reach]
    decide +kernel
  refine ⟨tailFreed_reachable, reach, survivors, ?_, by decide +kernel,
    compaction_keeps_order tailFreed_reachable fun _ _ => .ok 0⟩
  rw [reissued, survivors, reach]
  rfl

end TorusEngine.Paging.IndexPool
