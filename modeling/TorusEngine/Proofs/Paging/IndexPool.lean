import Mathlib.Data.List.Nodup
import TorusEngine.Paging.IndexPool
import TorusEngine.Proofs.Action

/-!
# What index pools keep

A pool keeps three records of which numbers are handed out: the queue of the numbers given back, the
high-water mark, and the set of outstanding numbers. `WellFormed` says that the three agree. Each
operation has one lemma that says all it can do to a pool: `pop_ok` for handing out,
`giveBackMany_ends` for taking back, `compact_eq` for compaction.
-/

namespace TorusEngine.Paging.IndexPool

structure WellFormed (pool : IndexPool) : Prop where
  distinct : pool.free.toList.Nodup
  outstanding_iff : ∀ index, index ∈ pool.outstanding ↔
    index < pool.highWater ∧ index ∉ pool.free.toList
  free_below : ∀ index ∈ pool.free.toList, index < pool.highWater
  highWater_le : pool.highWater ≤ pool.capacity

theorem withCapacity_wellFormed (capacity : Nat) (growth : Growth) :
    (withCapacity capacity growth).WellFormed := by
  constructor <;> simp [withCapacity, Fifo.toList]

/-! ## Handing out -/

inductive Popped (pool : IndexPool) : Nat → IndexPool → Prop where
  | freed {index : Nat} {rest : Fifo Nat} (queued : pool.free.toList = index :: rest.toList) :
      Popped pool index
        { pool with free := rest, outstanding := pool.outstanding.insert index }
  | fresh (drained : pool.free.toList = []) (room : pool.highWater < pool.capacity) :
      Popped pool pool.highWater
        { pool with
          highWater := pool.highWater + 1
          outstanding := pool.outstanding.insert pool.highWater }
  | grown {proposed : Nat} (drained : pool.free.toList = []) (full : pool.capacity ≤ pool.highWater)
      (proposal : pool.growth pool.capacity = .ok proposed) :
      Popped pool pool.highWater
        { pool with
          capacity := max proposed (pool.capacity + 1)
          highWater := pool.highWater + 1
          outstanding := pool.outstanding.insert pool.highWater }

theorem grow_of_proposal {pool : IndexPool} {proposed : Nat}
    (proposal : pool.growth pool.capacity = .ok proposed) (fits : pool.capacity + 1 < Size.limit) :
    grow pool = .ok () { pool with capacity := max proposed (pool.capacity + 1) } := by
  simp [grow, proposal, Size.add_eq_ok fits]

theorem grow_error {pool after : IndexPool} {fault : Fault}
    (refused : grow pool = .error fault after) : after = pool := by
  cases proposal : pool.growth pool.capacity with
  | error cause =>
      simp [grow, proposal] at refused
      exact refused.2.symm
  | ok proposed =>
      by_cases fits : pool.capacity + 1 < Size.limit
      · simp [grow_of_proposal proposal fits] at refused
      · simp [grow, proposal, Size.add, fits] at refused
        exact refused.2.symm

theorem takeFresh_eq (pool : IndexPool) :
    takeFresh pool = .ok pool.highWater
      { pool with
        highWater := pool.highWater + 1
        outstanding := pool.outstanding.insert pool.highWater } := by
  simp [takeFresh]

theorem pop_of_freed {pool : IndexPool} {index : Nat} {rest : Fifo Nat}
    (queued : pool.free.pop? = some (index, rest)) :
    pop pool = .ok index
      { pool with free := rest, outstanding := pool.outstanding.insert index } := by
  simp [pop, queued]

theorem pop_of_room {pool : IndexPool} (drained : pool.free.pop? = none)
    (room : pool.highWater < pool.capacity) : pop pool = takeFresh pool := by
  simp [pop, drained, room]

theorem pop_of_full {pool : IndexPool} (drained : pool.free.pop? = none)
    (full : pool.capacity ≤ pool.highWater) :
    pop pool = match grow pool with
      | .ok _ after => takeFresh after
      | .error fault after => .error fault after := by
  simp only [pop, Action.bind_apply, Action.get_apply, drained, Nat.not_lt.mpr full, if_false]
  cases grow pool <;> rfl

theorem pop_of_proposal {pool : IndexPool} {proposed : Nat} (drained : pool.free.pop? = none)
    (full : pool.capacity ≤ pool.highWater) (proposal : pool.growth pool.capacity = .ok proposed)
    (fits : pool.capacity + 1 < Size.limit) :
    pop pool = takeFresh { pool with capacity := max proposed (pool.capacity + 1) } := by
  rw [pop_of_full drained full, grow_of_proposal proposal fits]

theorem pop_ok {pool after : IndexPool} {index : Nat} (popped : pop pool = .ok index after) :
    Popped pool index after := by
  cases queued : pool.free.pop? with
  | some entry =>
      obtain ⟨first, rest⟩ := entry
      rw [pop_of_freed queued] at popped
      cases popped
      exact .freed (Fifo.toList_eq_cons_of_pop? queued)
  | none =>
      have drained := Fifo.toList_eq_nil_of_pop? queued
      rcases Nat.lt_or_ge pool.highWater pool.capacity with room | full
      · rw [pop_of_room queued room, takeFresh_eq] at popped
        cases popped
        exact .fresh drained room
      · cases proposal : pool.growth pool.capacity with
        | error fault =>
            rw [pop_of_full queued full] at popped
            simp [grow, proposal] at popped
        | ok proposed =>
            by_cases fits : pool.capacity + 1 < Size.limit
            · rw [pop_of_proposal queued full proposal fits, takeFresh_eq] at popped
              cases popped
              exact .grown drained full proposal
            · rw [pop_of_full queued full] at popped
              simp [grow, proposal, Size.add, fits] at popped

theorem pop_error {pool after : IndexPool} {fault : Fault}
    (refused : pop pool = .error fault after) : after = pool := by
  cases queued : pool.free.pop? with
  | some entry => simp [pop_of_freed queued] at refused
  | none =>
      rcases Nat.lt_or_ge pool.highWater pool.capacity with room | full
      · simp [pop_of_room queued room, takeFresh_eq] at refused
      · rw [pop_of_full queued full] at refused
        cases grown : grow pool with
        | ok answer middle => simp [grown, takeFresh_eq] at refused
        | error cause middle =>
            simp only [grown] at refused
            cases refused
            exact grow_error grown

theorem pop_answers {pool : IndexPool} {proposed : Nat}
    (proposal : pool.growth pool.capacity = .ok proposed) (fits : pool.capacity + 1 < Size.limit) :
    ∃ index after, pop pool = .ok index after := by
  cases queued : pool.free.pop? with
  | some entry => exact ⟨entry.1, _, pop_of_freed queued⟩
  | none =>
      rcases Nat.lt_or_ge pool.highWater pool.capacity with room | full
      · exact ⟨_, _, (pop_of_room queued room).trans (takeFresh_eq pool)⟩
      · exact ⟨_, _, (pop_of_proposal queued full proposal fits).trans (takeFresh_eq _)⟩

theorem takeFresh_wellFormed {pool : IndexPool} (wellFormed : pool.WellFormed)
    (drained : pool.free.toList = []) {raised : Nat} (above : pool.highWater < raised) :
    WellFormed { pool with
      capacity := raised
      highWater := pool.highWater + 1
      outstanding := pool.outstanding.insert pool.highWater } := by
  refine ⟨wellFormed.distinct, ?_, by simp [drained], above⟩
  intro other
  simp only [Std.TreeSet.mem_insert, Nat.compare_eq_eq, wellFormed.outstanding_iff, drained,
    List.not_mem_nil, not_false_eq_true, and_true]
  omega

namespace Popped

variable {pool after : IndexPool} {index : Nat}

theorem fresh_index (popped : Popped pool index after) (wellFormed : pool.WellFormed) :
    index ∉ pool.outstanding := by
  intro outstanding
  have handed := (wellFormed.outstanding_iff index).mp outstanding
  cases popped with
  | freed queued => exact handed.2 (by simp [queued])
  | fresh drained room => exact Nat.lt_irrefl _ handed.1
  | grown drained full proposal => exact Nat.lt_irrefl _ handed.1

theorem outstanding_iff (popped : Popped pool index after) (other : Nat) :
    other ∈ after.outstanding ↔ other = index ∨ other ∈ pool.outstanding := by
  cases popped <;>
    simp only [Std.TreeSet.mem_insert, Nat.compare_eq_eq, eq_comm (a := other)]

theorem growth_eq (popped : Popped pool index after) : after.growth = pool.growth := by
  cases popped <;> rfl

theorem capacity_le (popped : Popped pool index after) : pool.capacity ≤ after.capacity := by
  cases popped with
  | freed queued => exact Nat.le_refl _
  | fresh drained room => exact Nat.le_refl _
  | grown drained full proposal => simp only; omega

theorem wellFormed (popped : Popped pool index after) (wellFormed : pool.WellFormed) :
    after.WellFormed := by
  cases popped with
  | freed queued =>
      have distinct := wellFormed.distinct
      rw [queued, List.nodup_cons] at distinct
      refine ⟨distinct.2, ?_, ?_, wellFormed.highWater_le⟩
      · intro other
        have before := wellFormed.outstanding_iff other
        have below := wellFormed.free_below index (by simp [queued])
        simp only [queued, List.mem_cons, not_or] at before
        simp only [Std.TreeSet.mem_insert, Nat.compare_eq_eq, before]
        constructor
        · rintro (rfl | ⟨bound, -, absent⟩)
          · exact ⟨below, distinct.1⟩
          · exact ⟨bound, absent⟩
        · rintro ⟨bound, absent⟩
          by_cases same : index = other
          · exact .inl same
          · exact .inr ⟨bound, fun equal => same equal.symm, absent⟩
      · intro other member
        exact wellFormed.free_below other (by simp [queued, member])
  | fresh drained room => exact takeFresh_wellFormed wellFormed drained room
  | grown drained full proposal =>
      have mark := wellFormed.highWater_le
      exact takeFresh_wellFormed wellFormed drained (by omega)

end Popped

/-! ## How many are out -/

def handedOut (pool : IndexPool) : Nat := pool.highWater - pool.free.length

theorem WellFormed.length_add_free {pool : IndexPool} (wellFormed : pool.WellFormed)
    {indices : List Nat} (distinct : indices.Nodup)
    (exact : ∀ index, index ∈ indices ↔ index ∈ pool.outstanding) :
    indices.length + pool.free.length = pool.highWater := by
  have apart : (indices ++ pool.free.toList).Nodup := by
    refine List.nodup_append.mpr ⟨distinct, wellFormed.distinct, ?_⟩
    rintro index member other queued rfl
    exact ((wellFormed.outstanding_iff index).mp ((exact index).mp member)).2 queued
  have all : (indices ++ pool.free.toList).Perm (List.range pool.highWater) := by
    refine (List.perm_ext_iff_of_nodup apart List.nodup_range).mpr ?_
    intro index
    rw [List.mem_append, exact, wellFormed.outstanding_iff, List.mem_range]
    constructor
    · rintro (outstanding | queued)
      · exact outstanding.1
      · exact wellFormed.free_below index queued
    · intro below
      by_cases queued : index ∈ pool.free.toList
      · exact .inr queued
      · exact .inl ⟨below, queued⟩
  simpa using all.length_eq

theorem WellFormed.free_length_le {pool : IndexPool} (wellFormed : pool.WellFormed) :
    pool.free.length ≤ pool.highWater := by
  let indices := (List.range pool.highWater).filter fun index => index ∉ pool.free.toList
  have listed : ∀ index, index ∈ indices ↔ index ∈ pool.outstanding := fun index => by
    simp [indices, wellFormed.outstanding_iff]
  have total := wellFormed.length_add_free (List.nodup_range.filter _) listed
  omega

theorem WellFormed.handedOut_eq {pool : IndexPool} (wellFormed : pool.WellFormed)
    {indices : List Nat} (distinct : indices.Nodup)
    (exact : ∀ index, index ∈ indices ↔ index ∈ pool.outstanding) :
    pool.handedOut = indices.length := by
  have total := wellFormed.length_add_free distinct exact
  unfold handedOut
  omega

theorem WellFormed.outstandingCount_eq {pool : IndexPool} (wellFormed : pool.WellFormed) :
    pool.outstandingCount = .ok pool.handedOut :=
  Size.sub_eq_ok wellFormed.free_length_le

theorem Popped.handedOut_eq {pool after : IndexPool} {index : Nat} (popped : Popped pool index after)
    (wellFormed : pool.WellFormed) : after.handedOut = pool.handedOut + 1 := by
  have before := wellFormed.free_length_le
  simp only [handedOut, ← Fifo.length_toList] at before ⊢
  cases popped with
  | freed queued =>
      simp only [queued, List.length_cons] at before ⊢
      omega
  | fresh drained room => simp [drained]
  | grown drained full proposal => simp [drained]

/-! ## Handing out several -/

inductive PoppedAll : IndexPool → List Nat → IndexPool → Prop where
  | nil (pool : IndexPool) : PoppedAll pool [] pool
  | cons {pool middle after : IndexPool} {index : Nat} {rest : List Nat}
      (first : Popped pool index middle) (others : PoppedAll middle rest after) :
      PoppedAll pool (index :: rest) after

namespace PoppedAll

variable {pool after : IndexPool} {indices : List Nat}

theorem wellFormed (popped : PoppedAll pool indices after) (wellFormed : pool.WellFormed) :
    after.WellFormed := by
  induction popped with
  | nil => exact wellFormed
  | cons first others ih => exact ih (first.wellFormed wellFormed)

theorem outstanding_iff (popped : PoppedAll pool indices after) (other : Nat) :
    other ∈ after.outstanding ↔ other ∈ indices ∨ other ∈ pool.outstanding := by
  induction popped with
  | nil => simp
  | cons first others ih => rw [ih, first.outstanding_iff, List.mem_cons, or_left_comm, or_assoc]

theorem fresh (popped : PoppedAll pool indices after) (wellFormed : pool.WellFormed) :
    ∀ index ∈ indices, index ∉ pool.outstanding := by
  induction popped with
  | nil => simp
  | cons first others ih =>
      intro index member outstanding
      rcases List.mem_cons.mp member with rfl | later
      · exact first.fresh_index wellFormed outstanding
      · exact ih (first.wellFormed wellFormed) index later
          ((first.outstanding_iff index).mpr (.inr outstanding))

theorem distinct (popped : PoppedAll pool indices after) (wellFormed : pool.WellFormed) :
    indices.Nodup := by
  induction popped with
  | nil => exact List.nodup_nil
  | @cons pool middle after index rest first others ih =>
      refine List.nodup_cons.mpr ⟨?_, ih (first.wellFormed wellFormed)⟩
      intro again
      exact others.fresh (first.wellFormed wellFormed) index again
        ((first.outstanding_iff index).mpr (.inl rfl))

end PoppedAll

structure Capped (pool : IndexPool) (ceiling : Nat) : Prop where
  capacity_le : pool.capacity ≤ ceiling
  growth_le : ∀ capacity < ceiling, ∃ proposed ≤ ceiling, pool.growth capacity = .ok proposed
  ceiling_lt : ceiling < Size.limit

theorem pop_of_capped {pool : IndexPool} {ceiling : Nat} (capped : pool.Capped ceiling)
    (room : pool.handedOut < ceiling) :
    ∃ index after, pop pool = .ok index after ∧ after.Capped ceiling := by
  cases queued : pool.free.pop? with
  | some entry =>
      obtain ⟨first, rest⟩ := entry
      exact ⟨first, _, pop_of_freed queued, capped.capacity_le, capped.growth_le, capped.ceiling_lt⟩
  | none =>
      have drained := Fifo.toList_eq_nil_of_pop? queued
      rcases Nat.lt_or_ge pool.highWater pool.capacity with below | full
      · refine ⟨pool.highWater, _, (pop_of_room queued below).trans (takeFresh_eq pool), ?_⟩
        exact ⟨capped.capacity_le, capped.growth_le, capped.ceiling_lt⟩
      · have marked : pool.handedOut = pool.highWater := by
          rw [handedOut, ← Fifo.length_toList, drained, List.length_nil, Nat.sub_zero]
        have next : pool.capacity + 1 ≤ ceiling := by omega
        obtain ⟨proposed, bound, proposal⟩ := capped.growth_le pool.capacity next
        have popped := pop_of_proposal queued full proposal
          (Nat.lt_of_le_of_lt next capped.ceiling_lt)
        refine ⟨pool.highWater, _, popped.trans (takeFresh_eq _), ?_⟩
        exact ⟨Nat.max_le.mpr ⟨bound, next⟩, capped.growth_le, capped.ceiling_lt⟩

theorem popInto_of_capped {pool : IndexPool} {ceiling count : Nat} (capped : pool.Capped ceiling)
    (wellFormed : pool.WellFormed) (room : pool.handedOut + count ≤ ceiling) (popped : List Nat) :
    ∃ indices after, popInto count popped pool = .ok (popped.reverse ++ indices) after ∧
      indices.length = count ∧ PoppedAll pool indices after ∧ after.Capped ceiling := by
  induction count generalizing pool popped with
  | zero => exact ⟨[], pool, by simp [popInto], rfl, .nil pool, capped⟩
  | succ count ih =>
      obtain ⟨index, middle, answered, stillCapped⟩ :=
        pop_of_capped capped (by omega)
      have first := pop_ok answered
      have counted := first.handedOut_eq wellFormed
      obtain ⟨rest, after, others, length, all, capped⟩ :=
        ih stillCapped (first.wellFormed wellFormed) (by omega) (index :: popped)
      refine ⟨index :: rest, after, ?_, by simp [length], .cons first all, capped⟩
      simp [popInto, answered, others]

theorem popMany_of_capped {pool : IndexPool} {ceiling count : Nat} (capped : pool.Capped ceiling)
    (wellFormed : pool.WellFormed) (room : pool.handedOut + count ≤ ceiling)
    (listed : Size.checkBlock count 8 = .ok ()) :
    ∃ indices after, popMany count pool = .ok indices after ∧ indices.length = count ∧
      PoppedAll pool indices after ∧ after.Capped ceiling := by
  obtain ⟨indices, after, answered, rest⟩ := popInto_of_capped capped wellFormed room []
  refine ⟨indices, after, ?_, rest⟩
  simpa [popMany, listed] using answered

/-! ## Taking back -/

inductive GivenBack : IndexPool → List Nat → IndexPool → Prop where
  | nil (pool : IndexPool) : GivenBack pool [] pool
  | cons {pool after : IndexPool} {index : Nat} {rest : List Nat}
      (outstanding : index ∈ pool.outstanding)
      (others : GivenBack
        { pool with free := pool.free.push index, outstanding := pool.outstanding.erase index }
        rest after) :
      GivenBack pool (index :: rest) after

theorem giveBack_of_outstanding {pool : IndexPool} {index : Nat}
    (outstanding : index ∈ pool.outstanding) :
    giveBack index pool = .ok ()
      { pool with free := pool.free.push index, outstanding := pool.outstanding.erase index } := by
  simp [giveBack, outstanding]

theorem giveBack_of_not_outstanding {pool : IndexPool} {index : Nat}
    (returned : index ∉ pool.outstanding) :
    giveBack index pool = .error (.violated (.notOutstanding index)) pool := by
  simp [giveBack, returned]

/-- Giving back many takes all, or it stops at the first that is not out. -/
theorem giveBackMany_ends (indices : List Nat) (pool : IndexPool) :
    (∃ after, giveBackMany indices pool = .ok () after ∧ GivenBack pool indices after) ∨
      ∃ given index rest after, indices = given ++ index :: rest ∧ GivenBack pool given after ∧
        index ∉ after.outstanding ∧
        giveBackMany indices pool = .error (.violated (.notOutstanding index)) after := by
  induction indices generalizing pool with
  | nil => exact .inl ⟨pool, rfl, .nil pool⟩
  | cons first rest ih =>
      by_cases outstanding : first ∈ pool.outstanding
      · have later : giveBackMany (first :: rest) pool = giveBackMany rest
            { pool with free := pool.free.push first, outstanding := pool.outstanding.erase first } := by
          simp [giveBackMany, giveBack_of_outstanding outstanding]
        rw [later]
        obtain ⟨after, ran, taken⟩ | ⟨given, index, last, after, rfl, taken, returned, ran⟩ := ih _
        · exact .inl ⟨after, ran, .cons outstanding taken⟩
        · exact .inr ⟨first :: given, index, last, after, rfl, .cons outstanding taken, returned, ran⟩
      · exact .inr ⟨[], first, rest, pool, rfl, .nil pool, outstanding, by
          simp [giveBackMany, giveBack_of_not_outstanding outstanding]⟩

theorem giveBackMany_returns (indices : List Nat) (pool : IndexPool) :
    ∃ given, given <+: indices ∧ GivenBack pool given (Action.after (giveBackMany indices) pool) := by
  obtain ⟨after, ran, taken⟩ | ⟨given, index, rest, after, split, taken, -, ran⟩ :=
    giveBackMany_ends indices pool
  · exact ⟨indices, List.prefix_refl _, by rwa [Action.after_of_ok ran]⟩
  · exact ⟨given, split ▸ List.prefix_append _ _, by rwa [Action.after_of_error ran]⟩

namespace GivenBack

variable {pool after : IndexPool} {indices : List Nat}

theorem eq_with (given : GivenBack pool indices after) :
    after = { pool with free := after.free, outstanding := after.outstanding } := by
  induction given with
  | nil => rfl
  | cons outstanding others ih => exact ih

theorem growth_eq (given : GivenBack pool indices after) : after.growth = pool.growth := by
  rw [given.eq_with]

theorem capacity_eq (given : GivenBack pool indices after) : after.capacity = pool.capacity := by
  rw [given.eq_with]

theorem highWater_eq (given : GivenBack pool indices after) : after.highWater = pool.highWater := by
  rw [given.eq_with]

theorem free_eq (given : GivenBack pool indices after) :
    after.free.toList = pool.free.toList ++ indices := by
  induction given with
  | nil => exact (List.append_nil _).symm
  | cons outstanding others ih =>
      rw [ih, Fifo.toList_push, List.append_assoc, List.singleton_append]

theorem outstanding_iff (given : GivenBack pool indices after) (other : Nat) :
    other ∈ after.outstanding ↔ other ∈ pool.outstanding ∧ other ∉ indices := by
  induction given with
  | nil => simp
  | cons outstanding others ih =>
      rw [ih, List.mem_cons, not_or, Std.TreeSet.mem_erase, ne_eq, Nat.compare_eq_eq]
      tauto

theorem outstanding (given : GivenBack pool indices after) (index : Nat) (member : index ∈ indices) :
    index ∈ pool.outstanding := by
  induction given with
  | nil => cases member
  | cons first others ih =>
      rcases List.mem_cons.mp member with rfl | later
      · exact first
      · exact (Std.TreeSet.mem_erase.mp (ih later)).2

theorem distinct (given : GivenBack pool indices after) : indices.Nodup := by
  induction given with
  | nil => exact List.nodup_nil
  | cons first others ih =>
      refine List.nodup_cons.mpr ⟨fun again => ?_, ih⟩
      exact (Std.TreeSet.mem_erase.mp (others.outstanding _ again)).1 Std.ReflCmp.compare_self

theorem append {last : IndexPool} {more : List Nat} (given : GivenBack pool indices after)
    (others : GivenBack after more last) : GivenBack pool (indices ++ more) last := by
  induction given with
  | nil => exact others
  | cons outstanding _ ih => exact .cons outstanding (ih others)

theorem capped {ceiling : Nat} (given : GivenBack pool indices after) (capped : pool.Capped ceiling) :
    after.Capped ceiling := by
  refine ⟨given.capacity_eq ▸ capped.capacity_le, ?_, capped.ceiling_lt⟩
  rw [given.growth_eq]
  exact capped.growth_le

theorem wellFormed (given : GivenBack pool indices after) (wellFormed : pool.WellFormed) :
    after.WellFormed := by
  induction given with
  | nil => exact wellFormed
  | @cons pool after index rest outstanding others ih =>
      obtain ⟨below, absent⟩ := (wellFormed.outstanding_iff index).mp outstanding
      refine ih ⟨?_, ?_, ?_, wellFormed.highWater_le⟩
      · rw [Fifo.toList_push]
        refine List.nodup_append.mpr ⟨wellFormed.distinct, List.nodup_singleton _, ?_⟩
        rintro other queued last member rfl
        exact absent (List.mem_singleton.mp member ▸ queued)
      · intro other
        rw [Std.TreeSet.mem_erase, ne_eq, Nat.compare_eq_eq, wellFormed.outstanding_iff,
          Fifo.toList_push, List.mem_append, List.mem_singleton]
        tauto
      · intro other member
        rw [Fifo.toList_push, List.mem_append, List.mem_singleton] at member
        rcases member with queued | rfl
        · exact wellFormed.free_below other queued
        · exact below

end GivenBack

theorem giveBackMany_of_outstanding {indices : List Nat} {pool : IndexPool}
    (distinct : indices.Nodup) (outstanding : ∀ index ∈ indices, index ∈ pool.outstanding) :
    ∃ after, giveBackMany indices pool = .ok () after ∧ GivenBack pool indices after := by
  obtain taken | ⟨given, index, rest, after, rfl, taken, returned, -⟩ := giveBackMany_ends indices pool
  · exact taken
  · have out := outstanding index (List.mem_append_right _ List.mem_cons_self)
    have apart : index ∉ given := fun member =>
      List.disjoint_of_nodup_append distinct member List.mem_cons_self
    exact absurd ((taken.outstanding_iff index).mpr ⟨out, apart⟩) returned

/-! ## Compaction -/

def trim (pool : IndexPool) : IndexPool :=
  let top := trimmed pool.free.toList pool.highWater
  if top = pool.highWater then pool
  else { pool with
    free := pool.free.filter (· < top)
    highWater := top
    outstanding := pool.outstanding.filter (· < top) }

theorem trimmed_le (free : List Nat) (top : Nat) : trimmed free top ≤ top := by
  induction top with
  | zero => exact Nat.le_refl _
  | succ top ih =>
      unfold trimmed
      split
      · exact Nat.le_succ_of_le ih
      · exact Nat.le_refl _

theorem mem_of_trimmed_le {free : List Nat} {top index : Nat} (above : trimmed free top ≤ index)
    (below : index < top) : index ∈ free := by
  induction top with
  | zero => omega
  | succ top ih =>
      unfold trimmed at above
      split at above
      · rename_i queued
        rcases Nat.lt_succ_iff_lt_or_eq.mp below with lower | rfl
        · exact ih above lower
        · exact queued
      · omega

theorem not_mem_of_trimmed {free : List Nat} {top last : Nat} (stop : trimmed free top = last + 1) :
    last ∉ free := by
  induction top with
  | zero => simp [trimmed] at stop
  | succ top ih =>
      unfold trimmed at stop
      split at stop
      · exact ih stop
      · rename_i absent
        rwa [Nat.succ.inj stop] at absent

section Trim

variable {pool : IndexPool}

theorem trim_capacity (pool : IndexPool) : pool.trim.capacity = pool.capacity := by
  unfold trim
  dsimp only
  split <;> rfl

theorem trim_growth (pool : IndexPool) : pool.trim.growth = pool.growth := by
  unfold trim
  dsimp only
  split <;> rfl

theorem trim_highWater (pool : IndexPool) :
    pool.trim.highWater = trimmed pool.free.toList pool.highWater := by
  unfold trim
  dsimp only
  split
  · rename_i untouched
    exact untouched.symm
  · rfl

theorem trim_highWater_le (pool : IndexPool) : pool.trim.highWater ≤ pool.highWater := by
  rw [trim_highWater]
  exact trimmed_le _ _

theorem trim_free (wellFormed : pool.WellFormed) :
    pool.trim.free.toList = pool.free.toList.filter (· < pool.trim.highWater) := by
  rw [trim_highWater]
  unfold trim
  dsimp only
  split
  · rename_i untouched
    rw [untouched, List.filter_eq_self.mpr]
    simpa using wellFormed.free_below
  · exact Fifo.toList_filter _ _

theorem trim_outstanding (wellFormed : pool.WellFormed) (index : Nat) :
    index ∈ pool.trim.outstanding ↔ index ∈ pool.outstanding := by
  unfold trim
  dsimp only
  split
  · rfl
  · simp only [Std.TreeSet.mem_filter, Std.TreeSet.get_eq, decide_eq_true_eq, exists_prop]
    refine and_iff_left_of_imp ?_
    intro outstanding
    obtain ⟨below, absent⟩ := (wellFormed.outstanding_iff index).mp outstanding
    by_contra above
    exact absent (mem_of_trimmed_le (Nat.not_lt.mp above) below)

theorem trim_wellFormed (wellFormed : pool.WellFormed) : pool.trim.WellFormed := by
  have lowered := trim_highWater_le pool
  refine ⟨?_, ?_, ?_, ?_⟩
  · rw [trim_free wellFormed]
    exact wellFormed.distinct.filter _
  · intro index
    rw [trim_outstanding wellFormed, wellFormed.outstanding_iff, trim_free wellFormed,
      List.mem_filter, decide_eq_true_eq]
    constructor
    · rintro ⟨below, absent⟩
      refine ⟨?_, fun queued => absent queued.1⟩
      rw [trim_highWater]
      by_contra above
      exact absent (mem_of_trimmed_le (Nat.not_lt.mp above) below)
    · rintro ⟨below, absent⟩
      exact ⟨by omega, fun queued => absent ⟨queued, below⟩⟩
  · intro index queued
    rw [trim_free wellFormed, List.mem_filter] at queued
    simpa using queued.2
  · rw [trim_capacity]
    exact Nat.le_trans lowered wellFormed.highWater_le

theorem trim_of_drained (drained : pool.free.toList = []) : pool.trim = pool := by
  have untouched : trimmed pool.free.toList pool.highWater = pool.highWater := by
    rw [drained]
    cases pool.highWater <;> simp [trimmed]
  simp [trim, untouched]

end Trim

/-- Compaction trims the pool, and then lowers the capacity to the proposal, held between the new
high-water mark and the old capacity. -/
theorem compact_eq {pool : IndexPool} (wellFormed : pool.WellFormed) (shrink : Shrink) :
    compact shrink pool = match shrink pool.trim.highWater pool.capacity with
      | .ok proposed =>
          .ok (max pool.trim.highWater (min proposed pool.capacity))
            { pool.trim with capacity := max pool.trim.highWater (min proposed pool.capacity) }
      | .error fault => .error fault pool.trim := by
  have inOrder := (trim_wellFormed wellFormed).highWater_le
  rw [trim_capacity] at inOrder
  have started : ∀ next : PUnit → Action IndexPool Nat,
      ((modify fun pool =>
        let top := trimmed pool.free.toList pool.highWater
        if top = pool.highWater then pool
        else { pool with
          free := pool.free.filter (· < top)
          highWater := top
          outstanding := pool.outstanding.filter (· < top) }) >>= next) pool = next ⟨⟩ pool.trim :=
    fun next => by simp [trim]
  rw [compact, started]
  simp only [Action.bind_apply, Action.get_apply, Action.liftM_apply, trim_capacity]
  cases shrink pool.trim.highWater pool.capacity with
  | error fault => rfl
  | ok proposed => simp [Nat.not_lt.mpr inOrder]

theorem compacted_wellFormed {pool : IndexPool} (wellFormed : pool.WellFormed) (proposed : Nat) :
    WellFormed
      { pool.trim with capacity := max pool.trim.highWater (min proposed pool.capacity) } := by
  have trimmed := trim_wellFormed wellFormed
  exact ⟨trimmed.distinct, trimmed.outstanding_iff, trimmed.free_below, Nat.le_max_left _ _⟩

/-! ## Withdrawing what was handed out last -/

structure Same (pool after : IndexPool) : Prop where
  free : after.free.toList = pool.free.toList
  capacity : after.capacity = pool.capacity
  highWater : after.highWater = pool.highWater
  growth : after.growth = pool.growth
  outstanding_iff : ∀ index, index ∈ after.outstanding ↔ index ∈ pool.outstanding

theorem Same.wellFormed {pool after : IndexPool} (same : Same pool after)
    (wellFormed : pool.WellFormed) : after.WellFormed := by
  constructor
  · rw [same.free]
    exact wellFormed.distinct
  · intro index
    rw [same.outstanding_iff, wellFormed.outstanding_iff, same.highWater, same.free]
  · rw [same.free, same.highWater]
    exact wellFormed.free_below
  · rw [same.highWater, same.capacity]
    exact wellFormed.highWater_le

/-- A pool that grew to hand out an index is as before once it has taken the index back and was
compacted to no more than it had handed out before. -/
theorem withdraw {pool : IndexPool} (wellFormed : pool.WellFormed) (drained : pool.free.toList = [])
    (full : pool.capacity ≤ pool.highWater) {raised fits : Nat} (above : pool.highWater < raised)
    (few : fits ≤ pool.highWater) :
    ∃ given kept after,
      giveBack pool.highWater
        { pool with
          capacity := raised
          highWater := pool.highWater + 1
          outstanding := pool.outstanding.insert pool.highWater } = .ok () given ∧
      compact (fun _ _ => .ok fits) given = .ok kept after ∧ Same pool after := by
  let popped : IndexPool :=
    { pool with
      capacity := raised
      highWater := pool.highWater + 1
      outstanding := pool.outstanding.insert pool.highWater }
  have member : pool.highWater ∈ popped.outstanding := by simp [popped]
  have absent : pool.highWater ∉ pool.outstanding := fun outstanding =>
    Nat.lt_irrefl _ ((wellFormed.outstanding_iff _).mp outstanding).1
  have poppedWellFormed : popped.WellFormed := takeFresh_wellFormed wellFormed drained above
  have returned := giveBack_of_outstanding member
  let given : IndexPool :=
    { popped with
      free := popped.free.push pool.highWater
      outstanding := popped.outstanding.erase pool.highWater }
  have givenBack : GivenBack popped [pool.highWater] given := .cons member (.nil _)
  have givenWellFormed : given.WellFormed := givenBack.wellFormed poppedWellFormed
  -- The index comes back as the only free one, at the top, so the pool is trimmed by it alone.
  have queue : given.free.toList = [pool.highWater] := by simp [given, popped, drained]
  have mark : given.trim.highWater = pool.highWater := by
    rw [trim_highWater, queue, show given.highWater = pool.highWater + 1 from rfl, trimmed,
      if_pos (List.mem_singleton_self _)]
    cases pool.highWater with
    | zero => rfl
    | succ last => simp [trimmed]
  have inOrder := wellFormed.highWater_le
  have lowered : max given.trim.highWater (min fits given.capacity) = pool.capacity := by
    rw [mark]
    omega
  refine ⟨given, _, _, returned, compact_eq givenWellFormed _, ?_⟩
  constructor
  · simp only [trim_free givenWellFormed, queue, mark, drained]
    simp
  · exact lowered
  · exact mark
  · exact trim_growth given
  · intro index
    simp only [trim_outstanding givenWellFormed, given, popped, Std.TreeSet.mem_erase,
      Std.TreeSet.mem_insert, ne_eq, Nat.compare_eq_eq]
    constructor
    · rintro ⟨different, same | outstanding⟩
      · exact absurd same different
      · exact outstanding
    · intro outstanding
      exact ⟨fun same => absent (same ▸ outstanding), .inr outstanding⟩

end TorusEngine.Paging.IndexPool
