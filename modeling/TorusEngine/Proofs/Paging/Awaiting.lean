import TorusEngine.Proofs.Paging.Runs

/-!
# Records that await their release

A record that waits to be freed stays outstanding through everything its window does, as long as it is
not freed in another way (`Hosted.Call.after_awaits`), and no way of making records hands it out
(`Hosted.tryCreate_fresh`, `Hosted.createMany_fresh`).
-/

namespace TorusEngine.Paging

namespace IndexPool

structure Awaits (pool : IndexPool) (waiting : List Nat) : Prop where
  wellFormed : pool.WellFormed
  outstanding : ∀ index ∈ waiting, index ∈ pool.outstanding

namespace Awaits

variable {pool after : IndexPool} {waiting : List Nat} {index : Nat}

theorem fresh (awaits : pool.Awaits waiting) (new : index ∉ pool.outstanding) : index ∉ waiting :=
  fun member => new (awaits.outstanding index member)

theorem popped (awaits : pool.Awaits waiting) (popped : Popped pool index after) :
    after.Awaits waiting :=
  ⟨popped.wellFormed awaits.wellFormed, fun other member =>
    (popped.outstanding_iff other).mpr (.inr (awaits.outstanding other member))⟩

theorem giveBackMany (awaits : pool.Awaits waiting) {indices : List Nat}
    (spared : ∀ index ∈ indices, index ∉ waiting) :
    (Action.after (IndexPool.giveBackMany indices) pool).Awaits waiting := by
  obtain ⟨given, first, returned⟩ := giveBackMany_returns indices pool
  refine ⟨returned.wellFormed awaits.wellFormed, fun index member =>
    (returned.outstanding_iff index).mpr ⟨awaits.outstanding index member, fun gone => ?_⟩⟩
  exact spared index (first.subset gone) member

theorem compact (awaits : pool.Awaits waiting) (shrink : Shrink) :
    (Action.after (IndexPool.compact shrink) pool).Awaits waiting := by
  have compacted := compact_eq awaits.wellFormed shrink
  have trimmed : ∀ index ∈ waiting, index ∈ pool.trim.outstanding := fun index member =>
    (trim_outstanding awaits.wellFormed index).mpr (awaits.outstanding index member)
  cases proposal : shrink pool.trim.highWater pool.capacity with
  | ok proposed =>
      rw [proposal] at compacted
      rw [Action.after_of_ok compacted]
      exact ⟨compacted_wellFormed awaits.wellFormed proposed, trimmed⟩
  | error fault =>
      rw [proposal] at compacted
      rw [Action.after_of_error compacted]
      exact ⟨trim_wellFormed awaits.wellFormed, trimmed⟩

end Awaits

end IndexPool

namespace Hosted

def KeepsAwaiting (waiting : List Nat) (hosted after : Hosted) : Prop :=
  hosted.window.pool.Awaits waiting → after.window.pool.Awaits waiting

variable {waiting : List Nat} {hosted after : Hosted} {index : Nat}

instance : Std.Refl (KeepsAwaiting waiting) := ⟨fun _ awaits => awaits⟩

instance : Trans (KeepsAwaiting waiting) (KeepsAwaiting waiting) (KeepsAwaiting waiting) :=
  ⟨fun first second awaits => second (first awaits)⟩

theorem onPool_keepsAwaiting {α : Type} {action : Action IndexPool α}
    (keeps : ∀ pool : IndexPool, pool.Awaits waiting → (Action.after action pool).Awaits waiting) :
    Action.Respects (KeepsAwaiting waiting) (onPool action) := by
  intro hosted awaits
  rw [after_onPool]
  exact keeps _ awaits

theorem fitBuffer_keepsAwaiting : Action.Respects (KeepsAwaiting waiting) fitBuffer := by
  intro hosted awaits
  rcases after_fitBuffer hosted with same | ⟨size, needed, -, -, resized⟩
  · rwa [same]
  · rwa [resized]

theorem giveBack_keepsAwaiting (spared : index ∉ waiting) :
    Action.Respects (KeepsAwaiting waiting) (onPool (IndexPool.giveBack index)) := by
  rw [giveBack_eq_giveBackMany]
  exact onPool_keepsAwaiting fun _ awaits => awaits.giveBackMany (by simpa using spared)

theorem tryCreate_keepsAwaiting : Action.Respects (KeepsAwaiting waiting) tryCreate := by
  intro hosted awaits
  unfold tryCreate
  rw [Action.after_bind, onPool_apply]
  cases ended : IndexPool.pop hosted.window.pool with
  | error fault pool =>
      rw [IndexPool.pop_error ended]
      exact awaits
  | ok index pool =>
      have popped := IndexPool.pop_ok ended
      have spared := awaits.fresh (popped.fresh_index awaits.wellFormed)
      have compacts : ∀ shrink, Action.Respects (KeepsAwaiting waiting)
          (onPool (IndexPool.compact shrink)) :=
        fun shrink => onPool_keepsAwaiting fun _ awaits => awaits.compact shrink
      refine (fitBuffer_keepsAwaiting.refusal?.bind fun why => ?_) (hosted.withPool pool)
        (awaits.popped popped)
      cases why with
      | none => exact Action.Respects.pure index
      | some why =>
          apply Action.Respects.get_bind
          intro left
          refine ((Action.Respects.ofExcept _).bind fun size => ?_) left
          dsimp only
          split
          · exact (compacts _).bind fun _ => Action.Respects.pure index
          · exact (giveBack_keepsAwaiting spared).bind fun _ => (compacts _).bind fun _ =>
              Action.Respects.throw _

theorem tryCreate_fresh (wellFormed : hosted.window.pool.WellFormed)
    (made : tryCreate hosted = .ok index after) : index ∉ hosted.window.pool.outstanding := by
  obtain ⟨popped, middle, ended, rest⟩ := Action.bind_ok.mp made
  obtain ⟨pool, handed, -⟩ := Action.within_ok.mp ended
  have same : index = popped := by
    obtain ⟨why, left, -, rest⟩ := Action.bind_ok.mp rest
    cases why with
    | none =>
        cases rest
        rfl
    | some why =>
        obtain ⟨_, _, got, rest⟩ := Action.bind_ok.mp rest
        obtain ⟨size, _, -, rest⟩ := Action.bind_ok.mp rest
        split at rest
        · obtain ⟨_, _, -, answered⟩ := Action.bind_ok.mp rest
          cases answered
          rfl
        · obtain ⟨_, _, -, rest⟩ := Action.bind_ok.mp rest
          obtain ⟨_, _, -, thrown⟩ := Action.bind_ok.mp rest
          cases thrown
  rw [same]
  exact (IndexPool.pop_ok handed).fresh_index wellFormed

theorem tryCreateInto_keepsAwaiting (awaits : hosted.window.pool.Awaits waiting) (count : Nat)
    {made : List Nat} (spared : ∀ index ∈ made, index ∉ waiting) :
    (Action.after (tryCreateInto count made) hosted).window.pool.Awaits waiting := by
  induction count generalizing hosted made with
  | zero => exact awaits
  | succ count ih =>
      cases ran : tryCreate hosted with
      | ok index after =>
          have still := tryCreate_keepsAwaiting.of_ok ran awaits
          have new := awaits.fresh (tryCreate_fresh awaits.wellFormed ran)
          have rest := ih still (List.forall_mem_cons.mpr ⟨new, spared⟩)
          rw [Action.after_eq_left] at rest ⊢
          simp only [tryCreateInto, ran]
          exact rest
      | error fault after =>
          have still := tryCreate_keepsAwaiting.of_error ran awaits
          cases fault with
          | refused why =>
              have back : Action.Respects (KeepsAwaiting waiting)
                  (onPool (IndexPool.giveBackMany made.reverse)) :=
                onPool_keepsAwaiting fun _ awaits => awaits.giveBackMany (by simpa using spared)
              have undone := (back.bind fun _ =>
                @Action.Respects.throw _ (List Nat) _ _ (Fault.refused why)) after still
              rw [Action.after_eq_left] at undone ⊢
              simp only [tryCreateInto, ran]
              exact undone
          | _ =>
              rw [Action.after_eq_left]
              simpa only [tryCreateInto, ran, Action.left] using still

theorem createInto_fresh (awaits : hosted.window.pool.Awaits waiting) {count : Nat}
    {made indices : List Nat} (spared : ∀ index ∈ made, index ∉ waiting)
    (ended : createInto count made hosted = .ok indices after) :
    ∀ index ∈ indices, index ∉ waiting := by
  induction count generalizing hosted made with
  | zero =>
      cases ended
      simpa using spared
  | succ count ih =>
      obtain ⟨index, middle, first, rest⟩ := Action.bind_ok.mp ended
      have created := create_eq_ok.mp first
      have new := awaits.fresh (tryCreate_fresh awaits.wellFormed created)
      exact ih (tryCreate_keepsAwaiting.of_ok created awaits)
        (List.forall_mem_cons.mpr ⟨new, spared⟩) rest

theorem createMany_fresh (awaits : hosted.window.pool.Awaits waiting) {count : Nat}
    {indices : List Nat} (ended : createMany count hosted = .ok indices after) :
    ∀ index ∈ indices, index ∉ waiting := by
  obtain ⟨_, _, checked, rest⟩ := Action.bind_ok.mp ended
  obtain ⟨-, rfl⟩ := Action.liftM_ok.mp checked
  exact createInto_fresh awaits (by simp) rest

inductive HandsOut (hosted : Hosted) (index : Nat) : Prop where
  | tryCreate {after : Hosted} (made : tryCreate hosted = .ok index after)
  | create {after : Hosted} (made : create hosted = .ok index after)
  | tryCreateMany {count : Nat} {indices : List Nat} {after : Hosted}
      (made : tryCreateMany count hosted = .ok indices after) (among : index ∈ indices)
  | createMany {count : Nat} {indices : List Nat} {after : Hosted}
      (made : createMany count hosted = .ok indices after) (among : index ∈ indices)

theorem HandsOut.fresh (hands : hosted.HandsOut index) (awaits : hosted.window.pool.Awaits waiting) :
    index ∉ waiting := by
  cases hands with
  | tryCreate made => exact awaits.fresh (tryCreate_fresh awaits.wellFormed made)
  | create made => exact awaits.fresh (tryCreate_fresh awaits.wellFormed (create_eq_ok.mp made))
  | tryCreateMany made among =>
      exact createMany_fresh awaits (createMany_of_tryCreateMany made) index among
  | createMany made among => exact createMany_fresh awaits made index among

theorem compact_keepsAwaiting : Action.Respects (KeepsAwaiting waiting) compact := by
  have compacts : ∀ shrink, Action.Respects (KeepsAwaiting waiting)
      (onPool (IndexPool.compact shrink)) :=
    fun shrink => onPool_keepsAwaiting fun _ awaits => awaits.compact shrink
  have resizes : ∀ id bytes, Action.Respects (KeepsAwaiting waiting)
      (onArena (Arena.resize id bytes)) := by
    intro id bytes hosted awaits
    rwa [after_onArena]
  apply Action.Respects.get_bind
  intro hosted
  refine ((Action.Respects.ofExcept _).bind fun before => (compacts _).bind fun capacity =>
    (Action.Respects.ofExcept _).bind fun bytes => (resizes _ _).bind fun _ => ?_) hosted
  apply Action.Respects.get_bind
  intro left
  exact ((Action.Respects.ofExcept _).bind fun pages => Action.Respects.pure _) left

end Hosted

def Hosted.Call.freed : Hosted.Call → List Nat
  | free index => [index]
  | freeMany indices => indices
  | _ => []

theorem Hosted.Call.after_awaits (call : Hosted.Call) {hosted : Hosted} {waiting : List Nat}
    (awaits : hosted.window.pool.Awaits waiting) (spared : ∀ index ∈ call.freed, index ∉ waiting) :
    (call.after hosted).window.pool.Awaits waiting := by
  cases call with
  | tryCreate =>
      rw [after, perform, Action.after_map]
      exact tryCreate_keepsAwaiting hosted awaits
  | create =>
      rw [after, perform, Action.after_map]
      exact create_respects tryCreate_keepsAwaiting hosted awaits
  | tryCreateMany count =>
      rw [after, perform, Action.after_map, Hosted.tryCreateMany, Action.after_bind]
      cases Size.checkBlock count 8 with
      | error fault => exact awaits
      | ok answer => exact tryCreateInto_keepsAwaiting awaits count (by simp)
  | createMany count =>
      rw [after, perform, Action.after_map]
      exact createMany_respects tryCreate_keepsAwaiting count hosted awaits
  | free index =>
      rw [after, perform, free_eq_freeMany]
      exact onPool_keepsAwaiting (fun _ awaits => awaits.giveBackMany spared) hosted awaits
  | freeMany indices =>
      exact onPool_keepsAwaiting (fun _ awaits => awaits.giveBackMany spared) hosted awaits
  | compact =>
      rw [after, perform, Action.after_map]
      exact compact_keepsAwaiting hosted awaits

end TorusEngine.Paging
