import TorusEngine.Proofs.Paging.Capacity

/-!
# Calls on windows

Whatever a window does to the arena are resizes of its own buffer (`Hosted.Call.after_resizes`), so the
buffers of others stay as they are. A window whose buffer is backed leaves it backed
(`Hosted.Call.after_backed`), and the records that are live afterwards lose no byte
(`Hosted.Call.after_bytes`).
-/

namespace TorusEngine.Paging

/-! ## What a window does to the arena -/

namespace Hosted

/-- A step of the window on a buffer, which changes its pool and resizes that buffer. -/
def Resizes (id : BufferId) (hosted after : Hosted) : Prop := hosted.window.buffer = id →
  ∃ (pool : IndexPool) (sizes : List Nat), after =
    ⟨{ hosted.window with pool }, Arena.Call.afterAll (sizes.map (.resize id)) hosted.arena⟩

variable {id : BufferId}

instance : Std.Refl (Resizes id) := ⟨fun hosted _ => ⟨hosted.window.pool, [], rfl⟩⟩

instance : Trans (Resizes id) (Resizes id) (Resizes id) where
  trans := by
    intro hosted middle after first second same
    obtain ⟨pool, sizes, rfl⟩ := first same
    obtain ⟨last, more, rfl⟩ := second same
    refine ⟨last, sizes ++ more, ?_⟩
    simp [Arena.Call.afterAll]

theorem onPool_resizes {α : Type} (action : Action IndexPool α) :
    Action.Respects (Resizes id) (onPool action) := by
  intro hosted _
  exact ⟨Action.after action hosted.window.pool, [], after_onPool action hosted⟩

theorem onArena_resizes (bytes : Nat) :
    Action.Respects (Resizes id) (onArena (Arena.resize id bytes)) := by
  intro hosted _
  exact ⟨hosted.window.pool, [bytes], Action.after_within _ _ _ _⟩

theorem get_bind_resizes {α : Type} {next : Hosted → Action Hosted α}
    (reads : ∀ hosted : Hosted, hosted.window.buffer = id →
      Action.Respects (Resizes id) (next hosted)) : Action.Respects (Resizes id) (get >>= next) :=
  Action.Respects.get_bind fun hosted same => reads hosted same hosted same

theorem fitBuffer_resizes : Action.Respects (Resizes id) fitBuffer := by
  refine get_bind_resizes fun hosted same => ?_
  subst same
  refine (Action.Respects.ofExcept _).bind fun needed =>
    (Action.Respects.ofExcept _).bind fun size => ?_
  split
  · exact onArena_resizes needed
  · exact Action.Respects.pure ()

theorem tryCreate_resizes : Action.Respects (Resizes id) tryCreate :=
  tryCreate_respects (onPool_resizes _) (fun _ => onPool_resizes _) (fun _ => onPool_resizes _)
    fitBuffer_resizes

theorem compact_resizes : Action.Respects (Resizes id) compact := by
  refine get_bind_resizes fun hosted same => ?_
  subst same
  exact (Action.Respects.ofExcept _).bind fun before => (onPool_resizes _).bind fun capacity =>
    (Action.Respects.ofExcept _).bind fun bytes => (onArena_resizes bytes).bind fun _ =>
      get_bind_resizes fun left _ => (Action.Respects.ofExcept _).bind fun pages =>
        Action.Respects.pure _

theorem Resizes.window {hosted after : Hosted} (resizes : Resizes hosted.window.buffer hosted after) :
    ∃ pool, after.window = { hosted.window with pool } := by
  obtain ⟨pool, sizes, rfl⟩ := resizes rfl
  exact ⟨pool, rfl⟩

theorem Resizes.arena {hosted after : Hosted} (resizes : Resizes hosted.window.buffer hosted after)
    (wellFormed : hosted.arena.WellFormed) :
    after.arena.WellFormed ∧ Arena.Continues hosted.arena after.arena := by
  obtain ⟨pool, sizes, rfl⟩ := resizes rfl
  exact ⟨Arena.afterAll_wellFormed wellFormed _, Arena.Call.afterAll_continues wellFormed _⟩

theorem Resizes.others {hosted after : Hosted} (resizes : Resizes hosted.window.buffer hosted after)
    (wellFormed : hosted.arena.WellFormed) {other : BufferId} (used : other < hosted.arena.nextBuffer)
    (different : hosted.window.buffer ≠ other) :
    after.arena.tables.get? other = hosted.arena.tables.get? other ∧
      ∀ address, after.arena.byteAt? other address = hosted.arena.byteAt? other address := by
  obtain ⟨pool, sizes, rfl⟩ := resizes rfl
  have spared : ∀ call ∈ sizes.map (Arena.Call.resize hosted.window.buffer), call.Spares other := by
    intro call member
    obtain ⟨bytes, -, rfl⟩ := List.mem_map.mp member
    exact different
  refine ⟨Arena.Call.tables_afterAll wellFormed used spared, fun address =>
    Arena.Call.byteAt?_afterAll wellFormed used spared fun call member => ?_⟩
  obtain ⟨bytes, -, rfl⟩ := List.mem_map.mp member
  rfl

end Hosted

inductive Hosted.Call where
  | tryCreate
  | create
  | tryCreateMany (count : Nat)
  | createMany (count : Nat)
  | free (index : Nat)
  | freeMany (indices : List Nat)
  | compact

def Hosted.Call.perform : Hosted.Call → Action Hosted Unit
  | tryCreate => (fun _ => ()) <$> Hosted.tryCreate
  | create => (fun _ => ()) <$> Hosted.create
  | tryCreateMany count => (fun _ => ()) <$> Hosted.tryCreateMany count
  | createMany count => (fun _ => ()) <$> Hosted.createMany count
  | free index => Hosted.free index
  | freeMany indices => Hosted.freeMany indices
  | compact => (fun _ => ()) <$> Hosted.compact

def Hosted.Call.after (call : Hosted.Call) (hosted : Hosted) : Hosted :=
  Action.after call.perform hosted

theorem Hosted.Call.respects {relation : Hosted → Hosted → Prop} [Std.Refl relation]
    [Trans relation relation relation] {call : Hosted.Call}
    (makes : Action.Respects relation Hosted.tryCreate)
    (frees : ∀ indices, Action.Respects relation (onPool (IndexPool.giveBackMany indices)))
    (compacts : call = compact → Action.Respects relation Hosted.compact) (hosted : Hosted) :
    relation hosted (call.after hosted) := by
  cases call with
  | tryCreate =>
      rw [after, perform, Action.after_map]
      exact makes hosted
  | create =>
      rw [after, perform, Action.after_map]
      exact create_respects makes hosted
  | tryCreateMany count =>
      rw [after, perform, Action.after_map]
      exact tryCreateMany_respects makes frees count hosted
  | createMany count =>
      rw [after, perform, Action.after_map]
      exact createMany_respects makes count hosted
  | free index =>
      rw [after, perform, free_eq_freeMany]
      exact frees _ hosted
  | freeMany indices => exact frees indices hosted
  | compact =>
      rw [after, perform, Action.after_map]
      exact compacts rfl hosted

theorem Hosted.Call.after_resizes (call : Hosted.Call) (hosted : Hosted) :
    Resizes hosted.window.buffer hosted (call.after hosted) :=
  call.respects tryCreate_resizes (fun _ => onPool_resizes _) (fun _ => compact_resizes) hosted

theorem Hosted.Call.after_backed (call : Hosted.Call) {hosted : Hosted} (backed : hosted.Backed) :
    (call.after hosted).Backed :=
  call.respects tryCreate_advances freeMany_advances (fun _ _ => compact_backed) hosted backed

/-! ## What a window does to its bytes -/

namespace Hosted

def Grows (hosted after : Hosted) : Prop :=
  hosted.arena.WellFormed → hosted.window.pool.WellFormed →
    after.arena.WellFormed ∧ after.window.pool.WellFormed ∧
      after.window.buffer = hosted.window.buffer ∧
      ∀ address byte, hosted.arena.byteAt? hosted.window.buffer address = some byte →
        after.arena.byteAt? hosted.window.buffer address = some byte

instance : Std.Refl Grows := ⟨fun _ arena pool => ⟨arena, pool, rfl, fun _ _ holds => holds⟩⟩

instance : Trans Grows Grows Grows where
  trans := by
    intro hosted middle after first second arena pool
    obtain ⟨middleArena, middlePool, buffer, kept⟩ := first arena pool
    obtain ⟨afterArena, afterPool, sameBuffer, still⟩ := second middleArena middlePool
    refine ⟨afterArena, afterPool, sameBuffer.trans buffer, fun address byte holds => ?_⟩
    rw [buffer] at still
    exact still address byte (kept address byte holds)

theorem onPool_grows {α : Type} {action : Action IndexPool α}
    (keeps : ∀ pool : IndexPool, pool.WellFormed → (Action.after action pool).WellFormed) :
    Action.Respects Grows (onPool action) := by
  intro hosted arena pool
  rw [after_onPool]
  exact ⟨arena, keeps _ pool, rfl, fun _ _ holds => holds⟩

theorem pop_keeps {pool : IndexPool} (wellFormed : pool.WellFormed) :
    (Action.after IndexPool.pop pool).WellFormed := by
  cases popped : IndexPool.pop pool with
  | ok index after =>
      rw [Action.after_of_ok popped]
      exact (IndexPool.pop_ok popped).wellFormed wellFormed
  | error fault after =>
      rw [Action.after_of_error popped, IndexPool.pop_error popped]
      exact wellFormed

theorem giveBackMany_keeps (indices : List Nat) {pool : IndexPool} (wellFormed : pool.WellFormed) :
    (Action.after (IndexPool.giveBackMany indices) pool).WellFormed := by
  obtain ⟨given, -, returned⟩ := IndexPool.giveBackMany_returns indices pool
  exact returned.wellFormed wellFormed

theorem compact_keeps (shrink : IndexPool.Shrink) {pool : IndexPool} (wellFormed : pool.WellFormed) :
    (Action.after (IndexPool.compact shrink) pool).WellFormed := by
  have compacted := IndexPool.compact_eq wellFormed shrink
  cases proposal : shrink pool.trim.highWater pool.capacity with
  | ok proposed =>
      rw [proposal] at compacted
      rw [Action.after_of_ok compacted]
      exact IndexPool.compacted_wellFormed wellFormed proposed
  | error fault =>
      rw [proposal] at compacted
      rw [Action.after_of_error compacted]
      exact IndexPool.trim_wellFormed wellFormed

theorem bytes_of_resize {arena : Arena} (wellFormed : arena.WellFormed) {id : BufferId} {bytes : Nat}
    {address : Nat} {byte : UInt8} (holds : arena.byteAt? id address = some byte)
    (asked : address < bytes) :
    (Action.after (Arena.resize id bytes) arena).byteAt? id address = some byte := by
  cases ended : Arena.resize id bytes arena with
  | error fault after =>
      rw [Action.after_of_error ended, Arena.resize_refused wellFormed ended]
      exact holds
  | ok answer after =>
      have reshaped := Arena.resize_reshaped wellFormed id bytes
      rw [Action.after_of_ok ended] at reshaped ⊢
      have inside := Arena.inside_of_byteAt? wellFormed.pageSize_pos holds
      have still : address < after.extent id := by
        rw [Arena.extent_of_sizeInPages (Arena.sizeInPages_of_resize wellFormed ended),
          reshaped.pageSize]
        exact Nat.lt_of_lt_of_le asked (Size.le_max_ceilDiv_mul wellFormed.pageSize_pos bytes)
      rw [reshaped.byteAt? wellFormed.pageSize_pos inside still, holds]

theorem after_onArena {α : Type} (action : Action Arena α) (hosted : Hosted) :
    Action.after (onArena action) hosted =
      { hosted with arena := Action.after action hosted.arena } :=
  Action.after_within _ _ _ _

theorem after_fitBuffer (hosted : Hosted) : Action.after fitBuffer hosted = hosted ∨
    ∃ size needed, hosted.sizeInBytes = .ok size ∧ size < needed ∧ Action.after fitBuffer hosted =
      { hosted with arena := Action.after (Arena.resize hosted.window.buffer needed) hosted.arena } := by
  rw [Action.after_eq_left]
  cases product : Size.mul hosted.window.pool.capacity hosted.window.objectSize with
  | error fault => simp [fitBuffer, product, Action.left]
  | ok needed =>
      cases sized : hosted.sizeInBytes with
      | error fault => simp [fitBuffer, product, sized, Action.left]
      | ok size =>
          by_cases short : size < needed
          · refine .inr ⟨size, needed, rfl, short, ?_⟩
            rw [← after_onArena, Action.after_eq_left]
            simp [fitBuffer, product, sized, short]
          · simp [fitBuffer, product, sized, short, Action.left]

theorem fitBuffer_grows : Action.Respects Grows fitBuffer := by
  intro hosted
  rcases after_fitBuffer hosted with same | ⟨size, needed, sized, short, resized⟩
  · rw [same]
    exact Std.Refl.refl hosted
  · rw [resized]
    intro arena pool
    obtain ⟨buffer, live, rfl⟩ := Arena.live_of_sizeInBytes arena sized
    refine ⟨Arena.resize_wellFormed arena _ needed, pool, rfl, fun address byte holds => ?_⟩
    have inside := Arena.inside_of_byteAt? arena.pageSize_pos holds
    exact bytes_of_resize arena holds (Nat.lt_trans inside short)

theorem tryCreate_grows : Action.Respects Grows tryCreate :=
  tryCreate_respects (onPool_grows fun _ => pop_keeps) (fun _ => onPool_grows fun _ => giveBackMany_keeps _)
    (fun shrink => onPool_grows fun _ => compact_keeps shrink) fitBuffer_grows

theorem after_compact {hosted : Hosted} (wellFormed : hosted.window.pool.WellFormed) :
    ∃ pool : IndexPool, pool.WellFormed ∧ (Action.after compact hosted = hosted.withPool pool ∨
      Action.after compact hosted = { hosted.withPool pool with
        arena := Action.after
          (Arena.resize hosted.window.buffer (pool.capacity * hosted.window.objectSize))
          hosted.arena }) := by
  rw [Action.after_eq_left]
  cases sized : hosted.sizeInPages with
  | error fault =>
      exact ⟨hosted.window.pool, wellFormed, .inl (by simp [compact, sized, Action.left, withPool])⟩
  | ok pages =>
      generalize shrunk : fittingCapacity hosted.arena.pageSize hosted.window.objectSize = shrink
      have keeps := compact_keeps shrink wellFormed
      have compacted := IndexPool.compact_eq wellFormed shrink
      cases proposal : shrink hosted.window.pool.trim.highWater hosted.window.pool.capacity with
      | error fault =>
          rw [proposal] at compacted
          rw [Action.after_of_error compacted] at keeps
          refine ⟨_, keeps, .inl ?_⟩
          simp [compact, sized, onPool_apply, shrunk, compacted, Action.left]
      | ok proposed =>
          rw [proposal] at compacted
          rw [Action.after_of_ok compacted] at keeps
          refine ⟨_, keeps, ?_⟩
          dsimp only at compacted ⊢
          generalize max hosted.window.pool.trim.highWater (min proposed hosted.window.pool.capacity) =
            capacity at compacted ⊢
          cases product : Size.mul capacity hosted.window.objectSize with
          | error fault =>
              exact .inl (by simp [compact, sized, onPool_apply, shrunk, compacted, product,
                Action.left])
          | ok bytes =>
              right
              obtain ⟨rfl, -⟩ := Size.eq_of_mul_eq_ok product
              rw [Action.after_eq_left]
              cases ended : Arena.resize hosted.window.buffer (capacity * hosted.window.objectSize)
                hosted.arena with
              | error fault after =>
                  simp [compact, sized, onPool_apply, shrunk, compacted, product, onArena_apply, ended,
                    Action.left]
              | ok answer after =>
                  cases left : Hosted.sizeInPages { hosted.withPool
                      { hosted.window.pool.trim with capacity } with arena := after } <;>
                    simp [compact, sized, onPool_apply, shrunk, compacted, product, onArena_apply,
                      ended, left, Action.left]

theorem compact_bytes {hosted : Hosted} (arena : hosted.arena.WellFormed)
    (wellFormed : hosted.window.pool.WellFormed) :
    (Action.after compact hosted).window.pool.WellFormed ∧
      ∀ address byte, hosted.arena.byteAt? hosted.window.buffer address = some byte →
        address < (Action.after compact hosted).window.pool.highWater * hosted.window.objectSize →
          (Action.after compact hosted).arena.byteAt? hosted.window.buffer address = some byte := by
  obtain ⟨pool, keeps, same | resized⟩ := after_compact wellFormed
  · rw [same]
    exact ⟨keeps, fun address byte holds _ => holds⟩
  · rw [resized]
    refine ⟨keeps, fun address byte holds below => ?_⟩
    have marked : pool.highWater * hosted.window.objectSize ≤
        pool.capacity * hosted.window.objectSize := Nat.mul_le_mul_right _ keeps.highWater_le
    exact bytes_of_resize arena holds (Nat.lt_of_lt_of_le below marked)

end Hosted

/-- What a window does takes no byte from the records that are live afterwards. -/
theorem Hosted.Call.after_bytes (call : Hosted.Call) {hosted : Hosted}
    (arena : hosted.arena.WellFormed) (pool : hosted.window.pool.WellFormed) :
    (call.after hosted).window.pool.WellFormed ∧
      ∀ address byte, hosted.arena.byteAt? hosted.window.buffer address = some byte →
        address < (call.after hosted).window.pool.highWater * hosted.window.objectSize →
          (call.after hosted).arena.byteAt? hosted.window.buffer address = some byte := by
  by_cases compacts : call = compact
  · subst compacts
    have left : after compact hosted = Action.after Hosted.compact hosted := Action.after_map _ _ _
    rw [left]
    exact compact_bytes arena pool
  · have grows : Grows hosted (call.after hosted) := call.respects tryCreate_grows
      (fun indices => onPool_grows fun _ => giveBackMany_keeps indices)
      (fun same => absurd same compacts) hosted
    obtain ⟨-, stillPool, -, kept⟩ := grows arena pool
    exact ⟨stillPool, fun address byte holds _ => kept address byte holds⟩

end TorusEngine.Paging
