import TorusEngine.Proofs.Drawing.BackLists

/-!
# What happens to lists between two sends

Swaps, requests, rebuilds and the changes that a rebuild consists of keep the record of each list, and
keep the number of the objects that were sent or forget it (`Pipeline.Turn.redrafts`). They do not
concern memory.
-/

namespace TorusEngine.Drawing

/-! ## Changes of a list -/

/-- A list that was changed but not sent: what was sent before still counts, or nothing does. -/
structure DrawList.Redrafts (list left : DrawList) : Prop where
  table : left.table = list.table
  record : left.record = list.record
  sent : left.sent = list.sent ∨ left.sent = 0

namespace DrawList

instance : Std.Refl Redrafts := ⟨fun _ => ⟨rfl, rfl, .inl rfl⟩⟩

instance : Trans Redrafts Redrafts Redrafts where
  trans := by
    intro list middle left first second
    refine ⟨second.table.trans first.table, second.record.trans first.record, ?_⟩
    rcases second.sent with same | none
    · rw [same]
      exact first.sent
    · exact .inr none

inductive Revision where
  | reset
  | push (entry : Entry)
  | sort

def Revision.apply : Revision → DrawList → DrawList
  | reset => DrawList.reset
  | push entry => (·.push entry)
  | sort => DrawList.sort

theorem Revision.redrafts (revision : Revision) (list : DrawList) :
    list.Redrafts (revision.apply list) := by
  cases revision with
  | reset => exact ⟨rfl, rfl, .inr rfl⟩
  | push | sort => exact ⟨rfl, rfl, .inl rfl⟩

end DrawList

namespace Rebuild

def left : Except DrawList DrawList → DrawList
  | .ok built => built
  | .error unfinished => unfinished

variable {geometry : Torus.Geometry Float} {radius : Float} {positions : Positions}

theorem consider_redrafts (observer : Vec3 Float) (list : DrawList) (candidate : Candidate) :
    list.Redrafts (left (consider geometry radius positions observer list candidate)) := by
  unfold consider
  dsimp only
  split
  · exact (DrawList.Revision.push _).redrafts list
  · split
    · exact Std.Refl.refl list
    · rw [left]
      split
      · exact (DrawList.Revision.push _).redrafts list
      · exact Std.Refl.refl list

theorem foldlM_redrafts (observer : Vec3 Float) (candidates : List Candidate) (list : DrawList) :
    list.Redrafts (left (candidates.foldlM (consider geometry radius positions observer) list)) := by
  induction candidates generalizing list with
  | nil => exact Std.Refl.refl list
  | cons candidate rest ih =>
      rw [List.foldlM_cons]
      have first := @consider_redrafts geometry radius positions observer list candidate
      cases considered : consider geometry radius positions observer list candidate with
      | error unfinished =>
          rw [considered] at first
          exact first
      | ok next =>
          rw [considered] at first
          exact Trans.trans first (ih next)

theorem run_redrafts (rebuild : Rebuild) (old : DrawList) :
    old.Redrafts (left (rebuild.run geometry radius positions old)) := by
  have filled : old.Redrafts (left (rebuild.candidates.foldlM
      (consider geometry radius positions rebuild.observer) old.reset)) :=
    Trans.trans (DrawList.Revision.reset.redrafts old) (foldlM_redrafts _ _ _)
  cases ran : rebuild.run geometry radius positions old with
  | ok built =>
      obtain ⟨list, folded, rfl⟩ := run_ok ran
      rw [folded] at filled
      exact Trans.trans filled (DrawList.Revision.sort.redrafts list)
  | error unfinished =>
      rw [run_error ran] at filled
      exact filled

end Rebuild

/-! ## Changes of a pair -/

def ListPair.Redrafts (pair left : ListPair) : Prop :=
  ∀ side, (pair.list side).Redrafts (left.list side)

namespace ListPair

instance : Std.Refl Redrafts := ⟨fun pair side => Std.Refl.refl (pair.list side)⟩

instance : Trans Redrafts Redrafts Redrafts := ⟨fun first second side =>
  Trans.trans (first side) (second side)⟩

theorem redrafts_put {pair : ListPair} {side : Side} {list : DrawList}
    (redrafts : (pair.list side).Redrafts list) : pair.Redrafts (pair.put side list) := by
  intro other
  by_cases same : other = side
  · subst same
    rwa [list_put_self]
  · rw [list_put_of_ne same]
    exact Std.Refl.refl _

theorem redrafts_of_same {pair left : ListPair} (first : left.first = pair.first)
    (second : left.second = pair.second) : pair.Redrafts left := by
  intro side
  cases side with
  | first =>
      rw [list, list, first]
      exact Std.Refl.refl pair.first
  | second =>
      rw [list, list, second]
      exact Std.Refl.refl pair.second

theorem trySwap_redrafts (pair : ListPair) : pair.Redrafts (Action.after trySwap pair) := by
  obtain ⟨swapped, left, ran⟩ := trySwap_answers pair
  rw [Action.after_of_ok ran]
  rcases trySwap_ok ran with ⟨-, rfl⟩ | rfl
  · exact redrafts_of_same rfl rfl
  · exact Std.Refl.refl left

theorem begin_answers (pair : ListPair) : ∃ begun left, begin pair = .ok begun left := by
  by_cases idle : pair.state = .idle
  · exact ⟨_, _, begin_of_idle idle⟩
  · exact ⟨_, _, begin_of_busy idle⟩

theorem begin_redrafts (pair : ListPair) : pair.Redrafts (Action.after begin pair) := by
  obtain ⟨begun, left, ran⟩ := begin_answers pair
  rw [Action.after_of_ok ran]
  rcases begin_ok ran with ⟨-, -, rfl⟩ | ⟨-, -, rfl⟩
  · exact redrafts_of_same rfl rfl
  · exact Std.Refl.refl left

theorem finish_redrafts (pair : ListPair) : pair.Redrafts (Action.after finish pair) := by
  have left : Action.after finish pair = { pair with state := .ready } := by
    rw [Action.after_eq_left]
    by_cases building : pair.state = .building <;> simp [finish, building, Action.left]
  rw [left]
  exact redrafts_of_same rfl rfl

theorem abandon_redrafts (pair : ListPair) : pair.Redrafts pair.abandon := by
  unfold abandon
  split
  · exact redrafts_of_same rfl rfl
  · exact Std.Refl.refl pair

end ListPair

/-! ## Changes of a pipeline -/

/-- What the submission thread and the worker do to the lists outside of sends and draws. -/
inductive Pipeline.Turn where
  | swap
  | request (rebuild : Rebuild)
  | work (positions : Positions)
  | finish
  | abandon
  | revise (side : Side) (revision : DrawList.Revision)

namespace Pipeline

def Turn.after (pipeline : Pipeline) : Turn → Pipeline
  | swap => Action.after (onLists ListPair.trySwap) pipeline
  | request rebuild => Action.after (Pipeline.request rebuild) pipeline
  | work positions => pipeline.work positions
  | finish => Action.after (onLists ListPair.finish) pipeline
  | abandon => { pipeline with lists := pipeline.lists.abandon }
  | revise side revision =>
      { pipeline with lists := pipeline.lists.put side (revision.apply (pipeline.lists.list side)) }

theorem after_onLists {α : Type} (action : Action ListPair α) (pipeline : Pipeline) :
    Action.after (onLists action) pipeline =
      { pipeline with lists := Action.after action pipeline.lists } := Action.after_within _ _ _ _

theorem swap_answers (pipeline : Pipeline) : ∃ swapped,
    onLists ListPair.trySwap pipeline = .ok swapped (Turn.swap.after pipeline) := by
  obtain ⟨swapped, left, ran⟩ := ListPair.trySwap_answers pipeline.lists
  have answered : onLists ListPair.trySwap pipeline = .ok swapped { pipeline with lists := left } :=
    Action.within_ok.mpr ⟨left, ran, rfl⟩
  exact ⟨swapped, by rw [Turn.after, Action.after_of_ok answered, answered]⟩

theorem request_answers (rebuild : Rebuild) (pipeline : Pipeline) : ∃ begun left,
    request rebuild pipeline = .ok begun left ∧
      left.lists = Action.after ListPair.begin pipeline.lists := by
  obtain ⟨begun, lists, ran⟩ := ListPair.begin_answers pipeline.lists
  have first : onLists ListPair.begin pipeline = .ok begun { pipeline with lists } :=
    Action.within_ok.mpr ⟨lists, ran, rfl⟩
  rw [Action.after_of_ok ran]
  cases begun with
  | true =>
      refine ⟨true, { pipeline with lists, pending := some rebuild }, ?_, rfl⟩
      simp [request, first]
  | false =>
      refine ⟨false, { pipeline with lists }, ?_, rfl⟩
      simp [request, first]

theorem Turn.redrafts (turn : Turn) (pipeline : Pipeline) :
    pipeline.lists.Redrafts (turn.after pipeline).lists := by
  cases turn with
  | swap =>
      rw [after, after_onLists]
      exact ListPair.trySwap_redrafts _
  | request rebuild =>
      obtain ⟨begun, left, ran, lists⟩ := request_answers rebuild pipeline
      rw [after, Action.after_of_ok ran, lists]
      exact ListPair.begin_redrafts _
  | work positions =>
      rw [after, Pipeline.work]
      split
      · exact Std.Refl.refl pipeline.lists
      · rename_i rebuild pending
        have redrafts := @Rebuild.run_redrafts pipeline.geometry pipeline.config.visibilityRadius
          positions rebuild (pipeline.lists.list pipeline.lists.frontSide.other)
        dsimp only
        split
        · rename_i unfinished ran
          rw [ran] at redrafts
          exact Trans.trans (ListPair.redrafts_put redrafts) (ListPair.abandon_redrafts _)
        · rename_i built ran
          rw [ran] at redrafts
          exact Trans.trans (ListPair.redrafts_put redrafts) (ListPair.finish_redrafts _)
  | finish =>
      rw [after, after_onLists]
      exact ListPair.finish_redrafts _
  | abandon => exact ListPair.abandon_redrafts _
  | revise side revision => exact ListPair.redrafts_put (revision.redrafts _)

end Pipeline

end TorusEngine.Drawing
