import Mathlib.Data.List.Nodup
import TorusEngine.Relevance.Grid

/-!
# Grids report their changes

The two views that a grid keeps agree, and the changes that an operation answers lead from what the
grid held before to what it holds after.
-/

namespace TorusEngine.Relevance

open Torus (Cell)

def Change.follow (holds : Cell → MarkerId → Prop) : Change → Cell → MarkerId → Prop
  | entered cell marker => fun place item => holds place item ∨ (place = cell ∧ item = marker)
  | left cell marker => fun place item => holds place item ∧ ¬ (place = cell ∧ item = marker)

namespace Grid

variable {grid : Grid} {cell : Cell} {marker : MarkerId}

inductive Operation where
  | addAt (cell : Cell) (marker : MarkerId)
  | remove (marker : MarkerId)
  | relocate (marker : MarkerId) (position : Vec3 Float)

def Operation.perform (grid : Grid) : Operation → Grid × List Change
  | addAt cell marker => grid.addAt cell marker
  | remove marker => grid.remove marker
  | relocate marker position => grid.relocate marker position

def holds (grid : Grid) (cell : Cell) (marker : MarkerId) : Prop := marker ∈ grid.membersOf cell

structure WellFormed (grid : Grid) : Prop where
  members : ∀ cell members, grid.cells.get? cell = some members → members.Nodup
  located : ∀ marker cell, grid.cellOf? marker = some cell ↔ grid.holds cell marker
  subscribers : grid.subscribers.Nodup

theorem new_wellFormed (cellSize : Float) : WellFormed { cellSize } :=
  ⟨by simp, by simp [cellOf?, holds, membersOf], List.nodup_nil⟩

theorem membersOf_nodup (wellFormed : grid.WellFormed) (cell : Cell) : (grid.membersOf cell).Nodup := by
  unfold membersOf
  cases found : grid.cells.get? cell with
  | none => exact List.nodup_nil
  | some members => exact wellFormed.members cell members found

theorem mem_contents_iff : (cell, marker) ∈ grid.contents ↔ grid.holds cell marker := by
  have listed : (cell, marker) ∈ grid.contents ↔
      ∃ members, (cell, members) ∈ grid.cells.entries ∧ marker ∈ members := by
    simp [contents]
  rw [listed, holds, membersOf]
  simp only [Dictionary.mem_entries_iff]
  cases grid.cells.get? cell <;> simp

/-- What an operation keeps, and what its changes tell. -/
structure Reports (grid : Grid) (result : Grid × List Change) : Prop where
  wellFormed : result.1.WellFormed
  subscribers : result.1.subscribers = grid.subscribers
  holds : result.1.holds = result.2.foldl Change.follow grid.holds

theorem place_reports (wellFormed : grid.WellFormed) (absent : grid.cellOf? marker = none)
    (cell : Cell) : grid.Reports (grid.place cell marker) := by
  have nowhere : ∀ other, ¬ grid.holds other marker := fun other held => by
    simp [(wellFormed.located marker other).mpr held] at absent
  have placed : grid.place cell marker = ({ grid with
      locations := grid.locations.insert marker cell
      cells := grid.cells.insert cell (grid.membersOf cell ++ [marker]) },
      [.entered cell marker]) := by
    unfold place
    dsimp only
    rw [if_neg (show marker ∉ grid.membersOf cell from nowhere cell)]
  rw [placed]
  have held : ∀ other item, holds { grid with
      locations := grid.locations.insert marker cell
      cells := grid.cells.insert cell (grid.membersOf cell ++ [marker]) } other item ↔
      grid.holds other item ∨ (other = cell ∧ item = marker) := by
    intro other item
    rw [holds, membersOf, Dictionary.get?_insert]
    by_cases same : cell = other
    · subst same
      simp [holds]
    · simp [same, Ne.symm same, holds, membersOf]
  refine ⟨⟨?_, ?_, wellFormed.subscribers⟩, rfl, ?_⟩
  · intro other members found
    obtain ⟨rfl, rfl⟩ | found := Dictionary.get?_of_insert found
    · rw [← List.concat_eq_append]
      exact (membersOf_nodup wellFormed cell).concat (nowhere cell)
    · exact wellFormed.members other members found
  · intro item other
    rw [held, cellOf?, Dictionary.get?_insert]
    by_cases same : marker = item
    · subst same
      simp [nowhere, eq_comm]
    · have located := wellFormed.located item other
      rw [cellOf?] at located
      simpa [same, Ne.symm same] using located
  · funext other item
    exact propext (held other item)

theorem takeOut_reports (wellFormed : grid.WellFormed) (present : grid.cellOf? marker = some cell) :
    grid.Reports (grid.takeOut cell marker) ∧ (grid.takeOut cell marker).1.cellOf? marker = none := by
  have held : marker ∈ grid.membersOf cell := (wellFormed.located marker cell).mp present
  have distinct := membersOf_nodup wellFormed cell
  have taken : grid.takeOut cell marker = ({ grid with
      locations := grid.locations.erase marker
      cells := if ((grid.membersOf cell).erase marker).isEmpty then grid.cells.erase cell
        else grid.cells.insert cell ((grid.membersOf cell).erase marker) },
      [.left cell marker]) := by
    unfold takeOut
    rw [if_pos held]
  rw [taken]
  generalize cells : (if ((grid.membersOf cell).erase marker).isEmpty then grid.cells.erase cell
    else grid.cells.insert cell ((grid.membersOf cell).erase marker)) = left
  have found : ∀ other, (left.get? other).getD [] =
      if cell = other then (grid.membersOf cell).erase marker else grid.membersOf other := by
    intro other
    rw [← cells]
    split
    · rename_i empty
      rw [Dictionary.get?_erase]
      split
      · exact (List.isEmpty_iff.mp empty).symm
      · rfl
    · rw [Dictionary.get?_insert]
      split <;> rfl
  have remains : ∀ other item, item ∈ (left.get? other).getD [] ↔
      grid.holds other item ∧ ¬ (other = cell ∧ item = marker) := by
    intro other item
    rw [found]
    by_cases same : cell = other
    · subst same
      simp [distinct.mem_erase_iff, holds, and_comm]
    · simp [same, Ne.symm same, holds]
  refine ⟨⟨⟨?_, ?_, wellFormed.subscribers⟩, rfl, ?_⟩, ?_⟩
  · intro other members here
    have same := found other
    rw [here, Option.getD_some] at same
    rw [same]
    split
    · exact distinct.erase marker
    · exact membersOf_nodup wellFormed other
  · intro item other
    refine Iff.trans ?_ (remains other item).symm
    rw [cellOf?, Dictionary.get?_erase]
    by_cases same : marker = item
    · subst same
      have only : grid.holds other marker → other = cell := fun there =>
        Option.some_inj.mp (((wellFormed.located marker other).mpr there).symm.trans present)
      simpa using only
    · have located := wellFormed.located item other
      rw [cellOf?] at located
      simpa [same, Ne.symm same] using located
  · funext other item
    exact propext (remains other item)
  · rw [cellOf?, Dictionary.get?_erase, if_pos rfl]

theorem addAt_reports (wellFormed : grid.WellFormed) (cell : Cell) (marker : MarkerId) :
    grid.Reports (grid.addAt cell marker) := by
  unfold addAt
  cases found : grid.cellOf? marker with
  | none => exact place_reports wellFormed found cell
  | some old =>
      obtain ⟨out, absent⟩ := takeOut_reports wellFormed found
      have back := place_reports out.wellFormed absent cell
      refine ⟨back.wellFormed, back.subscribers.trans out.subscribers, ?_⟩
      rw [back.holds, out.holds, ← List.foldl_append]

theorem perform_reports (wellFormed : grid.WellFormed) (operation : Operation) :
    grid.Reports (operation.perform grid) := by
  have nothing : grid.Reports (grid, []) := ⟨wellFormed, rfl, rfl⟩
  cases operation with
  | addAt cell marker => exact addAt_reports wellFormed cell marker
  | remove marker =>
      rw [Operation.perform, remove]
      cases found : grid.cellOf? marker with
      | none => exact nothing
      | some cell => exact (takeOut_reports wellFormed found).1
  | relocate marker position =>
      rw [Operation.perform, relocate]
      cases grid.newCell? marker position with
      | none => exact nothing
      | some cell => exact addAt_reports wellFormed cell marker

theorem subscribe_wellFormed (wellFormed : grid.WellFormed) (camera : CameraId) :
    (grid.subscribe camera).WellFormed where
  members := wellFormed.members
  located := wellFormed.located
  subscribers := by
    rw [subscribe, ← List.concat_eq_append]
    exact (wellFormed.subscribers.filter _).concat (by simp)

theorem unsubscribe_wellFormed (wellFormed : grid.WellFormed) (camera : CameraId) :
    (grid.unsubscribe camera).WellFormed where
  members := wellFormed.members
  located := wellFormed.located
  subscribers := wellFormed.subscribers.erase camera

theorem mem_subscribe {camera other : CameraId} :
    other ∈ (grid.subscribe camera).subscribers ↔ other = camera ∨ other ∈ grid.subscribers := by
  simp only [subscribe, List.mem_append, List.mem_filter, List.mem_singleton, decide_eq_true_eq]
  tauto

theorem mem_unsubscribe (wellFormed : grid.WellFormed) {camera other : CameraId} :
    other ∈ (grid.unsubscribe camera).subscribers ↔ other ≠ camera ∧ other ∈ grid.subscribers :=
  wellFormed.subscribers.mem_erase_iff

end Grid

end TorusEngine.Relevance
