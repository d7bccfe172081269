import TorusEngine.Proofs.Relevance.Grid

/-!
# Buckets and locations

A grid that is used through its operations has no empty bucket, and lists each marker that it holds once,
in the bucket of the marker's cell (`Tidy`). What the operations do to the location of every marker is said
once for each of them; a marker that is added again is moved.
-/

namespace TorusEngine

theorem Numeral.Binary64.le_nearest {low high : Int} (bounds : low ≤ high) (number : Float) :
    low ≤ nearest low high number := by
  unfold nearest
  dsimp only
  split
  · exact Int.le_max_left _ _
  · split
    · exact bounds
    · exact Int.le_refl low

/-- No position belongs to the cell of what is visible from every place, whatever it is made of. -/
theorem Torus.Cell.ofPosition_ne_everywhere (position : Vec3 Float) (size : Float) :
    Cell.ofPosition position size ≠ Cell.everywhere := by
  intro same
  have first : (Cell.ofPosition position size).x =
      Numeral.Binary64.nearest Cell.lowest Cell.highest (position.x / size) := rfl
  have above := Numeral.Binary64.le_nearest (show Cell.lowest ≤ Cell.highest by decide) (position.x / size)
  rw [← first, same] at above
  exact absurd above (by decide)

namespace Relevance.Grid

open Torus (Cell)

variable {grid : Grid} {cell : Cell} {marker : MarkerId}

/-! ## No bucket is empty -/

structure Tidy (grid : Grid) : Prop where
  wellFormed : grid.WellFormed
  filled : ∀ cell members, grid.cells.get? cell = some members → members ≠ []

theorem new_tidy (cellSize : Float) : Tidy { cellSize } :=
  ⟨new_wellFormed cellSize, by simp⟩

theorem place_tidy (tidy : grid.Tidy) (absent : grid.cellOf? marker = none) (cell : Cell) :
    (grid.place cell marker).1.Tidy where
  wellFormed := (place_reports tidy.wellFormed absent cell).wellFormed
  filled := by
    intro other members found
    obtain ⟨rfl, rfl⟩ | before := Dictionary.get?_of_insert found
    · split
      · rename_i present
        exact List.ne_nil_of_mem present
      · simp
    · exact tidy.filled other members before

theorem locations_takeOut (grid : Grid) (cell : Cell) (marker : MarkerId) :
    (grid.takeOut cell marker).1.locations = grid.locations.erase marker := by
  unfold takeOut
  dsimp only
  split <;> rfl

theorem takeOut_tidy (tidy : grid.Tidy) (present : grid.cellOf? marker = some cell) :
    (grid.takeOut cell marker).1.Tidy where
  wellFormed := (takeOut_reports tidy.wellFormed present).1.wellFormed
  filled := by
    unfold takeOut
    dsimp only
    split
    · split
      · exact fun other members found => tidy.filled other members (Dictionary.get?_of_erase found)
      · rename_i rest
        intro other members found
        obtain ⟨-, rfl⟩ | before := Dictionary.get?_of_insert found
        · exact fun empty => rest (List.isEmpty_iff.mpr empty)
        · exact tidy.filled other members before
    · exact tidy.filled

theorem addAt_tidy (tidy : grid.Tidy) (cell : Cell) (marker : MarkerId) :
    (grid.addAt cell marker).1.Tidy := by
  unfold addAt
  cases found : grid.cellOf? marker with
  | none => exact place_tidy tidy found cell
  | some old =>
      have absent := (takeOut_reports tidy.wellFormed found).2
      exact place_tidy (takeOut_tidy tidy found) absent cell

theorem perform_tidy (tidy : grid.Tidy) (operation : Operation) : (operation.perform grid).1.Tidy := by
  cases operation with
  | addAt cell marker => exact addAt_tidy tidy cell marker
  | remove marker =>
      rw [Operation.perform, remove]
      cases found : grid.cellOf? marker with
      | none => exact tidy
      | some cell => exact takeOut_tidy tidy found
  | relocate marker position =>
      rw [Operation.perform, relocate]
      cases grid.newCell? marker position with
      | none => exact tidy
      | some cell => exact addAt_tidy tidy cell marker

/-! ## Where a marker is -/

theorem cellOf?_place (cell : Cell) (marker other : MarkerId) :
    (grid.place cell marker).1.cellOf? other =
      if marker = other then some cell else grid.cellOf? other :=
  Dictionary.get?_insert _ _ _ _

theorem cellOf?_takeOut (cell : Cell) (marker other : MarkerId) :
    (grid.takeOut cell marker).1.cellOf? other =
      if marker = other then none else grid.cellOf? other := by
  rw [cellOf?, locations_takeOut]
  exact Dictionary.get?_erase _ _ _

theorem cellOf?_addAt (cell : Cell) (marker other : MarkerId) :
    (grid.addAt cell marker).1.cellOf? other =
      if marker = other then some cell else grid.cellOf? other := by
  unfold addAt
  cases grid.cellOf? marker with
  | none => exact cellOf?_place cell marker other
  | some old =>
      dsimp only
      rw [cellOf?_place, cellOf?_takeOut]
      split <;> rfl

theorem cellOf?_remove (marker other : MarkerId) :
    (grid.remove marker).1.cellOf? other = if marker = other then none else grid.cellOf? other := by
  rw [remove]
  cases found : grid.cellOf? marker with
  | none =>
      by_cases same : marker = other
      · rw [if_pos same, ← same, found]
      · rw [if_neg same]
  | some cell => exact cellOf?_takeOut cell marker other

theorem remove_changes (wellFormed : grid.WellFormed) (marker : MarkerId) :
    (grid.remove marker).2 ≠ [] ↔ grid.cellOf? marker ≠ none := by
  rw [remove]
  cases found : grid.cellOf? marker with
  | none => simp
  | some cell =>
      have held : marker ∈ grid.membersOf cell := (wellFormed.located marker cell).mp found
      simp [takeOut, held]

/-- The markers that have to move are those in a cell of their own that is not the one of their position. -/
def Strays (grid : Grid) (marker : MarkerId) (position : Vec3 Float) : Prop :=
  ∃ cell, grid.cellOf? marker = some cell ∧ cell ≠ Cell.everywhere ∧ grid.cellAt position ≠ cell

theorem newCell?_eq (wellFormed : grid.WellFormed) (marker : MarkerId) (position : Vec3 Float) :
    grid.newCell? marker position = some (grid.cellAt position) ∧ grid.Strays marker position ∨
      grid.newCell? marker position = none ∧ ¬ grid.Strays marker position := by
  cases found : grid.cellOf? marker with
  | none => exact .inr ⟨by simp [newCell?, found], by simp [Strays, found]⟩
  | some cell =>
      have held : marker ∈ grid.membersOf cell := (wellFormed.located marker cell).mp found
      by_cases stays : cell = Cell.everywhere ∨ grid.cellAt position = cell
      · refine .inr ⟨by simp [newCell?, found, Cell.isEverywhere, held, stays], ?_⟩
        rintro ⟨other, here, own, strays⟩
        cases found.symm.trans here
        exact stays.elim own strays
      · obtain ⟨own, strays⟩ := not_or.mp stays
        exact .inl ⟨by simp [newCell?, found, Cell.isEverywhere, held, own, strays],
          cell, found, own, strays⟩

theorem cellOf?_relocate (wellFormed : grid.WellFormed) (marker other : MarkerId)
    (position : Vec3 Float) [Decidable (grid.Strays marker position)] :
    (grid.relocate marker position).1.cellOf? other =
      if grid.Strays marker position ∧ marker = other then some (grid.cellAt position)
      else grid.cellOf? other := by
  unfold relocate
  obtain ⟨moves, strays⟩ | ⟨stays, settled⟩ := newCell?_eq wellFormed marker position
  · rw [moves, cellOf?_addAt]
    simp [strays]
  · simp [stays, settled]

theorem relocate_changes (wellFormed : grid.WellFormed) (marker : MarkerId) (position : Vec3 Float) :
    (grid.relocate marker position).2 ≠ [] ↔ grid.Strays marker position := by
  unfold relocate
  obtain ⟨moves, strays⟩ | ⟨stays, settled⟩ := newCell?_eq wellFormed marker position
  · rw [moves]
    refine iff_of_true ?_ strays
    unfold addAt
    cases grid.cellOf? marker <;> simp [place]
  · simp [stays, settled]

/-! ## How many markers there are -/

theorem nodup_contents (wellFormed : grid.WellFormed) : grid.contents.Nodup := by
  refine List.nodup_flatMap.mpr ⟨fun entry member => ?_, ?_⟩
  · have found := Dictionary.mem_entries_iff.mp member
    exact (wellFormed.members entry.1 entry.2 found).map fun _ _ same => (Prod.mk.inj same).2
  · refine (List.pairwise_map.mp grid.cells.distinct).imp fun {first second} different => ?_
    intro pair one two
    obtain ⟨_, _, rfl⟩ := List.mem_map.mp one
    obtain ⟨_, _, same⟩ := List.mem_map.mp two
    exact different (Prod.mk.inj same).1.symm

def markers (grid : Grid) : List MarkerId := grid.contents.map Prod.snd

theorem mem_markers (wellFormed : grid.WellFormed) :
    marker ∈ grid.markers ↔ grid.cellOf? marker ≠ none := by
  rw [Option.ne_none_iff_exists']
  simp only [markers, List.mem_map, Prod.exists, exists_eq_right, mem_contents_iff,
    ← wellFormed.located]

theorem nodup_markers (wellFormed : grid.WellFormed) : grid.markers.Nodup := by
  refine (nodup_contents wellFormed).map_on ?_
  rintro ⟨cell, marker⟩ one ⟨other, same⟩ two rfl
  have first := (wellFormed.located marker cell).mpr (mem_contents_iff.mp one)
  have second := (wellFormed.located marker other).mpr (mem_contents_iff.mp two)
  cases first.symm.trans second
  rfl

theorem size_eq (wellFormed : grid.WellFormed) : grid.size = grid.markers.length := by
  have same : grid.locations.keys.Perm grid.markers := by
    refine (List.perm_ext_iff_of_nodup grid.locations.nodup_keys (nodup_markers wellFormed)).mpr
      fun marker => ?_
    rw [mem_markers wellFormed, cellOf?, ne_eq, Dictionary.get?_eq_none_iff, not_not]
  rw [← same.length_eq, size, Dictionary.size, Dictionary.keys, List.length_map]

end Relevance.Grid

end TorusEngine
