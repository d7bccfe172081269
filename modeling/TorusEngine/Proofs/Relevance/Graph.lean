import TorusEngine.Proofs.Relevance.Published
import TorusEngine.Relevance.Graph

/-!
# Graphs publish what is relevant

The published set of a graph counts the reasons that its relevant pairs give. Every change of a graph
keeps this and succeeds. What a graph then shows depends on its outlook alone: where its center is and
which markers its grids hold in which cells.
-/

namespace TorusEngine.Relevance

open Torus (Cell)

/-- What a graph is told: its center, its reach, and where each grid holds which marker. -/
structure Outlook where
  center : Cell
  radius : Float
  width : Float
  holds : GridId → Cell → MarkerId → Prop

namespace Outlook

def enter (grid : GridId) (cell : Cell) (marker : MarkerId) (outlook : Outlook) : Outlook :=
  { outlook with holds := fun other place item =>
      outlook.holds other place item ∨ (other = grid ∧ place = cell ∧ item = marker) }

def leave (grid : GridId) (cell : Cell) (marker : MarkerId) (outlook : Outlook) : Outlook :=
  { outlook with holds := fun other place item =>
      outlook.holds other place item ∧ ¬ (other = grid ∧ place = cell ∧ item = marker) }

def join (grid : GridId) (members : List (Cell × MarkerId)) (outlook : Outlook) : Outlook :=
  { outlook with holds := fun other place item =>
      outlook.holds other place item ∨ (other = grid ∧ (place, item) ∈ members) }

def part (grid : GridId) (outlook : Outlook) : Outlook :=
  { outlook with holds := fun other place item => outlook.holds other place item ∧ other ≠ grid }

end Outlook

theorem isRelevant_everywhere {cell : Cell} (everywhere : cell.isEverywhere = true) (center : Cell)
    (radius width : Float) : isRelevant center cell radius width = true := by
  simp [isRelevant, everywhere]

namespace Graph

variable {graph : Graph} {grid : GridId} {cell : Cell} {marker : MarkerId}

def reasonsOf (entry : (GridId × Cell) × Pair) : List (MarkerId × Bool) :=
  if entry.2.relevant then entry.2.members.map (·, entry.1.2.isEverywhere) else []

def reasons (entries : List ((GridId × Cell) × Pair)) : List (MarkerId × Bool) :=
  entries.flatMap reasonsOf

def membersOf (graph : Graph) (key : GridId × Cell) : List MarkerId :=
  ((graph.pairs.get? key).map (·.members)).getD []

def outlook (graph : Graph) : Outlook where
  center := graph.center
  radius := graph.radius
  width := graph.width
  holds := fun grid cell marker => marker ∈ graph.membersOf (grid, cell)

structure WellFormed (graph : Graph) : Prop where
  members : ∀ key pair, graph.pairs.get? key = some pair → pair.members.Nodup
  current : ∀ key pair, graph.pairs.get? key = some pair → pair.relevant = graph.isRelevant key.2
  tallied : Tallied graph.published.slots (reasons graph.pairs.entries)

theorem nodup_membersOf (wellFormed : graph.WellFormed) (key : GridId × Cell) :
    (graph.membersOf key).Nodup := by
  unfold membersOf
  cases found : graph.pairs.get? key with
  | none => exact List.nodup_nil
  | some pair => exact wellFormed.members key pair found

/-! ## One pair among the others -/

theorem reasons_append (first second : List ((GridId × Cell) × Pair)) :
    reasons (first ++ second) = reasons first ++ reasons second := List.flatMap_append

/-- The reasons of one pair can be moved to the front; an absent pair counts as an empty one. -/
theorem reasons_perm (pairs : Dictionary (GridId × Cell) Pair) (key : GridId × Cell)
    (relevant : Bool) :
    (reasons pairs.entries).Perm
      (reasonsOf (key, (pairs.get? key).getD ⟨[], relevant⟩) ++ reasons (pairs.erase key).entries) := by
  cases found : pairs.get? key with
  | some pair => exact (Dictionary.entries_perm found).flatMap_right reasonsOf
  | none =>
      have empty : reasonsOf (key, (none : Option Pair).getD ⟨[], relevant⟩) = [] := by
        simp [reasonsOf]
      rw [Dictionary.erase_of_absent found, empty]
      exact List.Perm.refl _

theorem WellFormed.setPair (wellFormed : graph.WellFormed) {key : GridId × Cell} {pair : Pair}
    (members : pair.members.Nodup) (current : pair.relevant = graph.isRelevant key.2)
    {pairs : Dictionary (GridId × Cell) Pair} {published : PublishedSet}
    (set : pairs = graph.pairs.insert key pair ∨ pair.members = [] ∧ pairs = graph.pairs.erase key)
    (tallied : Tallied published.slots (reasonsOf (key, pair) ++ reasons (graph.pairs.erase key).entries)) :
    WellFormed { graph with pairs, published } := by
  have kept : ∀ other found, pairs.get? other = some found →
      other = key ∧ found = pair ∨ graph.pairs.get? other = some found := by
    intro other found here
    rcases set with rfl | ⟨-, rfl⟩
    · exact (Dictionary.get?_of_insert here).imp_left fun ⟨same, equal⟩ => ⟨same.symm, equal.symm⟩
    · exact .inr (Dictionary.get?_of_erase here)
  refine ⟨?_, ?_, ?_⟩
  · intro other found here
    rcases kept other found here with ⟨-, rfl⟩ | before
    · exact members
    · exact wellFormed.members other found before
  · intro other found here
    rcases kept other found here with ⟨rfl, rfl⟩ | before
    · exact current
    · exact wellFormed.current other found before
  · refine tallied.perm ?_
    rcases set with rfl | ⟨empty, rfl⟩
    · exact ((Dictionary.entries_insert_perm graph.pairs key pair).flatMap_right reasonsOf).symm
    · have none : reasonsOf (key, pair) = [] := by simp [reasonsOf, empty]
      rw [none]
      exact List.Perm.refl _

theorem membersOf_setPair {key other : GridId × Cell} {pair : Pair}
    {pairs : Dictionary (GridId × Cell) Pair} {published : PublishedSet}
    (set : pairs = graph.pairs.insert key pair ∨ pair.members = [] ∧ pairs = graph.pairs.erase key) :
    membersOf { graph with pairs, published } other =
      if key = other then pair.members else graph.membersOf other := by
  unfold membersOf
  rcases set with rfl | ⟨empty, rfl⟩
  · simp only [Dictionary.get?_insert]
    split <;> rfl
  · simp only [Dictionary.get?_erase]
    split
    · exact empty.symm
    · rfl

theorem setOrErase (pairs : Dictionary (GridId × Cell) Pair) (key : GridId × Cell) (pair : Pair) :
    (if pair.members.isEmpty then pairs.erase key else pairs.insert key pair) = pairs.insert key pair ∨
      pair.members = [] ∧
        (if pair.members.isEmpty then pairs.erase key else pairs.insert key pair) =
          pairs.erase key := by
  by_cases empty : pair.members = [] <;> simp [empty]

/-! ## Inserting and removing markers -/

theorem insert_wellFormed (wellFormed : graph.WellFormed) (grid : GridId) (cell : Cell)
    (marker : MarkerId) : (graph.insert grid cell marker).WellFormed := by
  unfold insert
  dsimp only
  split
  · exact wellFormed
  · rename_i absent
    have before := reasons_perm graph.pairs (grid, cell) (graph.isRelevant cell)
    have current : ((graph.pairs.get? (grid, cell)).getD ⟨[], graph.isRelevant cell⟩).relevant =
        graph.isRelevant cell := by
      cases found : graph.pairs.get? (grid, cell) with
      | none => rfl
      | some pair => exact wellFormed.current _ pair found
    have members : ((graph.pairs.get? (grid, cell)).getD ⟨[], graph.isRelevant cell⟩).members.Nodup := by
      cases found : graph.pairs.get? (grid, cell) with
      | none => exact List.nodup_nil
      | some pair => exact wellFormed.members _ pair found
    generalize (graph.pairs.get? (grid, cell)).getD ⟨[], graph.isRelevant cell⟩ = pair at *
    refine wellFormed.setPair ?_ current (.inl rfl) ?_
    · exact List.concat_eq_append ▸ members.concat absent
    · have tallied := wellFormed.tallied.perm before
      cases relevant : pair.relevant with
      | true =>
          simp only [reasonsOf, relevant, if_true] at tallied ⊢
          refine (tallied.addMany cell.isEverywhere [marker]).perm ?_
          simp only [List.map_append, List.map_cons, List.map_nil, List.append_assoc]
          exact List.perm_append_comm_assoc ..
      | false => simpa [reasonsOf, relevant] using tallied

theorem insert_outlook (graph : Graph) (grid : GridId) (cell : Cell) (marker : MarkerId) :
    (graph.insert grid cell marker).outlook = graph.outlook.enter grid cell marker := by
  unfold insert
  dsimp only
  have same : ((graph.pairs.get? (grid, cell)).getD ⟨[], graph.isRelevant cell⟩).members =
      graph.membersOf (grid, cell) := by
    unfold membersOf
    cases graph.pairs.get? (grid, cell) <;> rfl
  split
  · rename_i present
    rw [same] at present
    simp only [outlook, Outlook.enter, Outlook.mk.injEq, true_and]
    funext other place item
    refine propext (Iff.symm (or_iff_left_of_imp ?_))
    rintro ⟨rfl, rfl, rfl⟩
    exact present
  · simp only [outlook, Outlook.enter, Outlook.mk.injEq, true_and]
    funext other place item
    rw [membersOf_setPair (.inl rfl), same]
    by_cases hit : (grid, cell) = (other, place)
    · cases hit
      simp
    · have apart : ¬ (other = grid ∧ place = cell ∧ item = marker) := by
        rintro ⟨rfl, rfl, -⟩
        exact hit rfl
      simp [hit, apart]

theorem remove_ok (wellFormed : graph.WellFormed) (grid : GridId) (cell : Cell) (marker : MarkerId) :
    ∃ changed, graph.remove grid cell marker = .ok changed ∧ changed.WellFormed ∧
      changed.outlook = graph.outlook.leave grid cell marker := by
  have unchanged (absent : marker ∉ graph.membersOf (grid, cell)) :
      graph.outlook = graph.outlook.leave grid cell marker := by
    simp only [outlook, Outlook.leave, Outlook.mk.injEq, true_and]
    funext other place item
    refine propext (Iff.symm (and_iff_left_of_imp ?_))
    rintro member ⟨rfl, rfl, rfl⟩
    exact absent member
  unfold remove
  cases found : graph.pairs.get? (grid, cell) with
  | none => exact ⟨graph, rfl, wellFormed, unchanged (by simp [membersOf, found])⟩
  | some pair =>
      have same : graph.membersOf (grid, cell) = pair.members := by simp [membersOf, found]
      by_cases present : marker ∈ pair.members
      · have distinct := wellFormed.members _ pair found
        have before := reasons_perm graph.pairs (grid, cell) pair.relevant
        rw [found, Option.getD_some] at before
        have tallied := wellFormed.tallied.perm before
        have withdrawn : ∃ published, withdraw graph.published ((grid, cell), { pair with members := [marker] }) =
            .ok published ∧ Tallied published.slots
              (reasonsOf ((grid, cell), { pair with members := pair.members.erase marker }) ++
                reasons (graph.pairs.erase (grid, cell)).entries) := by
          cases relevant : pair.relevant with
          | true =>
              have split : (pair.members.map (·, cell.isEverywhere)).Perm
                  ([marker].map (·, cell.isEverywhere) ++
                    (pair.members.erase marker).map (·, cell.isEverywhere)) :=
                (List.perm_cons_erase present).map _
              simp only [reasonsOf, relevant, if_true] at tallied
              have moved := tallied.perm (split.append_right _)
              rw [List.append_assoc] at moved
              simpa [withdraw, reasonsOf, relevant] using moved.removeMany
          | false =>
              exact ⟨graph.published, by simp [withdraw],
                by simpa [reasonsOf, relevant] using tallied⟩
        obtain ⟨published, ended, tallied⟩ := withdrawn
        have set := setOrErase graph.pairs (grid, cell) { pair with members := pair.members.erase marker }
        have still := @WellFormed.setPair graph wellFormed _ { pair with members := pair.members.erase marker }
          (distinct.erase marker) (wellFormed.current _ pair found) _ published set tallied
        refine ⟨_, by simp only [present, if_true, ended]; rfl, still, ?_⟩
        simp only [outlook, Outlook.leave, Outlook.mk.injEq, true_and]
        funext other place item
        rw [membersOf_setPair set]
        by_cases hit : (grid, cell) = (other, place)
        · cases hit
          simp [same, distinct.mem_erase_iff, and_comm]
        · have apart : ¬ (other = grid ∧ place = cell ∧ item = marker) := by
            rintro ⟨rfl, rfl, -⟩
            exact hit rfl
          simp [hit, apart]
      · exact ⟨graph, by simp [present], wellFormed, unchanged (by rwa [same])⟩

/-! ## Whole grids -/

theorem attach_wellFormed (wellFormed : graph.WellFormed) (grid : GridId)
    (members : List (Cell × MarkerId)) : (graph.attach grid members).WellFormed := by
  induction members generalizing graph with
  | nil => exact wellFormed
  | cons entry rest ih => exact ih (insert_wellFormed wellFormed grid entry.1 entry.2)

theorem attach_outlook (graph : Graph) (grid : GridId) (members : List (Cell × MarkerId)) :
    (graph.attach grid members).outlook = graph.outlook.join grid members := by
  induction members generalizing graph with
  | nil => simp [attach, Outlook.join]
  | cons entry rest ih =>
      refine (ih (graph.insert grid entry.1 entry.2)).trans ?_
      rw [insert_outlook]
      simp only [Outlook.join, Outlook.enter, Outlook.mk.injEq, true_and]
      funext other place item
      simp only [List.mem_cons, Prod.ext_iff]
      exact propext (by tauto)

theorem withdraw_all {entries : List ((GridId × Cell) × Pair)} {others : List (MarkerId × Bool)}
    {set : PublishedSet} (tallied : Tallied set.slots (reasons entries ++ others)) :
    ∃ left, entries.foldlM withdraw set = .ok left ∧ Tallied left.slots others := by
  induction entries generalizing set with
  | nil => exact ⟨set, rfl, tallied⟩
  | cons entry rest ih =>
      have first : ∃ middle, withdraw set entry = .ok middle ∧
          Tallied middle.slots (reasons rest ++ others) := by
        have tallied : Tallied set.slots (reasonsOf entry ++ (reasons rest ++ others)) := by
          rwa [← List.append_assoc]
        unfold withdraw
        unfold reasonsOf at tallied
        split
        · rename_i relevant
          rw [if_pos relevant] at tallied
          exact tallied.removeMany
        · rename_i irrelevant
          rw [if_neg irrelevant] at tallied
          exact ⟨set, rfl, tallied⟩
      obtain ⟨middle, ended, still⟩ := first
      obtain ⟨left, others, done⟩ := ih still
      exact ⟨left, by rw [List.foldlM_cons, ended]; exact others, done⟩

theorem detach_ok (wellFormed : graph.WellFormed) (grid : GridId) :
    ∃ changed, graph.detach grid = .ok changed ∧ changed.WellFormed ∧
      changed.outlook = graph.outlook.part grid := by
  have parted : (reasons graph.pairs.entries).Perm
      (reasons (graph.pairs.entries.filter (·.1.1 = grid)) ++
        reasons (graph.pairs.filterKeys (·.1 ≠ grid)).entries) := by
    rw [← reasons_append]
    refine List.Perm.flatMap_right reasonsOf ?_
    have split := List.filter_append_perm (fun entry => decide (entry.1.1 = grid)) graph.pairs.entries
    simpa [Dictionary.filterKeys] using split.symm
  obtain ⟨published, ended, tallied⟩ := withdraw_all (wellFormed.tallied.perm parted)
  have kept : ∀ key pair, (graph.pairs.filterKeys (·.1 ≠ grid)).get? key = some pair →
      graph.pairs.get? key = some pair := by
    intro key pair found
    rw [Dictionary.get?_filterKeys] at found
    split at found
    · exact found
    · cases found
  refine ⟨{ graph with published, pairs := graph.pairs.filterKeys (·.1 ≠ grid) },
    by rw [detach, ended]; rfl, ⟨?_, ?_, tallied⟩, ?_⟩
  · exact fun key pair found => wellFormed.members key pair (kept key pair found)
  · exact fun key pair found => wellFormed.current key pair (kept key pair found)
  · simp only [outlook, Outlook.part, Outlook.mk.injEq, true_and]
    funext other place item
    rw [membersOf, Dictionary.get?_filterKeys]
    by_cases same : other = grid <;> simp [same, membersOf]

/-! ## Moving the center -/

def turn (set : PublishedSet) (pair : Pair) : Except Fault PublishedSet :=
  if pair.relevant then set.removeMany false pair.members
  else .ok (set.addMany false pair.members)

def turned (now : Cell → Bool) (entry : (GridId × Cell) × Pair) : (GridId × Cell) × Pair :=
  (entry.1, { entry.2 with relevant := now entry.1.2 })

theorem recenter_eq (center : Cell) (graph : Graph) : graph.recenter center = (do
    let moved := { graph with center }
    let flipped := graph.pairs.entries.filter fun entry =>
      moved.isRelevant entry.1.2 ≠ entry.2.relevant
    let published ← flipped.foldlM (fun set entry => turn set entry.2) graph.published
    return (flipped.length, { moved with
      published
      pairs := graph.pairs.mapValues fun key pair =>
        { pair with relevant := moved.isRelevant key.2 } })) := rfl

theorem turn_one {now : Cell → Bool} {entry : (GridId × Cell) × Pair}
    (placed : entry.1.2.isEverywhere = false) (flips : now entry.1.2 ≠ entry.2.relevant)
    {others : List (MarkerId × Bool)} {set : PublishedSet}
    (tallied : Tallied set.slots (reasonsOf entry ++ others)) :
    ∃ left, turn set entry.2 = .ok left ∧
      Tallied left.slots (reasonsOf (turned now entry) ++ others) := by
  unfold turn
  simp only [reasonsOf, turned, placed] at tallied ⊢
  cases relevant : entry.2.relevant with
  | true =>
      have gone : now entry.1.2 = false := by simpa [relevant] using flips
      simp only [relevant, gone, if_true] at tallied ⊢
      simpa using tallied.removeMany
  | false =>
      have come : now entry.1.2 = true := by simpa [relevant] using flips
      simp only [relevant, come, Bool.false_eq_true, if_false, if_true] at tallied ⊢
      exact ⟨_, rfl, tallied.addMany false entry.2.members⟩

/-- Turning the pairs whose relevance changes leaves the reasons of the changed pairs. -/
theorem turn_all {now : Cell → Bool} (sees : ∀ cell, cell.isEverywhere = true → now cell = true)
    {entries : List ((GridId × Cell) × Pair)} {others : List (MarkerId × Bool)}
    (saw : ∀ entry ∈ entries, entry.1.2.isEverywhere = true → entry.2.relevant = true)
    {set : PublishedSet} (tallied : Tallied set.slots (reasons entries ++ others)) :
    ∃ left, (entries.filter fun entry => now entry.1.2 ≠ entry.2.relevant).foldlM
        (fun set entry => turn set entry.2) set = .ok left ∧
      Tallied left.slots (reasons (entries.map (turned now)) ++ others) := by
  induction entries generalizing set others with
  | nil => exact ⟨set, rfl, tallied⟩
  | cons entry rest ih =>
      have sawRest := fun other member => saw other (List.mem_cons_of_mem _ member)
      have tallied : Tallied set.slots (reasonsOf entry ++ (reasons rest ++ others)) := by
        rwa [← List.append_assoc]
      -- The reasons of the first pair stand behind the rest while the rest is turned.
      have behind : ∀ {entries reasonsOfEntry : List (MarkerId × Bool)} {slots},
          Tallied slots (reasonsOfEntry ++ (entries ++ others)) →
          Tallied slots (entries ++ (reasonsOfEntry ++ others)) :=
        fun tallied => tallied.perm (List.perm_append_comm_assoc ..)
      have together : ∀ {slots}, Tallied slots
            (reasons (rest.map (turned now)) ++ (reasonsOf (turned now entry) ++ others)) →
          Tallied slots (reasons ((entry :: rest).map (turned now)) ++ others) := by
        intro slots tallied
        refine (tallied.perm (List.perm_append_comm_assoc ..)).perm ?_
        rw [← List.append_assoc]
        exact List.Perm.refl _
      by_cases flips : now entry.1.2 ≠ entry.2.relevant
      · have placed : entry.1.2.isEverywhere = false := by
          rw [Bool.eq_false_iff]
          intro everywhere
          exact flips ((sees _ everywhere).trans (saw entry List.mem_cons_self everywhere).symm)
        obtain ⟨middle, ended, still⟩ := turn_one placed flips tallied
        obtain ⟨left, others, done⟩ := ih sawRest (behind still)
        refine ⟨left, ?_, together done⟩
        rw [List.filter_cons_of_pos (by simpa using flips), List.foldlM_cons, ended]
        exact others
      · have same : turned now entry = entry := by
          have equal : now entry.1.2 = entry.2.relevant := not_not.mp flips
          simp [turned, equal]
        obtain ⟨left, others, done⟩ := ih sawRest (behind tallied)
        refine ⟨left, ?_, together (same ▸ done)⟩
        rw [List.filter_cons_of_neg (by simpa using flips)]
        exact others

theorem recenter_ok (wellFormed : graph.WellFormed) (center : Cell) :
    ∃ count changed, graph.recenter center = .ok (count, changed) ∧ changed.WellFormed ∧
      changed.outlook = { graph.outlook with center } := by
  have sees : ∀ cell, cell.isEverywhere = true →
      isRelevant { graph with center } cell = true :=
    fun cell everywhere => isRelevant_everywhere everywhere ..
  have saw : ∀ entry ∈ graph.pairs.entries, entry.1.2.isEverywhere = true →
      entry.2.relevant = true := by
    intro entry member everywhere
    have found := Dictionary.mem_entries_iff.mp member
    rw [wellFormed.current _ _ found]
    exact isRelevant_everywhere everywhere ..
  have tallied : Tallied graph.published.slots (reasons graph.pairs.entries ++ []) := by
    rw [List.append_nil]
    exact wellFormed.tallied
  obtain ⟨published, ended, tallied⟩ := turn_all sees saw tallied
  rw [List.append_nil] at tallied
  refine ⟨_, _, by rw [recenter_eq]; simp only [ended]; rfl, ⟨?_, ?_, tallied⟩, ?_⟩
  · intro key pair found
    rw [Dictionary.get?_mapValues, Option.map_eq_some_iff] at found
    obtain ⟨before, present, rfl⟩ := found
    exact wellFormed.members key before present
  · intro key pair found
    rw [Dictionary.get?_mapValues, Option.map_eq_some_iff] at found
    obtain ⟨before, present, rfl⟩ := found
    rfl
  · simp only [outlook, Outlook.mk.injEq, true_and]
    funext other place item
    rw [membersOf, Dictionary.get?_mapValues, Option.map_map]
    rfl

/-! ## What is shown -/

theorem mem_reasons_iff (wellFormed : graph.WellFormed) {global : Bool} :
    (marker, global) ∈ reasons graph.pairs.entries ↔
      ∃ grid cell, graph.outlook.holds grid cell marker ∧ graph.isRelevant cell = true ∧
        cell.isEverywhere = global := by
  constructor
  · intro member
    obtain ⟨⟨⟨grid, cell⟩, pair⟩, entry, given⟩ := List.mem_flatMap.mp member
    have found := Dictionary.mem_entries_iff.mp entry
    unfold reasonsOf at given
    split at given
    · rename_i relevant
      obtain ⟨item, held, same⟩ := List.mem_map.mp given
      cases same
      refine ⟨grid, cell, ?_, ?_, rfl⟩
      · simpa [outlook, membersOf, found] using held
      · rw [← wellFormed.current _ _ found]
        exact relevant
    · cases given
  · rintro ⟨grid, cell, held, relevant, rfl⟩
    have held : marker ∈ graph.membersOf (grid, cell) := held
    unfold membersOf at held
    cases found : graph.pairs.get? (grid, cell) with
    | none => simp [found] at held
    | some pair =>
        refine List.mem_flatMap.mpr ⟨_, Dictionary.mem_entries_iff.mpr found, ?_⟩
        rw [reasonsOf, if_pos ((wellFormed.current _ _ found).trans relevant)]
        exact List.mem_map.mpr ⟨marker, by simpa [found] using held, rfl⟩

end Graph

end TorusEngine.Relevance
