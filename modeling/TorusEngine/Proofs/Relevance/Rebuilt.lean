import TorusEngine.Proofs.Relevance.Versions

/-!
# Graphs kept up to date equal graphs built anew

However a graph came about, and in whatever order its tables were gone through on the way, it equals
the graph that is built in one go from what its grids hold now, up to that order. A marker is published
once for every relevant pair that holds it. This is `graphs_equal_rebuilt_graphs`; requests on a graph
never fault, and they raise the version whenever they change which markers are published.
-/

namespace TorusEngine.Relevance

open Torus (Cell)

namespace Graph

inductive Request where
  | attach (grid : GridId) (members : List (Cell × MarkerId))
  | detach (grid : GridId)
  | insert (grid : GridId) (cell : Cell) (marker : MarkerId)
  | remove (grid : GridId) (cell : Cell) (marker : MarkerId)
  | recenter (center : Cell)
  | clear

namespace Request

def perform : Request → Graph → Except Fault Graph
  | attach grid members, graph => .ok (graph.attach grid members)
  | detach grid, graph => graph.detach grid
  | insert grid cell marker, graph => .ok (graph.insert grid cell marker)
  | remove grid cell marker, graph => graph.remove grid cell marker
  | recenter center, graph => do
      let (_, moved) ← graph.recenter center
      return moved
  | clear, graph => .ok graph.clear

def tell : Request → Outlook → Outlook
  | attach grid members => Outlook.join grid members
  | detach grid => Outlook.part grid
  | insert grid cell marker => Outlook.enter grid cell marker
  | remove grid cell marker => Outlook.leave grid cell marker
  | recenter center => fun outlook => { outlook with center }
  | clear => fun outlook => { outlook with holds := fun _ _ _ => False }

end Request

structure Alike (graph twin : Graph) : Prop where
  center : twin.center = graph.center
  radius : twin.radius = graph.radius
  width : twin.width = graph.width
  keys : twin.pairs.keys.Perm graph.pairs.keys
  pairs : ∀ key pair, graph.pairs.get? key = some pair → ∃ other, twin.pairs.get? key = some other ∧
    other.relevant = pair.relevant ∧ other.members.Perm pair.members
  slots : twin.published.slots.entries.Perm graph.published.slots.entries

/-- The same graph with its tables in another order. -/
structure Reordered (graph twin : Graph) : Prop extends Alike graph twin where
  version : twin.published.version = graph.published.version

theorem Reordered.refl (graph : Graph) : Reordered graph graph where
  center := rfl
  radius := rfl
  width := rfl
  keys := List.Perm.refl _
  pairs := fun _ pair found => ⟨pair, found, rfl, List.Perm.refl _⟩
  slots := List.Perm.refl _
  version := rfl

/-- The graphs that requests lead to. The tables may change their order before any request. -/
inductive Reachable : Graph → Prop where
  | new (center : Cell) (radius width : Float) (version : Nat) :
      Reachable { center, radius, width, published := { version } }
  | step {graph twin after : Graph} (request : Request) (reachable : Reachable graph)
      (reordered : Reordered graph twin) (performed : request.perform twin = .ok after) :
      Reachable after

def holders (graph : Graph) (marker : MarkerId) : Nat :=
  graph.pairs.entries.countP fun entry => entry.2.relevant && decide (marker ∈ entry.2.members)

def holdersEverywhere (graph : Graph) (marker : MarkerId) : Nat :=
  graph.pairs.entries.countP fun entry =>
    entry.2.relevant && decide (marker ∈ entry.2.members) && entry.1.2.isEverywhere

def listed (graph : Graph) : List (GridId × Cell × MarkerId) :=
  graph.pairs.entries.flatMap fun entry => entry.2.members.map (entry.1.1, entry.1.2, ·)

/-- The graph that is built by inserting one marker after the other. -/
def build (center : Cell) (radius width : Float) (order : List (GridId × Cell × MarkerId)) : Graph :=
  order.foldl (fun graph (grid, cell, marker) => graph.insert grid cell marker)
    { center, radius, width }

structure KeptUpToDate (graph : Graph) : Prop where
  judged : ∀ grid cell pair, graph.pairs.get? (grid, cell) = some pair →
    pair.relevant = Relevance.isRelevant graph.center cell graph.radius graph.width
  inhabited : ∀ key pair, graph.pairs.get? key = some pair → pair.members ≠ []
  counted : ∀ marker slot, graph.published.slots.get? marker = some slot →
    slot.total = graph.holders marker ∧ slot.global = graph.holdersEverywhere marker
  published : ∀ marker, graph.published.contains marker = true ↔ 0 < graph.holders marker
  answers : ∀ (request : Request) (twin : Graph), Reordered graph twin →
    ∃ after, request.perform twin = .ok after ∧
    after.outlook = request.tell graph.outlook ∧
    graph.published.version ≤ after.published.version ∧
    ∀ marker, after.published.contains marker ≠ graph.published.contains marker →
      graph.published.version < after.published.version
  determined : ∀ twin, Reachable twin → twin.outlook = graph.outlook → Alike graph twin
  rebuilt : ∀ order, (∀ entry, entry ∈ order ↔ entry ∈ graph.listed) →
    Alike graph (build graph.center graph.radius graph.width order)

/-! ## Requests leave no empty pairs -/

/-- A graph that publishes what is relevant and keeps no empty pairs. -/
structure Tidy (graph : Graph) : Prop extends WellFormed graph where
  inhabited : ∀ key pair, graph.pairs.get? key = some pair → pair.members ≠ []

variable {graph twin : Graph} {grid : GridId} {cell : Cell} {marker : MarkerId}

theorem new_tidy (center : Cell) (radius width : Float) (version : Nat) :
    Tidy { center, radius, width, published := { version } } where
  members := by
    intro key pair found
    cases found
  current := by
    intro key pair found
    cases found
  tallied := Tallied.empty
  inhabited := by
    intro key pair found
    cases found

theorem insert_tidy (tidy : graph.Tidy) (grid : GridId) (cell : Cell) (marker : MarkerId) :
    (graph.insert grid cell marker).Tidy where
  toWellFormed := insert_wellFormed tidy.toWellFormed grid cell marker
  inhabited := by
    intro key pair found
    unfold insert at found
    dsimp only at found
    split at found
    · exact tidy.inhabited key pair found
    · rcases Dictionary.get?_of_insert found with ⟨-, rfl⟩ | before
      · simp
      · exact tidy.inhabited key pair before

theorem attach_tidy (tidy : graph.Tidy) (grid : GridId) (members : List (Cell × MarkerId)) :
    (graph.attach grid members).Tidy := by
  induction members generalizing graph with
  | nil => exact tidy
  | cons entry rest ih => exact ih (insert_tidy tidy grid entry.1 entry.2)

theorem remove_inhabited (tidy : graph.Tidy) {changed : Graph}
    (answered : graph.remove grid cell marker = .ok changed) (key : GridId × Cell) (pair : Pair)
    (found : changed.pairs.get? key = some pair) : pair.members ≠ [] := by
  unfold remove at answered
  split at answered
  · cases answered
    exact tidy.inhabited key pair found
  · split at answered
    · obtain ⟨published, -, answered⟩ := bind_eq_ok.mp answered
      cases answered
      dsimp only at found
      split at found
      · exact tidy.inhabited key pair (Dictionary.get?_of_erase found)
      · rename_i left
        rcases Dictionary.get?_of_insert found with ⟨-, rfl⟩ | before
        · exact fun empty => left (List.isEmpty_iff.mpr empty)
        · exact tidy.inhabited key pair before
    · cases answered
      exact tidy.inhabited key pair found

theorem detach_inhabited (tidy : graph.Tidy) {changed : Graph}
    (answered : graph.detach grid = .ok changed) (key : GridId × Cell) (pair : Pair)
    (found : changed.pairs.get? key = some pair) : pair.members ≠ [] := by
  obtain ⟨published, -, answered⟩ := bind_eq_ok.mp answered
  cases answered
  dsimp only at found
  rw [Dictionary.get?_filterKeys] at found
  split at found
  · exact tidy.inhabited key pair found
  · cases found

theorem recenter_inhabited (tidy : graph.Tidy) {center : Cell} {count : Nat} {changed : Graph}
    (answered : graph.recenter center = .ok (count, changed)) (key : GridId × Cell) (pair : Pair)
    (found : changed.pairs.get? key = some pair) : pair.members ≠ [] := by
  obtain ⟨published, -, answered⟩ := bind_eq_ok.mp answered
  cases answered
  dsimp only at found
  rw [Dictionary.get?_mapValues, Option.map_eq_some_iff] at found
  obtain ⟨before, present, rfl⟩ := found
  exact tidy.inhabited key before present

theorem clear_tidy (graph : Graph) : graph.clear.Tidy where
  members := by
    intro key pair found
    cases found
  current := by
    intro key pair found
    cases found
  tallied := Tallied.empty
  inhabited := by
    intro key pair found
    cases found

theorem clear_outlook (graph : Graph) : graph.clear.outlook = Request.clear.tell graph.outlook := by
  simp only [outlook, clear, Request.tell, Outlook.mk.injEq, true_and]
  funext other place item
  simp [membersOf]

theorem Request.perform_ok (tidy : graph.Tidy) (request : Request) :
    ∃ after, request.perform graph = .ok after ∧ after.Tidy ∧
      after.outlook = request.tell graph.outlook ∧
      PublishedSet.Advances graph.published after.published := by
  cases request with
  | attach grid members =>
      exact ⟨_, rfl, attach_tidy tidy grid members, attach_outlook graph grid members,
        attach_advances graph grid members⟩
  | detach grid =>
      obtain ⟨changed, answered, wellFormed, told⟩ := detach_ok tidy.toWellFormed grid
      exact ⟨changed, answered, ⟨wellFormed, detach_inhabited tidy answered⟩, told,
        detach_advances answered⟩
  | insert grid cell marker =>
      exact ⟨_, rfl, insert_tidy tidy grid cell marker, insert_outlook graph grid cell marker,
        insert_advances graph grid cell marker⟩
  | remove grid cell marker =>
      obtain ⟨changed, answered, wellFormed, told⟩ := remove_ok tidy.toWellFormed grid cell marker
      exact ⟨changed, answered, ⟨wellFormed, remove_inhabited tidy answered⟩, told,
        remove_advances answered⟩
  | recenter center =>
      obtain ⟨count, changed, answered, wellFormed, told⟩ := recenter_ok tidy.toWellFormed center
      exact ⟨changed, bind_eq_ok.mpr ⟨_, answered, rfl⟩,
        ⟨wellFormed, recenter_inhabited tidy answered⟩, told, recenter_advances answered⟩
  | clear =>
      exact ⟨_, rfl, clear_tidy graph, clear_outlook graph, PublishedSet.clear_advances _⟩

/-! ## The order of the tables -/

def reasonsAt (pairs : Dictionary (GridId × Cell) Pair) (key : GridId × Cell) :
    List (MarkerId × Bool) :=
  (pairs.get? key).elim [] fun pair => reasonsOf (key, pair)

theorem reasons_eq_keys (pairs : Dictionary (GridId × Cell) Pair) :
    reasons pairs.entries = pairs.keys.flatMap (reasonsAt pairs) := by
  rw [reasons, Dictionary.keys, List.flatMap_map]
  apply List.flatMap_congr
  rintro ⟨key, pair⟩ member
  simp [reasonsAt, Dictionary.mem_entries_iff.mp member]

/-- What decides about the reasons that two tables give: the same keys, and equal pairs. -/
theorem reasons_perm_of_pairs {pairs others : Dictionary (GridId × Cell) Pair}
    (keys : others.keys.Perm pairs.keys)
    (same : ∀ key pair, pairs.get? key = some pair → ∃ other, others.get? key = some other ∧
      other.relevant = pair.relevant ∧ other.members.Perm pair.members) :
    (reasons others.entries).Perm (reasons pairs.entries) := by
  rw [reasons_eq_keys, reasons_eq_keys]
  apply (keys.flatMap_right _).trans
  apply List.Perm.flatMap_left
  intro key member
  cases found : pairs.get? key with
  | none => exact absurd member (Dictionary.get?_eq_none_iff.mp found)
  | some pair =>
      obtain ⟨other, there, relevant, members⟩ := same key pair found
      simp only [reasonsAt, found, there, Option.elim_some, reasonsOf, relevant]
      split
      · exact members.map _
      · exact List.Perm.refl _

namespace Alike

variable (alike : Alike graph twin)

include alike

theorem pair_of_twin {key : GridId × Cell} {other : Pair}
    (found : twin.pairs.get? key = some other) : ∃ pair, graph.pairs.get? key = some pair ∧
      other.relevant = pair.relevant ∧ other.members.Perm pair.members := by
  have present := alike.keys.mem_iff.mp (Dictionary.mem_keys_of_get? found)
  cases there : graph.pairs.get? key with
  | none => exact absurd present (Dictionary.get?_eq_none_iff.mp there)
  | some pair =>
      obtain ⟨same, again, relevant, members⟩ := alike.pairs key pair there
      cases found.symm.trans again
      exact ⟨pair, rfl, relevant, members⟩

theorem slot_eq (marker : MarkerId) :
    twin.published.slots.get? marker = graph.published.slots.get? marker := by
  apply Option.ext
  intro slot
  rw [← Dictionary.mem_entries_iff, ← Dictionary.mem_entries_iff]
  exact alike.slots.mem_iff

theorem contains_eq (marker : MarkerId) :
    twin.published.contains marker = graph.published.contains marker := by
  rw [PublishedSet.contains, PublishedSet.contains, Dictionary.contains, Dictionary.contains,
    alike.slot_eq]

theorem tidy (tidy : graph.Tidy) : twin.Tidy where
  members := by
    intro key other found
    obtain ⟨pair, there, -, members⟩ := alike.pair_of_twin found
    exact members.nodup_iff.mpr (tidy.members key pair there)
  current := by
    intro key other found
    obtain ⟨pair, there, relevant, -⟩ := alike.pair_of_twin found
    rw [relevant, tidy.current key pair there, isRelevant, isRelevant, alike.center, alike.radius,
      alike.width]
  tallied := by
    have counted : Tallied twin.published.slots (reasons graph.pairs.entries) :=
      ⟨fun marker => (alike.slot_eq marker).trans (tidy.tallied.counted marker)⟩
    exact counted.perm (reasons_perm_of_pairs alike.keys alike.pairs).symm
  inhabited := by
    intro key other found
    obtain ⟨pair, there, -, members⟩ := alike.pair_of_twin found
    intro empty
    rw [empty] at members
    exact tidy.inhabited key pair there members.nil_eq.symm

theorem outlook : twin.outlook = graph.outlook := by
  simp only [Graph.outlook, alike.center, alike.radius, alike.width, Outlook.mk.injEq, true_and]
  funext grid cell marker
  unfold membersOf
  cases found : twin.pairs.get? (grid, cell) with
  | some other =>
      obtain ⟨pair, there, -, members⟩ := alike.pair_of_twin found
      simp [there, members.mem_iff]
  | none =>
      have absent : graph.pairs.get? (grid, cell) = none := by
        rw [Dictionary.get?_eq_none_iff] at found ⊢
        exact fun member => found (alike.keys.mem_iff.mpr member)
      rw [absent]

end Alike

theorem Reachable.tidy (reachable : Reachable graph) : graph.Tidy := by
  induction reachable with
  | new center radius width version => exact new_tidy center radius width version
  | step request _ reordered performed ih =>
      obtain ⟨after, answered, tidy, -⟩ := request.perform_ok (reordered.toAlike.tidy ih)
      cases performed.symm.trans answered
      exact tidy

/-! ## The outlook decides -/

namespace Tidy

theorem mem_membersOf (key : GridId × Cell) {pair : Pair}
    (found : graph.pairs.get? key = some pair) :
    graph.outlook.holds key.1 key.2 marker ↔ marker ∈ pair.members := by
  show marker ∈ graph.membersOf key ↔ marker ∈ pair.members
  rw [membersOf, found]
  exact Iff.rfl

theorem mem_keys_iff (tidy : graph.Tidy) (key : GridId × Cell) :
    key ∈ graph.pairs.keys ↔ ∃ marker, graph.outlook.holds key.1 key.2 marker := by
  constructor
  · intro member
    cases found : graph.pairs.get? key with
    | none => exact absurd member (Dictionary.get?_eq_none_iff.mp found)
    | some pair =>
        obtain ⟨marker, held⟩ := List.exists_mem_of_ne_nil _ (tidy.inhabited key pair found)
        exact ⟨marker, (mem_membersOf key found).mpr held⟩
  · rintro ⟨marker, held⟩
    cases found : graph.pairs.get? key with
    | some pair => exact Dictionary.mem_keys_of_get? found
    | none =>
        have held : marker ∈ graph.membersOf key := held
        simp [membersOf, found] at held

theorem alike (tidy : graph.Tidy) (twinTidy : twin.Tidy) (same : twin.outlook = graph.outlook) :
    Alike graph twin := by
  have center : twin.center = graph.center := congrArg Outlook.center same
  have radius : twin.radius = graph.radius := congrArg Outlook.radius same
  have width : twin.width = graph.width := congrArg Outlook.width same
  have keys : twin.pairs.keys.Perm graph.pairs.keys := by
    rw [List.perm_ext_iff_of_nodup twin.pairs.nodup_keys graph.pairs.nodup_keys]
    intro key
    rw [twinTidy.mem_keys_iff, tidy.mem_keys_iff, same]
  have pairs : ∀ key pair, graph.pairs.get? key = some pair → ∃ other,
      twin.pairs.get? key = some other ∧ other.relevant = pair.relevant ∧
        other.members.Perm pair.members := by
    intro key pair found
    have present := keys.mem_iff.mpr (Dictionary.mem_keys_of_get? found)
    cases there : twin.pairs.get? key with
    | none => exact absurd present (Dictionary.get?_eq_none_iff.mp there)
    | some other =>
        refine ⟨other, rfl, ?_, ?_⟩
        · rw [twinTidy.current key other there, tidy.current key pair found, isRelevant, isRelevant,
            center, radius, width]
        · rw [List.perm_ext_iff_of_nodup (twinTidy.members key other there)
            (tidy.members key pair found)]
          intro marker
          rw [← mem_membersOf key there, ← mem_membersOf key found, same]
  refine ⟨center, radius, width, keys, pairs, ?_⟩
  have tallied := twinTidy.tallied.perm (reasons_perm_of_pairs keys pairs)
  rw [List.perm_ext_iff_of_nodup (List.Nodup.of_map _ twin.published.slots.distinct)
    (List.Nodup.of_map _ graph.published.slots.distinct)]
  rintro ⟨marker, slot⟩
  rw [Dictionary.mem_entries_iff, Dictionary.mem_entries_iff, tallied.counted, tidy.tallied.counted]

end Tidy

/-! ## What the slots count -/

theorem countP_reasonsOf (entry : (GridId × Cell) × Pair) (distinct : entry.2.members.Nodup)
    (marker : MarkerId) : (reasonsOf entry).countP (·.1 = marker) =
      if entry.2.relevant && decide (marker ∈ entry.2.members) then 1 else 0 := by
  unfold reasonsOf
  cases entry.2.relevant with
  | false => rfl
  | true =>
      have counted : (entry.2.members.map (·, entry.1.2.isEverywhere)).countP (·.1 = marker) =
          entry.2.members.count marker := by
        rw [List.countP_map, List.count_eq_countP]
        exact List.countP_congr fun other _ => by simp
      simp [counted, distinct.count]

theorem count_reasonsOf (entry : (GridId × Cell) × Pair) (distinct : entry.2.members.Nodup)
    (marker : MarkerId) : (reasonsOf entry).count (marker, true) =
      if entry.2.relevant && decide (marker ∈ entry.2.members) && entry.1.2.isEverywhere
        then 1 else 0 := by
  unfold reasonsOf
  cases entry.2.relevant with
  | false => rfl
  | true =>
      cases entry.1.2.isEverywhere with
      | false =>
          have absent : (marker, true) ∉ entry.2.members.map (·, false) := by simp
          simp [List.count_eq_zero.mpr absent]
      | true =>
          have injective : Function.Injective fun member : MarkerId => (member, true) :=
            fun _ _ equal => congrArg Prod.fst equal
          have counted : (entry.2.members.map (·, true)).count (marker, true) =
              entry.2.members.count marker := List.count_map_of_injective _ _ injective marker
          simp [counted, distinct.count]

theorem tally_reasons (entries : List ((GridId × Cell) × Pair))
    (distinct : ∀ entry ∈ entries, entry.2.members.Nodup) (marker : MarkerId) :
    tally (reasons entries) marker =
      ⟨entries.countP fun entry => entry.2.relevant && decide (marker ∈ entry.2.members),
        entries.countP fun entry =>
          entry.2.relevant && decide (marker ∈ entry.2.members) && entry.1.2.isEverywhere⟩ := by
  induction entries with
  | nil => rfl
  | cons entry rest ih =>
      have first := distinct entry List.mem_cons_self
      have others := ih fun other member => distinct other (List.mem_cons_of_mem _ member)
      simp only [tally, Reasons.mk.injEq] at others ⊢
      have split : reasons (entry :: rest) = reasonsOf entry ++ reasons rest := rfl
      rw [split, List.countP_append, List.count_append, others.1, others.2,
        countP_reasonsOf entry first, count_reasonsOf entry first, List.countP_cons, List.countP_cons]
      exact ⟨Nat.add_comm .., Nat.add_comm ..⟩

theorem Tidy.tally_eq (tidy : graph.Tidy) (marker : MarkerId) :
    tally (reasons graph.pairs.entries) marker =
      ⟨graph.holders marker, graph.holdersEverywhere marker⟩ := by
  apply tally_reasons
  rintro ⟨key, pair⟩ member
  exact tidy.members key pair (Dictionary.mem_entries_iff.mp member)

theorem Tidy.slot_eq (tidy : graph.Tidy) (marker : MarkerId) :
    graph.published.slots.get? marker = if graph.holders marker = 0 then none
      else some ⟨graph.holders marker, graph.holdersEverywhere marker⟩ := by
  rw [tidy.tallied.counted, tidy.tally_eq]

/-! ## Building anew -/

theorem Tidy.mem_listed_iff (tidy : graph.Tidy) :
    (grid, cell, marker) ∈ graph.listed ↔ graph.outlook.holds grid cell marker := by
  constructor
  · intro member
    obtain ⟨⟨⟨owner, place⟩, pair⟩, entry, given⟩ := List.mem_flatMap.mp member
    obtain ⟨item, held, same⟩ := List.mem_map.mp given
    cases same
    exact (mem_membersOf (owner, place) (Dictionary.mem_entries_iff.mp entry)).mpr held
  · intro held
    have present := (tidy.mem_keys_iff (grid, cell)).mpr ⟨marker, held⟩
    cases found : graph.pairs.get? (grid, cell) with
    | none => exact absurd present (Dictionary.get?_eq_none_iff.mp found)
    | some pair =>
        refine List.mem_flatMap.mpr ⟨_, Dictionary.mem_entries_iff.mpr found, ?_⟩
        exact List.mem_map.mpr ⟨marker, (mem_membersOf (grid, cell) found).mp held, rfl⟩

theorem insertAll_tidy (tidy : graph.Tidy) (order : List (GridId × Cell × MarkerId)) :
    (order.foldl (fun graph (grid, cell, marker) => graph.insert grid cell marker) graph).Tidy := by
  induction order generalizing graph with
  | nil => exact tidy
  | cons entry rest ih => exact ih (insert_tidy tidy entry.1 entry.2.1 entry.2.2)

theorem insertAll_outlook (graph : Graph) (order : List (GridId × Cell × MarkerId)) :
    (order.foldl (fun graph (grid, cell, marker) => graph.insert grid cell marker) graph).outlook =
      { graph.outlook with holds := fun grid cell marker =>
          graph.outlook.holds grid cell marker ∨ (grid, cell, marker) ∈ order } := by
  induction order generalizing graph with
  | nil => simp
  | cons entry rest ih =>
      refine (ih (graph.insert entry.1 entry.2.1 entry.2.2)).trans ?_
      rw [insert_outlook]
      simp only [Outlook.enter, Outlook.mk.injEq, true_and]
      funext grid cell marker
      simp only [List.mem_cons, Prod.ext_iff]
      exact propext or_assoc

theorem Tidy.rebuilt (tidy : graph.Tidy) {order : List (GridId × Cell × MarkerId)}
    (same : ∀ entry, entry ∈ order ↔ entry ∈ graph.listed) :
    Alike graph (build graph.center graph.radius graph.width order) := by
  apply tidy.alike
  · exact insertAll_tidy (new_tidy ..) order
  · refine (insertAll_outlook _ order).trans ?_
    simp only [outlook, Outlook.mk.injEq, true_and]
    funext grid cell marker
    rw [same, tidy.mem_listed_iff]
    simp [membersOf, outlook]

/-! ## All requests -/

/-- Every graph that requests lead to is as if it had been built anew. -/
theorem graphs_equal_rebuilt_graphs (reachable : Reachable graph) : graph.KeptUpToDate := by
  have tidy := reachable.tidy
  constructor
  case judged => exact fun grid cell pair found => tidy.current (grid, cell) pair found
  case inhabited => exact tidy.inhabited
  case counted =>
    intro marker slot found
    rw [tidy.slot_eq] at found
    split at found
    · cases found
    · cases found
      exact ⟨rfl, rfl⟩
  case published =>
    intro marker
    rw [PublishedSet.contains, Dictionary.contains, tidy.slot_eq, Nat.pos_iff_ne_zero]
    split <;> simp [*]
  case answers =>
    intro request twin reordered
    obtain ⟨after, answered, -, told, advances⟩ := request.perform_ok (reordered.toAlike.tidy tidy)
    rw [reordered.toAlike.outlook] at told
    refine ⟨after, answered, told, reordered.version ▸ advances.grows, ?_⟩
    intro marker differs
    rw [← reordered.toAlike.contains_eq] at differs
    exact reordered.version ▸ advances.lt_of_contains differs
  case determined =>
    intro twin twinReachable same
    exact tidy.alike twinReachable.tidy same
  case rebuilt => exact fun order same => tidy.rebuilt same

/-- Two grids hold a marker in the cell visible from everywhere; the center moves, and one grid lets
go of the marker. -/
def shared : Graph where
  center := ⟨5, 0, 0⟩
  radius := 2
  width := 8
  pairs := ⟨[((1, Cell.everywhere), ⟨[7], true⟩)], List.nodup_singleton _⟩
  published := ⟨⟨[(7, ⟨1, 1⟩)], List.nodup_singleton _⟩, 1⟩

theorem graphs_equal_rebuilt_graphs_shared : shared.holders 7 = 1 ∧ shared.KeptUpToDate := by
  refine ⟨by decide, graphs_equal_rebuilt_graphs ?_⟩
  have added := (Reachable.new ⟨0, 0, 0⟩ 2 8 0).step (.insert 0 Cell.everywhere 7) (.refl _) rfl
  have again := added.step (.attach 1 [(Cell.everywhere, 7)]) (.refl _) rfl
  have moved := again.step (.recenter ⟨5, 0, 0⟩) (.refl _) rfl
  exact moved.step (.remove 0 Cell.everywhere 7) (.refl _) rfl

end Graph

end TorusEngine.Relevance
