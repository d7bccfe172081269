import TorusEngine.Proofs.Relevance.Graph

/-!
# Versions grow with the published markers

A set keeps its version only while the published markers stay the same. Adding reasons keeps the
markers that were there and may append more, removing reasons may only drop some, so the size of the
set tells whether anything changed.
-/

namespace TorusEngine.Relevance

namespace PublishedSet

/-- A change that is seen in the version if it touches the published markers. -/
structure Advances (set after : PublishedSet) : Prop where
  grows : set.version ≤ after.version
  same : after.version = set.version → after.slots.keys = set.slots.keys

namespace Advances

variable {set middle after : PublishedSet}

theorem refl : Advances set set := ⟨Nat.le_refl _, fun _ => rfl⟩

theorem trans (first : Advances set middle) (second : Advances middle after) :
    Advances set after where
  grows := Nat.le_trans first.grows second.grows
  same := by
    intro still
    have keptFirst : middle.version = set.version :=
      Nat.le_antisymm (still ▸ second.grows) first.grows
    rw [second.same (still.trans keptFirst.symm), first.same keptFirst]

/-- Markers that only come, or only go, are noticed by their number. -/
theorem of_sublist {slots : Dictionary MarkerId Reasons}
    (oneWay : set.slots.keys.Sublist slots.keys ∨ slots.keys.Sublist set.slots.keys) :
    Advances set ⟨slots, if slots.size = set.slots.size then set.version else set.version + 1⟩ where
  grows := by
    dsimp only
    split
    · exact Nat.le_refl _
    · exact Nat.le_succ _
  same := by
    intro still
    dsimp only at still ⊢
    split at still
    · rename_i size
      have length : slots.keys.length = set.slots.keys.length := by
        simpa [Dictionary.keys, Dictionary.size] using size
      rcases oneWay with come | gone
      · exact (come.eq_of_length length.symm).symm
      · exact gone.eq_of_length length
    · exact absurd still (Nat.succ_ne_self _)

theorem foldlM {α : Type} {step : PublishedSet → α → Except Fault PublishedSet}
    (advances : ∀ set item after, step set item = .ok after → Advances set after) {items : List α}
    (answered : items.foldlM step set = .ok after) : Advances set after :=
  foldlM_relates (fun _ => refl) (fun _ _ _ => trans) advances answered

theorem lt_of_contains (advances : Advances set after) {marker : MarkerId}
    (differs : after.contains marker ≠ set.contains marker) : set.version < after.version := by
  apply Nat.lt_of_le_of_ne advances.grows
  intro still
  have keys := advances.same still.symm
  have absent : after.slots.get? marker = none ↔ set.slots.get? marker = none := by
    rw [Dictionary.get?_eq_none_iff, Dictionary.get?_eq_none_iff, keys]
  apply differs
  simp only [contains, Dictionary.contains]
  cases found : set.slots.get? marker with
  | none => rw [absent.mpr found]
  | some slot =>
      cases there : after.slots.get? marker with
      | none => simp [absent.mp there] at found
      | some kept => rfl

end Advances

theorem keys_addReason (global : Bool) (slots : Dictionary MarkerId Reasons) (marker : MarkerId) :
    slots.keys.Sublist (addReason global slots marker).keys := by
  unfold addReason
  by_cases present : marker ∈ slots.keys
  · rw [Dictionary.keys_insert_of_mem present]
  · have absent := Dictionary.get?_eq_none_iff.mpr present
    rw [Dictionary.keys, Dictionary.keys, Dictionary.entries_insert absent, List.map_append]
    exact List.sublist_append_left ..

theorem keys_removeReason {global : Bool} {slots left : Dictionary MarkerId Reasons}
    {marker : MarkerId} (answered : removeReason global slots marker = .ok left) :
    left.keys.Sublist slots.keys := by
  unfold removeReason at answered
  cases found : slots.get? marker with
  | none =>
      rw [found] at answered
      cases answered
      exact List.Sublist.refl _
  | some reasons =>
      rw [found] at answered
      obtain ⟨rest, -, answered⟩ := bind_eq_ok.mp answered
      cases answered
      split
      · rw [Dictionary.keys_erase]
        exact List.filter_sublist
      · rw [Dictionary.keys_insert_of_mem (Dictionary.mem_keys_of_get? found)]

theorem addMany_advances (set : PublishedSet) (global : Bool) (markers : List MarkerId) :
    Advances set (set.addMany global markers) := by
  have come : ∀ slots : Dictionary MarkerId Reasons,
      slots.keys.Sublist (markers.foldl (addReason global) slots).keys := by
    induction markers with
    | nil => exact fun slots => List.Sublist.refl _
    | cons marker rest ih => exact fun slots => (keys_addReason global slots marker).trans (ih _)
  exact Advances.of_sublist (.inl (come set.slots))

theorem removeMany_advances {set after : PublishedSet} {global : Bool} {markers : List MarkerId}
    (answered : set.removeMany global markers = .ok after) : Advances set after := by
  obtain ⟨left, folded, answered⟩ := bind_eq_ok.mp answered
  cases answered
  have gone : left.keys.Sublist set.slots.keys :=
    @foldlM_relates _ _ (fun slots left => left.keys.Sublist slots.keys)
      (fun _ => List.Sublist.refl _) (fun _ _ _ first second => second.trans first) _
      (fun _ _ _ => keys_removeReason) _ _ _ folded
  exact Advances.of_sublist (.inr gone)

theorem clear_advances (set : PublishedSet) : Advances set set.clear :=
  ⟨Nat.le_succ _, fun still => absurd still (Nat.succ_ne_self _)⟩

end PublishedSet

namespace Graph

open Torus (Cell)
open PublishedSet (Advances)

variable {graph changed : Graph} {grid : GridId} {cell : Cell} {marker : MarkerId}

theorem withdraw_advances {set after : PublishedSet} {entry : (GridId × Cell) × Pair}
    (answered : withdraw set entry = .ok after) : Advances set after := by
  unfold withdraw at answered
  split at answered
  · exact PublishedSet.removeMany_advances answered
  · cases answered
    exact Advances.refl

theorem turn_advances {set after : PublishedSet} {pair : Pair} (answered : turn set pair = .ok after) :
    Advances set after := by
  unfold turn at answered
  split at answered
  · exact PublishedSet.removeMany_advances answered
  · cases answered
    exact PublishedSet.addMany_advances ..

theorem insert_advances (graph : Graph) (grid : GridId) (cell : Cell) (marker : MarkerId) :
    Advances graph.published (graph.insert grid cell marker).published := by
  unfold insert
  dsimp only
  split
  · exact Advances.refl
  · dsimp only
    split
    · exact PublishedSet.addMany_advances ..
    · exact Advances.refl

theorem attach_advances (graph : Graph) (grid : GridId) (members : List (Cell × MarkerId)) :
    Advances graph.published (graph.attach grid members).published := by
  induction members generalizing graph with
  | nil => exact Advances.refl
  | cons entry rest ih => exact (insert_advances graph grid entry.1 entry.2).trans (ih _)

theorem remove_advances (answered : graph.remove grid cell marker = .ok changed) :
    Advances graph.published changed.published := by
  unfold remove at answered
  split at answered
  · cases answered
    exact Advances.refl
  · split at answered
    · obtain ⟨published, withdrawn, answered⟩ := bind_eq_ok.mp answered
      cases answered
      exact withdraw_advances withdrawn
    · cases answered
      exact Advances.refl

theorem detach_advances (answered : graph.detach grid = .ok changed) :
    Advances graph.published changed.published := by
  obtain ⟨published, withdrawn, answered⟩ := bind_eq_ok.mp answered
  cases answered
  exact Advances.foldlM (fun _ _ _ => withdraw_advances) withdrawn

theorem recenter_advances {center : Cell} {count : Nat}
    (answered : graph.recenter center = .ok (count, changed)) :
    Advances graph.published changed.published := by
  rw [recenter_eq] at answered
  obtain ⟨published, turned, answered⟩ := bind_eq_ok.mp answered
  cases answered
  exact Advances.foldlM (fun _ _ _ => turn_advances) turned

end Graph

end TorusEngine.Relevance
