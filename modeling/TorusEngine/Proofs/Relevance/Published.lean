import Mathlib.Data.List.Perm.Basic
import TorusEngine.Proofs.Size
import TorusEngine.Relevance.PublishedSet

/-!
# Published sets count reasons

A reason for which a marker is published is the marker together with whether the reason is global. The
slots of a set hold how often each marker occurs in a list of reasons, whatever the order of the list.
-/

namespace TorusEngine.Relevance

def tally (reasons : List (MarkerId × Bool)) (marker : MarkerId) : Reasons :=
  ⟨reasons.countP (·.1 = marker), reasons.count (marker, true)⟩

structure Tallied (slots : Dictionary MarkerId Reasons) (reasons : List (MarkerId × Bool)) : Prop where
  counted : ∀ marker, slots.get? marker =
    if (tally reasons marker).total = 0 then none else some (tally reasons marker)

variable {slots : Dictionary MarkerId Reasons} {reasons : List (MarkerId × Bool)}
  {marker : MarkerId} {global : Bool}

theorem tally_cons_self : tally ((marker, global) :: reasons) marker =
    (tally reasons marker).add global := by
  cases global <;> simp [tally, Reasons.add]

theorem tally_cons_other {other : MarkerId} (different : marker ≠ other) :
    tally ((marker, global) :: reasons) other = tally reasons other := by
  simp [tally, different]

theorem tally_total_ne_zero : (tally reasons marker).total ≠ 0 ↔ ∃ global, (marker, global) ∈ reasons := by
  rw [← Nat.pos_iff_ne_zero]
  simp [tally, List.countP_pos_iff]

theorem PublishedSet.members_nodup (set : PublishedSet) : (set.members.map (·.1)).Nodup := by
  have same : set.members.map (·.1) = set.slots.keys := by
    simp [PublishedSet.members, Dictionary.keys, Function.comp_def]
  rw [same]
  exact set.slots.nodup_keys

theorem PublishedSet.mem_members (set : PublishedSet) : (marker, global) ∈ set.members ↔
    ∃ slot, set.slots.get? marker = some slot ∧ decide (0 < slot.global) = global := by
  simp [PublishedSet.members, Dictionary.mem_entries_iff]

namespace Tallied

theorem empty : Tallied {} [] := ⟨fun _ => rfl⟩

theorem perm (tallied : Tallied slots reasons) {others : List (MarkerId × Bool)}
    (same : reasons.Perm others) : Tallied slots others where
  counted := by
    intro marker
    rw [tallied.counted, tally, tally, same.countP_eq, same.count_eq]

theorem add (tallied : Tallied slots reasons) :
    Tallied (PublishedSet.addReason global slots marker) ((marker, global) :: reasons) where
  counted := by
    intro other
    have before : (slots.get? marker).getD {} = tally reasons marker := by
      rw [tallied.counted]
      split
      · rename_i none
        have noneGlobal : reasons.count (marker, true) = 0 := by
          rw [List.count_eq_zero]
          exact fun member => tally_total_ne_zero.mpr ⟨true, member⟩ none
        simp only [tally] at none ⊢
        rw [none, noneGlobal]
        rfl
      · rfl
    rw [PublishedSet.addReason, Dictionary.get?_insert, before]
    split
    · rename_i same
      subst same
      rw [tally_cons_self, if_neg]
      simp [Reasons.add]
    · rename_i different
      rw [tally_cons_other different, tallied.counted]

theorem remove (tallied : Tallied slots ((marker, global) :: reasons)) :
    ∃ left, PublishedSet.removeReason global slots marker = .ok left ∧ Tallied left reasons := by
  have found : slots.get? marker = some ((tally reasons marker).add global) := by
    rw [tallied.counted, tally_cons_self, if_neg]
    simp [Reasons.add]
  have removed : ((tally reasons marker).add global).remove global = .ok (tally reasons marker) := by
    simp [Reasons.add, Reasons.remove, Size.sub]
    rfl
  refine ⟨if (tally reasons marker).total = 0 then slots.erase marker
    else slots.insert marker (tally reasons marker), ?_, ⟨fun other => ?_⟩⟩
  · simp only [PublishedSet.removeReason, found, removed]
    rfl
  · by_cases same : marker = other
    · subst same
      split
      · rw [Dictionary.get?_erase, if_pos rfl]
      · rw [Dictionary.get?_insert, if_pos rfl]
    · have still := tallied.counted other
      rw [tally_cons_other same] at still
      split
      · rw [Dictionary.get?_erase, if_neg same, still]
      · rw [Dictionary.get?_insert, if_neg same, still]

variable {set : PublishedSet}

theorem addMany (tallied : Tallied set.slots reasons) (global : Bool) (markers : List MarkerId) :
    Tallied (set.addMany global markers).slots (markers.map (·, global) ++ reasons) := by
  have folded : ∀ {slots reasons}, Tallied slots reasons →
      Tallied (markers.foldl (PublishedSet.addReason global) slots)
        (markers.map (·, global) ++ reasons) := by
    induction markers with
    | nil => exact fun tallied => tallied
    | cons marker rest ih => exact fun tallied => (ih tallied.add).perm List.perm_middle
  exact folded tallied

theorem removeMany {markers : List MarkerId}
    (tallied : Tallied set.slots (markers.map (·, global) ++ reasons)) :
    ∃ left, set.removeMany global markers = .ok left ∧ Tallied left.slots reasons := by
  have folded : ∀ (markers : List MarkerId) {slots},
      Tallied slots (markers.map (·, global) ++ reasons) →
      ∃ left, markers.foldlM (PublishedSet.removeReason global) slots = .ok left ∧
        Tallied left reasons := by
    intro markers
    induction markers with
    | nil => exact fun tallied => ⟨_, rfl, tallied⟩
    | cons marker rest ih =>
        intro slots tallied
        obtain ⟨middle, first, still⟩ := tallied.remove
        obtain ⟨left, others, done⟩ := ih still
        refine ⟨left, ?_, done⟩
        rw [List.foldlM_cons, first]
        exact others
  obtain ⟨left, removed, tallied⟩ := folded markers tallied
  exact ⟨_, by rw [PublishedSet.removeMany, removed]; rfl, tallied⟩

theorem mem_members_iff (tallied : Tallied set.slots reasons) :
    (marker, global) ∈ set.members ↔
      (∃ reason, (marker, reason) ∈ reasons) ∧ (global = true ↔ (marker, true) ∈ reasons) := by
  rw [set.mem_members, tallied.counted, ← tally_total_ne_zero]
  have counted : (marker, true) ∈ reasons ↔ 0 < (tally reasons marker).global :=
    List.count_pos_iff.symm
  by_cases none : (tally reasons marker).total = 0
  · simp [none]
  · cases global <;> simp [none, counted]

end Tallied

end TorusEngine.Relevance
