import Mathlib.Data.List.Sort
import Mathlib.Data.Prod.Lex
import TorusEngine.Engine
import TorusEngine.Proofs.Drawing.CleanLists
import TorusEngine.Proofs.Relevance.Published

/-!
# Rebuilt lists keep the nearest

A rebuild goes through the members of a published set in whatever order the set lists them. It makes
one entry for each member that is visible, and sorts the entries by their distances and, where these are
equal, by their object numbers. So a list that is too long for its record loses what is farthest, and
the order of the set is not seen in what is sent (`rebuilt_lists_keep_the_nearest`): entries that the
sort leaves as they came agree in all that is sent of them.
-/

namespace TorusEngine

/-! ## The order of entries -/

theorem Numeral.Binary64.rank_injective : Function.Injective Numeral.Binary64.rank := by
  intro first second same
  have small := first.toNat_lt
  have small' := second.toNat_lt
  apply UInt64.toNat_inj.mp
  -- Patterns with a sign have negative places and the others do not, so only like ones can meet.
  simp only [rank, isNegative, beq_iff_eq, Nat.shiftRight_eq_div_pow] at same
  split at same <;> split at same <;> omega

namespace Drawing

open Paging
open Relevance (Marker MarkerId PublishedSet)

namespace Entry

variable {entries others : List Entry}

def key (entry : Entry) : Int ×ₗ Nat :=
  toLex (Numeral.Binary64.rank entry.distance, entry.objectId.toNat)

theorem precedes_iff {a b : Entry} : a.precedes b = true ↔ a.key ≤ b.key := by
  simp [precedes, key, Prod.Lex.toLex_le_toLex]

theorem map_of_map_key (same : others.map key = entries.map key) :
    others.map (fun entry => (entry.distance, entry.objectId)) =
      entries.map (fun entry => (entry.distance, entry.objectId)) := by
  let keyOf (pair : UInt64 × BitVec 32) : Int ×ₗ Nat :=
    toLex (Numeral.Binary64.rank pair.1, pair.2.toNat)
  have injective : Function.Injective keyOf := by
    rintro ⟨distance, objectId⟩ ⟨distance', objectId'⟩ same
    simpa [keyOf, Numeral.Binary64.rank_injective.eq_iff, BitVec.toNat_inj] using same
  refine List.map_injective_iff.mpr injective ?_
  rw [List.map_map, List.map_map]
  exact same

theorem objectIds_of_map_key (same : others.map key = entries.map key) :
    others.map (·.objectId) = entries.map (·.objectId) := by
  have numbers := congrArg (List.map Prod.snd) (map_of_map_key same)
  rw [List.map_map, List.map_map] at numbers
  exact numbers

theorem mergeSort_sorted (entries : List Entry) :
    (entries.mergeSort precedes).Pairwise (·.key ≤ ·.key) := by
  have sorted := @List.pairwise_mergeSort Entry precedes
    (fun a b c => by simpa only [precedes_iff] using le_trans)
    (fun a b => by simpa only [Bool.or_eq_true, precedes_iff] using le_total a.key b.key) entries
  simpa only [precedes_iff] using sorted

theorem take_before_drop (sorted : entries.Pairwise (·.key ≤ ·.key)) {count : Nat} :
    ∀ kept ∈ entries.take count, ∀ dropped ∈ entries.drop count, ¬dropped.key < kept.key := by
  intro kept front dropped rest
  rw [← List.take_append_drop count entries, List.pairwise_append] at sorted
  exact not_lt.mpr (sorted.2.2 kept front dropped rest)

theorem mergeSort_alike (same : entries.Perm others) :
    (entries.mergeSort precedes).map key = (others.mergeSort precedes).map key := by
  have sorted (entries : List Entry) : ((entries.mergeSort precedes).map key).Pairwise (· ≤ ·) :=
    List.pairwise_map.mpr (mergeSort_sorted entries)
  refine List.Perm.eq_of_pairwise' (sorted entries) (sorted others) (List.Perm.map key ?_)
  exact (List.mergeSort_perm entries precedes).trans
    (same.trans (List.mergeSort_perm others precedes).symm)

end Entry

/-! ## What a rebuild shows -/

/-- The list that a rebuild makes: new entries, none of them sent. -/
def DrawList.refilled (list : DrawList) (entries : List Entry) : DrawList :=
  { list with entries, sent := 0, dirty := true }

namespace Rebuild

section Showing

variable (geometry : Torus.Geometry Float) (radius : Float) (positions : Positions)
  (observer : Vec3 Float)

/-- How far away an object is drawn: not at all far if it is global, else at its distance, if that is
less than the radius. -/
inductive SeenAt (marker : MarkerId) : Bool → UInt64 → Prop where
  | everywhere : SeenAt marker true (0 : Float).toBits
  | near {position : Vec3 Float} (read : positions marker = some position)
      (near : geometry.distance .euclidean position observer < radius) :
      SeenAt marker false (geometry.distance .euclidean position observer).toBits

def shown? (candidate : Candidate) : Option Entry :=
  let entry (distance : Float) : Entry := ⟨candidate.marker, candidate.objectId, distance.toBits⟩
  if candidate.global then some (entry 0)
  else (positions candidate.marker).bind fun position =>
    let distance := geometry.distance .euclidean position observer
    if distance < radius then some (entry distance) else none

def shown (candidates : List Candidate) : List Entry :=
  candidates.filterMap (shown? geometry radius positions observer)

end Showing

def Reads (positions : Positions) (candidates : List Candidate) : Prop :=
  ∀ candidate ∈ candidates, candidate.global = false →
    ∃ position, positions candidate.marker = some position

variable {geometry : Torus.Geometry Float} {radius : Float} {positions again : Positions}
  {observer : Vec3 Float} {candidate : Candidate} {candidates : List Candidate} {list : DrawList}
  {entry : Entry}

theorem shown?_eq_some_iff : shown? geometry radius positions observer candidate = some entry ↔
    entry.marker = candidate.marker ∧ entry.objectId = candidate.objectId ∧
      SeenAt geometry radius positions observer candidate.marker candidate.global entry.distance := by
  obtain ⟨marker, objectId, distance⟩ := entry
  cases global : candidate.global with
  | true =>
      simp only [shown?, global, if_true, Option.some.injEq, Entry.mk.injEq]
      constructor
      · rintro ⟨rfl, rfl, rfl⟩
        exact ⟨rfl, rfl, .everywhere⟩
      · rintro ⟨rfl, rfl, seen⟩
        cases seen
        exact ⟨rfl, rfl, rfl⟩
  | false =>
      simp only [shown?, global, Bool.false_eq_true, if_false, Option.bind_eq_some_iff,
        Option.ite_none_right_eq_some, Option.some.injEq, Entry.mk.injEq]
      constructor
      · rintro ⟨position, read, near, rfl, rfl, rfl⟩
        exact ⟨rfl, rfl, .near read near⟩
      · rintro ⟨rfl, rfl, seen⟩
        cases seen with
        | near read near => exact ⟨_, read, near, rfl, rfl, rfl⟩

theorem shown_congr (same : ∀ candidate ∈ candidates, candidate.global = false →
    again candidate.marker = positions candidate.marker) :
    shown geometry radius again observer candidates =
      shown geometry radius positions observer candidates := by
  refine List.filterMap_congr fun candidate member => ?_
  cases global : candidate.global with
  | true => simp [shown?, global]
  | false => simp [shown?, global, same candidate member global]

theorem shown_cons : shown geometry radius positions observer (candidate :: candidates) =
    (shown? geometry radius positions observer candidate).toList ++
      shown geometry radius positions observer candidates := by
  cases found : shown? geometry radius positions observer candidate <;> simp [shown, found]

theorem consider_eq (dirty : list.dirty = true) (read : candidate.global = false →
    ∃ position, positions candidate.marker = some position) :
    consider geometry radius positions observer list candidate = .ok { list with
      entries := list.entries ++ (shown? geometry radius positions observer candidate).toList } := by
  cases global : candidate.global with
  | true => simp [consider, shown?, global, DrawList.push, dirty]
  | false =>
      obtain ⟨position, found⟩ := read global
      by_cases near : geometry.distance .euclidean position observer < radius
      · simp [consider, shown?, global, found, near, DrawList.push, dirty]
      · simp [consider, shown?, global, found, near]

theorem foldlM_consider_eq (dirty : list.dirty = true) (reads : Reads positions candidates) :
    candidates.foldlM (consider geometry radius positions observer) list = .ok { list with
      entries := list.entries ++ shown geometry radius positions observer candidates } := by
  induction candidates generalizing list with
  | nil => simp [shown, pure, Except.pure]
  | cons candidate rest ih =>
      have first := @consider_eq geometry radius positions observer candidate list dirty
        (reads candidate List.mem_cons_self)
      have others := @ih { list with entries := list.entries ++
        (shown? geometry radius positions observer candidate).toList } dirty
          fun candidate member => reads candidate (List.mem_cons_of_mem _ member)
      rw [List.append_assoc, ← shown_cons] at others
      rw [List.foldlM_cons, first]
      exact others

theorem run_eq (reads : Reads positions candidates) :
    run geometry radius positions ⟨candidates, observer⟩ list = .ok (list.refilled
      ((shown geometry radius positions observer candidates).mergeSort Entry.precedes)) := by
  have filled := @foldlM_consider_eq geometry radius positions observer candidates list.reset rfl reads
  rw [run, filled]
  rfl

/-! ## Snapshots -/

/-- The members of a set as candidates, in any order. -/
def Snapshot (set : PublishedSet) (markers : Array Marker) (candidates : List Candidate) : Prop :=
  candidates.Perm (set.members.filterMap fun (marker, global) =>
    (markers[marker]?).map fun object => { marker, objectId := object.objectId, global })

def positionsIn (markers : Array Marker) : Positions := fun marker =>
  (markers[marker]?).map (·.position)

variable {set : PublishedSet} {markers : Array Marker}

theorem Snapshot.mem_iff (listed : Snapshot set markers candidates) : candidate ∈ candidates ↔
    (candidate.marker, candidate.global) ∈ set.members ∧ ∃ object,
      markers[candidate.marker]? = some object ∧ candidate.objectId = object.objectId := by
  obtain ⟨marker, objectId, global⟩ := candidate
  rw [List.Perm.mem_iff listed, List.mem_filterMap]
  constructor
  · rintro ⟨⟨_, _⟩, member, found⟩
    obtain ⟨object, listed, same⟩ := Option.map_eq_some_iff.mp found
    cases same
    exact ⟨member, object, listed, rfl⟩
  · rintro ⟨member, object, listed, rfl⟩
    exact ⟨(marker, global), member, by simp [listed]⟩

theorem Snapshot.reads (listed : Snapshot set markers candidates) :
    Reads (positionsIn markers) candidates := by
  intro candidate member _
  obtain ⟨-, object, found, -⟩ := listed.mem_iff.mp member
  exact ⟨object.position, by rw [positionsIn, found, Option.map_some]⟩

theorem Snapshot.distinct (listed : Snapshot set markers candidates) :
    candidates.Pairwise (·.marker ≠ ·.marker) := by
  have members := List.pairwise_map.mp set.members_nodup
  refine (List.Perm.pairwise_iff (fun different => different.symm) listed).mpr ?_
  refine members.filterMap _ fun member other different candidate found second foundToo => ?_
  obtain ⟨_, -, rfl⟩ := Option.map_eq_some_iff.mp found
  obtain ⟨_, -, rfl⟩ := Option.map_eq_some_iff.mp foundToo
  exact different

theorem Snapshot.shown_nodup (listed : Snapshot set markers candidates) :
    ((shown geometry radius positions observer candidates).map (·.marker)).Nodup := by
  refine List.pairwise_map.mpr (listed.distinct.filterMap _ ?_)
  intro first second different entry shown other shownToo
  rw [(shown?_eq_some_iff.mp shown).1, (shown?_eq_some_iff.mp shownToo).1]
  exact different

theorem Snapshot.mem_shown_iff (listed : Snapshot set markers candidates) :
    entry ∈ shown geometry radius positions observer candidates ↔ ∃ global object,
      (entry.marker, global) ∈ set.members ∧ markers[entry.marker]? = some object ∧
        entry.objectId = object.objectId ∧
        SeenAt geometry radius positions observer entry.marker global entry.distance := by
  rw [shown, List.mem_filterMap]
  constructor
  · rintro ⟨candidate, member, shown⟩
    obtain ⟨marker, objectId, seen⟩ := shown?_eq_some_iff.mp shown
    obtain ⟨known, object, found, number⟩ := listed.mem_iff.mp member
    rw [← marker] at known found seen
    exact ⟨candidate.global, object, known, found, objectId.trans number, seen⟩
  · rintro ⟨global, object, known, found, objectId, seen⟩
    have member : ⟨entry.marker, entry.objectId, global⟩ ∈ candidates :=
      listed.mem_iff.mpr ⟨known, object, found, objectId⟩
    exact ⟨_, member, shown?_eq_some_iff.mpr ⟨rfl, rfl, seen⟩⟩

/-! ## What is sent of a rebuilt list -/

section Keeping

variable (geometry : Torus.Geometry Float) (radius : Float) (positions : Positions)
  (observer : Vec3 Float) (set : PublishedSet) (markers : Array Marker) (drawable : Drawable)

/-- A rebuilt list has what is visible of a set, nearest first, and its record takes what is nearest. -/
structure KeepsNearest (built : DrawList) : Prop where
  members : ∀ marker global, (marker, global) ∈ set.members ↔
    ∃ reasons, set.slots.get? marker = some reasons ∧ decide (0 < reasons.global) = global
  once : (built.entries.map (·.marker)).Nodup
  shown : ∀ entry, entry ∈ built.entries ↔ ∃ global object,
    (entry.marker, global) ∈ set.members ∧ markers[entry.marker]? = some object ∧
      entry.objectId = object.objectId ∧
      SeenAt geometry radius positions observer entry.marker global entry.distance
  sorted : built.entries.Pairwise (·.key ≤ ·.key)
  sends : Drawable.Sends { drawable with list := built }
    (Drawable.Call.send.after { drawable with list := built })
  sent : (Drawable.Call.send.after { drawable with list := built }).list.sent =
    min built.entries.length drawable.list.table.capacity
  stored : drawable.list.table.Stores drawable.list.record
    ((built.entries.map (·.objectId)).take drawable.list.table.capacity)
    (Drawable.Call.send.after { drawable with list := built }).memory.arena
  read : drawable.list.table.capacity < 0x80000000 →
    built.sentIds (Drawable.Call.send.after { drawable with list := built }).memory =
      .ok ((built.entries.map (·.objectId)).take drawable.list.table.capacity)
  nearest : ∀ kept ∈ built.entries.take drawable.list.table.capacity,
    ∀ dropped ∈ built.entries.drop drawable.list.table.capacity, ¬dropped.key < kept.key

structure SentAlike (built twin : DrawList) : Prop where
  entries : twin.entries.map (fun entry => (entry.distance, entry.objectId)) =
    built.entries.map (fun entry => (entry.distance, entry.objectId))
  sent : (Drawable.Call.send.after { drawable with list := twin }).list.sent =
    (Drawable.Call.send.after { drawable with list := built }).list.sent
  memory : (Drawable.Call.send.after { drawable with list := twin }).memory =
    (Drawable.Call.send.after { drawable with list := built }).memory

end Keeping

variable {drawable : Drawable} {entries others : List Entry}

theorem holds_refilled (holds : drawable.Holds) (entries : List Entry) :
    Drawable.Holds { drawable with list := drawable.list.refilled entries } :=
  ⟨holds.wellFormed, holds.backs, holds.record, fun some => absurd rfl some⟩

theorem keepsNearest_refilled (holds : drawable.Holds) (listed : Snapshot set markers candidates) :
    KeepsNearest geometry radius positions observer set markers drawable (drawable.list.refilled
      ((shown geometry radius positions observer candidates).mergeSort Entry.precedes)) := by
  have perm := List.mergeSort_perm (shown geometry radius positions observer candidates) Entry.precedes
  have sorted := Entry.mergeSort_sorted (shown geometry radius positions observer candidates)
  have refilled := holds_refilled holds
    ((shown geometry radius positions observer candidates).mergeSort Entry.precedes)
  have sends := refilled.sends_dirty rfl
  refine ⟨fun _ _ => set.mem_members, ?_, fun entry => ?_, sorted, sends, sends.sent_eq, sends.stored, ?_,
    ?_⟩
  · exact (perm.map _).nodup_iff.mpr listed.shown_nodup
  · exact perm.mem_iff.trans listed.mem_shown_iff
  · exact sends.sentIds refilled.send
  · exact Entry.take_before_drop sorted

theorem sentAlike_refilled (holds : drawable.Holds)
    (same : others.map Entry.key = entries.map Entry.key) :
    SentAlike drawable (drawable.list.refilled entries) (drawable.list.refilled others) := by
  have ids : others.map (·.objectId) = (entries.map (·.objectId) : List ObjectListTable.ObjectId) :=
    Entry.objectIds_of_map_key same
  obtain ⟨count, memory, written⟩ :=
    (holds_refilled holds entries).write_answers (entries.map (·.objectId))
  have first := @Drawable.after_send_of_dirty
    { drawable with list := drawable.list.refilled entries } rfl _ _ written
  rw [← ids] at written
  have second := @Drawable.after_send_of_dirty
    { drawable with list := drawable.list.refilled others } rfl _ _ written
  exact ⟨Entry.map_of_map_key same, by rw [first, second], by rw [first, second]⟩

/-- A rebuilt list keeps what is nearest, in whatever order the members of the set are listed. -/
theorem rebuilt_lists_keep_the_nearest (reachable : Drawable.Reachable drawable) {rebuild : Rebuild}
    (listed : Snapshot set markers rebuild.candidates) (reads : Reads positions rebuild.candidates) :
    ∃ built, rebuild.run geometry radius positions drawable.list = .ok built ∧
      KeepsNearest geometry radius positions rebuild.observer set markers drawable built ∧
      ∀ (order : List Candidate) (again : Positions), Snapshot set markers order →
        (∀ candidate ∈ order, candidate.global = false →
          again candidate.marker = positions candidate.marker) →
        ∃ twin, { rebuild with candidates := order }.run geometry radius again drawable.list =
          .ok twin ∧ SentAlike drawable built twin := by
  have holds := reachable.holds
  refine ⟨_, run_eq reads, keepsNearest_refilled holds listed,
    fun order again relisted same => ?_⟩
  have reordered : rebuild.candidates.Perm order := List.Perm.trans listed relisted.symm
  have rereads : Reads again order := fun candidate member placed => by
    rw [same candidate member placed]
    exact reads candidate (reordered.mem_iff.mpr member) placed
  refine ⟨_, run_eq rereads, sentAlike_refilled holds ?_⟩
  rw [shown_congr same]
  exact Entry.mergeSort_alike (reordered.symm.filterMap _)

/-- Objects that are equally far away, have the same number, or both. -/
def crowd : Array Marker :=
  #[⟨30, ⟨0, 0, 5⟩⟩, ⟨10, ⟨3, 0, 4⟩⟩, ⟨10, ⟨0, 0, 5⟩⟩, ⟨20, ⟨1, 0, 0⟩⟩, ⟨50, ⟨9, 0, 0⟩⟩,
    ⟨40, ⟨9, 0, 0⟩⟩, ⟨40, ⟨2, 0, 0⟩⟩]

/-- A set of more members than the record of a list takes. Two of them are global. -/
def crowdSet : PublishedSet where
  slots := ⟨[(4, ⟨2, 1⟩), (0, ⟨1, 0⟩), (6, ⟨1, 0⟩), (2, ⟨1, 0⟩), (1, ⟨1, 0⟩), (5, ⟨1, 1⟩),
    (3, ⟨1, 0⟩)], by decide⟩

def crowdRebuild : Rebuild where
  observer := ⟨0, 0, 0⟩
  candidates := crowdSet.members.filterMap fun (marker, global) =>
    (crowd[marker]?).map fun object => { marker, objectId := object.objectId, global }

/-- The members of the set by their distances: the global ones first, and three that are equally far away
last. -/
def crowdNearest : List Candidate :=
  [⟨5, 40, true⟩, ⟨4, 50, true⟩, ⟨3, 20, false⟩, ⟨6, 40, false⟩, ⟨1, 10, false⟩, ⟨2, 10, false⟩,
    ⟨0, 30, false⟩]

theorem crowd_sorted : ((shown .standard 8 (positionsIn crowd) ⟨0, 0, 0⟩
    crowdRebuild.candidates).mergeSort Entry.precedes).map (·.objectId) = [40, 50, 20, 40, 10, 10, 30] := by
  have perm : crowdRebuild.candidates.Perm crowdNearest := by decide +kernel
  have sorted : (shown .standard 8 (positionsIn crowd) ⟨0, 0, 0⟩ crowdNearest).Pairwise
      (Entry.precedes · · = true) := by decide +kernel
  have keys := Entry.mergeSort_alike (perm.filterMap (shown? .standard 8 (positionsIn crowd) ⟨0, 0, 0⟩))
  rw [← shown, ← shown, List.mergeSort_of_pairwise sorted] at keys
  refine (Entry.objectIds_of_map_key keys).trans ?_
  decide +kernel

theorem rebuilt_lists_keep_the_nearest_crowd : ∃ built twin,
    Drawable.Reachable Drawable.scattered ∧
    Snapshot crowdSet crowd crowdRebuild.candidates ∧
    Reads (positionsIn crowd) crowdRebuild.candidates ∧
    crowdRebuild.run .standard 8 (positionsIn crowd) Drawable.scattered.list = .ok built ∧
    built.entries.map (·.objectId) = [40, 50, 20, 40, 10, 10, 30] ∧
    KeepsNearest .standard 8 (positionsIn crowd) ⟨0, 0, 0⟩ crowdSet crowd Drawable.scattered built ∧
    { crowdRebuild with candidates := crowdRebuild.candidates.reverse }.run .standard 8
      (positionsIn crowd) Drawable.scattered.list = .ok twin ∧
    SentAlike Drawable.scattered built twin := by
  have listed : Snapshot crowdSet crowd crowdRebuild.candidates := List.Perm.refl _
  obtain ⟨built, ran, keeps, alike⟩ := @rebuilt_lists_keep_the_nearest .standard 8 _ crowdSet crowd _
    Drawable.scattered_reachable crowdRebuild listed listed.reads
  obtain ⟨twin, ranToo, same⟩ :=
    alike _ (positionsIn crowd) ((List.reverse_perm _).trans listed) fun _ _ _ => rfl
  have filled : built = _ := Except.ok.inj (ran.symm.trans (run_eq listed.reads))
  exact ⟨built, twin, Drawable.scattered_reachable, listed, listed.reads, ran, filled ▸ crowd_sorted, keeps,
    ranToo, same⟩

end Rebuild

end Drawing

/-! ## Engines -/

namespace Engine

open Drawing

variable (engine : Engine) (observer : Vec3 Float)

theorem rebuild_snapshot :
    Rebuild.Snapshot engine.published engine.scene.markers (engine.rebuild observer).candidates := by
  refine List.Perm.of_eq (List.filterMap_congr fun member _ => ?_)
  obtain ⟨marker, global⟩ := member
  cases found : engine.scene.markers[marker]? <;> simp [found]

theorem rebuild_reads : Rebuild.Reads engine.positions (engine.rebuild observer).candidates :=
  (engine.rebuild_snapshot observer).reads

end Engine

end TorusEngine
