import Mathlib.Algebra.BigOperators.Group.List.Basic
import Mathlib.Data.List.DropRight
import Mathlib.Data.List.Rotate
import TorusEngine.Drawing.FrameTimer
import TorusEngine.Proofs.Size

/-!
# What frame timers report

The slots of a timer are a ring: read from the slot that is written next, they are the durations that
were recorded last, in their order (`InTurn.recordAll`). What a timer reports does not depend on where
the ring begins, so it reports on exactly those durations (`reports_on_latest`).
-/

namespace TorusEngine.Drawing.FrameTimer

variable {timer : FrameTimer}

def recordAll (timer : FrameTimer) (durations : List Duration) : FrameTimer := durations.foldl record timer

def held (timer : FrameTimer) : List Duration := timer.slots.toList.rotate timer.next

/-! ## The last members of a list -/

theorem rtake_of_length_le {durations : List Duration} {count : Nat} (few : durations.length ≤ count) :
    durations.rtake count = durations := by
  rw [List.rtake, Nat.sub_eq_zero_of_le few, List.drop_zero]

theorem rtake_rtake_append (durations more : List Duration) (count : Nat) :
    (durations.rtake count ++ more).rtake count = (durations ++ more).rtake count := by
  simp only [List.rtake, List.length_append, List.length_drop, List.drop_append, List.drop_drop]
  congr 2 <;> omega

/-! ## The ring -/

/-- The slot that is written next is a new one as long as there is room, and then the oldest. -/
inductive InTurn (timer : FrameTimer) : Prop where
  | filling (room : timer.slots.size < timer.capacity) (next : timer.next = timer.slots.size)
  | full (filled : timer.slots.size = timer.capacity) (next : timer.next < timer.capacity)

theorem length_held (timer : FrameTimer) : timer.held.length = timer.slots.size := by
  rw [held, List.length_rotate, Array.length_toList]

theorem InTurn.size_le (inTurn : timer.InTurn) : timer.slots.size ≤ timer.capacity := by
  cases inTurn with
  | filling room next => exact room.le
  | full filled next => exact filled.le

theorem record_filling (room : timer.slots.size < timer.capacity) (next : timer.next = timer.slots.size)
    (duration : Duration) :
    (timer.record duration).InTurn ∧ (timer.record duration).held = timer.held ++ [duration] := by
  have slots : (timer.record duration).slots = timer.slots.push duration := if_pos next.ge
  have size : (timer.record duration).slots.size = timer.slots.size + 1 := by
    rw [slots, Array.size_push]
  have place : (timer.record duration).next = (timer.slots.size + 1) % timer.capacity := next ▸ rfl
  have before : timer.held = timer.slots.toList := by
    rw [held, next, ← Array.length_toList, List.rotate_length]
  have length : (timer.slots.toList ++ [duration]).length = timer.slots.size + 1 := by
    rw [List.length_append, List.length_singleton, Array.length_toList]
  rw [before, held, slots, Array.toList_push, place]
  rcases Nat.lt_or_eq_of_le (show timer.slots.size + 1 ≤ timer.capacity from room) with more | last
  · rw [Nat.mod_eq_of_lt more, ← length, List.rotate_length]
    exact ⟨.filling (size ▸ more) (by rw [place, size, Nat.mod_eq_of_lt more]), rfl⟩
  · have begins : (timer.slots.size + 1) % timer.capacity = 0 := by rw [← last, Nat.mod_self]
    rw [begins, List.rotate_zero]
    exact ⟨.full (size.trans last) (by rw [place, begins]; exact Nat.zero_lt_of_lt room), rfl⟩

theorem record_full (filled : timer.slots.size = timer.capacity) (next : timer.next < timer.capacity)
    (duration : Duration) :
    (timer.record duration).InTurn ∧ (timer.record duration).held = timer.held.tail ++ [duration] := by
  have within : timer.next < timer.slots.toList.length := by
    rw [Array.length_toList, filled]
    exact next
  have slots : (timer.record duration).slots = timer.slots.setIfInBounds timer.next duration :=
    if_neg (Nat.not_le.mpr (filled ▸ next))
  have size : (timer.record duration).slots.size = timer.capacity := by
    rw [slots, Array.size_setIfInBounds, filled]
  have place : (timer.record duration).next = (timer.next + 1) % timer.capacity := rfl
  refine ⟨.full size (place ▸ Nat.mod_lt _ (Nat.zero_lt_of_lt next)), ?_⟩
  -- The slots in front of the oldest duration and those behind it stay as they are.
  have front : (timer.slots.toList.take timer.next).length = timer.next :=
    List.length_take_of_le within.le
  have before : timer.held = timer.slots.toList[timer.next] ::
      (timer.slots.toList.drop (timer.next + 1) ++ timer.slots.toList.take timer.next) := by
    rw [held, List.rotate_eq_drop_append_take within.le, List.drop_eq_getElem_cons within,
      List.cons_append]
  have after : (timer.record duration).slots.toList =
      (timer.slots.toList.take timer.next ++ [duration]) ++ timer.slots.toList.drop (timer.next + 1) := by
    rw [slots, Array.toList_setIfInBounds, List.set_eq_take_append_cons_drop, if_pos within,
      List.append_assoc, List.singleton_append]
  have length : (timer.slots.toList.take timer.next ++ [duration]).length = timer.next + 1 := by
    rw [List.length_append, front, List.length_singleton]
  rw [before, List.tail_cons, held, place, ← size, ← Array.length_toList, List.rotate_mod, after,
    ← length, List.rotate_append_length_eq, List.append_assoc]

theorem InTurn.record (inTurn : timer.InTurn) (duration : Duration) :
    (timer.record duration).InTurn ∧
      (timer.record duration).held = (timer.held ++ [duration]).rtake timer.capacity := by
  have length := timer.length_held
  cases inTurn with
  | filling room next =>
      obtain ⟨inTurn, held⟩ := record_filling room next duration
      refine ⟨inTurn, held.trans (rtake_of_length_le ?_).symm⟩
      rw [List.length_append, List.length_singleton]
      omega
  | full filled next =>
      obtain ⟨inTurn, held⟩ := record_full filled next duration
      refine ⟨inTurn, held.trans ?_⟩
      cases durations : timer.held with
      | nil =>
          rw [durations, List.length_nil] at length
          omega
      | cons oldest rest =>
          rw [durations, List.length_cons] at length
          rw [List.rtake, List.length_append, List.length_cons, List.length_singleton,
            show rest.length + 1 + 1 - timer.capacity = 1 by omega]
          rfl

theorem InTurn.recordAll (inTurn : timer.InTurn) (durations : List Duration) :
    (timer.recordAll durations).InTurn ∧
      (timer.recordAll durations).held = (timer.held ++ durations).rtake timer.capacity := by
  induction durations generalizing timer with
  | nil =>
      refine ⟨inTurn, ?_⟩
      rw [List.append_nil, rtake_of_length_le (timer.length_held.trans_le inTurn.size_le)]
      rfl
  | cons duration rest ih =>
      obtain ⟨still, first⟩ := inTurn.record duration
      obtain ⟨last, held⟩ := ih still
      refine ⟨last, held.trans ?_⟩
      rw [first]
      exact (rtake_rtake_append _ rest _).trans (by rw [List.append_assoc, List.singleton_append])

/-! ## Reports -/

structure Reports (timer : FrameTimer) (durations : List Duration) : Prop where
  held : timer.held = durations
  count : timer.count = durations.length
  least : durations ≠ [] → timer.least ∈ durations ∧ ∀ duration ∈ durations, timer.least ≤ duration
  greatest : durations ≠ [] →
    timer.greatest ∈ durations ∧ ∀ duration ∈ durations, duration ≤ timer.greatest
  average : timer.average =
    if durations.sum < Duration.limit then .ok (durations.sum / durations.length)
    else .error (.violated .durationSumOverflow)
  empty : durations = [] → timer.least = 0 ∧ timer.greatest = 0 ∧ timer.average = .ok 0

theorem least_spec (some : timer.slots.toList ≠ []) :
    timer.least ∈ timer.slots.toList ∧ ∀ duration ∈ timer.slots.toList, timer.least ≤ duration := by
  obtain ⟨least, found⟩ := Option.isSome_iff_exists.mp (List.isSome_min?_of_ne_nil some)
  rw [FrameTimer.least, found]
  exact List.min?_eq_some_iff.mp found

theorem greatest_spec (some : timer.slots.toList ≠ []) :
    timer.greatest ∈ timer.slots.toList ∧
      ∀ duration ∈ timer.slots.toList, duration ≤ timer.greatest := by
  obtain ⟨greatest, found⟩ := Option.isSome_iff_exists.mp (List.isSome_max?_of_ne_nil some)
  rw [FrameTimer.greatest, found]
  exact List.max?_eq_some_iff.mp found

theorem average_eq (few : timer.slots.size < 0x100000000) : timer.average =
    if timer.slots.toList.sum < Duration.limit then .ok (timer.slots.toList.sum / timer.slots.size)
    else .error (.violated .durationSumOverflow) := by
  rw [average, ← List.sum_eq_foldl]
  by_cases empty : timer.slots = #[]
  · rw [empty]
    decide
  · have some : timer.slots.isEmpty = false := Array.isEmpty_eq_false_iff.mpr empty
    have positive : timer.slots.size ≠ 0 := fun none => empty (Array.size_eq_zero_iff.mp none)
    simp only [some, Bool.false_eq_true, if_false, Duration.divide, Nat.mod_eq_of_lt few, positive]
    generalize timer.slots.toList.sum = sum
    rcases Nat.lt_or_ge sum Duration.limit with fits | wide
    · rw [if_neg (Nat.not_le.mpr fits), if_pos fits]
    · rw [if_pos wide, if_neg (Nat.not_lt.mpr wide)]
      rfl

theorem reports_of_held {durations : List Duration} (held : timer.held = durations)
    (few : durations.length < 0x100000000) : timer.Reports durations := by
  -- What is reported does not depend on the slot at which the ring begins.
  have same : timer.slots.toList.Perm durations :=
    (List.rotate_perm timer.slots.toList timer.next).symm.trans (List.Perm.of_eq held)
  have length : timer.slots.size = durations.length := Array.length_toList ▸ same.length_eq
  have filled (some : durations ≠ []) : timer.slots.toList ≠ [] := fun none =>
    some (List.nil_perm.mp (none ▸ same))
  constructor
  case held => exact held
  case count => exact length
  case least =>
    intro some
    obtain ⟨member, lowest⟩ := least_spec (filled some)
    exact ⟨same.mem_iff.mp member, fun duration belongs => lowest duration (same.mem_iff.mpr belongs)⟩
  case greatest =>
    intro some
    obtain ⟨member, highest⟩ := greatest_spec (filled some)
    exact ⟨same.mem_iff.mp member, fun duration belongs => highest duration (same.mem_iff.mpr belongs)⟩
  case average => rw [average_eq (length ▸ few), same.sum_eq, length]
  case empty =>
    rintro rfl
    have none : timer.slots = #[] := Array.size_eq_zero_iff.mp length
    rw [least, greatest, average, none]
    exact ⟨rfl, rfl, rfl⟩

/-! ## The latest durations -/

theorem make_eq {capacity : Nat} (fits : max capacity 1 * 16 ≤ Size.largestBlock) :
    make capacity = .ok { capacity := max capacity 1 } := by
  simp [make, Size.checkBlock, fits, bind, Except.bind, pure, Except.pure]

/-- A timer reports on exactly the durations that were recorded last, as many as it has slots for. -/
theorem reports_on_latest {capacity : Nat} (few : capacity < 0x100000000) (durations : List Duration) :
    ∃ timer, make capacity = .ok timer ∧
      (timer.recordAll durations).Reports (durations.rtake (max capacity 1)) ∧
      (timer.recordAll durations).count = min durations.length (max capacity 1) := by
  refine ⟨{ capacity := max capacity 1 }, make_eq (by simp only [Size.largestBlock]; omega), ?_⟩
  have start : InTurn { capacity := max capacity 1 } :=
    .filling (Nat.lt_of_lt_of_le Nat.zero_lt_one (Nat.le_max_right _ _)) rfl
  obtain ⟨-, latest⟩ := start.recordAll durations
  have length : (durations.rtake (max capacity 1)).length = min durations.length (max capacity 1) := by
    rw [List.rtake, List.length_drop]
    omega
  have reports := reports_of_held latest (length ▸ by omega)
  exact ⟨reports, reports.count.trans length⟩

/-- Five durations on a timer with three slots: the ring begins behind the slot of the last. -/
theorem reports_on_latest_wrapped : ∃ timer, 3 < 0x100000000 ∧ make 3 = .ok timer ∧
    (timer.recordAll [5, 1, 4, 8, 2]).slots = #[8, 2, 4] ∧
    (timer.recordAll [5, 1, 4, 8, 2]).Reports [4, 8, 2] ∧
    (timer.recordAll [5, 1, 4, 8, 2]).count = 3 := by
  obtain ⟨timer, made, reports, count⟩ :=
    reports_on_latest (show 3 < 0x100000000 by decide) [5, 1, 4, 8, 2]
  cases made
  exact ⟨_, by decide, rfl, by decide, reports, count⟩

end TorusEngine.Drawing.FrameTimer
