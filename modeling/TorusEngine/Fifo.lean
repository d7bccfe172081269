/-!
# First-in, first-out queues

A queue is read through `toList`, the items from the oldest to the newest. It is kept as two lists,
the oldest items in front and the newest, in reverse, behind, so both ends are reached quickly.
-/

namespace TorusEngine

structure Fifo (α : Type) where
  front : List α := []
  back : List α := []

namespace Fifo

variable {α : Type}

def toList (queue : Fifo α) : List α := queue.front ++ queue.back.reverse

def ofList (items : List α) : Fifo α := ⟨items, []⟩

def length (queue : Fifo α) : Nat := queue.front.length + queue.back.length

def push (queue : Fifo α) (item : α) : Fifo α := ⟨queue.front, item :: queue.back⟩

def pop? (queue : Fifo α) : Option (α × Fifo α) :=
  match queue.front with
  | item :: rest => some (item, ⟨rest, queue.back⟩)
  | [] => match queue.back.reverse with
    | item :: rest => some (item, ⟨rest, []⟩)
    | [] => none

def filter (keep : α → Bool) (queue : Fifo α) : Fifo α := ofList (queue.toList.filter keep)

@[simp] theorem toList_ofList (items : List α) : (ofList items).toList = items := by
  simp [ofList, toList]

@[simp] theorem length_toList (queue : Fifo α) : queue.toList.length = queue.length := by
  simp [toList, length]

@[simp] theorem toList_push (queue : Fifo α) (item : α) :
    (queue.push item).toList = queue.toList ++ [item] := by
  simp [push, toList]

@[simp] theorem toList_filter (keep : α → Bool) (queue : Fifo α) :
    (queue.filter keep).toList = queue.toList.filter keep := by
  simp [filter]

theorem pop?_eq (queue : Fifo α) :
    queue.pop?.map (fun popped => popped.1 :: popped.2.toList) =
      match queue.toList with
      | [] => none
      | item :: rest => some (item :: rest) := by
  rcases queue with ⟨front, back⟩
  cases front with
  | cons item rest => simp [pop?, toList]
  | nil =>
      cases reversed : back.reverse with
      | nil => simp [pop?, toList, reversed]
      | cons item rest => simp [pop?, toList, reversed]

theorem toList_eq_cons_of_pop? {queue rest : Fifo α} {item : α}
    (popped : queue.pop? = some (item, rest)) : queue.toList = item :: rest.toList := by
  have view := queue.pop?_eq
  rw [popped] at view
  cases items : queue.toList with
  | nil => simp [items] at view
  | cons first others => simpa [items] using view.symm

theorem toList_eq_nil_of_pop? {queue : Fifo α} (empty : queue.pop? = none) :
    queue.toList = [] := by
  have view := queue.pop?_eq
  rw [empty] at view
  cases items : queue.toList with
  | nil => rfl
  | cons first others => simp [items] at view

end Fifo

end TorusEngine
