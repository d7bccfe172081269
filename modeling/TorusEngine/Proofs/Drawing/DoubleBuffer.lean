import TorusEngine.Proofs.Drawing.BackLists

/-!
# Draw lists take turns

Rebuilds run on workers while the submission thread swaps, requests, sends and draws, and their steps
may fall in any order; a worker may break off after any of them. The invariant ties how the lists stand
to the worker, the swap under way and the rebuilds finished so far.
-/

namespace TorusEngine.Drawing

open Paging

/-! ## Steps -/

/-- How far the worker of a rebuild has come. It holds a side from when it has looked where the back
is. -/
inductive Worker where
  | claimed (observer : Vec3 Float)
  | informed (rebuild : Rebuild)
  | holding (rebuild : Rebuild) (side : Side)
  | filling (rebuild : Rebuild) (side : Side) (considered remaining : List Candidate)
  | sorted (rebuild : Rebuild) (side : Side)

def Worker.side? : Worker → Option Side
  | claimed _ | informed _ => none
  | holding _ side | filling _ side _ _ | sorted _ side => some side

/-- How far a swap has come: it sees that the back is ready, makes it the front, counts, and lets the
next rebuild begin. -/
inductive Swapping where
  | resting
  | seen
  | flipped
  | counted
deriving DecidableEq

def Swapping.late : Swapping → Bool
  | resting | seen => false
  | flipped | counted => true

inductive Event where
  | request
  | inform
  | look
  | reset
  | push
  | sort
  | finish
  | unwind
  | see
  | flip
  | count
  | settle
  | send
  | render
deriving DecidableEq

def Event.ofWorker : Event → Bool
  | inform | look | reset | push | sort | finish | unwind => true
  | _ => false

/-- A pair of lists in use, with the results of the rebuilds that were finished so far and how often the
lists have changed places. -/
structure DoubleBuffer where
  lists : ListPair
  workers : List Worker := []
  swapping : Swapping := .resting
  finished : List (Rebuild × List Entry) := []
  shown : Nat := 0

namespace DoubleBuffer

variable (geometry : Torus.Geometry Float) (radius : Float)

inductive Works : ListPair → Worker → Event → ListPair → Worker → Prop where
  | inform (lists : ListPair) (observer : Vec3 Float) (candidates : List Candidate) :
      Works lists (.claimed observer) .inform lists (.informed ⟨candidates, observer⟩)
  | look (lists : ListPair) (rebuild : Rebuild) :
      Works lists (.informed rebuild) .look lists (.holding rebuild lists.frontSide.other)
  | reset (lists : ListPair) (rebuild : Rebuild) (side : Side) :
      Works lists (.holding rebuild side) .reset (lists.put side (lists.list side).reset)
        (.filling rebuild side [] rebuild.candidates)
  | push {lists : ListPair} {rebuild : Rebuild} {side : Side} {candidate : Candidate}
      {considered remaining : List Candidate} {positions : Positions} {list : DrawList}
      (answered : Rebuild.consider geometry radius positions rebuild.observer (lists.list side)
        candidate = .ok list) :
      Works lists (.filling rebuild side considered (candidate :: remaining)) .push
        (lists.put side list) (.filling rebuild side (considered ++ [candidate]) remaining)
  | sort (lists : ListPair) (rebuild : Rebuild) (side : Side) (considered : List Candidate) :
      Works lists (.filling rebuild side considered []) .sort
        (lists.put side (lists.list side).sort) (.sorted rebuild side)

/-- One step of the submission thread or of a worker. The submission thread does one thing at a time. -/
inductive Step : DoubleBuffer → Event → DoubleBuffer → Prop where
  | request {state : DoubleBuffer} {begun : Bool} {lists : ListPair} (observer : Vec3 Float)
      (resting : state.swapping = .resting) (ran : ListPair.begin state.lists = .ok begun lists) :
      Step state .request { state with
        lists
        workers := if begun then state.workers ++ [.claimed observer] else state.workers }
  | work {state : DoubleBuffer} {event : Event} {worker next : Worker} {lists : ListPair}
      (before after : List Worker) (here : state.workers = before ++ worker :: after)
      (works : Works geometry radius state.lists worker event lists next) :
      Step state event { state with lists, workers := before ++ next :: after }
  | finish {state : DoubleBuffer} {rebuild : Rebuild} {side : Side} (before after : List Worker)
      (here : state.workers = before ++ .sorted rebuild side :: after) :
      Step state .finish { state with
        lists := Action.after ListPair.finish state.lists
        workers := before ++ after
        finished := state.finished ++ [(rebuild, (state.lists.list side).entries)] }
  | unwind {state : DoubleBuffer} {worker : Worker} (before after : List Worker)
      (here : state.workers = before ++ worker :: after) :
      Step state .unwind { state with lists := state.lists.abandon, workers := before ++ after }
  | see {state : DoubleBuffer} (resting : state.swapping = .resting)
      (ready : state.lists.state = .ready) : Step state .see { state with swapping := .seen }
  | flip {state : DoubleBuffer} (seen : state.swapping = .seen) :
      Step state .flip { state with
        lists := { state.lists with frontSide := state.lists.frontSide.other }
        swapping := .flipped
        shown := state.shown + 1 }
  | count {state : DoubleBuffer} (flipped : state.swapping = .flipped) :
      Step state .count { state with
        lists := { state.lists with swaps := state.lists.swaps + 1 }
        swapping := .counted }
  | settle {state : DoubleBuffer} (counted : state.swapping = .counted) :
      Step state .settle { state with
        lists := { state.lists with state := .idle }
        swapping := .resting }
  | send {state : DoubleBuffer} {memory left : Memory} {sent : Nat} {list : DrawList}
      (resting : state.swapping = .resting)
      (ran : state.lists.front.send memory = .ok (sent, list) left) :
      Step state .send { state with lists := state.lists.putFront list }
  | render {state : DoubleBuffer} (resting : state.swapping = .resting) : Step state .render state

/-- The states that steps lead to from two lists of which the first is empty. -/
inductive Reachable : DoubleBuffer → Prop where
  | start (first second : DrawList) (empty : first.entries = []) :
      Reachable { lists := { first, second } }
  | step {state next : DoubleBuffer} {event : Event} (reachable : Reachable state)
      (step : Step geometry radius state event next) : Reachable next

/-! ## The invariant -/

section Invariant

variable {geometry radius} {state next : DoubleBuffer} {event : Event} {worker : Worker}

def back (state : DoubleBuffer) : DrawList := state.lists.list state.lists.frontSide.other

variable (geometry radius) in
def Working (lists : ListPair) : Worker → Prop
  | .claimed _ | .informed _ => True
  | .holding _ side => side = lists.frontSide.other
  | .filling rebuild side considered remaining =>
      side = lists.frontSide.other ∧ considered ++ remaining = rebuild.candidates ∧
        Rebuild.Collects geometry radius rebuild.observer considered (lists.list side).entries
  | .sorted rebuild side =>
      side = lists.frontSide.other ∧ rebuild.Completes geometry radius (lists.list side).entries

variable (geometry radius) in
inductive Phase (state : DoubleBuffer) : Prop where
  | idle (mode : state.lists.state = .idle) (free : state.workers = [])
      (resting : state.swapping = .resting) (shown : state.finished.length = state.shown)
  | building (worker : Worker) (mode : state.lists.state = .building)
      (busy : state.workers = [worker]) (working : Working geometry radius state.lists worker)
      (resting : state.swapping = .resting) (shown : state.finished.length = state.shown)
  | ready (rebuild : Rebuild) (mode : state.lists.state = .ready) (free : state.workers = [])
      (early : state.swapping.late = false)
      (shown : state.finished.length = state.shown + 1)
      (last : state.finished[state.shown]? = some (rebuild, state.back.entries))
  | swapped (mode : state.lists.state = .ready) (free : state.workers = [])
      (late : state.swapping.late = true)
      (shown : state.finished.length = state.shown)

def Draws (finished : List (Rebuild × List Entry)) : Nat → List Entry → Prop
  | 0, entries => entries = []
  | swap + 1, entries => ∃ rebuild, finished[swap]? = some (rebuild, entries)

variable (geometry radius) in
structure Sound (state : DoubleBuffer) : Prop where
  phase : Phase geometry radius state
  complete : ∀ result ∈ state.finished, result.1.Completes geometry radius result.2
  draws : Draws state.finished state.shown state.lists.front.entries
  counted : state.shown = if state.swapping = .flipped then state.lists.swaps + 1 else state.lists.swaps

theorem Draws.append {finished : List (Rebuild × List Entry)} {swaps : Nat} {entries : List Entry}
    (draws : Draws finished swaps entries) (result : Rebuild × List Entry) :
    Draws (finished ++ [result]) swaps entries := by
  cases swaps with
  | zero => exact draws
  | succ swap =>
      obtain ⟨rebuild, found⟩ := draws
      obtain ⟨bound, -⟩ := List.getElem?_eq_some_iff.mp found
      exact ⟨rebuild, (List.getElem?_append_left bound).trans found⟩

theorem Phase.free_of_idle (phase : Phase geometry radius state) (idle : state.lists.state = .idle) :
    state.workers = [] := by
  cases phase with
  | idle _ free | ready _ _ free | swapped _ free => exact free
  | building _ mode => cases idle.symm.trans mode

theorem Phase.of_worker (phase : Phase geometry radius state) {before after : List Worker}
    (here : state.workers = before ++ worker :: after) :
    before = [] ∧ after = [] ∧ state.lists.state = .building ∧ state.swapping = .resting ∧
      state.finished.length = state.shown ∧ Working geometry radius state.lists worker := by
  have none (free : state.workers = []) : False := by
    rw [free] at here
    exact List.append_ne_nil_of_right_ne_nil before (List.cons_ne_nil worker after) here.symm
  cases phase with
  | idle _ free | ready _ _ free | swapped _ free => exact (none free).elim
  | building only mode busy working resting shown =>
      rw [busy] at here
      cases before with
      | nil =>
          cases here
          exact ⟨rfl, rfl, mode, resting, shown, working⟩
      | cons first rest =>
          have more : rest ++ worker :: after = [] := (List.cons.inj here).2.symm
          exact (List.append_ne_nil_of_right_ne_nil rest (List.cons_ne_nil worker after) more).elim

/-- From the end of a rebuild to the swap, the back is the last finished rebuild. -/
theorem Phase.before_flip (phase : Phase geometry radius state)
    (pending : state.swapping = .seen ∨ state.swapping = .resting ∧ state.lists.state = .ready) :
    state.lists.state = .ready ∧ state.workers = [] ∧ state.finished.length = state.shown + 1 ∧
      ∃ rebuild, state.finished[state.shown]? = some (rebuild, state.back.entries) := by
  cases phase with
  | ready rebuild mode free _ shown last => exact ⟨mode, free, shown, rebuild, last⟩
  | idle mode _ resting | building _ mode _ _ resting =>
      rcases pending with seen | ⟨-, ready⟩
      · cases seen.symm.trans resting
      · cases ready.symm.trans mode
  | swapped _ _ late =>
      rcases pending with seen | ⟨resting, -⟩
      · cases seen ▸ late
      · cases resting ▸ late

theorem Phase.after_flip (phase : Phase geometry radius state)
    (late : state.swapping.late = true) :
    state.lists.state = .ready ∧ state.workers = [] ∧ state.finished.length = state.shown := by
  cases phase with
  | swapped mode free _ shown => exact ⟨mode, free, shown⟩
  | idle _ _ resting | building _ _ _ _ resting => cases resting ▸ late
  | ready _ _ _ early => cases early.symm.trans late

theorem Working.works {lists left : ListPair} {next : Worker}
    (working : Working geometry radius lists worker)
    (works : Works geometry radius lists worker event left next) :
    left.front = lists.front ∧ left.frontSide = lists.frontSide ∧ left.state = lists.state ∧
      left.swaps = lists.swaps ∧ Working geometry radius left next := by
  cases works with
  | inform => exact ⟨rfl, rfl, rfl, rfl, trivial⟩
  | look => exact ⟨rfl, rfl, rfl, rfl, rfl⟩
  | reset rebuild side =>
      subst working
      refine ⟨ListPair.front_put_back, ListPair.put_frontSide, ListPair.put_state,
        ListPair.put_swaps, ?_, rfl, ?_⟩
      · rw [ListPair.put_frontSide]
      · rw [ListPair.list_put_self]
        exact .nil
  | push answered =>
      obtain ⟨rfl, all, collects⟩ := working
      refine ⟨ListPair.front_put_back, ListPair.put_frontSide, ListPair.put_state,
        ListPair.put_swaps, ?_, ?_, ?_⟩
      · rw [ListPair.put_frontSide]
      · rw [List.append_assoc]
        exact all
      · rw [ListPair.list_put_self]
        exact collects.snoc answered
  | sort rebuild side considered =>
      obtain ⟨rfl, all, collects⟩ := working
      rw [List.append_nil] at all
      subst all
      refine ⟨ListPair.front_put_back, ListPair.put_frontSide, ListPair.put_state,
        ListPair.put_swaps, ?_, _, collects, ?_⟩
      · rw [ListPair.put_frontSide]
      · rw [ListPair.list_put_self]
        rfl

theorem Sound.work (sound : Sound geometry radius state) {lists : ListPair} {next : Worker}
    {before after : List Worker} (here : state.workers = before ++ worker :: after)
    (works : Works geometry radius state.lists worker event lists next) :
    Sound geometry radius { state with lists, workers := before ++ next :: after } := by
  obtain ⟨rfl, rfl, mode, resting, shown, working⟩ := sound.phase.of_worker here
  obtain ⟨front, -, sameMode, swaps, still⟩ := working.works works
  constructor
  case phase => exact .building next (sameMode.trans mode) rfl still resting shown
  case complete => exact sound.complete
  case draws =>
    show Draws state.finished state.shown lists.front.entries
    rw [front]
    exact sound.draws
  case counted =>
    show state.shown = if state.swapping = .flipped then lists.swaps + 1 else lists.swaps
    rw [swaps]
    exact sound.counted

theorem Sound.finish (sound : Sound geometry radius state) {rebuild : Rebuild} {side : Side}
    {before after : List Worker} (here : state.workers = before ++ .sorted rebuild side :: after) :
    Sound geometry radius { state with
      lists := Action.after ListPair.finish state.lists
      workers := before ++ after
      finished := state.finished ++ [(rebuild, (state.lists.list side).entries)] } := by
  obtain ⟨rfl, rfl, mode, resting, shown, rfl, completes⟩ := sound.phase.of_worker here
  have left := Action.after_of_ok (ListPair.finish_ok mode)
  rw [left]
  constructor
  case phase =>
    refine .ready rebuild rfl rfl (congrArg Swapping.late resting) ?_ ?_
    · rw [List.length_append, shown]
      rfl
    · show (state.finished ++ [_])[state.shown]? = _
      rw [← shown]
      exact List.getElem?_concat_length
  case complete =>
    intro result member
    rcases List.mem_append.mp member with earlier | last
    · exact sound.complete result earlier
    · rw [List.mem_singleton.mp last]
      exact completes
  case draws => exact sound.draws.append _
  case counted => exact sound.counted

theorem Sound.unwind (sound : Sound geometry radius state) {before after : List Worker}
    (here : state.workers = before ++ worker :: after) :
    Sound geometry radius
      { state with lists := state.lists.abandon, workers := before ++ after } := by
  obtain ⟨rfl, rfl, mode, resting, shown, -⟩ := sound.phase.of_worker here
  have left : state.lists.abandon = { state.lists with state := .idle } := if_pos mode
  rw [left]
  exact ⟨.idle rfl rfl resting shown, sound.complete, sound.draws, sound.counted⟩

theorem Sound.request (sound : Sound geometry radius state) {begun : Bool} {lists : ListPair}
    (observer : Vec3 Float) (ran : ListPair.begin state.lists = .ok begun lists) :
    Sound geometry radius { state with
      lists
      workers := if begun then state.workers ++ [.claimed observer] else state.workers } := by
  rcases ListPair.begin_ok ran with ⟨mode, rfl, rfl⟩ | ⟨mode, rfl, rfl⟩
  · cases sound.phase with
    | idle _ free resting shown =>
        have one : state.workers ++ [.claimed observer] = [.claimed observer] := by
          rw [free, List.nil_append]
        exact ⟨.building (.claimed observer) rfl one trivial resting shown, sound.complete,
          sound.draws, sound.counted⟩
    | building _ busy | ready _ busy | swapped busy => cases mode.symm.trans busy
  · exact sound

theorem Sound.see (sound : Sound geometry radius state) (resting : state.swapping = .resting)
    (ready : state.lists.state = .ready) :
    Sound geometry radius { state with swapping := .seen } := by
  obtain ⟨mode, free, shown, rebuild, last⟩ := sound.phase.before_flip (.inr ⟨resting, ready⟩)
  have counted := sound.counted
  rw [resting] at counted
  exact ⟨.ready rebuild mode free rfl shown last, sound.complete, sound.draws, counted⟩

theorem Sound.flip (sound : Sound geometry radius state) (seen : state.swapping = .seen) :
    Sound geometry radius { state with
      lists := { state.lists with frontSide := state.lists.frontSide.other }
      swapping := .flipped
      shown := state.shown + 1 } := by
  obtain ⟨mode, free, shown, rebuild, last⟩ := sound.phase.before_flip (.inl seen)
  have counted := sound.counted
  rw [seen] at counted
  exact ⟨.swapped mode free rfl shown, sound.complete, ⟨rebuild, last⟩, congrArg (· + 1) counted⟩

theorem Sound.count (sound : Sound geometry radius state) (flipped : state.swapping = .flipped) :
    Sound geometry radius { state with
      lists := { state.lists with swaps := state.lists.swaps + 1 }
      swapping := .counted } := by
  obtain ⟨mode, free, shown⟩ := sound.phase.after_flip (flipped ▸ rfl)
  have counted := sound.counted
  rw [flipped] at counted
  exact ⟨.swapped mode free rfl shown, sound.complete, sound.draws, counted⟩

theorem Sound.settle (sound : Sound geometry radius state) (counted : state.swapping = .counted) :
    Sound geometry radius { state with
      lists := { state.lists with state := .idle }
      swapping := .resting } := by
  obtain ⟨-, free, shown⟩ := sound.phase.after_flip (counted ▸ rfl)
  have swaps := sound.counted
  rw [counted] at swaps
  exact ⟨.idle rfl free rfl shown, sound.complete, sound.draws, swaps⟩

theorem entries_of_send {list sentList : DrawList} {memory left : Memory} {sent : Nat}
    (ran : list.send memory = .ok (sent, sentList) left) : sentList.entries = list.entries := by
  unfold DrawList.send at ran
  split at ran
  · cases ran
    rfl
  · obtain ⟨count, middle, -, ended⟩ := Action.bind_ok.mp ran
    cases ended
    rfl

theorem Sound.send (sound : Sound geometry radius state) {memory left : Memory} {sent : Nat}
    {list : DrawList} (ran : state.lists.front.send memory = .ok (sent, list) left) :
    Sound geometry radius { state with lists := state.lists.putFront list } := by
  have frontSide : (state.lists.putFront list).frontSide = state.lists.frontSide :=
    ListPair.put_frontSide
  have mode : (state.lists.putFront list).state = state.lists.state := ListPair.put_state
  have back : (state.lists.putFront list).list state.lists.frontSide.other = state.back :=
    ListPair.back_putFront
  have swaps : (state.lists.putFront list).swaps = state.lists.swaps := ListPair.put_swaps
  refine ⟨?_, sound.complete, ?_, ?_⟩
  · cases sound.phase with
    | idle idle free resting shown =>
        exact .idle (mode.trans idle) free resting shown
    | building worker building busy working resting shown =>
        refine .building worker (mode.trans building) busy ?_ resting shown
        cases worker with
        | claimed | informed => trivial
        | holding => exact working.trans (congrArg Side.other frontSide.symm)
        | filling rebuild side =>
            obtain ⟨rfl, all, collects⟩ := working
            refine ⟨congrArg Side.other frontSide.symm, all, ?_⟩
            rw [back]
            exact collects
        | sorted rebuild side =>
            obtain ⟨rfl, completes⟩ := working
            refine ⟨congrArg Side.other frontSide.symm, ?_⟩
            rw [back]
            exact completes
    | ready rebuild ready free swapping shown last =>
        refine .ready rebuild (mode.trans ready) free swapping shown ?_
        rw [DoubleBuffer.back, frontSide, back]
        exact last
    | swapped ready free swapping shown =>
        exact .swapped (mode.trans ready) free swapping shown
  · show Draws state.finished state.shown (state.lists.putFront list).front.entries
    rw [ListPair.front_putFront, entries_of_send ran]
    exact sound.draws
  · show state.shown = if state.swapping = .flipped then (state.lists.putFront list).swaps + 1 else _
    rw [swaps]
    exact sound.counted

theorem Step.sound (step : Step geometry radius state event next)
    (sound : Sound geometry radius state) : Sound geometry radius next := by
  cases step with
  | request observer resting ran => exact sound.request observer ran
  | work before after here works => exact sound.work here works
  | finish before after here => exact sound.finish here
  | unwind before after here => exact sound.unwind here
  | see resting ready => exact sound.see resting ready
  | flip seen => exact sound.flip seen
  | count flipped => exact sound.count flipped
  | settle counted => exact sound.settle counted
  | send resting ran => exact sound.send ran
  | render => exact sound

theorem Reachable.sound (reachable : Reachable geometry radius state) :
    Sound geometry radius state := by
  induction reachable with
  | start first second empty =>
      exact ⟨.idle rfl rfl rfl rfl, by nofun, empty, rfl⟩
  | step _ step ih => exact step.sound ih

/-! ## What single steps leave alone -/

theorem Step.untouched (step : Step geometry radius state event next)
    (sound : Sound geometry radius state) (ofWorker : event.ofWorker = true) :
    next.lists.front = state.lists.front := by
  cases step with
  | work before after here works =>
      obtain ⟨-, -, -, -, -, working⟩ := sound.phase.of_worker here
      exact (working.works works).1
  | finish before after here =>
      obtain ⟨-, -, mode, -⟩ := sound.phase.of_worker here
      rw [Action.after_of_ok (ListPair.finish_ok mode)]
      rfl
  | unwind before after here =>
      obtain ⟨-, -, mode, -⟩ := sound.phase.of_worker here
      rw [ListPair.abandon, if_pos mode]
      rfl
  | request | see | flip | count | settle | send | render => cases ofWorker

theorem Step.shown_eq (step : Step geometry radius state event next) :
    next.shown = state.shown + if event = .flip then 1 else 0 := by
  cases step with
  | work before after here works => cases works <;> rfl
  | _ => rfl

/-- Only the flip of a swap changes what is drawn. -/
theorem Step.keeps (step : Step geometry radius state event next)
    (sound : Sound geometry radius state) (elsewhere : event ≠ .flip) :
    next.lists.frontSide = state.lists.frontSide ∧
      next.lists.front.entries = state.lists.front.entries := by
  cases step with
  | request observer resting ran =>
      rcases ListPair.begin_ok ran with ⟨-, rfl, rfl⟩ | ⟨-, rfl, rfl⟩
      · exact ⟨rfl, rfl⟩
      · exact ⟨rfl, rfl⟩
  | work before after here works =>
      obtain ⟨-, -, -, -, -, working⟩ := sound.phase.of_worker here
      obtain ⟨front, frontSide, -⟩ := working.works works
      exact ⟨frontSide, congrArg DrawList.entries front⟩
  | finish before after here =>
      obtain ⟨-, -, mode, -⟩ := sound.phase.of_worker here
      rw [Action.after_of_ok (ListPair.finish_ok mode)]
      exact ⟨rfl, rfl⟩
  | unwind before after here =>
      obtain ⟨-, -, mode, -⟩ := sound.phase.of_worker here
      rw [ListPair.abandon, if_pos mode]
      exact ⟨rfl, rfl⟩
  | flip => exact absurd rfl elsewhere
  | see | count | settle | render => exact ⟨rfl, rfl⟩
  | send resting ran =>
      refine ⟨ListPair.put_frontSide, ?_⟩
      rw [ListPair.front_putFront, entries_of_send ran]

theorem Step.flip_promotes (step : Step geometry radius state .flip next)
    (sound : Sound geometry radius state) :
    state.finished.length = state.shown + 1 ∧ next.shown = state.shown + 1 ∧
      ∃ rebuild, state.finished[state.shown]? = some (rebuild, next.lists.front.entries) := by
  cases step with
  | work before after here works => cases works
  | flip seen =>
      obtain ⟨-, -, shown, rebuild, last⟩ := sound.phase.before_flip (.inl seen)
      exact ⟨shown, rfl, rebuild, last⟩

theorem Step.unwind_abandons (step : Step geometry radius state .unwind next)
    (sound : Sound geometry radius state) : next.finished = state.finished ∧ next.workers = [] ∧
      next.swapping = .resting ∧ ∃ lists, ListPair.begin next.lists = .ok true lists := by
  cases step with
  | work before after here works => cases works
  | unwind before after here =>
      obtain ⟨rfl, rfl, mode, resting, -, -⟩ := sound.phase.of_worker here
      refine ⟨rfl, rfl, resting, _, ListPair.begin_of_idle ?_⟩
      rw [ListPair.abandon, if_pos mode]

end Invariant

end DoubleBuffer

end TorusEngine.Drawing
