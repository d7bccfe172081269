import TorusEngine.Proofs.Drawing.BackLists

/-!
# Calls in any order

Callers may begin, write, finish, abandon and swap in whatever order they like; a call that faults leaves
the pair as it is then, and the next call goes on from there. The lists change places exactly if a rebuild
was declared finished since they last did (`swaps_only_finished`). Outside a rebuild that declaration
faults, but only after it has taken effect, so a list that nobody rebuilt may come to the front
(`unbuilt_list_published`). As long as no declaration faults, the lists change places exactly if a rebuild
was begun and then finished without being abandoned in between.
-/

namespace TorusEngine.Drawing.ListPair

/-! ## Calls and what they answer -/

/-- The calls on a pair. Whoever asks for the back list changes it. -/
inductive Call where
  | begin
  | back (change : DrawList → DrawList)
  | finish
  | abandon
  | trySwap

namespace Call

/-- What a call does. Only `begin` and `trySwap` answer whether they had an effect. -/
def perform : Call → Action ListPair (Option Bool)
  | begin => some <$> ListPair.begin
  | back change => do
      changeBack change
      return none
  | finish => do
      ListPair.finish
      return none
  | abandon => do
      modify ListPair.abandon
      return none
  | trySwap => some <$> ListPair.trySwap

def after (call : Call) (pair : ListPair) : ListPair := Action.after call.perform pair

def afterAll (calls : List Call) (pair : ListPair) : ListPair :=
  calls.foldl (fun pair call => call.after pair) pair

end Call

structure Reply where
  call : Call
  answer : Except Fault (Option Bool)

def Call.reply (call : Call) (pair : ListPair) : Reply := ⟨call, Action.answer call.perform pair⟩

namespace Reply

def begun : Reply → Bool
  | ⟨.begin, .ok (some true)⟩ => true
  | _ => false

def swapped : Reply → Bool
  | ⟨.trySwap, .ok (some true)⟩ => true
  | _ => false

def finishes : Reply → Bool
  | ⟨.finish, _⟩ => true
  | _ => false

def abandons : Reply → Bool
  | ⟨.abandon, _⟩ => true
  | _ => false

/-- The replies since the lists last changed places, if another one comes. -/
def note (recent : List Reply) (reply : Reply) : List Reply :=
  if reply.swapped then [] else recent ++ [reply]

end Reply

def replies : List Call → ListPair → List Reply
  | [], _ => []
  | call :: rest, pair => call.reply pair :: replies rest (call.after pair)

def sinceSwap (calls : List Call) (pair : ListPair) : List Reply :=
  (replies calls pair).foldl Reply.note []

/-- A rebuild was begun, and not abandoned afterwards. -/
def UnderWay (recent : List Reply) : Prop :=
  ∃ before begun after, recent = before ++ begun :: after ∧ begun.begun ∧
    ∀ reply ∈ after, ¬ reply.abandons

/-- A rebuild was begun and later finished, and not abandoned in between. -/
def Completed (recent : List Reply) : Prop :=
  ∃ before finished after, recent = before ++ finished :: after ∧ finished.finishes ∧ UnderWay before

def NoneMisplaced (recent : List Reply) : Prop :=
  ∀ reply ∈ recent, reply.finishes → reply.answer = .ok none

structure SwapsOnlyFinished (pair : ListPair) (calls : List Call) : Prop where
  swaps : (Call.trySwap.reply (Call.afterAll calls pair)).swapped ↔
    ∃ reply ∈ sinceSwap calls pair, reply.finishes
  completes : NoneMisplaced (sinceSwap calls pair) →
    ((Call.trySwap.reply (Call.afterAll calls pair)).swapped ↔ Completed (sinceSwap calls pair))
  misplaced : ∀ call fault, (Call.reply call (Call.afterAll calls pair)).answer = .error fault →
    (Call.afterAll calls pair).state ≠ .building ∧
      ((∃ change, call = .back change) ∧
          call.after (Call.afterAll calls pair) = Call.afterAll calls pair ∨
        call = .finish ∧ call.after (Call.afterAll calls pair) =
          { Call.afterAll calls pair with state := .ready })

/-! ## What each call does -/

section Calls

variable {pair : ListPair} {change : DrawList → DrawList}

theorem changeBack_of_building (building : pair.state = .building) : changeBack change pair =
    .ok () (pair.put pair.frontSide.other (change (pair.list pair.frontSide.other))) := by
  simp [changeBack, back, building]

theorem changeBack_outside (outside : pair.state ≠ .building) :
    changeBack change pair = .error (.violated (.backOutsideRebuild pair.state)) pair := by
  simp [changeBack, back, outside]

theorem finish_outside (outside : pair.state ≠ .building) : finish pair =
    .error (.violated (.finishOutsideRebuild pair.state)) { pair with state := .ready } := by
  simp [finish, outside]

end Calls

inductive Replied (pair : ListPair) : Call → Except Fault (Option Bool) → ListPair → Prop where
  | begun (idle : pair.state = .idle) :
      Replied pair .begin (.ok (some true)) { pair with state := .building }
  | notBegun (busy : pair.state ≠ .idle) : Replied pair .begin (.ok (some false)) pair
  | written (building : pair.state = .building) (change : DrawList → DrawList) :
      Replied pair (.back change) (.ok none)
        (pair.put pair.frontSide.other (change (pair.list pair.frontSide.other)))
  | notWritten (outside : pair.state ≠ .building) (change : DrawList → DrawList) :
      Replied pair (.back change) (.error (.violated (.backOutsideRebuild pair.state))) pair
  | finished (building : pair.state = .building) :
      Replied pair .finish (.ok none) { pair with state := .ready }
  | misplaced (outside : pair.state ≠ .building) :
      Replied pair .finish (.error (.violated (.finishOutsideRebuild pair.state)))
        { pair with state := .ready }
  | abandoned (building : pair.state = .building) :
      Replied pair .abandon (.ok none) { pair with state := .idle }
  | notAbandoned (outside : pair.state ≠ .building) : Replied pair .abandon (.ok none) pair
  | swapped (ready : pair.state = .ready) : Replied pair .trySwap (.ok (some true)) { pair with
      frontSide := pair.frontSide.other, swaps := pair.swaps + 1, state := .idle }
  | notSwapped (unready : pair.state ≠ .ready) : Replied pair .trySwap (.ok (some false)) pair

theorem replied (call : Call) (pair : ListPair) :
    Replied pair call (call.reply pair).answer (call.after pair) := by
  unfold Call.reply Call.after Action.answer Action.after Action.outcome
  cases call with
  | begin =>
      by_cases idle : pair.state = .idle
      · simpa [Call.perform, begin_of_idle idle] using Replied.begun idle
      · simpa [Call.perform, begin_of_busy idle] using Replied.notBegun idle
  | back change =>
      by_cases building : pair.state = .building
      · simpa [Call.perform, changeBack_of_building building] using Replied.written building change
      · simpa [Call.perform, changeBack_outside building] using Replied.notWritten building change
  | finish =>
      by_cases building : pair.state = .building
      · simpa [Call.perform, finish_ok building] using Replied.finished building
      · simpa [Call.perform, finish_outside building] using Replied.misplaced building
  | abandon =>
      by_cases building : pair.state = .building
      · simpa [Call.perform, abandon, building] using Replied.abandoned building
      · simpa [Call.perform, abandon, building] using Replied.notAbandoned building
  | trySwap =>
      by_cases ready : pair.state = .ready
      · simpa [Call.perform, trySwap_of_ready ready] using Replied.swapped ready
      · simpa [Call.perform, trySwap_of_unready ready] using Replied.notSwapped ready

theorem swapped_iff_ready (pair : ListPair) :
    (Call.trySwap.reply pair).swapped ↔ pair.state = .ready := by
  by_cases ready : pair.state = .ready
  · simp [Call.reply, Action.answer, Action.outcome, Call.perform, trySwap_of_ready ready,
      Reply.swapped, ready]
  · simp [Call.reply, Action.answer, Action.outcome, Call.perform, trySwap_of_unready ready,
      Reply.swapped, ready]

/-! ## What the replies say about the state -/

section Histories

variable {recent : List Reply} {reply : Reply}

theorem underWay_concat :
    UnderWay (recent ++ [reply]) ↔ reply.begun ∨ UnderWay recent ∧ ¬ reply.abandons := by
  constructor
  · rintro ⟨before, begun, after, listed, begins, kept⟩
    rcases List.eq_nil_or_concat after with rfl | ⟨middle, last, rfl⟩
    · obtain ⟨-, same⟩ := List.append_inj' listed rfl
      cases same
      exact .inl begins
    · rw [List.concat_eq_append, ← List.cons_append, ← List.append_assoc] at listed
      obtain ⟨rfl, same⟩ := List.append_inj' listed rfl
      cases same
      refine .inr ⟨⟨before, begun, middle, rfl, begins, fun other member => ?_⟩, ?_⟩
      · exact kept other (by simp [member])
      · exact kept reply (by simp)
  · rintro (begins | ⟨⟨before, begun, after, rfl, begins, kept⟩, stays⟩)
    · exact ⟨recent, reply, [], rfl, begins, nofun⟩
    · refine ⟨before, begun, after ++ [reply], by simp, begins, fun other member => ?_⟩
      rcases List.mem_append.mp member with earlier | last
      · exact kept other earlier
      · exact List.mem_singleton.mp last ▸ stays

theorem finishes_concat : (∃ other ∈ recent ++ [reply], other.finishes) ↔
    (∃ other ∈ recent, other.finishes) ∨ reply.finishes := by
  simp [or_and_right, exists_or]

theorem Completed.concat (completed : Completed recent) : Completed (recent ++ [reply]) := by
  obtain ⟨before, finished, after, rfl, finishes, underWay⟩ := completed
  exact ⟨before, finished, after ++ [reply], by simp, finishes, underWay⟩

theorem completed_of_underWay (underWay : UnderWay recent) (finishes : reply.finishes) :
    Completed (recent ++ [reply]) :=
  ⟨recent, reply, [], rfl, finishes, underWay⟩

theorem Completed.finishes (completed : Completed recent) : ∃ other ∈ recent, other.finishes := by
  obtain ⟨before, finished, after, rfl, finishes, -⟩ := completed
  exact ⟨finished, by simp, finishes⟩

theorem Completed.begun (completed : Completed recent) : ∃ other ∈ recent, other.begun := by
  obtain ⟨-, finished, after, rfl, -, before, begun, middle, rfl, begins, -⟩ := completed
  exact ⟨begun, by simp, begins⟩

theorem NoneMisplaced.before (placed : NoneMisplaced (recent ++ [reply])) : NoneMisplaced recent :=
  fun other member => placed other (List.mem_append_left _ member)

end Histories

structure Tells (recent : List Reply) (state : BuildState) : Prop where
  ready_iff : state = .ready ↔ ∃ reply ∈ recent, reply.finishes
  building_iff : state ≠ .ready → (state = .building ↔ UnderWay recent)
  completed : NoneMisplaced recent → state = .ready → Completed recent

theorem tells_nil : Tells [] .idle where
  ready_iff := by simp
  building_iff := by simp [UnderWay]
  completed := nofun

theorem Tells.idle_call {recent : List Reply} {state : BuildState} {reply : Reply}
    (tells : Tells recent state) (unfinished : ¬ reply.finishes) (unbegun : ¬ reply.begun)
    (kept : state = .building → ¬ reply.abandons) : Tells (recent ++ [reply]) state where
  ready_iff := by
    rw [finishes_concat, tells.ready_iff]
    simp [unfinished]
  building_iff := by
    intro unready
    rw [underWay_concat, tells.building_iff unready]
    have stays := fun underWay => kept ((tells.building_iff unready).mpr underWay)
    tauto
  completed := fun placed ready => (tells.completed placed.before ready).concat

theorem Tells.begins {recent : List Reply} {reply : Reply} (tells : Tells recent .idle)
    (unfinished : ¬ reply.finishes) (begins : reply.begun) : Tells (recent ++ [reply]) .building where
  ready_iff := by
    rw [finishes_concat, ← tells.ready_iff]
    simp [unfinished]
  building_iff := fun _ => by simp [underWay_concat, begins]
  completed := nofun

theorem Tells.abandons {recent : List Reply} {reply : Reply} (tells : Tells recent .building)
    (unfinished : ¬ reply.finishes) (unbegun : ¬ reply.begun) (abandons : reply.abandons) :
    Tells (recent ++ [reply]) .idle where
  ready_iff := by
    rw [finishes_concat, ← tells.ready_iff]
    simp [unfinished]
  building_iff := fun _ => by simp [underWay_concat, unbegun, abandons]
  completed := nofun

theorem Tells.finishes {recent : List Reply} {reply : Reply} (finishes : reply.finishes)
    (built : reply.answer = .ok none → UnderWay recent) : Tells (recent ++ [reply]) .ready where
  ready_iff := by
    rw [finishes_concat]
    simp [finishes]
  building_iff := fun unready => absurd rfl unready
  completed := fun placed _ => completed_of_underWay
    (built (placed reply (List.mem_append_right _ List.mem_cons_self) finishes)) finishes

theorem Tells.after {recent : List Reply} {pair : ListPair} (tells : Tells recent pair.state)
    (call : Call) : Tells (Reply.note recent (call.reply pair)) (call.after pair).state := by
  have result := replied call pair
  have shape : call.reply pair = ⟨call, (call.reply pair).answer⟩ := rfl
  rw [shape]
  generalize (call.reply pair).answer = answer at result ⊢
  generalize call.after pair = left at result ⊢
  cases result with
  | begun idle => exact (idle ▸ tells).begins nofun rfl
  | finished building =>
      exact Tells.finishes rfl fun _ => (tells.building_iff (by simp [building])).mp building
  | misplaced outside => exact Tells.finishes rfl nofun
  | abandoned building => exact (building ▸ tells).abandons nofun nofun rfl
  | swapped => exact tells_nil
  | notBegun | notWritten | notSwapped => exact tells.idle_call nofun nofun nofun
  | written building change =>
      rw [put_state]
      exact tells.idle_call nofun nofun nofun
  | notAbandoned outside => exact tells.idle_call nofun nofun fun building => absurd building outside

theorem tells_afterAll {calls : List Call} {pair : ListPair} {recent : List Reply}
    (tells : Tells recent pair.state) :
    Tells ((replies calls pair).foldl Reply.note recent) (Call.afterAll calls pair).state := by
  induction calls generalizing pair recent with
  | nil => exact tells
  | cons call rest ih => exact ih (tells.after call)

/-- A call faults outside a rebuild only. A back list that is asked for then leaves no trace; a
declaration that it is finished leaves the pair ready. -/
theorem fault_cases {call : Call} {pair : ListPair} {fault : Fault}
    (faulted : (call.reply pair).answer = .error fault) : pair.state ≠ .building ∧
      ((∃ change, call = .back change) ∧ call.after pair = pair ∨
        call = .finish ∧ call.after pair = { pair with state := .ready }) := by
  have result := replied call pair
  rw [faulted] at result
  generalize call.after pair = left at result ⊢
  cases result with
  | notWritten outside change => exact ⟨outside, .inl ⟨⟨change, rfl⟩, rfl⟩⟩
  | misplaced outside => exact ⟨outside, .inr ⟨rfl, rfl⟩⟩

/-! ## Calls on a new pair -/

/-- Whatever is called on a new pair, its lists change places exactly if a rebuild was declared finished
since they last did, and this was in its place unless the declaration faulted. -/
theorem swaps_only_finished (first second : DrawList) (calls : List Call) :
    SwapsOnlyFinished { first, second } calls := by
  have tells : Tells (sinceSwap calls { first, second }) (Call.afterAll calls { first, second }).state :=
    tells_afterAll tells_nil
  constructor
  case swaps => rw [swapped_iff_ready, tells.ready_iff]
  case completes =>
    intro placed
    rw [swapped_iff_ready]
    exact ⟨tells.completed placed, fun completed => tells.ready_iff.mpr completed.finishes⟩
  case misplaced => exact fun call fault faulted => fault_cases faulted

def untouched : ListPair :=
  let table : Paging.ObjectListTable := ⟨0, ⟨0, 8, 0, .int⟩, ⟨0, 8, 4, .intArray 1⟩, 1⟩
  { first := { table, record := 0 }, second := { table, record := 1 } }

/-- A declaration that faults is enough for the lists to change places, although no rebuild was begun. -/
theorem unbuilt_list_published :
    (Call.finish.reply untouched).answer = .error (.violated (.finishOutsideRebuild .idle)) ∧
      (Call.finish.after untouched).state ≠ untouched.state ∧
      (Call.trySwap.reply (Call.afterAll [.finish] untouched)).swapped ∧
      ¬ Completed (sinceSwap [.finish] untouched) := by
  refine ⟨rfl, nofun, rfl, fun completed => ?_⟩
  obtain ⟨reply, member, begins⟩ := completed.begun
  cases List.mem_singleton.mp member
  cases begins

end TorusEngine.Drawing.ListPair
