import TorusEngine.Paging.Window
import TorusEngine.Proofs.Paging.Isolation

/-!
# Where the elements of records lie

The fields of a built schema follow each other without gaps, so the elements of all fields of all
records lie apart (`Cell.apart`), each inside its record (`Cell.inside`). A variable reads and writes
exactly the bytes of the elements it is asked for.
-/

namespace TorusEngine.Paging

/-! ## Fields -/

namespace Schema

/-- Fields that fill the bytes from one offset to another. -/
inductive LaidOut : Nat → List Field → Nat → Prop where
  | nil (offset : Nat) : LaidOut offset [] offset
  | cons {field : Field} {rest : List Field} {bytes stop : Nat}
      (sized : field.kind.sizeInBytes = .ok bytes)
      (others : LaidOut (field.offset + bytes) rest stop) : LaidOut field.offset (field :: rest) stop

theorem layOut_laidOut {offset stop : Nat} {declared : List (String × FieldKind)}
    {fields : List Field} (ended : layOut offset declared = .ok (fields, stop)) :
    LaidOut offset fields stop := by
  induction declared generalizing offset fields with
  | nil =>
      cases ended
      exact .nil _
  | cons entry rest ih =>
      obtain ⟨name, kind⟩ := entry
      simp only [layOut, bind_eq_ok] at ended
      obtain ⟨bytes, sized, next, sum, ⟨later, last⟩, laid, ended⟩ := ended
      obtain ⟨rfl, -⟩ := Size.eq_of_add_eq_ok sum
      cases ended
      exact @LaidOut.cons ⟨name, kind, offset⟩ _ bytes _ sized (ih laid)

theorem build_laidOut {declared : List (String × FieldKind)} {schema : Schema}
    (built : build declared = .ok schema) :
    LaidOut 0 schema.fields schema.objectSize ∧ 0 < schema.objectSize := by
  simp only [build, bind_eq_ok] at built
  obtain ⟨⟨fields, objectSize⟩, laid, built⟩ := built
  by_cases empty : objectSize = 0
  · simp [empty, bind, Except.bind] at built
  · simp [empty, pure, Except.pure] at built
    subst built
    exact ⟨layOut_laidOut laid, Nat.pos_of_ne_zero empty⟩

theorem LaidOut.of_cons {offset stop : Nat} {field : Field} {rest : List Field}
    (laid : LaidOut offset (field :: rest) stop) :
    ∃ bytes, field.kind.sizeInBytes = .ok bytes ∧ LaidOut (field.offset + bytes) rest stop := by
  cases laid with
  | cons sized others => exact ⟨_, sized, others⟩

theorem LaidOut.of_nil {offset stop : Nat} (laid : LaidOut offset [] stop) : stop = offset := by
  cases laid
  rfl

theorem LaidOut.le {offset stop : Nat} {fields : List Field} (laid : LaidOut offset fields stop) :
    offset ≤ stop := by
  induction laid with
  | nil => exact Nat.le_refl _
  | cons sized others ih => exact (Nat.le_add_right _ _).trans ih

theorem LaidOut.inside {offset stop : Nat} {fields : List Field} (laid : LaidOut offset fields stop)
    {field : Field} (member : field ∈ fields) :
    ∃ bytes, field.kind.sizeInBytes = .ok bytes ∧ offset ≤ field.offset ∧
      field.offset + bytes ≤ stop := by
  induction laid with
  | nil => cases member
  | @cons first rest bytes stop sized others ih =>
      rcases List.mem_cons.mp member with rfl | later
      · exact ⟨bytes, sized, Nat.le_refl _, others.le⟩
      · obtain ⟨size, sizedLater, after, before⟩ := ih later
        exact ⟨size, sizedLater, by omega, before⟩

theorem LaidOut.apart {offset stop : Nat} {fields : List Field} (laid : LaidOut offset fields stop)
    {first second : Field} (member : first ∈ fields) (other : second ∈ fields)
    (different : first ≠ second) {bytes size : Nat} (sized : first.kind.sizeInBytes = .ok bytes)
    (sizedOther : second.kind.sizeInBytes = .ok size) :
    first.offset + bytes ≤ second.offset ∨ second.offset + size ≤ first.offset := by
  induction laid with
  | nil => cases member
  | @cons head rest width stop sizedHead others ih =>
      rcases List.mem_cons.mp member with rfl | later <;>
        rcases List.mem_cons.mp other with rfl | otherLater
      · exact absurd rfl different
      · cases sized.symm.trans sizedHead
        obtain ⟨_, -, after, -⟩ := others.inside otherLater
        exact .inl after
      · cases sizedOther.symm.trans sizedHead
        obtain ⟨_, -, after, -⟩ := others.inside later
        exact .inr after
      · exact ih later otherLater

end Schema

/-! ## Addresses -/

def Variable.start (field : Variable) (index element : Nat) : Nat :=
  field.offset + index * field.objectSize + element * field.kind.elementType.size

theorem Variable.address_eq {field : Variable} {index element length : Nat}
    (sized : field.kind.length = .ok length) (within : element < length)
    (fits : field.start index element < Size.limit) :
    field.address field.kind.elementType index element = .ok (field.start index element) := by
  unfold start at fits ⊢
  have record : index * field.objectSize < Size.limit := by omega
  have begins : field.offset + index * field.objectSize < Size.limit := by omega
  have slot : element * field.kind.elementType.size < Size.limit := by omega
  simp [address, sized, Nat.not_le.mpr within, Size.mul_eq_ok record, Size.add_eq_ok begins,
    Size.mul_eq_ok slot, Size.add_eq_ok fits, bind, Except.bind]

theorem Variable.address_eq_ok {field : Variable} {used : ElementType} {index element address : Nat}
    (located : field.address used index element = .ok address) :
    used = field.kind.elementType ∧ address = field.start index element ∧
      ∃ length, field.kind.length = .ok length ∧ element < length := by
  by_cases type : used = field.kind.elementType
  · subst type
    simp only [Variable.address, ne_eq, not_true_eq_false, if_false, bind_eq_ok] at located
    obtain ⟨length, sized, located⟩ := located
    rcases Nat.lt_or_ge element length with within | outside
    · simp only [Nat.not_le.mpr within, if_false, bind_eq_ok] at located
      obtain ⟨record, rows, begins, sum, slot, columns, total⟩ := located
      obtain ⟨rfl, -⟩ := Size.eq_of_mul_eq_ok rows
      obtain ⟨rfl, -⟩ := Size.eq_of_add_eq_ok sum
      obtain ⟨rfl, -⟩ := Size.eq_of_mul_eq_ok columns
      obtain ⟨rfl, -⟩ := Size.eq_of_add_eq_ok total
      exact ⟨rfl, rfl, length, sized, within⟩
    · simp [outside, bind, Except.bind] at located
  · simp [Variable.address, type, bind, Except.bind] at located

/-! ## Elements of records lie apart -/

theorem FieldKind.sizeInBytes_eq {kind : FieldKind} {length bytes : Nat}
    (counted : kind.length = .ok length) (sized : kind.sizeInBytes = .ok bytes) :
    bytes = length * kind.elementType.size := by
  simp only [sizeInBytes, counted, bind_eq_ok] at sized
  obtain ⟨_, same, product⟩ := sized
  cases same
  rw [(Size.eq_of_mul_eq_ok product).1, Nat.mul_comm]

namespace Window

structure Cell (window : Window) where
  name : String
  index : Nat
  element : Nat
  field : Variable
  found : window.fieldVariable? name = some field
  within : ∃ length, field.kind.length = .ok length ∧ element < length

namespace Cell

variable {window : Window}

abbrev type (cell : window.Cell) : ElementType := cell.field.kind.elementType

def position (cell : window.Cell) : String × Nat × Nat := (cell.name, cell.index, cell.element)

def start (cell : window.Cell) : Nat := cell.field.start cell.index cell.element

def stop (cell : window.Cell) : Nat := cell.start + cell.type.size

def get (cell : window.Cell) (arena : Arena) : Except Fault cell.type.Word :=
  cell.field.getElement cell.type cell.index cell.element arena

def set (cell : window.Cell) (word : cell.type.Word) : Action Arena Unit :=
  cell.field.setElement cell.type cell.index cell.element word

end Cell

variable {window : Window} {declared : List (String × FieldKind)} {name : String} {field : Variable}

theorem fieldVariable?_eq_some (found : window.fieldVariable? name = some field) :
    ∃ declaration ∈ window.schema.fields, declaration.name = name ∧
      field = ⟨window.buffer, window.objectSize, declaration.offset, declaration.kind⟩ := by
  unfold fieldVariable? Schema.field? at found
  obtain ⟨declaration, first, rfl⟩ := Option.map_eq_some_iff.mp found
  exact ⟨declaration, List.mem_of_find?_eq_some first, by simpa using List.find?_some first, rfl⟩

theorem fieldVariable?_objectSize (found : window.fieldVariable? name = some field) :
    field.objectSize = window.objectSize := by
  obtain ⟨declaration, -, -, rfl⟩ := fieldVariable?_eq_some found
  rfl

theorem fieldVariable?_buffer (found : window.fieldVariable? name = some field) :
    field.buffer = window.buffer := by
  obtain ⟨declaration, -, -, rfl⟩ := fieldVariable?_eq_some found
  rfl

theorem slice_inside (built : Schema.build declared = .ok window.schema)
    (found : window.fieldVariable? name = some field) {length : Nat}
    (counted : field.kind.length = .ok length) (index : Nat) :
    field.start index 0 + length * field.kind.elementType.size ≤ (index + 1) * window.objectSize := by
  obtain ⟨declaration, member, -, rfl⟩ := fieldVariable?_eq_some found
  obtain ⟨bytes, sized, -, inside⟩ := (Schema.build_laidOut built).1.inside member
  have filled : bytes = length * declaration.kind.elementType.size :=
    FieldKind.sizeInBytes_eq counted sized
  simp only [Variable.start, objectSize, Nat.zero_mul, Nat.succ_mul]
  omega

namespace Cell

theorem inside (built : Schema.build declared = .ok window.schema) (cell : window.Cell) :
    cell.index * window.objectSize ≤ cell.start ∧
      cell.stop ≤ (cell.index + 1) * window.objectSize := by
  obtain ⟨length, counted, within⟩ := cell.within
  have ends := slice_inside built cell.found counted cell.index
  have slot := Nat.mul_le_mul_right cell.type.size (Nat.succ_le_of_lt within)
  simp only [stop, start, type, Variable.start, Nat.zero_mul, Nat.succ_mul,
    fieldVariable?_objectSize cell.found] at *
  omega

/-- Different elements of one record lie apart: in one field they follow each other, and the fields
of a schema do too. -/
theorem offsets_apart (built : Schema.build declared = .ok window.schema) (first second : window.Cell)
    (different : (first.name, first.element) ≠ (second.name, second.element)) :
    first.field.offset + first.element * first.type.size + first.type.size ≤
        second.field.offset + second.element * second.type.size ∨
      second.field.offset + second.element * second.type.size + second.type.size ≤
        first.field.offset + first.element * first.type.size := by
  obtain ⟨name, index, element, field, found, length, counted, within⟩ := first
  obtain ⟨sibling, row, column, other, foundToo, size, countedToo, withinToo⟩ := second
  obtain ⟨declaration, member, named, rfl⟩ := fieldVariable?_eq_some found
  dsimp only [type] at *
  by_cases sameName : name = sibling
  · subst sameName
    cases found.symm.trans foundToo
    have differentElement : element ≠ column := fun same => different (same ▸ rfl)
    dsimp only
    rcases Nat.lt_or_gt_of_ne differentElement with before | after
    · have slot := Nat.mul_le_mul_right declaration.kind.elementType.size (Nat.succ_le_of_lt before)
      rw [Nat.succ_mul] at slot
      exact .inl (by omega)
    · have slot := Nat.mul_le_mul_right declaration.kind.elementType.size (Nat.succ_le_of_lt after)
      rw [Nat.succ_mul] at slot
      exact .inr (by omega)
  · obtain ⟨neighbour, memberToo, namedToo, rfl⟩ := fieldVariable?_eq_some foundToo
    have laid := (Schema.build_laidOut built).1
    obtain ⟨bytes, sized, -, -⟩ := laid.inside member
    obtain ⟨bytesToo, sizedToo, -, -⟩ := laid.inside memberToo
    have distinct : declaration ≠ neighbour := fun same => sameName (named ▸ namedToo ▸ same ▸ rfl)
    have filled : bytes = length * declaration.kind.elementType.size :=
      FieldKind.sizeInBytes_eq counted sized
    have filledToo : bytesToo = size * neighbour.kind.elementType.size :=
      FieldKind.sizeInBytes_eq countedToo sizedToo
    have slot := Nat.mul_le_mul_right declaration.kind.elementType.size (Nat.succ_le_of_lt within)
    have slotToo := Nat.mul_le_mul_right neighbour.kind.elementType.size
      (Nat.succ_le_of_lt withinToo)
    rw [Nat.succ_mul] at slot slotToo
    have apart := laid.apart member memberToo distinct sized sizedToo
    dsimp only
    omega

theorem apart (built : Schema.build declared = .ok window.schema) (first second : window.Cell)
    (different : first.position ≠ second.position) :
    first.stop ≤ second.start ∨ second.stop ≤ first.start := by
  by_cases sameRecord : first.index = second.index
  · have apart := first.offsets_apart built second fun same => different (by
      simp only [Prod.mk.injEq] at same
      rw [position, position, same.1, same.2, sameRecord])
    simp only [stop, start, type, Variable.start, fieldVariable?_objectSize first.found,
      fieldVariable?_objectSize second.found, sameRecord] at *
    omega
  · have inside := first.inside built
    have insideToo := second.inside built
    rcases Nat.lt_or_gt_of_ne sameRecord with before | after
    · have records : (first.index + 1) * window.objectSize ≤ second.index * window.objectSize :=
        Nat.mul_le_mul_right _ before
      exact .inl (by omega)
    · have records : (second.index + 1) * window.objectSize ≤ first.index * window.objectSize :=
        Nat.mul_le_mul_right _ after
      exact .inr (by omega)

end Cell

end Window

/-! ## Words and their bytes -/

namespace ElementType

theorem words_flatMap (type : ElementType) (words : List type.Word) (more : Nat) (rest : List UInt8) :
    type.words (words.length + more) (words.flatMap type.bytes ++ rest) =
      words ++ type.words more rest := by
  induction words with
  | nil => simp
  | cons word later ih =>
      have count : (word :: later).length + more = (later.length + more) + 1 := by
        rw [List.length_cons]
        omega
      rw [count, ElementType.words, List.flatMap_cons, List.append_assoc,
        List.take_left' (type.length_bytes word), List.drop_left' (type.length_bytes word),
        type.ofBytes_bytes, ih, List.cons_append]

theorem words_drop (type : ElementType) (skipped more : Nat) (bytes : List UInt8) :
    (type.words (skipped + more) bytes).drop skipped =
      type.words more (bytes.drop (skipped * type.size)) := by
  induction skipped generalizing bytes with
  | zero => simp
  | succ skipped ih =>
      have count : skipped + 1 + more = (skipped + more) + 1 := by omega
      rw [count, ElementType.words, List.drop_succ_cons, ih, List.drop_drop, Nat.succ_mul,
        Nat.add_comm]

theorem length_words (type : ElementType) (count : Nat) (bytes : List UInt8) :
    (type.words count bytes).length = count := by
  induction count generalizing bytes with
  | zero => rfl
  | succ count ih => rw [ElementType.words, List.length_cons, ih]

theorem length_flatMap_bytes (type : ElementType) (words : List type.Word) :
    (words.flatMap type.bytes).length = words.length * type.size := by
  induction words with
  | nil => simp
  | cons word later ih =>
      rw [List.flatMap_cons, List.length_append, ih, length_bytes, List.length_cons, Nat.succ_mul,
        Nat.add_comm]

end ElementType

/-! ## Reading and writing elements -/

theorem Arena.reached_of_written {buffer id : BufferId} {address target : Nat} {data : List UInt8}
    (written : (Call.put buffer address data).written id target ≠ none) :
    id = buffer ∧ address ≤ target ∧ target < address + data.length := by
  simp only [Call.written, ne_eq, ite_eq_right_iff, overlay_eq_none_iff, Classical.not_imp] at written
  obtain ⟨same, covered⟩ := written
  exact ⟨same, by omega, by omega⟩

namespace Variable

variable {field : Variable} {type : ElementType} {index element address length : Nat} {arena : Arena}

theorem setElement_of_located (located : field.address type index element = .ok address)
    (word : type.Word) (arena : Arena) :
    field.setElement type index element word arena =
      Arena.put field.buffer address (type.bytes word) arena := by
  simp [setElement, located]

theorem getElement_of_located (located : field.address type index element = .ok address)
    (arena : Arena) : field.getElement type index element arena =
      (arena.read field.buffer address type.size).map type.ofBytes := by
  simp only [getElement, located, bind, Except.bind]
  cases arena.read field.buffer address type.size <;> rfl

theorem getElement_congr {after : Arena}
    (reads : ∀ address, field.address type index element = .ok address →
      after.read field.buffer address type.size = arena.read field.buffer address type.size) :
    field.getElement type index element after = field.getElement type index element arena := by
  cases located : field.address type index element with
  | error fault => simp [getElement, located, bind, Except.bind]
  | ok address =>
      rw [getElement_of_located located, getElement_of_located located, reads address located]

theorem getElement_of_inside (wellFormed : arena.WellFormed) {buffer : Buffer}
    (live : arena.buffers.get? field.buffer = some buffer)
    (located : field.address type index element = .ok address)
    (inside : address + type.size ≤ arena.extent field.buffer) :
    field.getElement type index element arena =
      .ok (type.ofBytes (arena.bytesFrom field.buffer address type.size)) := by
  rw [getElement_of_located located, Arena.read_inside wellFormed live inside]
  rfl

/-- The puts through which an element is set: one, or none if it has no address. -/
def elementPut (field : Variable) (type : ElementType) (index element : Nat) (word : type.Word) :
    List Arena.Call :=
  match field.address type index element with
  | .ok address => [.put field.buffer address (type.bytes word)]
  | .error _ => []

def slicePut (field : Variable) (type : ElementType) (index : Nat) (words : List type.Word) :
    List Arena.Call :=
  match field.kind.length, field.address type index 0 with
  | .ok length, .ok address =>
      if length < words.length ∨ words = [] then []
      else [.put field.buffer address (words.flatMap type.bytes)]
  | _, _ => []

theorem after_setElement (field : Variable) (type : ElementType) (index element : Nat)
    (word : type.Word) (arena : Arena) :
    Action.after (field.setElement type index element word) arena =
      Arena.Call.afterAll (field.elementPut type index element word) arena := by
  rw [Action.after_eq_left, elementPut]
  cases located : field.address type index element with
  | error fault => simp [setElement, located, Action.left, Arena.Call.afterAll]
  | ok address =>
      rw [setElement_of_located located, ← Action.after_eq_left]
      rfl

theorem after_setSlice (field : Variable) (type : ElementType) (index : Nat)
    (words : List type.Word) (arena : Arena) :
    Action.after (field.setSlice type index words) arena =
      Arena.Call.afterAll (field.slicePut type index words) arena := by
  rw [Action.after_eq_left, slicePut]
  cases counted : field.kind.length with
  | error fault => simp [setSlice, counted, Action.left, Arena.Call.afterAll]
  | ok length =>
      by_cases many : length < words.length
      · cases field.address type index 0 <;>
          simp [setSlice, counted, many, Action.left, Arena.Call.afterAll]
      · by_cases none : words = []
        · cases field.address type index 0 <;>
            simp [setSlice, counted, none, Action.left, Arena.Call.afterAll]
        · cases located : field.address type index 0 with
          | error fault => simp [setSlice, counted, many, none, located, Action.left,
              Arena.Call.afterAll]
          | ok address =>
              have put : field.setSlice type index words arena =
                  Arena.put field.buffer address (words.flatMap type.bytes) arena := by
                simp [setSlice, counted, many, none, located]
              rw [put, ← Action.after_eq_left]
              simp [many, none, Arena.Call.afterAll, Arena.Call.after, Arena.Call.perform]

/-- Puts that write nothing but some elements of one record's field. -/
structure SetsOnly (field : Variable) (index : Nat) (elements : Nat → Prop)
    (calls : List Arena.Call) : Prop where
  spares : ∀ call ∈ calls, ∀ id, call.Spares id
  written : ∀ call ∈ calls, ∀ id target, call.written id target ≠ none → id = field.buffer ∧
    ∃ element length, elements element ∧ field.kind.length = .ok length ∧ element < length ∧
      field.start index element ≤ target ∧
      target < field.start index element + field.kind.elementType.size

theorem SetsOnly.nil (field : Variable) (index : Nat) (elements : Nat → Prop) :
    field.SetsOnly index elements [] :=
  ⟨fun _ member => (nomatch member), fun _ member => (nomatch member)⟩

theorem elementPut_setsOnly (field : Variable) (type : ElementType) (index element : Nat)
    (word : type.Word) :
    field.SetsOnly index (· = element) (field.elementPut type index element word) := by
  unfold elementPut
  split
  · rename_i address located
    obtain ⟨rfl, rfl, length, counted, within⟩ := address_eq_ok located
    constructor
    · intro call member id
      rw [List.mem_singleton.mp member]
      trivial
    · intro call member id target written
      rw [List.mem_singleton.mp member] at written
      obtain ⟨rfl, reached, early⟩ := Arena.reached_of_written written
      rw [ElementType.length_bytes] at early
      exact ⟨rfl, element, length, rfl, counted, within, reached, early⟩
  · exact .nil _ _ _

theorem slicePut_setsOnly (field : Variable) (type : ElementType) (index : Nat)
    (words : List type.Word) :
    field.SetsOnly index (· < words.length) (field.slicePut type index words) := by
  unfold slicePut
  split
  · rename_i length address counted located
    obtain ⟨rfl, rfl, -⟩ := address_eq_ok located
    split
    · exact .nil _ _ _
    · rename_i sized
      constructor
      · intro call member id
        rw [List.mem_singleton.mp member]
        trivial
      · intro call member id target written
        rw [List.mem_singleton.mp member] at written
        obtain ⟨rfl, reached, early⟩ := Arena.reached_of_written written
        rw [ElementType.length_flatMap_bytes] at early
        -- The slots of the elements follow each other, so the address lies in one of them.
        have positive := field.kind.elementType.size_pos
        have distance : target - field.start index 0 < words.length * field.kind.elementType.size := by
          omega
        have few := (Nat.div_lt_iff_lt_mul positive).mpr distance
        have split := Nat.div_add_mod (target - field.start index 0) field.kind.elementType.size
        have remainder := Nat.mod_lt (target - field.start index 0) positive
        rw [Nat.mul_comm] at split
        unfold start at *
        refine ⟨rfl, _, length, few, counted, ?_, ?_, ?_⟩ <;> omega
  · exact .nil _ _ _

theorem SetsOnly.spared {field : Variable} {elements : Nat → Prop} {calls : List Arena.Call}
    (sets : field.SetsOnly index elements calls) (id : BufferId) : ∀ call ∈ calls, call.Spares id :=
  fun call member => sets.spares call member id

theorem getElement_setElement (wellFormed : arena.WellFormed) {buffer : Buffer}
    (live : arena.buffers.get? field.buffer = some buffer)
    (located : field.address type index element = .ok address)
    (inside : address + type.size ≤ arena.extent field.buffer) (word : type.Word) :
    field.setElement type index element word arena =
        .ok () (Action.after (Arena.put field.buffer address (type.bytes word)) arena) ∧
      field.getElement type index element
        (Action.after (Arena.put field.buffer address (type.bytes word)) arena) = .ok word := by
  rw [← type.length_bytes word] at inside
  have same := Arena.put_sameTables field.buffer address (type.bytes word) arena
  obtain ⟨left, stillLive, -⟩ := same.live live
  have still := inside
  rw [← same.extent, type.length_bytes] at still
  have bytes := Arena.bytesFrom_put wellFormed inside
  rw [type.length_bytes] at bytes
  refine ⟨?_, ?_⟩
  · rw [setElement_of_located located, Arena.put_of_inside wellFormed live inside]
  · rw [getElement_of_inside (same.wellFormed wellFormed) stillLive located still, bytes,
      type.ofBytes_bytes]

theorem located_of_setElement {after : Arena} (wellFormed : arena.WellFormed) {word : type.Word}
    (ended : field.setElement type index element word arena = .ok () after) :
    ∃ address buffer, field.address type index element = .ok address ∧
      arena.buffers.get? field.buffer = some buffer ∧
      address + type.size ≤ arena.extent field.buffer := by
  cases located : field.address type index element with
  | error fault => simp [setElement, located] at ended
  | ok address =>
      rw [setElement_of_located located] at ended
      have nonempty : type.bytes word ≠ [] := by
        rw [← List.length_pos_iff, type.length_bytes]
        exact type.size_pos
      obtain ⟨buffer, live, inside⟩ := Arena.inside_of_put wellFormed ended nonempty
      exact ⟨address, buffer, rfl, live, type.length_bytes word ▸ inside⟩

theorem setSlice_of_located (counted : field.kind.length = .ok length) {words : List type.Word}
    (few : words.length ≤ length) (nonempty : words ≠ [])
    (located : field.address type index 0 = .ok address) (arena : Arena) :
    field.setSlice type index words arena =
      Arena.put field.buffer address (words.flatMap type.bytes) arena := by
  simp [setSlice, counted, Nat.not_lt.mpr few, nonempty, located]

theorem setSlice_nil (counted : field.kind.length = .ok length) (index : Nat) (arena : Arena) :
    field.setSlice type index [] arena = .ok () arena := by
  simp [setSlice, counted]

theorem getSlice_of_inside (wellFormed : arena.WellFormed) {buffer : Buffer}
    (live : arena.buffers.get? field.buffer = some buffer)
    (counted : field.kind.length = .ok length) (nonempty : length ≠ 0)
    (located : field.address type index 0 = .ok address)
    (inside : address + length * type.size ≤ arena.extent field.buffer) :
    field.getSlice type index arena =
      .ok (type.words length (arena.bytesFrom field.buffer address (length * type.size))) := by
  have space := Nat.le_trans (Arena.extent_le wellFormed field.buffer) wellFormed.addressable
  have small : Size.addressSpace ≤ Size.largestBlock := by decide
  have listed : Size.checkBlock length type.size = .ok () := if_pos (by omega)
  simp [getSlice, counted, nonempty, located, listed, Arena.read_inside wellFormed live inside, bind,
    Except.bind, pure, Except.pure]

theorem getSlice_setSlice (wellFormed : arena.WellFormed) {buffer : Buffer}
    (live : arena.buffers.get? field.buffer = some buffer)
    (counted : field.kind.length = .ok length)
    (located : length ≠ 0 → field.address type index 0 = .ok address)
    (inside : address + length * type.size ≤ arena.extent field.buffer) {words : List type.Word}
    (few : words.length ≤ length) :
    ∃ old after, field.getSlice type index arena = .ok old ∧
      field.setSlice type index words arena = .ok () after ∧
      field.getSlice type index after = .ok (words ++ old.drop words.length) := by
  by_cases none : words = []
  · subst none
    by_cases empty : length = 0
    · subst empty
      exact ⟨[], arena, by simp [getSlice, counted, bind, Except.bind, pure, Except.pure],
        setSlice_nil counted index arena,
        by simp [getSlice, counted, bind, Except.bind, pure, Except.pure]⟩
    · have read := getSlice_of_inside wellFormed live counted empty (located empty) inside
      exact ⟨_, arena, read, setSlice_nil counted index arena, by simpa using read⟩
  · have nonempty : length ≠ 0 := by
      have := List.length_pos_iff.mpr none
      omega
    have width := type.length_flatMap_bytes words
    obtain ⟨more, rfl⟩ := Nat.exists_eq_add_of_le few
    have whole : (words.length + more) * type.size =
        (words.flatMap type.bytes).length + more * type.size := by
      rw [width, Nat.add_mul]
    have same := Arena.put_sameTables field.buffer address (words.flatMap type.bytes) arena
    obtain ⟨left, stillLive, -⟩ := same.live live
    have still := inside
    rw [← same.extent] at still
    have set := setSlice_of_located counted few none (located nonempty) arena
    rw [Arena.put_of_inside wellFormed live (by omega)] at set
    have read := getSlice_of_inside (same.wellFormed wellFormed) stillLive counted nonempty
      (located nonempty) still
    refine ⟨_, _, getSlice_of_inside wellFormed live counted nonempty (located nonempty) inside, set,
      read.trans ?_⟩
    rw [whole] at inside ⊢
    rw [Arena.bytesFrom_put_prefix wellFormed inside, type.words_flatMap, type.words_drop, width]

theorem setSlice_ok {after : Arena} (wellFormed : arena.WellFormed) {words : List type.Word}
    (ended : field.setSlice type index words arena = .ok () after) :
    (words = [] ∧ after = arena) ∨ (words ≠ [] ∧ ∃ address buffer length,
      field.kind.length = .ok length ∧ words.length ≤ length ∧
      field.address type index 0 = .ok address ∧
      arena.buffers.get? field.buffer = some buffer ∧
      address + (words.flatMap type.bytes).length ≤ arena.extent field.buffer ∧
      after = Action.after (Arena.put field.buffer address (words.flatMap type.bytes)) arena) := by
  cases counted : field.kind.length with
  | error fault => simp [setSlice, counted] at ended
  | ok length =>
      by_cases none : words = []
      · subst none
        rw [setSlice_nil counted] at ended
        cases ended
        exact .inl ⟨rfl, rfl⟩
      · right
        have few : words.length ≤ length := by
          by_contra many
          simp [setSlice, counted, Nat.not_le.mp many] at ended
        cases located : field.address type index 0 with
        | error fault => simp [setSlice, counted, Nat.not_lt.mpr few, none, located] at ended
        | ok address =>
            rw [setSlice_of_located counted few none located] at ended
            have nonempty : words.flatMap type.bytes ≠ [] := by
              rw [← List.length_pos_iff, type.length_flatMap_bytes]
              exact Nat.mul_pos (List.length_pos_iff.mpr none) type.size_pos
            obtain ⟨buffer, live, inside⟩ := Arena.inside_of_put wellFormed ended nonempty
            exact ⟨none, address, buffer, length, rfl, few, rfl, live, inside,
              (Action.after_of_ok ended).symm⟩

theorem setElement_sameTables {after : Arena} (wellFormed : arena.WellFormed) {word : type.Word}
    (ended : field.setElement type index element word arena = .ok () after) :
    Arena.SameTables arena after := by
  obtain ⟨address, _, located, -⟩ := located_of_setElement wellFormed ended
  rw [setElement_of_located located] at ended
  rw [← Action.after_of_ok ended]
  exact Arena.put_sameTables field.buffer address _ arena

theorem setSlice_sameTables {after : Arena} (wellFormed : arena.WellFormed) {words : List type.Word}
    (ended : field.setSlice type index words arena = .ok () after) : Arena.SameTables arena after := by
  rcases setSlice_ok wellFormed ended with ⟨-, rfl⟩ | ⟨-, address, _, _, -, -, -, -, -, rfl⟩
  · exact Std.Refl.refl _
  · exact Arena.put_sameTables field.buffer address _ arena

theorem inside_of_getElement (wellFormed : arena.WellFormed) {word : type.Word}
    (answered : field.getElement type index element arena = .ok word) :
    ∃ address, field.address type index element = .ok address ∧
      address + type.size ≤ arena.extent field.buffer := by
  obtain ⟨address, located, answered⟩ := bind_eq_ok.mp answered
  obtain ⟨bytes, read, -⟩ := bind_eq_ok.mp answered
  obtain ⟨buffer, live, inside⟩ := Arena.inside_of_read wellFormed read type.size_pos.ne'
  exact ⟨address, located, inside⟩

theorem inside_of_getSlice (wellFormed : arena.WellFormed) (counted : field.kind.length = .ok length)
    (nonempty : length ≠ 0) {words : List type.Word}
    (answered : field.getSlice type index arena = .ok words) :
    ∃ address, field.address type index 0 = .ok address ∧
      address + length * type.size ≤ arena.extent field.buffer := by
  simp only [getSlice, counted, bind_eq_ok, Except.ok.injEq, exists_eq_left', nonempty, if_false]
    at answered
  obtain ⟨address, located, -, -, bytes, read, -⟩ := answered
  have size : length * type.size ≠ 0 := Nat.mul_ne_zero nonempty type.size_pos.ne'
  obtain ⟨buffer, live, inside⟩ := Arena.inside_of_read wellFormed read size
  exact ⟨address, located, inside⟩

theorem getSlice_of_setSlice {after : Arena} (wellFormed : arena.WellFormed)
    {words old : List type.Word} (ended : field.setSlice type index words arena = .ok () after)
    (answered : field.getSlice type index arena = .ok old) :
    field.getSlice type index after = .ok (words ++ old.drop words.length) := by
  rcases setSlice_ok wellFormed ended with
    ⟨rfl, rfl⟩ | ⟨nonempty, address, buffer, length, counted, few, located, live, -, -⟩
  · exact answered
  · have some : length ≠ 0 := by
      have := List.length_pos_iff.mpr nonempty
      omega
    obtain ⟨_, same, inside⟩ := inside_of_getSlice wellFormed counted some answered
    cases located.symm.trans same
    obtain ⟨before, left, gotBefore, set, got⟩ :=
      getSlice_setSlice wellFormed live counted (fun _ => located) inside few
    cases gotBefore.symm.trans answered
    cases set.symm.trans ended
    exact got

theorem getElement_of_setSlice {after : Arena} (wellFormed : arena.WellFormed)
    {words : List type.Word} (ended : field.setSlice type index words arena = .ok () after)
    {word : type.Word} (listed : words[element]? = some word) :
    field.getElement type index element after = .ok word := by
  rcases setSlice_ok wellFormed ended with
    ⟨rfl, rfl⟩ | ⟨-, address, buffer, length, counted, few, located, live, inside, rfl⟩
  · cases listed
  · obtain ⟨rfl, rfl, -⟩ := address_eq_ok located
    obtain ⟨bound, rfl⟩ := List.getElem?_eq_some_iff.mp listed
    have start : field.start index element =
        field.start index 0 + element * field.kind.elementType.size := by
      simp [Variable.start]
    have parts : words.flatMap field.kind.elementType.bytes =
        (words.take element).flatMap field.kind.elementType.bytes ++
          (field.kind.elementType.bytes words[element] ++
            (words.drop (element + 1)).flatMap field.kind.elementType.bytes) := by
      rw [← List.flatMap_cons, ← List.drop_eq_getElem_cons, ← List.flatMap_append,
        List.take_append_drop]
    have before : ((words.take element).flatMap field.kind.elementType.bytes).length =
        element * field.kind.elementType.size := by
      rw [ElementType.length_flatMap_bytes, List.length_take, Nat.min_eq_left (Nat.le_of_lt bound)]
    rw [parts] at inside ⊢
    have read := Arena.bytesFrom_put_part wellFormed inside
    simp only [List.length_append, before, ElementType.length_bytes, ← start] at read inside
    have same := Arena.put_sameTables field.buffer (field.start index 0)
      ((words.take element).flatMap field.kind.elementType.bytes ++
        (field.kind.elementType.bytes words[element] ++
          (words.drop (element + 1)).flatMap field.kind.elementType.bytes)) arena
    obtain ⟨left, stillLive, -⟩ := same.live live
    have still : field.start index element + field.kind.elementType.size ≤
        arena.extent field.buffer := by omega
    have here := address_eq counted (Nat.lt_of_lt_of_le bound few) (Arena.start_lt wellFormed still)
    rw [← same.extent] at still
    rw [getElement_of_inside (same.wellFormed wellFormed) stillLive here still, read,
      ElementType.ofBytes_bytes]

end Variable

/-! ## Records that the buffer reaches -/

namespace Window

variable {window : Window} {arena : Arena} {declared : List (String × FieldKind)} {name : String}
  {field : Variable} {index length : Nat}

def Reaches (window : Window) (arena : Arena) (index : Nat) : Prop :=
  (index + 1) * window.objectSize ≤ arena.extent window.buffer

theorem Reaches.of_sameTables {after : Arena} (reached : window.Reaches arena index)
    (same : Arena.SameTables arena after) : window.Reaches after index := by
  rw [Reaches, same.extent]
  exact reached

theorem Reaches.present (reached : window.Reaches arena index) (positive : 0 < window.objectSize) :
    ∃ buffer, arena.buffers.get? window.buffer = some buffer := by
  have record : 0 < arena.extent window.buffer :=
    Nat.lt_of_lt_of_le (Nat.mul_pos (Nat.succ_pos index) positive) reached
  cases listed : arena.buffers.get? window.buffer with
  | some buffer => exact ⟨buffer, rfl⟩
  | none => simp [Arena.extent, Arena.tables_get?, listed] at record

theorem Reaches.slice_inside (reached : window.Reaches arena index)
    (built : Schema.build declared = .ok window.schema)
    (found : window.fieldVariable? name = some field) (counted : field.kind.length = .ok length) :
    field.start index 0 + length * field.kind.elementType.size ≤ arena.extent field.buffer := by
  rw [fieldVariable?_buffer found]
  exact (Window.slice_inside built found counted index).trans reached

theorem Reaches.slices (reached : window.Reaches arena index) (wellFormed : arena.WellFormed)
    (built : Schema.build declared = .ok window.schema)
    (found : window.fieldVariable? name = some field) (counted : field.kind.length = .ok length) :
    (∃ words, field.getSlice field.kind.elementType index arena = .ok words) ∧
      ∀ words, words.length ≤ length → ∃ after,
        field.setSlice field.kind.elementType index words arena = .ok () after := by
  obtain ⟨buffer, present⟩ := reached.present (Schema.build_laidOut built).2
  rw [← fieldVariable?_buffer found] at present
  have inside := reached.slice_inside built found counted
  have located (nonempty : length ≠ 0) :
      field.address field.kind.elementType index 0 = .ok (field.start index 0) := by
    have slot := Nat.mul_le_mul_right field.kind.elementType.size (Nat.pos_of_ne_zero nonempty)
    have first : field.start index 0 + field.kind.elementType.size ≤ arena.extent field.buffer := by
      omega
    exact Variable.address_eq counted (Nat.pos_of_ne_zero nonempty) (Arena.start_lt wellFormed first)
  constructor
  · have nothing : ([] : List field.kind.elementType.Word).length ≤ length := Nat.zero_le _
    obtain ⟨old, -, read, -, -⟩ := Variable.getSlice_setSlice wellFormed present counted located
      inside nothing
    exact ⟨old, read⟩
  · intro words few
    obtain ⟨-, after, -, set, -⟩ := Variable.getSlice_setSlice wellFormed present counted located
      inside few
    exact ⟨after, set⟩

namespace Cell

theorem stop_le_extent (cell : window.Cell) (built : Schema.build declared = .ok window.schema)
    (reached : window.Reaches arena cell.index) : cell.stop ≤ arena.extent cell.field.buffer := by
  rw [fieldVariable?_buffer cell.found]
  exact (cell.inside built).2.trans reached

theorem located (cell : window.Cell) (wellFormed : arena.WellFormed)
    (built : Schema.build declared = .ok window.schema) (reached : window.Reaches arena cell.index) :
    cell.field.address cell.type cell.index cell.element = .ok cell.start := by
  obtain ⟨length, counted, within⟩ := cell.within
  have inside := cell.stop_le_extent built reached
  exact Variable.address_eq counted within (Arena.start_lt wellFormed inside)

theorem get_and_set (cell : window.Cell) (wellFormed : arena.WellFormed)
    (built : Schema.build declared = .ok window.schema) (reached : window.Reaches arena cell.index) :
    (∃ word, cell.get arena = .ok word) ∧ ∀ word, ∃ after, cell.set word arena = .ok () after := by
  obtain ⟨buffer, present⟩ := reached.present (Schema.build_laidOut built).2
  rw [← fieldVariable?_buffer cell.found] at present
  have located := cell.located wellFormed built reached
  have inside := cell.stop_le_extent built reached
  exact ⟨⟨_, Variable.getElement_of_inside wellFormed present located inside⟩, fun word =>
    ⟨_, (Variable.getElement_setElement wellFormed present located inside word).1⟩⟩

end Cell

end Window

end TorusEngine.Paging
