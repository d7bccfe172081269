import TorusEngine.Proofs.Paging.Limits

/-!
# Packed schemas

A schema is packed if its fields follow each other from the first byte on without gaps and fill a record
of at least one byte. These are the schemas that building makes, each from its own declarations
(`build_eq_ok_iff`). In a record of a packed schema all fields lie inside and apart
(`Packed.separate`). A window over any schema divides by zero if its records are empty, and only then
(`make_divides_iff`).
-/

namespace TorusEngine.Paging

theorem FieldKind.declaredCount_le {kind : FieldKind} {count : Nat}
    (counted : kind.declaredCount? = some count) : count ≤ kind.width := by
  have elements : count ≤ kind.count := by
    cases kind with
    | byte | short | int | float => cases counted
    | byteArray | shortArray | intArray | floatArray =>
        cases counted
        exact le_rfl
    | vec4Array =>
        cases counted
        exact Nat.le_mul_of_pos_right _ (by decide)
  exact elements.trans (Nat.le_mul_of_pos_left _ kind.elementType.size_pos)

def FieldKind.Sized (kind : FieldKind) : Prop := ∀ count ∈ kind.declaredCount?, count < Size.limit

structure Field.Sized (field : Field) : Prop where
  kind : field.kind.Sized
  offset : field.offset < Size.limit

namespace Schema

def declared (schema : Schema) : List (String × FieldKind) :=
  schema.fields.map fun field => (field.name, field.kind)

structure Packed (schema : Schema) : Prop where
  /-- A field begins behind the bytes of all fields before it. -/
  offset : ∀ i field, schema.fields[i]? = some field →
    field.offset = recordWidth (schema.declared.take i)
  objectSize : schema.objectSize = recordWidth schema.declared
  positive : 0 < schema.objectSize
  fits : schema.objectSize < Size.limit

structure Separate (schema : Schema) : Prop where
  inside : ∀ field ∈ schema.fields, field.offset + field.kind.width ≤ schema.objectSize
  apart : schema.fields.Pairwise fun first second => first.offset + first.kind.width ≤ second.offset

structure Sized (schema : Schema) : Prop where
  fields : ∀ field ∈ schema.fields, field.Sized
  objectSize : schema.objectSize < Size.limit

/-! ## Placed fields -/

section Placed

variable {declared : List (String × FieldKind)} {fields : List Field} {field : Field}

theorem map_placed (declared : List (String × FieldKind)) (offset : Nat) :
    (placed offset declared).map (fun field => (field.name, field.kind)) = declared := by
  induction declared generalizing offset with
  | nil => rfl
  | cons entry rest ih => rw [placed, List.map_cons, ih]

theorem offset_of_placed {offset i : Nat} (found : (placed offset declared)[i]? = some field) :
    field.offset = offset + recordWidth (declared.take i) := by
  induction declared generalizing offset i with
  | nil => cases found
  | cons entry rest ih =>
      obtain ⟨name, kind⟩ := entry
      cases i with
      | zero =>
          cases found
          rfl
      | succ i =>
          rw [placed, List.getElem?_cons_succ] at found
          rw [ih found, List.take_succ_cons, recordWidth_cons, Nat.add_assoc]

theorem placed_of_offsets {offset : Nat} (offsets : ∀ i field, fields[i]? = some field →
    field.offset = offset + recordWidth ((fields.map fun field => (field.name, field.kind)).take i)) :
    fields = placed offset (fields.map fun field => (field.name, field.kind)) := by
  induction fields generalizing offset with
  | nil => rfl
  | cons first rest ih =>
      have begins : first.offset = offset := offsets 0 first rfl
      have later := @ih (offset + first.kind.width) fun i field found => by
        rw [offsets (i + 1) field found, List.map_cons, List.take_succ_cons, recordWidth_cons,
          Nat.add_assoc]
      rw [List.map_cons, placed, ← later, ← begins]

theorem placed_inside {offset : Nat} (member : field ∈ placed offset declared) :
    offset ≤ field.offset ∧ field.offset + field.kind.width ≤ offset + recordWidth declared := by
  induction declared generalizing offset with
  | nil => cases member
  | cons entry rest ih =>
      obtain ⟨name, kind⟩ := entry
      rw [recordWidth_cons]
      rcases List.mem_cons.mp member with rfl | later
      · dsimp only
        omega
      · have inside := ih later
        omega

theorem placed_apart (declared : List (String × FieldKind)) (offset : Nat) :
    (placed offset declared).Pairwise fun first second =>
      first.offset + first.kind.width ≤ second.offset := by
  induction declared generalizing offset with
  | nil => exact .nil
  | cons entry rest ih => exact .cons (fun _ later => (placed_inside later).1) (ih _)

end Placed

/-! ## Packed schemas are those that are built -/

variable {schema : Schema}

theorem Packed.eq_placed (packed : schema.Packed) :
    schema = ⟨placed 0 schema.declared, recordWidth schema.declared⟩ := by
  have fields : schema.fields = placed 0 schema.declared := placed_of_offsets fun i field found =>
    (packed.offset i field found).trans (Nat.zero_add _).symm
  exact congr (congrArg Schema.mk fields) packed.objectSize

theorem build_eq_ok_iff (declared : List (String × FieldKind)) :
    build declared = .ok schema ↔ declared = schema.declared ∧ schema.Packed := by
  constructor
  · intro built
    have kind := build_built declared
    rw [built] at kind
    cases kind with
    | laidOut positive fits sized =>
        rw [build_of_fits positive fits] at built
        cases built
        have own : (⟨placed 0 declared, recordWidth declared⟩ : Schema).declared = declared :=
          map_placed declared 0
        refine ⟨own.symm, fun i field found => ?_, own.symm ▸ rfl, positive, fits⟩
        rw [own, offset_of_placed found, Nat.zero_add]
  · rintro ⟨rfl, packed⟩
    have built := build_of_fits (packed.objectSize ▸ packed.positive) (packed.objectSize ▸ packed.fits)
    rw [built, ← packed.eq_placed]

theorem Packed.separate (packed : schema.Packed) : schema.Separate := by
  have fields : schema.fields = placed 0 schema.declared := congrArg Schema.fields packed.eq_placed
  constructor
  case inside =>
    intro field member
    rw [packed.objectSize, ← Nat.zero_add (recordWidth _)]
    exact (placed_inside (fields ▸ member)).2
  case apart => exact fields ▸ placed_apart schema.declared 0

theorem Packed.sized (packed : schema.Packed) : schema.Sized := by
  have fits := packed.fits
  refine ⟨fun field member => ?_, fits⟩
  have ends := packed.separate.inside field member
  constructor
  case kind =>
    intro count counted
    have many := FieldKind.declaredCount_le counted
    omega
  case offset => omega

end Schema

/-! ## Windows -/

namespace Arena

variable {arena : Arena} {schema : Schema}

theorem make_divides (name : String) (config : MemoryConfig) (empty : schema.objectSize = 0) :
    Window.make name schema config arena = .error .divisionByZero arena := by
  have divided : Size.ceilDiv arena.pageSize schema.objectSize = .error .divisionByZero := if_pos empty
  rw [Hosted.make_eq, divided]

theorem make_divides_iff (wellFormed : arena.WellFormed) (name : String) (config : MemoryConfig) :
    (∃ after, Window.make name schema config arena = .error .divisionByZero after) ↔
      schema.objectSize = 0 := by
  refine ⟨fun ⟨after, divided⟩ => ?_, fun empty => ⟨arena, make_divides name config empty⟩⟩
  by_contra bytes
  have opened := make_opened wellFormed name (Nat.pos_of_ne_zero bytes) config
  rw [divided] at opened
  cases opened with
  | asked fits requested => cases requested

end Arena

end TorusEngine.Paging
