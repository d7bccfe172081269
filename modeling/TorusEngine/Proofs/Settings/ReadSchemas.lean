import TorusEngine.Proofs.Json.Arrays
import TorusEngine.Proofs.Paging.PackedSchemas
import TorusEngine.Proofs.Settings.SavedConfigs

/-!
# Schemas that are read

The layout of a schema that is read is taken from the text. For every schema whose numbers are sizes there
is a text that says it (`exists_text_iff`), whether its fields are laid out as building would or not. Only
the packed ones among them are schemas that building makes (`schemas_read_unchecked`). One whose fields
overlap is read as well, and a window over records without bytes divides by zero
(`read_schema_overlaps`).
-/

namespace TorusEngine.Settings

open Json (Reader)
open Json.Reader (CaseEnsures Ensures Item choice_ensures list_ensures list_item ordered_item plain_item
  record_ensures sizeBelow_ensures sizeBelow_item tagged_item text_item)
open Json.Text (array quoted tagged)
open Paging (Arena Field FieldKind MemoryConfig Schema Window)

/-! ## What reading ensures -/

theorem arrayKind_ensures {kind : Nat → FieldKind} (counts : ∀ n, (kind n).declaredCount? = some n) :
    CaseEnsures FieldKind.Sized (Form.arrayKind kind).2 :=
  (sizeBelow_ensures Size.limit).bind fun n small => .pure fun count counted => by
    rw [counts n] at counted
    exact Option.some.inj counted ▸ small

theorem kind_ensures : Ensures Form.kind FieldKind.Sized := by
  refine choice_ensures ?_
  simp only [List.forall_mem_cons]
  exact ⟨nofun, nofun, nofun, nofun, arrayKind_ensures fun _ => rfl, arrayKind_ensures fun _ => rfl,
    arrayKind_ensures fun _ => rfl, arrayKind_ensures fun _ => rfl, arrayKind_ensures fun _ => rfl, nofun⟩

theorem schemaField_ensures : Ensures Form.schemaField Field.Sized := by
  refine record_ensures ?_ ⟨nofun, by decide⟩
  simp only [List.forall_mem_cons]
  exact ⟨field_ensures (fun _ _ _ _ => trivial : Ensures Reader.text fun _ => True)
      fun _ _ holds _ => { holds with },
    field_ensures kind_ensures fun _ _ holds said => { holds with kind := said },
    field_ensures (sizeBelow_ensures _) fun _ _ holds said => { holds with offset := said }, nofun⟩

theorem schema_ensures : Ensures Form.schema Schema.Sized := by
  refine record_ensures ?_ ⟨nofun, by decide⟩
  simp only [List.forall_mem_cons]
  exact ⟨field_ensures (list_ensures schemaField_ensures)
      fun _ _ holds said => { holds with fields := said },
    field_ensures (sizeBelow_ensures _) fun _ _ holds said => { holds with objectSize := said }, nofun⟩

/-! ## A text for every schema -/

def kindText (kind : FieldKind) : List Char :=
  match kind.declaredCount? with
  | none => quoted kind.tag
  | some count => tagged kind.tag (toString count).toList

def fieldText (field : Field) : List Char :=
  array [quoted field.name, kindText field.kind, (toString field.offset).toList]

def schemaText (schema : Schema) : List Char :=
  array [array (schema.fields.map fieldText), (toString schema.objectSize).toList]

theorem size_item {n : Nat} (small : n < Size.limit) : Item Form.size (toString n).toList n :=
  sizeBelow_item small le_rfl

theorem field_item {σ α : Type} {required : Bool} {name : String} {value : Reader α}
    {put : σ → α → σ} {text : List Char} {v : α} (item : Item value text v) (record : σ) :
    Item ((Form.field required name value put).read record) text (put record v) :=
  ⟨item.begins, field_reads item.reads record⟩

theorem kind_item {kind : FieldKind} (sized : kind.Sized) :
    Item Form.kind (kindText kind) kind := by
  cases kind with
  | byte | short | int | float => exact plain_item rfl
  | byteArray count | shortArray count | intArray count | floatArray count | vec4Array count =>
      refine tagged_item rfl fun blanks rest blank ends => ?_
      exact Json.Reader.bind_ok ((size_item (sized count rfl)).reads blank ends)

theorem schemaField_item {field : Field} (sized : field.Sized) :
    Item Form.schemaField (fieldText field) field :=
  ordered_item nofun (.next (field_item (text_item field.name) _)
    (.next (field_item (kind_item sized.kind) _)
    (.next (field_item (size_item sized.offset) _) .done)))

theorem schema_item {schema : Schema} (sized : schema.Sized) :
    Item Form.schema (schemaText schema) schema := by
  have fields : List.Forall₂ (Item Form.schemaField) (schema.fields.map fieldText) schema.fields := by
    rw [List.forall₂_map_left_iff, List.forall₂_same]
    exact fun field member => schemaField_item (sized.fields field member)
  exact ordered_item nofun (.next (field_item (list_item fields) _)
    (.next (field_item (size_item sized.objectSize) _) .done))

theorem exists_text_iff {schema : Schema} :
    (∃ text, Form.schema.run text = .ok schema) ↔ schema.Sized := by
  constructor
  · rintro ⟨text, read⟩
    exact schema_ensures.run read
  · intro sized
    have reads := (schema_item sized).reads
    rw [← String.toList_ofList (l := schemaText schema)] at reads
    exact ⟨_, reads.run⟩

/-- Every schema of sizes can be read. Building makes those that are packed, each from its own
declarations, and in their records all fields lie inside and apart. A window divides by zero if the
schema that it is given has no bytes, and only then. -/
theorem schemas_read_unchecked {config : MemoryConfig} {arena : Arena}
    (made : Arena.make config = .ok arena) (calls : List Arena.Call) (schema : Schema) :
    ((∃ text, Form.schema.run text = .ok schema) ↔ schema.Sized) ∧
      (∀ declared, Schema.build declared = .ok schema ↔
        declared = schema.declared ∧ schema.Packed) ∧
      (schema.Packed → schema.Sized ∧ schema.Separate) ∧
      ∀ name config, (∃ after, Window.make name schema config (Arena.Call.afterAll calls arena) =
        .error .divisionByZero after) ↔ schema.objectSize = 0 := by
  have wellFormed := Arena.afterAll_wellFormed (Arena.make_wellFormed made) calls
  exact ⟨exists_text_iff, Schema.build_eq_ok_iff, fun packed => ⟨packed.sized, packed.separate⟩,
    fun name config => Arena.make_divides_iff wellFormed name config⟩

def sideBySide : Schema := ⟨[⟨"a", .short, 0⟩, ⟨"b", .byte, 2⟩], 3⟩

theorem schemas_read_unchecked_sideBySide : ∃ arena,
    Arena.make { pageSize := 4, maxPages := 3 } = .ok arena ∧
    (∃ text, Form.schema.run text = .ok sideBySide) ∧ sideBySide.Separate ∧
    ¬∃ after, Window.make "w" sideBySide {} (Arena.Call.afterAll [.createBuffer "c" 5] arena) =
      .error .divisionByZero after := by
  have made : Arena.make { pageSize := 4, maxPages := 3 } = .ok _ := rfl
  obtain ⟨read, built, sound, divides⟩ := schemas_read_unchecked made [.createBuffer "c" 5] sideBySide
  have packed : sideBySide.Packed := ((built [("a", .short), ("b", .byte)]).mp (by decide)).2
  obtain ⟨sized, separate⟩ := sound packed
  refine ⟨_, made, read.mpr sized, separate, fun divided => ?_⟩
  exact absurd ((divides "w" {}).mp divided) (by decide)

/-- Two fields on the same bytes, in a record that has none. -/
def overlapping : Schema := ⟨[⟨"a", .int, 0⟩, ⟨"b", .int, 2⟩], 0⟩

/-- Offsets and a size that building would not give are read, and the window over them divides by
zero. -/
theorem read_schema_overlaps :
    Form.schema.run ("\x7b\"fields\":[\x7b\"name\":\"a\",\"kind\":\"Int\",\"offset\":0\x7d," ++
      "\x7b\"name\":\"b\",\"kind\":\"Int\",\"offset\":2\x7d],\"object_size\":0\x7d") = .ok overlapping ∧
    Schema.build overlapping.declared = .ok ⟨[⟨"a", .int, 0⟩, ⟨"b", .int, 4⟩], 8⟩ ∧
    Schema.build overlapping.declared ≠ .ok overlapping ∧ ¬overlapping.Separate ∧
    ∃ arena, Arena.make { pageSize := 4, maxPages := 3 } = .ok arena ∧
      Window.make "w" overlapping {} arena = .error .divisionByZero arena := by
  refine ⟨by decide +kernel, by decide, by decide, fun separate => ?_, _, rfl, ?_⟩
  · exact absurd (separate.inside ⟨"a", .int, 0⟩ (.head _)) (by decide)
  · exact Arena.make_divides "w" {} rfl

end TorusEngine.Settings
