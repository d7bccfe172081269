import TorusEngine.Settings.Writing
import TorusEngine.Proofs.Json.Ensured
import TorusEngine.Proofs.Json.Records

/-!
# Saved configurations

Loading ensures that the numbers of a configuration are sizes and finite doubles (`Sound`), so every
loaded configuration can be saved, and what was saved is loaded (`saved_config_loads`). The whole numbers
come back. The doubles come back as far as their texts are read exactly (`ConfigReread`): the printer
writes the shortest decimal, but the reader multiplies and divides doubles to scale it, so a double with
a long text may come back as its neighbour (`saved_radius_differs`).
-/

namespace TorusEngine.Settings

open Json (printedDecimal Document IsShort Member Problem Reader Reread)
open Json.Reader (Ensures Filled Plain Reads bind_ok record_ensures record_reads)
open Paging (MemoryConfig)
open Relevance (RelevanceConfig)
open Drawing (DrawingConfig)
open Torus (Geometry)

/-! ## What loading ensures -/

structure MemorySound (config : MemoryConfig) : Prop where
  pageSize : config.pageSize < Size.limit
  maxPages : config.maxPages < Size.limit
  minFreeDelay : config.minFreeDelay < Size.limit
  maxFreeDelay : config.maxFreeDelay < Size.limit
  initialCapacity : config.initialCapacity < Size.limit

structure GeometrySound (geometry : Geometry Float) : Prop where
  cellSize : geometry.cellSize.isFinite = true
  cells : geometry.cells < 0x100000000

structure RelevanceSound (config : RelevanceConfig) : Prop where
  geometry : GeometrySound config.geometry
  radius : config.radius.isFinite = true

structure DrawingSound (config : DrawingConfig) : Prop where
  visibilityRadius : config.visibilityRadius.isFinite = true
  workerThreads : config.workerThreads < Size.limit
  listCapacity : config.listCapacity < Size.limit
  reportInterval : config.reportInterval < 0x100000000

structure Sound (config : EngineConfig) : Prop where
  memory : MemorySound config.memory
  relevance : RelevanceSound config.relevance
  drawing : DrawingSound config.drawing

theorem sound_standard : Sound {} where
  memory := by constructor <;> decide
  relevance := ⟨⟨by decide +kernel, by decide⟩, by decide +kernel⟩
  drawing := ⟨by decide +kernel, by decide, by decide, by decide⟩

section Fields

variable {σ α : Type} {required : Bool} {name : String} {value : Reader α} {put : σ → α → σ}

theorem field_ensures {good : σ → Prop} {said : α → Prop} (ensured : Ensures value said)
    (kept : ∀ record v, good record → said v → good (put record v)) (record : σ) (holds : good record) :
    Ensures ((Form.field required name value put).read record) good :=
  ensured.bind fun v said => .pure (kept record v holds said)

theorem field_reads {text : List Char} {v : α} (reads : Reads value text v) (record : σ) :
    Reads ((Form.field required name value put).read record) text (put record v) := by
  intro blanks rest blank ends
  exact bind_ok (reads blank ends)

end Fields

/-! ## Reading each part -/

section Readers

variable (depth : Nat)

theorem size_reads {n : Nat} (small : n < Size.limit) :
    Reads Form.size ((Document.natural n).print depth).toList n := by
  rw [Document.print]
  exact Json.Reader.sizeBelow_reads small le_rfl

theorem word_reads {n : Nat} (small : n < 0x100000000) :
    Reads Form.word ((Document.natural n).print depth).toList n := by
  rw [Document.print]
  exact Json.Reader.sizeBelow_reads small (by norm_num)

end Readers

theorem memory_ensures : Ensures Form.memory MemorySound := by
  have size := Json.Reader.sizeBelow_ensures Size.limit
  refine record_ensures ?_ sound_standard.memory
  simp only [List.forall_mem_cons]
  exact ⟨field_ensures size fun _ _ holds said => { holds with pageSize := said },
    field_ensures size fun _ _ holds said => { holds with maxPages := said },
    field_ensures size fun _ _ holds said => { holds with minFreeDelay := said },
    field_ensures size fun _ _ holds said => { holds with maxFreeDelay := said },
    field_ensures size fun _ _ holds said => { holds with initialCapacity := said }, nofun⟩

theorem memory_reads {config : MemoryConfig} (sound : MemorySound config) (depth : Nat) :
    Reads Form.memory ((memoryDocument config).print depth).toList config := by
  refine record_reads (by simp) ?_
  exact .next (by simp [Plain]) rfl (by simp) (field_reads (size_reads _ sound.pageSize) _)
    (.next (by simp [Plain]) rfl (by simp) (field_reads (size_reads _ sound.maxPages) _)
    (.next (by simp [Plain]) rfl (by simp) (field_reads (size_reads _ sound.minFreeDelay) _)
    (.next (by simp [Plain]) rfl (by simp) (field_reads (size_reads _ sound.maxFreeDelay) _)
    (.next (by simp [Plain]) rfl (by simp) (field_reads (size_reads _ sound.initialCapacity) _)
    (.done rfl)))))

theorem geometry_ensures : Ensures Form.geometry GeometrySound := by
  refine record_ensures ?_ ⟨by decide +kernel, by decide⟩
  simp only [List.forall_mem_cons]
  exact ⟨field_ensures Json.Reader.float_ensures fun _ _ holds said => { holds with cellSize := said },
    field_ensures (Json.Reader.sizeBelow_ensures _) fun _ _ holds said => { holds with cells := said },
    nofun⟩

structure GeometryReread (geometry back : Geometry Float) : Prop where
  cellSize : Reread geometry.cellSize back.cellSize
  cells : back.cells = geometry.cells

theorem geometry_reads {geometry : Geometry Float} (sound : GeometrySound geometry) (depth : Nat) :
    ∃ back, Reads Form.geometry ((geometryDocument geometry).print depth).toList back ∧
      GeometryReread geometry back := by
  obtain ⟨cellSize, reads, reread⟩ := Json.Reader.float_reads sound.cellSize (depth + 1)
  refine ⟨⟨cellSize, geometry.cells⟩, record_reads (by simp) ?_, reread, rfl⟩
  exact .next (by simp [Plain]) rfl (by simp) (field_reads reads _)
    (.next (by simp [Plain]) rfl (by simp) (field_reads (word_reads _ sound.cells) _)
    (.done rfl))

theorem relevance_ensures : Ensures Form.relevance RelevanceSound := by
  refine record_ensures ?_ sound_standard.relevance
  simp only [List.forall_mem_cons]
  exact ⟨field_ensures geometry_ensures fun _ _ holds said => { holds with geometry := said },
    field_ensures Json.Reader.float_ensures fun _ _ holds said => { holds with radius := said }, nofun⟩

structure RelevanceReread (config back : RelevanceConfig) : Prop where
  geometry : GeometryReread config.geometry back.geometry
  radius : Reread config.radius back.radius

theorem relevance_reads {config : RelevanceConfig} (sound : RelevanceSound config) (depth : Nat) :
    ∃ back, Reads Form.relevance ((relevanceDocument config).print depth).toList back ∧
      RelevanceReread config back := by
  obtain ⟨geometry, reads, reread⟩ := geometry_reads sound.geometry (depth + 1)
  obtain ⟨radius, reads', reread'⟩ := Json.Reader.float_reads sound.radius (depth + 1)
  refine ⟨⟨geometry, radius⟩, record_reads (by simp) ?_, reread, reread'⟩
  exact .next (by simp [Plain]) rfl (by simp) (field_reads reads _)
    (.next (by simp [Plain]) rfl (by simp) (field_reads reads' _)
    (.done rfl))

theorem drawing_ensures : Ensures Form.drawing DrawingSound := by
  have size := Json.Reader.sizeBelow_ensures Size.limit
  refine record_ensures ?_ sound_standard.drawing
  simp only [List.forall_mem_cons]
  exact ⟨field_ensures Json.Reader.float_ensures
      fun _ _ holds said => { holds with visibilityRadius := said },
    field_ensures size fun _ _ holds said => { holds with workerThreads := said },
    field_ensures size fun _ _ holds said => { holds with listCapacity := said },
    field_ensures (Json.Reader.sizeBelow_ensures _)
      fun _ _ holds said => { holds with reportInterval := said }, nofun⟩

structure DrawingReread (config back : DrawingConfig) : Prop where
  visibilityRadius : Reread config.visibilityRadius back.visibilityRadius
  workerThreads : back.workerThreads = config.workerThreads
  listCapacity : back.listCapacity = config.listCapacity
  reportInterval : back.reportInterval = config.reportInterval

theorem drawing_reads {config : DrawingConfig} (sound : DrawingSound config) (depth : Nat) :
    ∃ back, Reads Form.drawing ((drawingDocument config).print depth).toList back ∧
      DrawingReread config back := by
  obtain ⟨visibilityRadius, reads, reread⟩ :=
    Json.Reader.float_reads sound.visibilityRadius (depth + 1)
  refine ⟨{ config with visibilityRadius }, record_reads (by simp) ?_, reread, rfl, rfl, rfl⟩
  exact .next (by simp [Plain]) rfl (by simp) (field_reads reads _)
    (.next (by simp [Plain]) rfl (by simp) (field_reads (size_reads _ sound.workerThreads) _)
    (.next (by simp [Plain]) rfl (by simp) (field_reads (size_reads _ sound.listCapacity) _)
    (.next (by simp [Plain]) rfl (by simp) (field_reads (word_reads _ sound.reportInterval) _)
    (.done rfl))))

/-! ## Whole configurations -/

theorem engine_ensures : Ensures Form.engine Sound := by
  refine record_ensures ?_ sound_standard
  simp only [List.forall_mem_cons]
  exact ⟨field_ensures memory_ensures fun _ _ holds said => { holds with memory := said },
    field_ensures relevance_ensures fun _ _ holds said => { holds with relevance := said },
    field_ensures drawing_ensures fun _ _ holds said => { holds with drawing := said }, nofun⟩

/-- The whole numbers of a configuration come back, and its doubles as far as their texts let them. -/
structure ConfigReread (config back : EngineConfig) : Prop where
  memory : back.memory = config.memory
  relevance : RelevanceReread config.relevance back.relevance
  drawing : DrawingReread config.drawing back.drawing

theorem engine_reads {config : EngineConfig} (sound : Sound config) (depth : Nat) :
    ∃ back, Reads Form.engine (config.document.print depth).toList back ∧ ConfigReread config back := by
  have reads := memory_reads sound.memory (depth + 1)
  obtain ⟨relevance, reads', reread'⟩ := relevance_reads sound.relevance (depth + 1)
  obtain ⟨drawing, reads'', reread''⟩ := drawing_reads sound.drawing (depth + 1)
  refine ⟨⟨config.memory, relevance, drawing⟩, record_reads (by simp) ?_, rfl, reread', reread''⟩
  exact .next (by simp [Plain]) rfl (by simp) (field_reads reads _)
    (.next (by simp [Plain]) rfl (by simp) (field_reads reads' _)
    (.next (by simp [Plain]) rfl (by simp) (field_reads reads'' _)
    (.done rfl)))

namespace EngineConfig

variable {text : String} {config : EngineConfig}

theorem sound_of_load (loaded : load (some text) = .ok config) : Sound config := by
  rw [load] at loaded
  cases read : Form.engine.run text with
  | error problem =>
      rw [read] at loaded
      cases loaded
  | ok value =>
      rw [read] at loaded
      cases loaded
      exact engine_ensures.run read

theorem load_print (sound : Sound config) :
    ∃ back, load (some config.print) = .ok back ∧ ConfigReread config back := by
  obtain ⟨back, reads, reread⟩ := engine_reads sound 0
  refine ⟨back, ?_, reread⟩
  rw [load, print, Document.pretty, reads.run]
  rfl

structure Short (config : EngineConfig) : Prop where
  cellSize : IsShort config.relevance.geometry.cellSize
  radius : IsShort config.relevance.radius
  visibilityRadius : IsShort config.drawing.visibilityRadius

instance (config : EngineConfig) : Decidable (Short config) :=
  decidable_of_iff (IsShort config.relevance.geometry.cellSize ∧ IsShort config.relevance.radius ∧
      IsShort config.drawing.visibilityRadius)
    ⟨fun short => ⟨short.1, short.2.1, short.2.2⟩,
      fun short => ⟨short.cellSize, short.radius, short.visibilityRadius⟩⟩

theorem eq_of_short {back : EngineConfig} (reread : ConfigReread config back) (short : Short config) :
    back = config := by
  obtain ⟨memory, ⟨⟨cellSize, cells⟩, radius⟩, ⟨visibilityRadius, threads, capacity, interval⟩⟩ := reread
  obtain ⟨_, ⟨⟨_, _⟩, _⟩, ⟨_, _, _, _⟩⟩ := config
  obtain ⟨_, ⟨⟨_, _⟩, _⟩, ⟨_, _, _, _⟩⟩ := back
  simp only at *
  subst memory cells threads capacity interval
  rw [cellSize.same short.cellSize, radius.same short.radius,
    visibilityRadius.same short.visibilityRadius]

/-- A configuration that was loaded can be saved and loaded again. Its whole numbers come back, and its
doubles as far as their texts let them: all of it, if those are short. -/
theorem saved_config_loads (loaded : load (some text) = .ok config) :
    ∃ back, load (some config.print) = .ok back ∧ ConfigReread config back ∧
      (Short config → back = config) := by
  obtain ⟨back, again, reread⟩ := load_print (sound_of_load loaded)
  exact ⟨back, again, reread, eq_of_short reread⟩

theorem exists_of_toOption {outcome : Except LoadFailure EngineConfig} {answer : Type}
    {ask : EngineConfig → answer} {told : answer} (found : outcome.toOption.map ask = some told) :
    ∃ config, outcome = .ok config ∧ ask config = told := by
  cases outcome with
  | error failure => cases found
  | ok config => exact ⟨config, rfl, Option.some.inj found⟩

theorem saved_config_loads_short : ∃ config back,
    load (some "\x7b\"relevance\": \x7b\"relevance_radius_cells\": -2.5e22\x7d\x7d") = .ok config ∧
      load (some config.print) = .ok back ∧ back = config := by
  have found :
      (load (some "\x7b\"relevance\": \x7b\"relevance_radius_cells\": -2.5e22\x7d\x7d")).toOption.map
        (fun config => decide (Short config)) = some true := by decide +kernel
  obtain ⟨config, loaded, short⟩ := exists_of_toOption found
  obtain ⟨back, again, -, same⟩ := saved_config_loads loaded
  exact ⟨config, back, loaded, again, same (of_decide_eq_true short)⟩

/-- A radius of sixteen digits is printed with a zero more, and its text is read as the next smaller
double. -/
theorem saved_radius_differs : ∃ config back,
    load (some "\x7b\"relevance\": \x7b\"relevance_radius_cells\": 4000000000000002\x7d\x7d") = .ok config ∧
      load (some config.print) = .ok back ∧
      config.relevance.radius.toBits = 0x432c6bf526340004 ∧
      back.relevance.radius.toBits = 0x432c6bf526340003 := by
  have found :
      (load (some "\x7b\"relevance\": \x7b\"relevance_radius_cells\": 4000000000000002\x7d\x7d")).toOption.map
        (·.relevance.radius.toBits) = some 0x432c6bf526340004 := by decide +kernel
  obtain ⟨config, loaded, radius⟩ := exists_of_toOption found
  obtain ⟨back, again, -, reread, -⟩ := load_print (sound_of_load loaded)
  refine ⟨config, back, loaded, again, radius, ?_⟩
  have said := reread.radius.said
  have scaled : (Json.NumberText.toDouble (Numeral.Binary64.isNegative 0x432c6bf526340004) 40000000000000020
      (-1)).toOption.map (·.toFloat.toBits) = some 0x432c6bf526340003 := by decide +kernel
  have printed : printedDecimal config.relevance.radius = ⟨40000000000000020, -1⟩ := by
    rw [printedDecimal, radius]
    decide +kernel
  rw [printed, radius] at said
  rw [said] at scaled
  exact Option.some.inj scaled

end EngineConfig

end TorusEngine.Settings
