/-!
# Dictionaries

A dictionary maps keys to values and keeps its entries in the order in which their keys were first
inserted. It is read through `get?` and `entries`.
-/

namespace TorusEngine

/-- A finite map in order of insertion. No key has two entries. -/
structure Dictionary (κ ν : Type) where
  entries : List (κ × ν)
  distinct : (entries.map Prod.fst).Nodup

namespace Dictionary

instance {κ ν : Type} : EmptyCollection (Dictionary κ ν) where
  emptyCollection := ⟨[], List.nodup_nil⟩

variable {κ ν : Type} [DecidableEq κ]

/-! ## Lists of entries -/

private def lookup : List (κ × ν) → κ → Option ν
  | [], _ => none
  | (present, value) :: rest, key => if present = key then some value else lookup rest key

private def alter (change : ν → ν) : List (κ × ν) → κ → List (κ × ν)
  | [], _ => []
  | (present, value) :: rest, key =>
      if present = key then (present, change value) :: rest
      else (present, value) :: alter change rest key

private def put : List (κ × ν) → κ → ν → List (κ × ν)
  | [], key, value => [(key, value)]
  | (present, old) :: rest, key, value =>
      if present = key then (present, value) :: rest else (present, old) :: put rest key value

private theorem keys_alter (change : ν → ν) (entries : List (κ × ν)) (key : κ) :
    (alter change entries key).map Prod.fst = entries.map Prod.fst := by
  induction entries with
  | nil => rfl
  | cons entry rest ih =>
      rcases entry with ⟨present, old⟩
      by_cases hit : present = key <;> simp [alter, hit, ih]

private theorem put_of_absent {entries : List (κ × ν)} {key : κ} (absent : key ∉ entries.map Prod.fst)
    (value : ν) : put entries key value = entries ++ [(key, value)] := by
  induction entries with
  | nil => rfl
  | cons entry rest ih =>
      rcases entry with ⟨present, old⟩
      obtain ⟨different, later⟩ := List.ne_and_not_mem_of_not_mem_cons absent
      simp [put, Ne.symm different, ih later]

private theorem keys_put_of_present {entries : List (κ × ν)} {key : κ}
    (present : key ∈ entries.map Prod.fst) (value : ν) :
    (put entries key value).map Prod.fst = entries.map Prod.fst := by
  induction entries with
  | nil => cases present
  | cons entry rest ih =>
      rcases entry with ⟨found, old⟩
      by_cases hit : found = key
      · simp [put, hit]
      · have later : key ∈ rest.map Prod.fst := (List.mem_cons.mp present).resolve_left (Ne.symm hit)
        simp [put, hit, ih later]

private theorem nodup_put {entries : List (κ × ν)} (distinct : (entries.map Prod.fst).Nodup) (key : κ)
    (value : ν) : ((put entries key value).map Prod.fst).Nodup := by
  by_cases present : key ∈ entries.map Prod.fst
  · rwa [keys_put_of_present present]
  · rw [put_of_absent present, List.map_append]
    refine List.nodup_append.mpr ⟨distinct, by simp, ?_⟩
    rintro other member last single rfl
    cases List.mem_singleton.mp single
    exact present member

/-! ## Operations -/

def get? (table : Dictionary κ ν) (key : κ) : Option ν := lookup table.entries key

def contains (table : Dictionary κ ν) (key : κ) : Bool := (table.get? key).isSome

/-- The table with a value stored for a key; a key that is present keeps its place. -/
def insert (table : Dictionary κ ν) (key : κ) (value : ν) : Dictionary κ ν where
  entries := put table.entries key value
  distinct := nodup_put table.distinct key value

def modify (table : Dictionary κ ν) (key : κ) (change : ν → ν) : Dictionary κ ν where
  entries := alter change table.entries key
  distinct := by
    rw [keys_alter]
    exact table.distinct

def filterKeys (table : Dictionary κ ν) (keep : κ → Bool) : Dictionary κ ν where
  entries := table.entries.filter fun entry => keep entry.1
  distinct := table.distinct.sublist (List.filter_sublist.map Prod.fst)

def erase (table : Dictionary κ ν) (key : κ) : Dictionary κ ν := table.filterKeys (· ≠ key)

def mapValues {μ : Type} (table : Dictionary κ ν) (change : κ → ν → μ) : Dictionary κ μ where
  entries := table.entries.map fun entry => (entry.1, change entry.1 entry.2)
  distinct := by
    rw [List.map_map]
    exact table.distinct

def keys (table : Dictionary κ ν) : List κ := table.entries.map Prod.fst

def values (table : Dictionary κ ν) : List ν := table.entries.map Prod.snd

def size (table : Dictionary κ ν) : Nat := table.entries.length

def isEmpty (table : Dictionary κ ν) : Bool := table.entries.isEmpty

omit [DecidableEq κ] in
@[ext] theorem ext {table other : Dictionary κ ν} (same : table.entries = other.entries) :
    table = other := by
  cases table
  cases other
  cases same
  rfl

omit [DecidableEq κ] in
theorem nodup_keys (table : Dictionary κ ν) : table.keys.Nodup := table.distinct

omit [DecidableEq κ] in
@[simp] theorem entries_empty : ({} : Dictionary κ ν).entries = [] := rfl

@[simp] theorem get?_empty (key : κ) : ({} : Dictionary κ ν).get? key = none := rfl

theorem get?_insert (table : Dictionary κ ν) (key other : κ) (value : ν) :
    (table.insert key value).get? other = if key = other then some value else table.get? other := by
  simp only [get?, insert]
  induction table.entries with
  | nil => simp [put, lookup]
  | cons entry rest ih =>
      rcases entry with ⟨present, old⟩
      by_cases same : present = key
      · subst same
        by_cases hit : present = other <;> simp [put, lookup, hit]
      · by_cases hit : present = other
        · subst hit
          simp [put, lookup, same, Ne.symm same]
        · simp [put, lookup, same, hit, ih]

theorem get?_modify (table : Dictionary κ ν) (key other : κ) (change : ν → ν) :
    (table.modify key change).get? other =
      if key = other then (table.get? other).map change else table.get? other := by
  simp only [get?, modify]
  induction table.entries with
  | nil => simp [alter, lookup]
  | cons entry rest ih =>
      rcases entry with ⟨present, old⟩
      by_cases same : present = key
      · subst same
        by_cases hit : present = other <;> simp [alter, lookup, hit]
      · by_cases hit : present = other
        · subst hit
          simp [alter, lookup, same, Ne.symm same]
        · simp [alter, lookup, same, hit, ih]

theorem modify_of_same {table : Dictionary κ ν} {key : κ} {change : ν → ν}
    (same : ∀ value, table.get? key = some value → change value = value) :
    table.modify key change = table := by
  apply ext
  simp only [get?, modify] at same ⊢
  generalize table.entries = entries at same ⊢
  induction entries with
  | nil => rfl
  | cons entry rest ih =>
      rcases entry with ⟨present, old⟩
      by_cases hit : present = key
      · simp [alter, hit, same old (by simp [lookup, hit])]
      · simp [alter, hit, ih fun value found => same value (by simpa [lookup, hit] using found)]

theorem get?_filterKeys (table : Dictionary κ ν) (keep : κ → Bool) (key : κ) :
    (table.filterKeys keep).get? key = if keep key then table.get? key else none := by
  simp only [get?, filterKeys]
  induction table.entries with
  | nil => simp [lookup]
  | cons entry rest ih =>
      rcases entry with ⟨present, old⟩
      by_cases hit : present = key
      · subst hit
        by_cases kept : keep present
        · simp [lookup, kept]
        · simpa [List.filter_cons, kept] using ih
      · by_cases kept : keep present
        · simpa [List.filter_cons, lookup, hit, kept] using ih
        · simpa [List.filter_cons, lookup, hit, kept] using ih

theorem get?_erase (table : Dictionary κ ν) (key other : κ) :
    (table.erase key).get? other = if key = other then none else table.get? other := by
  rw [erase, get?_filterKeys]
  by_cases same : key = other <;> simp [same, eq_comm]

theorem get?_of_insert {table : Dictionary κ ν} {key other : κ} {value present : ν}
    (found : (table.insert key value).get? other = some present) :
    key = other ∧ value = present ∨ table.get? other = some present := by
  rw [get?_insert] at found
  split at found
  · rename_i same
    exact .inl ⟨same, Option.some.inj found⟩
  · exact .inr found

theorem get?_of_erase {table : Dictionary κ ν} {key other : κ} {value : ν}
    (found : (table.erase key).get? other = some value) : table.get? other = some value := by
  rw [get?_erase] at found
  split at found
  · cases found
  · exact found

theorem get?_mapValues {μ : Type} (table : Dictionary κ ν) (change : κ → ν → μ) (key : κ) :
    (table.mapValues change).get? key = (table.get? key).map (change key) := by
  simp only [get?, mapValues]
  induction table.entries with
  | nil => simp [lookup]
  | cons entry rest ih =>
      rcases entry with ⟨present, old⟩
      by_cases hit : present = key
      · subst hit
        simp [lookup]
      · simp [lookup, hit, ih]

/-! ## Keys and entries -/

theorem get?_eq_none_iff {table : Dictionary κ ν} {key : κ} :
    table.get? key = none ↔ key ∉ table.keys := by
  simp only [get?, keys]
  induction table.entries with
  | nil => simp [lookup]
  | cons entry rest ih =>
      rcases entry with ⟨present, old⟩
      by_cases hit : present = key
      · simp [lookup, hit]
      · simpa [lookup, hit, Ne.symm hit] using ih

theorem mem_keys_of_get? {table : Dictionary κ ν} {key : κ} {value : ν}
    (found : table.get? key = some value) : key ∈ table.keys := by
  apply Decidable.byContradiction
  intro absent
  rw [get?_eq_none_iff.mpr absent] at found
  cases found

theorem entries_insert {table : Dictionary κ ν} {key : κ} (absent : table.get? key = none)
    (value : ν) : (table.insert key value).entries = table.entries ++ [(key, value)] :=
  put_of_absent (get?_eq_none_iff.mp absent) value

theorem keys_insert_of_mem {table : Dictionary κ ν} {key : κ} (present : key ∈ table.keys)
    (value : ν) : (table.insert key value).keys = table.keys :=
  keys_put_of_present present value

@[simp] theorem keys_modify (table : Dictionary κ ν) (key : κ) (change : ν → ν) :
    (table.modify key change).keys = table.keys :=
  keys_alter change table.entries key

omit [DecidableEq κ] in
theorem keys_filterKeys (table : Dictionary κ ν) (keep : κ → Bool) :
    (table.filterKeys keep).keys = table.keys.filter keep := by
  simp [keys, filterKeys, List.filter_map, Function.comp_def]

theorem keys_erase (table : Dictionary κ ν) (key : κ) :
    (table.erase key).keys = table.keys.filter (· ≠ key) :=
  keys_filterKeys ..

theorem erase_of_absent {table : Dictionary κ ν} {key : κ} (absent : table.get? key = none) :
    table.erase key = table := by
  refine ext (List.filter_eq_self.mpr fun entry member => decide_eq_true fun same => ?_)
  exact get?_eq_none_iff.mp absent (List.mem_map.mpr ⟨entry, member, same⟩)

theorem erase_modify (table : Dictionary κ ν) (key : κ) (change : ν → ν) :
    (table.modify key change).erase key = table.erase key := by
  apply ext
  simp only [erase, filterKeys, modify]
  induction table.entries with
  | nil => rfl
  | cons entry rest ih =>
      rcases entry with ⟨present, old⟩
      by_cases hit : present = key
      · simp [alter, hit]
      · simpa [alter, hit] using ih

theorem mem_entries_iff {table : Dictionary κ ν} {key : κ} {value : ν} :
    (key, value) ∈ table.entries ↔ table.get? key = some value := by
  have distinct := table.distinct
  simp only [get?]
  generalize table.entries = entries at distinct ⊢
  induction entries with
  | nil => simp [lookup]
  | cons entry rest ih =>
      rcases entry with ⟨present, old⟩
      obtain ⟨absent, distinct⟩ := List.nodup_cons.mp distinct
      by_cases hit : present = key
      · subst hit
        have missing : (present, value) ∉ rest := fun member =>
          absent (List.mem_map.mpr ⟨_, member, rfl⟩)
        simp [lookup, missing, eq_comm]
      · simp [lookup, hit, Ne.symm hit, ih distinct]

theorem entries_perm {table : Dictionary κ ν} {key : κ} {value : ν}
    (found : table.get? key = some value) :
    table.entries.Perm ((key, value) :: (table.erase key).entries) := by
  have distinct := table.distinct
  simp only [get?, erase, filterKeys] at found ⊢
  generalize table.entries = entries at distinct found ⊢
  induction entries with
  | nil => simp [lookup] at found
  | cons entry rest ih =>
      rcases entry with ⟨present, old⟩
      obtain ⟨absent, distinct⟩ := List.nodup_cons.mp distinct
      by_cases hit : present = key
      · subst hit
        simp only [lookup, if_pos, Option.some.injEq] at found
        subst found
        have kept : rest.filter (fun entry => decide (entry.1 ≠ present)) = rest := by
          refine List.filter_eq_self.mpr fun entry member => decide_eq_true fun same => ?_
          exact absent (List.mem_map.mpr ⟨entry, member, same⟩)
        rw [List.filter_cons_of_neg (by simp), kept]
      · simp only [lookup, hit, if_false] at found
        rw [List.filter_cons_of_pos (by simp [hit])]
        exact ((ih distinct found).cons _).trans (List.Perm.swap _ _ _)

theorem erase_insert (table : Dictionary κ ν) (key : κ) (value : ν) :
    (table.insert key value).erase key = table.erase key := by
  apply ext
  simp only [erase, filterKeys, insert]
  induction table.entries with
  | nil => simp [put]
  | cons entry rest ih =>
      rcases entry with ⟨present, old⟩
      by_cases hit : present = key
      · simp [put, hit]
      · simpa [put, hit] using ih

theorem entries_insert_perm (table : Dictionary κ ν) (key : κ) (value : ν) :
    (table.insert key value).entries.Perm ((key, value) :: (table.erase key).entries) := by
  rw [← erase_insert table key value]
  exact entries_perm ((get?_insert ..).trans (if_pos rfl))

theorem mapValues_modify {μ : Type} (table : Dictionary κ ν) (view : κ → ν → μ) (key : κ)
    (change : ν → ν) (unseen : ∀ value, view key (change value) = view key value) :
    (table.modify key change).mapValues view = table.mapValues view := by
  apply ext
  simp only [mapValues, modify]
  induction table.entries with
  | nil => rfl
  | cons entry rest ih =>
      rcases entry with ⟨present, old⟩
      by_cases hit : present = key
      · subst hit
        simp [alter, unseen]
      · simpa [alter, hit] using ih

omit [DecidableEq κ] in
@[simp] theorem keys_mapValues {μ : Type} (table : Dictionary κ ν) (view : κ → ν → μ) :
    (table.mapValues view).keys = table.keys := by
  simp [keys, mapValues, Function.comp_def]

end Dictionary

end TorusEngine
