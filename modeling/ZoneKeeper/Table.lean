/-!
# Finite tables

A table holds at most one value for each key, in the order in which the keys first came in.
The store, the tombstones, the retry counters and the counters of the metrics are tables.
The statements say what a look-up finds after a write and after an erasure, and which entries a
table has.
-/

namespace ZoneKeeper

universe u v

/-- Entries with pairwise different keys. -/
structure Table (κ : Type u) (α : Type v) where
  entries : List (κ × α) := []
  keys_nodup : (entries.map Prod.fst).Nodup := by exact List.nodup_nil
  deriving DecidableEq

namespace Table

variable {κ : Type u} {α : Type v}

instance : Inhabited (Table κ α) := ⟨{}⟩

instance [Repr κ] [Repr α] : Repr (Table κ α) :=
  ⟨fun table precedence => reprPrec table.entries precedence⟩

def keys (table : Table κ α) : List κ :=
  table.entries.map Prod.fst

def values (table : Table κ α) : List α :=
  table.entries.map Prod.snd

def size (table : Table κ α) : Nat :=
  table.entries.length

def isEmpty (table : Table κ α) : Bool :=
  table.entries.isEmpty

variable [DecidableEq κ]

def get? (table : Table κ α) (key : κ) : Option α :=
  (table.entries.find? fun entry => entry.1 = key).map Prod.snd

def contains (table : Table κ α) (key : κ) : Bool :=
  (table.get? key).isSome

/-- The list of entries with `key` set to `value`: in place if the key is there, else at the end. -/
def write (key : κ) (value : α) : List (κ × α) → List (κ × α)
  | [] => [(key, value)]
  | entry :: rest =>
      if entry.1 = key then (key, value) :: rest else entry :: write key value rest

theorem mem_keys_write (key other : κ) (value : α) (entries : List (κ × α)) :
    other ∈ (write key value entries).map Prod.fst ↔
      other = key ∨ other ∈ entries.map Prod.fst := by
  induction entries with
  | nil => simp [write]
  | cons entry rest ih =>
      by_cases same : entry.1 = key
      · simp [write, same]
      · simp only [write, same, if_false, List.map_cons, List.mem_cons, ih]
        constructor
        · rintro (here | here | here) <;> simp [here]
        · rintro (here | here | here) <;> simp [here]

theorem nodup_write (key : κ) (value : α) (entries : List (κ × α))
    (nodup : (entries.map Prod.fst).Nodup) :
    ((write key value entries).map Prod.fst).Nodup := by
  induction entries with
  | nil => simp [write]
  | cons entry rest ih =>
      simp only [List.map_cons, List.nodup_cons] at nodup
      by_cases same : entry.1 = key
      · simp only [write, same, if_true, List.map_cons, List.nodup_cons]
        exact same ▸ nodup
      · simp only [write, same, if_false, List.map_cons, List.nodup_cons]
        refine ⟨fun present => ?_, ih nodup.2⟩
        rcases (mem_keys_write key entry.1 value rest).1 present with here | here
        · exact same here
        · exact nodup.1 here

def insert (table : Table κ α) (key : κ) (value : α) : Table κ α where
  entries := write key value table.entries
  keys_nodup := nodup_write key value table.entries table.keys_nodup

def erase (table : Table κ α) (key : κ) : Table κ α where
  entries := table.entries.filter fun entry => entry.1 ≠ key
  keys_nodup := table.keys_nodup.sublist (List.filter_sublist.map Prod.fst)

/-- Replaces the value of `key` by what `change` makes of it, of `none` if there is none. -/
def update (table : Table κ α) (key : κ) (change : Option α → α) : Table κ α :=
  table.insert key (change (table.get? key))

/-- Later entries replace earlier ones with the same key. -/
def ofList (entries : List (κ × α)) : Table κ α :=
  entries.foldl (fun table entry => table.insert entry.1 entry.2) {}

@[simp]
theorem get?_empty (key : κ) : ({} : Table κ α).get? key = none :=
  rfl

private theorem find?_write (key other : κ) (value : α) (entries : List (κ × α)) :
    ((write key value entries).find? fun entry => entry.1 = other).map Prod.snd =
      if key = other then some value
      else (entries.find? fun entry => entry.1 = other).map Prod.snd := by
  induction entries with
  | nil => by_cases same : key = other <;> simp [write, same]
  | cons entry rest ih =>
      by_cases here : entry.1 = key
      · by_cases same : key = other
        · simp [write, here, same]
        · simp [write, here, same]
      · by_cases found : entry.1 = other
        · have apart : key ≠ other := fun same => here (found.trans same.symm)
          rw [write, if_neg here]
          simp [found, apart]
        · simp [write, here, found, ih]

theorem get?_insert (table : Table κ α) (key other : κ) (value : α) :
    (table.insert key value).get? other =
      if key = other then some value else table.get? other :=
  find?_write key other value table.entries

@[simp]
theorem get?_insert_self (table : Table κ α) (key : κ) (value : α) :
    (table.insert key value).get? key = some value := by
  simp [get?_insert]

theorem get?_insert_of_ne (table : Table κ α) {key other : κ} (value : α)
    (apart : key ≠ other) : (table.insert key value).get? other = table.get? other := by
  simp [get?_insert, apart]

theorem get?_erase (table : Table κ α) (key other : κ) :
    (table.erase key).get? other = if key = other then none else table.get? other := by
  simp only [get?, erase, List.find?_filter]
  by_cases same : key = other
  · subst same
    simp [List.find?_eq_none]
  · simp only [same, if_false]
    congr 2
    funext entry
    by_cases found : entry.1 = other
    · simp [found, Ne.symm same]
    · simp [found]

@[simp]
theorem get?_erase_self (table : Table κ α) (key : κ) : (table.erase key).get? key = none := by
  simp [get?_erase]

theorem get?_erase_of_ne (table : Table κ α) {key other : κ} (apart : key ≠ other) :
    (table.erase key).get? other = table.get? other := by
  simp [get?_erase, apart]

theorem get?_update (table : Table κ α) (key other : κ) (change : Option α → α) :
    (table.update key change).get? other =
      if key = other then some (change (table.get? key)) else table.get? other :=
  get?_insert table key other _

private theorem find?_key_eq_some_iff {entries : List (κ × α)}
    (nodup : (entries.map Prod.fst).Nodup) (key : κ) (value : α) :
    (entries.find? fun entry => entry.1 = key).map Prod.snd = some value ↔
      (key, value) ∈ entries := by
  induction entries with
  | nil => simp
  | cons entry rest ih =>
      simp only [List.map_cons, List.nodup_cons] at nodup
      by_cases here : entry.1 = key
      · subst here
        have alone : (entry.1, value) ∉ rest := fun present =>
          nodup.1 (List.mem_map.2 ⟨_, present, rfl⟩)
        simp [alone, Prod.ext_iff, eq_comm]
      · have apart : (key, value) ≠ entry := fun same => here (same ▸ rfl)
        simp [here, apart, ih nodup.2]

theorem get?_eq_some_iff {table : Table κ α} {key : κ} {value : α} :
    table.get? key = some value ↔ (key, value) ∈ table.entries :=
  find?_key_eq_some_iff table.keys_nodup key value

theorem mem_values_iff {table : Table κ α} {value : α} :
    value ∈ table.values ↔ ∃ key, table.get? key = some value := by
  simp [values, get?_eq_some_iff]

/-- A table has no value for a key exactly if the key is not among its keys. -/
theorem get?_eq_none_iff {table : Table κ α} {key : κ} :
    table.get? key = none ↔ key ∉ table.keys := by
  rw [Option.eq_none_iff_forall_ne_some]
  simp [keys, get?_eq_some_iff]

theorem ofList_concat (entries : List (κ × α)) (entry : κ × α) :
    ofList (entries ++ [entry]) = (ofList entries).insert entry.1 entry.2 := by
  simp [ofList]

/-- A table made from a list has an entry for exactly the keys of the list. -/
theorem get?_ofList_eq_none_iff {entries : List (κ × α)} {key : κ} :
    (ofList entries).get? key = none ↔ key ∉ entries.map Prod.fst := by
  have mem_keys : ∀ table : Table κ α,
      (entries.foldl (fun table entry => table.insert entry.1 entry.2) table).get? key = none ↔
        table.get? key = none ∧ key ∉ entries.map Prod.fst := by
    induction entries with
    | nil => simp
    | cons entry entries ih =>
        intro table
        rw [List.foldl_cons, ih, get?_insert, List.map_cons, List.mem_cons, not_or, @eq_comm _ key]
        by_cases same : entry.1 = key
        · simp [same]
        · simp [same]
  simpa [ofList] using mem_keys {}

theorem mem_of_get?_ofList {entries : List (κ × α)} {key : κ} {value : α}
    (held : (ofList entries).get? key = some value) : (key, value) ∈ entries := by
  have mem_entries : ∀ table : Table κ α,
      (entries.foldl (fun table entry => table.insert entry.1 entry.2) table).get? key =
        some value → table.get? key = some value ∨ (key, value) ∈ entries := by
    clear held
    induction entries with
    | nil => exact fun table held => Or.inl held
    | cons entry entries ih =>
        intro table held
        rcases ih _ held with earlier | later
        · rw [get?_insert] at earlier
          split at earlier
          · rename_i same
            subst same
            obtain rfl := Option.some.inj earlier
            exact Or.inr List.mem_cons_self
          · exact Or.inl earlier
        · exact Or.inr (List.mem_cons_of_mem entry later)
  rcases mem_entries {} held with impossible | present
  · simp at impossible
  · exact present

end Table

end ZoneKeeper
