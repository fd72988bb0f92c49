/-!
Maps that keep the order of declaration. A key that is written again keeps the place of its first
entry and takes the new value, so the keys of a table are distinct and in the order of their first
appearance.
-/

set_option autoImplicit false

namespace ApiOutline

variable {α β : Type}

namespace Entries

/-- The entries with `value` under `key`: in the place of the key, or at the end if it is new. -/
def put (entries : List (String × α)) (key : String) (value : α) : List (String × α) :=
  match entries with
  | [] => [(key, value)]
  | entry :: rest => if entry.1 = key then (key, value) :: rest else entry :: put rest key value

/-- The entries with others put in, one after the other. -/
def putAll (entries others : List (String × α)) : List (String × α) :=
  others.foldl (fun done entry => put done entry.1 entry.2) entries

theorem keys_put (entries : List (String × α)) (key : String) (value : α) :
    (put entries key value).map Prod.fst =
      if key ∈ entries.map Prod.fst then entries.map Prod.fst
      else entries.map Prod.fst ++ [key] := by
  induction entries with
  | nil => simp [put]
  | cons entry rest ih =>
    by_cases h : entry.1 = key
    · simp [put, h]
    · by_cases hr : key ∈ rest.map Prod.fst <;> simp_all [put, eq_comm]

theorem nodup_put {entries : List (String × α)} (h : (entries.map Prod.fst).Nodup)
    (key : String) (value : α) : ((put entries key value).map Prod.fst).Nodup := by
  rw [keys_put]
  split
  · exact h
  · next hkey => simpa [List.nodup_append, h] using fun a b hab hak => hkey (by simp_all)

theorem nodup_putAll {entries : List (String × α)} (h : (entries.map Prod.fst).Nodup)
    (others : List (String × α)) : ((putAll entries others).map Prod.fst).Nodup := by
  induction others generalizing entries with
  | nil => exact h
  | cons other rest ih => exact ih (nodup_put h other.1 other.2)

theorem mem_keys_put {entries : List (String × α)} {key name : String} {value : α} :
    name ∈ (put entries key value).map Prod.fst ↔ name ∈ entries.map Prod.fst ∨ name = key := by
  rw [keys_put]
  split
  · next hkey =>
    constructor
    · exact Or.inl
    · rintro (hname | rfl)
      · exact hname
      · exact hkey
  · rw [List.mem_append, List.mem_singleton]

theorem mem_keys_putAll {entries others : List (String × α)} {name : String} :
    name ∈ (putAll entries others).map Prod.fst ↔
      name ∈ entries.map Prod.fst ∨ name ∈ others.map Prod.fst := by
  induction others generalizing entries with
  | nil => simp [putAll]
  | cons other rest ih =>
    have hrest : name ∈ (putAll entries (other :: rest)).map Prod.fst ↔
        name ∈ (put entries other.1 other.2).map Prod.fst ∨ name ∈ rest.map Prod.fst := ih
    rw [hrest, mem_keys_put, List.map_cons, List.mem_cons, or_assoc]

/-- With distinct keys, looking up a key finds the only entry that has it. -/
theorem lookup_eq_some_iff {entries : List (String × α)} (h : (entries.map Prod.fst).Nodup)
    {key : String} {value : α} : entries.lookup key = some value ↔ (key, value) ∈ entries := by
  induction entries with
  | nil => simp
  | cons entry rest ih =>
    obtain ⟨name, content⟩ := entry
    obtain ⟨hname, hrest⟩ := List.nodup_cons.mp h
    rw [List.lookup_cons, List.mem_cons]
    by_cases heq : key = name
    · have hmem : (key, value) ∉ rest := fun hin => hname (List.mem_map.mpr ⟨_, hin, heq⟩)
      simp [heq, eq_comm, heq ▸ hmem]
    · simp [heq, beq_eq_false_iff_ne.mpr heq, ih hrest]

end Entries

/-- An ordered map with distinct keys. -/
structure Table (α : Type) where
  entries : List (String × α)
  nodup : (entries.map Prod.fst).Nodup

namespace Table

def empty : Table α := ⟨[], List.nodup_nil⟩

instance : Inhabited (Table α) := ⟨empty⟩

/-- The table of a list of entries; of two entries with one key the later gives the value and the
earlier the place. -/
def ofList (entries : List (String × α)) : Table α :=
  ⟨Entries.putAll [] entries, Entries.nodup_putAll (by simp) entries⟩

def get? (table : Table α) (key : String) : Option α := table.entries.lookup key

def keys (table : Table α) : List String := table.entries.map Prod.fst

theorem get?_eq_some_iff {table : Table α} {key : String} {value : α} :
    table.get? key = some value ↔ (key, value) ∈ table.entries :=
  Entries.lookup_eq_some_iff table.nodup

theorem mem_keys_of_get? {table : Table α} {key : String} {value : α}
    (h : table.get? key = some value) : key ∈ table.keys :=
  List.mem_map.mpr ⟨_, get?_eq_some_iff.mp h, rfl⟩

end Table

end ApiOutline
