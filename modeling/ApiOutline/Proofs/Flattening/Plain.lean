import ApiOutline.Extraction.Model
import ApiOutline.Proofs.Flattening.Walk
import Mathlib.Data.List.Basic

/-!
Flattening without a memory. Nothing is kept from one schema to the next: a reference is walked each
time it is met, unless its name is on the path from the outermost schema down to it. There is no
allowance either. The recursion ends because a reference that is walked takes a name of the table
onto the path (`room_cons_lt`), and a member lies within its schema.

`walk_induction` is the induction along that recursion, and `collect_congr_path` says when the path
does not matter: no circle is reachable, and the names of the path are those of schemas above.
-/

set_option autoImplicit false
set_option relaxedAutoImplicit false

namespace ApiOutline.Flattening

open OpenApi (Schema refName)

/-- How many names of a table are not on a path. -/
def room (schemas : Table Schema) (path : List String) : Nat :=
  (schemas.keys.filter (· ∉ path)).length

theorem room_cons_lt {schemas : Table Schema} {path : List String} {name : String}
    (hname : name ∉ path) (hkey : name ∈ schemas.keys) :
    room schemas (name :: path) < room schemas path := by
  have hfilter : schemas.keys.filter (· ∉ name :: path) =
      (schemas.keys.filter (· ∉ path)).filter (· ≠ name) := by
    rw [List.filter_filter]
    refine List.filter_congr fun other _ ↦ ?_
    simp [not_or]
  rw [room, hfilter, room, List.length_filter_lt_length_iff_exists]
  exact ⟨name, List.mem_filter.mpr ⟨hkey, by simpa using hname⟩, by simp⟩

theorem room_le (schemas : Table Schema) (path : List String) :
    room schemas path ≤ schemas.entries.length :=
  Nat.le_trans (List.length_filter_le _ _) (Nat.le_of_eq (List.length_map Prod.fst))

namespace Plain

mutual

/-- Adds to a set what a schema contributes below the names of a path. -/
def collect (schemas : Table Schema) (path : List String) (schema : Schema) (set : PropertySet) :
    PropertySet :=
  match schema.ref with
  | some ref =>
    if _hpath : refName ref ∈ path then set
    else
      match _hget : schemas.get? (refName ref) with
      | none => set
      | some target => set.merge (collect schemas (refName ref :: path) target .empty)
  | none =>
    ((collectAll schemas path (members schema) set).declare schema.properties).require
      schema.required
termination_by (room schemas path, sizeOf schema)
decreasing_by
  · exact Prod.Lex.left _ _ (room_cons_lt _hpath (Table.mem_keys_of_get? _hget))
  · exact Prod.Lex.right _ (sizeOf_members_lt schema)

/-- Adds to a set what the schemas of a list contribute, one after the other. -/
def collectAll (schemas : Table Schema) (path : List String) (list : List Schema)
    (set : PropertySet) : PropertySet :=
  match list with
  | [] => set
  | schema :: rest => collectAll schemas path rest (collect schemas path schema set)
termination_by (room schemas path, sizeOf list)

end

/-- The set of the schema of a name below the names of a path. -/
def component (schemas : Table Schema) (path : List String) (name : String) (schema : Schema) :
    PropertySet :=
  collect schemas (name :: path) schema .empty

/-! ### The cases of the recursion -/

variable {schemas : Table Schema} {path : List String} {schema : Schema} {ref : String}

theorem collect_of_cut (href : schema.ref = some ref) (hpath : refName ref ∈ path)
    (set : PropertySet) : collect schemas path schema set = set := by
  rw [collect]
  simp only [href, hpath, ↓reduceDIte]

theorem collect_of_dangling (href : schema.ref = some ref)
    (hget : schemas.get? (refName ref) = none) (set : PropertySet) :
    collect schemas path schema set = set := by
  rw [collect]
  split
  · next ref' href' =>
    obtain rfl : ref = ref' := Option.some.inj (href.symm.trans href')
    split
    · rfl
    · split
      · rfl
      · next target hget' => simp [hget] at hget'
  · next hplain => simp [href] at hplain

theorem collect_of_target {target : Schema} (href : schema.ref = some ref)
    (hpath : refName ref ∉ path) (hget : schemas.get? (refName ref) = some target)
    (set : PropertySet) : collect schemas path schema set =
      set.merge (component schemas path (refName ref) target) := by
  rw [collect]
  split
  · next ref' href' =>
    obtain rfl : ref = ref' := Option.some.inj (href.symm.trans href')
    rw [dif_neg hpath]
    split
    · next hnone => simp [hget] at hnone
    · next target' hget' =>
      obtain rfl : target = target' := Option.some.inj (hget.symm.trans hget')
      rfl
  · next hplain => simp [href] at hplain

theorem collect_of_plain (hplain : schema.ref = none) (set : PropertySet) :
    collect schemas path schema set =
      ((collectAll schemas path (members schema) set).declare schema.properties).require
        schema.required := by
  rw [collect]
  simp only [hplain]

theorem collectAll_eq_foldl (list : List Schema) (set : PropertySet) :
    collectAll schemas path list set =
      list.foldl (fun set schema ↦ collect schemas path schema set) set := by
  induction list generalizing set with
  | nil => rw [collectAll, List.foldl_nil]
  | cons schema rest ih => rw [collectAll, List.foldl_cons, ih]

/-- Induction along the walk below a path: a reference either ends it, because it is cut or leads
nowhere, or continues it below one more name. -/
@[elab_as_elim]
theorem walk_induction (schemas : Table Schema) {motive : List String → Schema → Prop}
    (cut : ∀ path schema ref, schema.ref = some ref → refName ref ∈ path → motive path schema)
    (dangling : ∀ path schema ref, schema.ref = some ref → schemas.get? (refName ref) = none →
      motive path schema)
    (target : ∀ path schema ref target, schema.ref = some ref → refName ref ∉ path →
      schemas.get? (refName ref) = some target → motive (refName ref :: path) target →
      motive path schema)
    (plain : ∀ path schema, schema.ref = none → (∀ member ∈ members schema, motive path member) →
      motive path schema)
    (path : List String) (schema : Schema) : motive path schema := by
  match href : schema.ref with
  | none =>
    exact plain path schema href fun member _hmember ↦
      walk_induction schemas cut dangling target plain path member
  | some ref =>
    by_cases hpath : refName ref ∈ path
    · exact cut path schema ref href hpath
    · match hget : schemas.get? (refName ref) with
      | none => exact dangling path schema ref href hget
      | some next =>
        exact target path schema ref next href hpath hget
          (walk_induction schemas cut dangling target plain (refName ref :: path) next)
termination_by (room schemas path, sizeOf schema)
decreasing_by
  · exact Prod.Lex.right _ (sizeOf_lt_of_mem_members _hmember)
  · exact Prod.Lex.left _ _ (room_cons_lt hpath (Table.mem_keys_of_get? hget))

/-- Below schemas that all lead to it, an acyclic schema contributes the same whatever the path. -/
theorem collect_congr_path (hacyclic : Acyclic schemas schema) (habove : Above schemas path schema)
    {other : List String} (hother : Above schemas other schema) (set : PropertySet) :
    collect schemas path schema set = collect schemas other schema set := by
  induction path, schema using walk_induction schemas generalizing other set with
  | cut path schema ref href hpath => exact absurd hacyclic (habove.not_acyclic href hpath)
  | dangling path schema ref href hget =>
    rw [collect_of_dangling href hget, collect_of_dangling href hget]
  | target path schema ref target href hpath hget ih =>
    have hnot : refName ref ∉ other := fun hmem ↦ hother.not_acyclic href hmem hacyclic
    have hnext : Leads schemas schema target := .ofRef href hget
    rw [collect_of_target href hpath hget, collect_of_target href hnot hget, component, component,
      ih (hacyclic.of_leads hnext) ((habove.leads hnext).cons hget) ((hother.leads hnext).cons hget)]
  | plain path schema hplain ih =>
    have hall : collectAll schemas path (members schema) set =
        collectAll schemas other (members schema) set := by
      rw [collectAll_eq_foldl, collectAll_eq_foldl]
      refine List.foldl_ext _ _ _ fun set member hmember ↦ ?_
      have hnext : Leads schemas schema member := .member hplain hmember
      exact ih member hmember (hacyclic.of_leads hnext) (habove.leads hnext) (hother.leads hnext) set
    rw [collect_of_plain hplain, collect_of_plain hplain, hall]

end Plain

end ApiOutline.Flattening

namespace ApiOutline

/-- The models of a table of schemas, each flattened from scratch. -/
def Model.plainOfSchemas (schemas : Table OpenApi.Schema) : List Model :=
  schemas.entries.map fun entry ↦
    .ofSchema entry.1 entry.2 (Flattening.Plain.component schemas [] entry.1 entry.2)

end ApiOutline
