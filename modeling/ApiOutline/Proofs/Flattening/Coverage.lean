import ApiOutline.Proofs.Flattening.Cache
import Mathlib.Data.List.Forall2
import Mathlib.Data.Nat.Find

/-!
Cutting circular references loses no name. The nodes of a walk are the schemas without a reference
that it passes, and a model has the properties that some node declares, and those of them are
required that some node requires.

`mem_names_collect` says this of the nodes that flattening visits below a path (`Visits`), and
`visits_iff_contributes` that these are all that the walk can reach (`Contributes`): a shortest walk
to a node meets no name of the path, as from the schema of that name it would be shorter still
(`induct_to_goal`).
-/

set_option autoImplicit false
set_option relaxedAutoImplicit false

namespace ApiOutline.Flattening

open OpenApi (Schema isLastSegment_iff refName)
open Relation (ReflTransGen)

variable {schemas : Table Schema}

/-! ### Names of a property set -/

/-- Whether a name is that of a declared property or of a required one. -/
inductive Role where
  | declared
  | required

def namesOf (role : Role) (set : PropertySet) : List String :=
  match role with
  | .declared => set.properties.map Prod.fst
  | .required => set.required

/-- The names that a schema gives itself, its members aside. -/
def ownNames (role : Role) (schema : Schema) : List String :=
  match role with
  | .declared => schema.properties.map Prod.fst
  | .required => schema.required

theorem mem_foldl_addName {names list : List String} {name : String} :
    name ∈ names.foldl PropertySet.addName list ↔ name ∈ list ∨ name ∈ names := by
  induction names generalizing list with
  | nil => simp
  | cons first rest ih =>
    have hadd : name ∈ PropertySet.addName list first ↔ name ∈ list ∨ name = first := by
      by_cases hfirst : first ∈ list
      · simp only [PropertySet.addName, hfirst, ↓reduceIte]
        exact ⟨Or.inl, fun h ↦ h.elim id (· ▸ hfirst)⟩
      · simp [PropertySet.addName, hfirst]
    rw [List.foldl_cons, ih, hadd, List.mem_cons, or_assoc]

theorem not_mem_namesOf_empty (role : Role) (name : String) : name ∉ namesOf role .empty := by
  cases role <;> exact List.not_mem_nil

theorem mem_namesOf_merge {role : Role} {set other : PropertySet} {name : String} :
    name ∈ namesOf role (set.merge other) ↔ name ∈ namesOf role set ∨ name ∈ namesOf role other := by
  cases role with
  | declared => exact Entries.mem_keys_putAll
  | required => exact mem_foldl_addName

theorem mem_namesOf_own {role : Role} {set : PropertySet} {schema : Schema} {name : String} :
    name ∈ namesOf role ((set.declare schema.properties).require schema.required) ↔
      name ∈ namesOf role set ∨ name ∈ ownNames role schema := by
  cases role with
  | declared => exact Entries.mem_keys_putAll
  | required => exact mem_foldl_addName

/-! ### Nodes visited below a path -/

/-- A node that flattening visits from a schema below the names of a path. -/
inductive Visits (schemas : Table Schema) : List String → Schema → Schema → Prop
  | here {path : List String} {schema : Schema} (hplain : schema.ref = none) :
      Visits schemas path schema schema
  | member {path : List String} {schema member node : Schema} (hplain : schema.ref = none)
      (hmember : member ∈ members schema) (hnode : Visits schemas path member node) :
      Visits schemas path schema node
  | target {path : List String} {schema target node : Schema} {ref : String}
      (href : schema.ref = some ref) (hpath : refName ref ∉ path)
      (hget : schemas.get? (refName ref) = some target)
      (hnode : Visits schemas (refName ref :: path) target node) : Visits schemas path schema node

theorem visits_of_plain {path : List String} {schema node : Schema} (hplain : schema.ref = none) :
    Visits schemas path schema node ↔
      (∃ member ∈ members schema, Visits schemas path member node) ∨ node = schema := by
  constructor
  · rintro (_ | ⟨-, hmember, hnode⟩ | ⟨href, -, -, -⟩)
    · exact Or.inr rfl
    · exact Or.inl ⟨_, hmember, hnode⟩
    · simp [hplain] at href
  · rintro (⟨member, hmember, hnode⟩ | rfl)
    · exact .member hplain hmember hnode
    · exact .here hplain

theorem visits_of_ref {path : List String} {schema node : Schema} {ref : String}
    (href : schema.ref = some ref) :
    Visits schemas path schema node ↔ refName ref ∉ path ∧
      ∃ target, schemas.get? (refName ref) = some target ∧
        Visits schemas (refName ref :: path) target node := by
  constructor
  · rintro (⟨hplain⟩ | ⟨hplain, -, -⟩ | ⟨href', hpath, hget, hnode⟩)
    · simp [href] at hplain
    · simp [href] at hplain
    · obtain rfl : ref = _ := Option.some.inj (href.symm.trans href')
      exact ⟨hpath, _, hget, hnode⟩
  · rintro ⟨hpath, target, hget, hnode⟩
    exact .target href hpath hget hnode

/-- What is collected below a path are the names of the nodes visited there. -/
theorem mem_names_collect {role : Role} {name : String} (path : List String) (schema : Schema)
    (set : PropertySet) :
    name ∈ namesOf role (Plain.collect schemas path schema set) ↔ name ∈ namesOf role set ∨
      ∃ node, Visits schemas path schema node ∧ name ∈ ownNames role node := by
  induction path, schema using Plain.walk_induction schemas generalizing set with
  | cut path schema ref href hpath =>
    simp [Plain.collect_of_cut href hpath, visits_of_ref href, hpath]
  | dangling path schema ref href hget =>
    simp [Plain.collect_of_dangling href hget, visits_of_ref href, hget]
  | target path schema ref target href hpath hget ih =>
    rw [Plain.collect_of_target href hpath hget, mem_namesOf_merge, Plain.component, ih,
      or_iff_right (not_mem_namesOf_empty role name)]
    simp [visits_of_ref href, hpath, hget]
  | plain path schema hplain ih =>
    have hall : ∀ list ⊆ members schema, ∀ set,
        name ∈ namesOf role (Plain.collectAll schemas path list set) ↔ name ∈ namesOf role set ∨
          ∃ member ∈ list, ∃ node, Visits schemas path member node ∧ name ∈ ownNames role node := by
      intro list hlist set
      induction list generalizing set with
      | nil => simp [Plain.collectAll]
      | cons first rest ihrest =>
        obtain ⟨hfirst, hrest⟩ := List.cons_subset.mp hlist
        rw [Plain.collectAll, ihrest hrest, ih first hfirst, List.exists_mem_cons_iff, or_assoc]
    rw [Plain.collect_of_plain hplain, mem_namesOf_own, hall _ (List.Subset.refl _)]
    simp only [visits_of_plain hplain]
    grind

/-! ### Nodes reached -/

/-- A node that the walk from a schema reaches: it has no reference, so its own names count. -/
def Contributes (schemas : Table Schema) (schema node : Schema) : Prop :=
  ReflTransGen (Leads schemas) schema node ∧ node.ref = none

theorem Visits.contributes {path : List String} {schema node : Schema}
    (h : Visits schemas path schema node) : Contributes schemas schema node := by
  induction h with
  | here hplain => exact ⟨.refl, hplain⟩
  | member hplain hmember _ ih => exact ⟨ih.1.head (.member hplain hmember), ih.2⟩
  | target href _ hget _ ih => exact ⟨ih.1.head (.ofRef href hget), ih.2⟩

/-- A node is a number of steps of the walk away from a schema. -/
def StepsTo (schemas : Table Schema) (node : Schema) : ℕ → Schema → Prop
  | 0, schema => schema = node
  | count + 1, schema => ∃ next, Leads schemas schema next ∧ StepsTo schemas node count next

theorem exists_stepsTo {schema node : Schema} (h : ReflTransGen (Leads schemas) schema node) :
    ∃ count, StepsTo schemas node count schema := by
  induction h using ReflTransGen.head_induction_on with
  | refl => exact ⟨0, rfl⟩
  | head hnext _ ih =>
    obtain ⟨count, hcount⟩ := ih
    exact ⟨count + 1, _, hnext, hcount⟩

section

variable (goal : Schema → Prop) {motive : List String → Schema → Prop}
  (here : ∀ path schema, goal schema → motive path schema)
  (member : ∀ path schema member, ¬ goal schema → schema.ref = none → member ∈ members schema →
    motive path member → motive path schema)
  (target : ∀ path schema ref target, ¬ goal schema → schema.ref = some ref → refName ref ∉ path →
    schemas.get? (refName ref) = some target → motive (refName ref :: path) target →
    motive path schema)

include here member target

/-- Induction along a shortest walk to a goal, below a path whose schemas are not nearer to it. -/
theorem induct_on_stepsTo {count : ℕ} {node schema : Schema} {path : List String}
    (hgoal : goal node) (hsteps : StepsTo schemas node count schema)
    (hleast : ∀ less < count, ∀ node, goal node → ¬ StepsTo schemas node less schema)
    (hpath : ∀ name ∈ path, ∀ above, schemas.get? name = some above →
      ∀ less < count, ∀ node, goal node → ¬ StepsTo schemas node less above) :
    motive path schema := by
  induction count generalizing schema path with
  | zero =>
    obtain rfl : schema = node := hsteps
    exact here path schema hgoal
  | succ count ih =>
    obtain ⟨next, hlead, hnext⟩ := hsteps
    have hnot : ¬ goal schema := fun hgoal ↦ hleast 0 (by omega) schema hgoal rfl
    have hleastNext : ∀ less < count, ∀ node, goal node → ¬ StepsTo schemas node less next :=
      fun less hless node hgoal hnear ↦ hleast (less + 1) (by omega) node hgoal ⟨next, hlead, hnear⟩
    have hpathNext : ∀ name ∈ path, ∀ above, schemas.get? name = some above →
        ∀ less < count, ∀ node, goal node → ¬ StepsTo schemas node less above :=
      fun name hname above hget less hless ↦ hpath name hname above hget less (by omega)
    cases hlead with
    | member hplain hmember =>
      exact member path schema next hnot hplain hmember (ih hnext hleastNext hpathNext)
    | @reference ref _ href hname hget =>
      obtain rfl := isLastSegment_iff.mp hname
      have hfresh : refName ref ∉ path := fun hmem ↦
        hpath _ hmem next hget count (by omega) node hgoal hnext
      refine target path schema ref next hnot href hfresh hget (ih hnext hleastNext ?_)
      intro name hname above hget'
      rcases List.mem_cons.mp hname with rfl | hname
      · obtain rfl : next = above := Option.some.inj (hget.symm.trans hget')
        exact hleastNext
      · exact hpathNext name hname above hget'

/-- What can be reached from the schema of a name at all can be reached below it. -/
theorem induct_to_goal {name : String} {schema node : Schema}
    (hget : schemas.get? name = some schema) (hreach : ReflTransGen (Leads schemas) schema node)
    (hgoal : goal node) : motive [name] schema := by
  classical
  have hexists : ∃ count, ∃ node, goal node ∧ StepsTo schemas node count schema := by
    obtain ⟨count, hcount⟩ := exists_stepsTo hreach
    exact ⟨count, node, hgoal, hcount⟩
  have hleast : ∀ less < Nat.find hexists, ∀ node, goal node → ¬ StepsTo schemas node less schema :=
    fun less hless node hgoal hnear ↦ Nat.find_min hexists hless ⟨node, hgoal, hnear⟩
  obtain ⟨nearest, hnearest, hsteps⟩ := Nat.find_spec hexists
  refine induct_on_stepsTo goal here member target hnearest hsteps hleast ?_
  intro other hother above hget'
  obtain rfl : other = name := List.mem_singleton.mp hother
  obtain rfl : schema = above := Option.some.inj (hget.symm.trans hget')
  exact hleast

end

/-- From the schema of a name, flattening visits every node that can be reached. -/
theorem visits_iff_contributes {name : String} {target node : Schema}
    (hget : schemas.get? name = some target) :
    Visits schemas [name] target node ↔ Contributes schemas target node := by
  refine ⟨Visits.contributes, fun ⟨hreach, hplain⟩ ↦ ?_⟩
  refine induct_to_goal (motive := fun path schema ↦ Visits schemas path schema node) (· = node)
    ?_ ?_ ?_ hget hreach rfl
  · rintro path schema rfl
    exact .here hplain
  · exact fun path schema member _ hschema hmember hvisit ↦ .member hschema hmember hvisit
  · exact fun path schema ref target _ href hpath hget hvisit ↦ .target href hpath hget hvisit

end ApiOutline.Flattening

namespace ApiOutline

open Flattening (Contributes)
open OpenApi (Components Schema)

/-- The properties of a model are those declared at the nodes that the walk from its schema reaches,
and the required ones are those required at one of them. -/
structure Model.Covers (schemas : Table Schema) (schema : Schema) (model : Model) : Prop where
  mem_names_iff : ∀ name, name ∈ model.properties.map (·.name) ↔
    ∃ node, Contributes schemas schema node ∧ name ∈ node.properties.map Prod.fst
  required_iff : ∀ property ∈ model.properties, property.required = true ↔
    ∃ node, Contributes schemas schema node ∧ property.name ∈ node.required

theorem Flattening.mem_names_component {schemas : Table Schema} {name : String} {schema : Schema}
    (hget : schemas.get? name = some schema) (role : Role) {property : String} :
    property ∈ namesOf role (Plain.component schemas [] name schema) ↔
      ∃ node, Contributes schemas schema node ∧ property ∈ ownNames role node := by
  rw [Plain.component, mem_names_collect, or_iff_right (not_mem_namesOf_empty role property)]
  simp only [visits_iff_contributes hget]

theorem Model.ofSchema_covers {schemas : Table Schema} {name : String} {schema : Schema}
    (hget : schemas.get? name = some schema) :
    Covers schemas schema
      (.ofSchema name schema (Flattening.Plain.component schemas [] name schema)) := by
  constructor
  · intro property
    have hnames : (Model.ofSchema name schema
        (Flattening.Plain.component schemas [] name schema)).properties.map (·.name) =
        Flattening.namesOf .declared (Flattening.Plain.component schemas [] name schema) := by
      rw [Model.ofSchema, PropertySet.toProperties, List.map_map]
      rfl
    rw [hnames]
    exact Flattening.mem_names_component hget .declared
  · intro property hproperty
    obtain ⟨entry, -, rfl⟩ := List.mem_map.mp hproperty
    rw [List.contains_iff_mem]
    exact Flattening.mem_names_component hget .required

/-- There is one model for each schema, under its name, and cutting circular references takes no
property and no requirement from it. -/
theorem Model.ofSchemas_covers (components : Components) :
    List.Forall₂ (fun entry model ↦
        model.name = entry.1 ∧ Model.Covers components.schemas entry.2 model)
      components.schemas.entries (Model.ofSchemas components.schemas) := by
  rw [Model.ofSchemas_eq_map, List.forall₂_map_right_iff, List.forall₂_same]
  intro entry hentry
  exact ⟨rfl, Model.ofSchema_covers (Table.get?_eq_some_iff.mpr hentry)⟩

/-- Of two schemas composed of each other, each has the property of the other first. -/
example :
    let composed (own other : String) : Schema :=
      { Schema.blank with
        allOf := [{ Schema.blank with ref := some other }]
        properties := [(own, .blank)] }
    (Model.ofSchemas (.ofList [("A", composed "a" "B"), ("B", composed "b" "A")])).map
      (fun model ↦ model.properties.map (·.name)) = [["b", "a"], ["a", "b"]] := by
  rfl

end ApiOutline
