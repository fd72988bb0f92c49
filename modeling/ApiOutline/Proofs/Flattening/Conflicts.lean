import ApiOutline.Proofs.Entries
import ApiOutline.Proofs.Flattening.Gathering

/-!
Properties that are declared more than once. Flattening merges the set of each schema it comes to,
itself merged from others, and the result is as if nothing had been merged: it is what the
declarations of the walk make when they are declared one after the other
(`collect_eq_declarations`). So a property stands where it is declared first and is what it is
declared to be last, and it is required if any list of the walk requires it, before or after.
-/

set_option autoImplicit false
set_option relaxedAutoImplicit false

namespace ApiOutline

open OpenApi (Components Schema)

/-! ### Sets declared one after the other -/

namespace PropertySet

theorem merge_empty (set : PropertySet) : set.merge .empty = set := rfl

theorem declare_require_declare_require (set : PropertySet)
    (properties furtherProperties : List (String × Schema)) (names furtherNames : List String) :
    (((set.declare properties).require names).declare furtherProperties).require furtherNames =
      (set.declare (properties ++ furtherProperties)).require (names ++ furtherNames) := by
  simp only [declare, require, Entries.putAll, List.foldl_append]

theorem foldl_addName_addName (names further : List String) (name : String) :
    (addName further name).foldl addName names = addName (further.foldl addName names) name := by
  by_cases hname : name ∈ further
  · have hmem : name ∈ further.foldl addName names :=
      Flattening.mem_foldl_addName.mpr (.inr hname)
    simp only [addName, hname, hmem, ↓reduceIte]
  · rw [addName, if_neg hname, List.foldl_concat]

theorem foldl_addName_foldl (names further last : List String) :
    (last.foldl addName further).foldl addName names =
      last.foldl addName (further.foldl addName names) := by
  induction last generalizing further with
  | nil => rfl
  | cons name rest ih => rw [List.foldl_cons, ih, foldl_addName_addName, List.foldl_cons]

/-- To merge what is declared elsewhere is to declare it here. -/
theorem merge_declare_require (set : PropertySet) {other : PropertySet}
    (hnodup : (other.properties.map Prod.fst).Nodup) (properties : List (String × Schema))
    (names : List String) :
    set.merge ((other.declare properties).require names) =
      ((set.merge other).declare properties).require names := by
  simp only [merge, declare, require, Entries.putAll_putAll hnodup, foldl_addName_foldl]

end PropertySet

namespace Flattening

variable {schemas : Table Schema}

/-- The properties declared along the walk from a schema below the names of a path. -/
def declarations (schemas : Table Schema) : List String → Schema → List (String × Schema) :=
  gather schemas (fun _ ↦ []) (·.properties)

/-- The names required along the walk from a schema below the names of a path. -/
def requirements (schemas : Table Schema) : List String → Schema → List String :=
  gather schemas (fun _ ↦ []) (·.required)

/-- Flattening declares what the walk declares, in the order of the walk. -/
theorem Plain.collect_eq_declarations (path : List String) (schema : Schema) (set : PropertySet) :
    collect schemas path schema set =
      (set.declare (declarations schemas path schema)).require
        (requirements schemas path schema) := by
  induction path, schema using walk_induction schemas generalizing set with
  | cut path schema ref href hpath =>
    rw [collect_of_cut href hpath, declarations, requirements, gather_of_cut href hpath,
      gather_of_cut href hpath]
    rfl
  | dangling path schema ref href hget =>
    rw [collect_of_dangling href hget, declarations, requirements, gather_of_dangling href hget,
      gather_of_dangling href hget]
    rfl
  | target path schema ref target href hpath hget ih =>
    have hempty : (PropertySet.empty.properties.map Prod.fst).Nodup := List.nodup_nil
    rw [collect_of_target href hpath hget, component, ih,
      PropertySet.merge_declare_require set hempty, PropertySet.merge_empty, declarations,
      requirements, gather_of_target href hpath hget, gather_of_target href hpath hget]
    rfl
  | plain path schema hplain ih =>
    have hall : ∀ list ⊆ members schema, ∀ set : PropertySet,
        collectAll schemas path list set =
          (set.declare (list.flatMap (declarations schemas path))).require
            (list.flatMap (requirements schemas path)) := by
      intro list hlist
      induction list with
      | nil =>
        intro set
        rw [collectAll]
        rfl
      | cons first rest ihrest =>
        intro set
        obtain ⟨hfirst, hrest⟩ := List.cons_subset.mp hlist
        rw [collectAll, ih first hfirst, ihrest hrest, List.flatMap_cons, List.flatMap_cons,
          PropertySet.declare_require_declare_require]
    rw [collect_of_plain hplain, hall _ (List.Subset.refl _),
      PropertySet.declare_require_declare_require, declarations, requirements,
      gather_of_plain hplain, gather_of_plain hplain]

end Flattening

/-! ### Models -/

open Flattening (declarations requirements)

/-- The text of a default value: a string as it is, a scalar by its name or its digits
(`Number.text_integer`, `Number.text_float_writes`), and an array or an object as JSON in one line.
There is none for `null`. -/
inductive DefaultText : Option Json → Option String → Prop
  | absent : DefaultText none none
  | null : DefaultText (some .null) none
  | string (value : String) : DefaultText (some (.string value)) (some value)
  | true : DefaultText (some (.bool true)) (some "true")
  | false : DefaultText (some (.bool false)) (some "false")
  | number (value : Number) : DefaultText (some (.number value)) (some value.text)
  | array (items : List Json) : DefaultText (some (.array items)) (some (Json.array items).compact)
  | object (members : List (String × Json)) :
      DefaultText (some (.object members)) (some (Json.object members).compact)

theorem defaultText_iff {default : Option Json} {text : Option String} :
    DefaultText default text ↔ text = default.bind literalText? := by
  constructor
  · rintro (_ | _ | _ | _ | _ | value | _ | _)
    case number => exact congrArg some String.ofList_toList.symm
    all_goals rfl
  · rintro rfl
    obtain _ | _ | (_ | _) | value | value | items | members := default
    case some.number =>
      change DefaultText _ (some (String.ofList value.text.toList))
      rw [String.ofList_toList]
      exact .number value
    all_goals constructor

/-- A model of the properties that are declared one after the other: each has the place of its first
declaration and says what its last one does, and it is required if its name is. -/
structure Model.Settles (declared : List (String × Schema)) (required : List String)
    (model : Model) : Prop where
  names_eq : model.properties.map (·.name) = (declared.map Prod.fst).eraseDups
  eq_last : ∀ property ∈ model.properties, ∃ schema,
    Entries.IsLast declared property.name schema ∧ property.type = .ofSchema schema ∧
      DefaultText schema.default property.defaultValue ∧
      property.description = schema.description
  required_iff : ∀ property ∈ model.properties,
    property.required = true ↔ property.name ∈ required

theorem Model.ofSchema_settles (schemas : Table Schema) (name : String) (schema : Schema) :
    Settles (declarations schemas [name] schema) (requirements schemas [name] schema)
      (.ofSchema name schema (Flattening.Plain.component schemas [] name schema)) := by
  rw [Flattening.Plain.component, Flattening.Plain.collect_eq_declarations]
  constructor
  · rw [ofSchema, PropertySet.toProperties, List.map_map]
    exact Entries.keys_putAll_nil _
  · intro property hproperty
    obtain ⟨entry, hentry, rfl⟩ := List.mem_map.mp hproperty
    exact ⟨entry.2, Entries.mem_putAll_nil_iff.mp hentry, rfl, defaultText_iff.mpr rfl, rfl⟩
  · intro property hproperty
    obtain ⟨entry, -, rfl⟩ := List.mem_map.mp hproperty
    rw [List.contains_iff_mem]
    exact Flattening.mem_foldl_addName.trans (or_iff_right List.not_mem_nil)

/-- Every model is made of the declarations along the walk from its schema, of which the first gives
a property its place, the last what it is, and any that it is required. -/
theorem Model.ofSchemas_settle (components : Components) :
    List.Forall₂ (fun entry model ↦ model.name = entry.1 ∧
        Settles (declarations components.schemas [entry.1] entry.2)
          (requirements components.schemas [entry.1] entry.2) model)
      components.schemas.entries (Model.ofSchemas components.schemas) := by
  rw [Model.ofSchemas_eq_map, List.forall₂_map_right_iff, List.forall₂_same]
  intro entry _
  exact ⟨rfl, Model.ofSchema_settles components.schemas entry.1 entry.2⟩

/-- A property that two members declare stands before the other of the first member and has the type
that the second member gives it. -/
example :
    let typed (name type : String) : String × Schema :=
      (name, { Schema.blank with type := some (.single type) })
    let first := { Schema.blank with properties := [typed "value" "string", typed "other" "boolean"] }
    let second := { Schema.blank with properties := [typed "value" "integer"], required := ["value"] }
    (Model.ofSchemas (.ofList [("Conflict", { Schema.blank with allOf := [first, second] })])).map
        (fun model ↦ model.properties.map fun property ↦ (property.name, property.type)) =
      [[("value", .primitive .int), ("other", .primitive .boolean)]] := by
  rfl

end ApiOutline
