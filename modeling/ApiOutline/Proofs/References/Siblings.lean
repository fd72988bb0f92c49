import ApiOutline.Outline.TypeRef
import ApiOutline.Proofs.References.Silenced
import ApiOutline.Proofs.Schemas.Lenient
import ApiOutline.Proofs.Schemas.Reading

/-!
A reference silences its siblings. An object with a string under `$ref` is read as that reference,
whatever its other members are: by types, by flattening, and wherever a shared part may stand for a
parameter, a body or a response (`ReadsAsReference`).

`SwapsWithin` relates two schemas that differ in an object among the members they are composed of.
If both objects are the same reference, the schemas are the same once silenced
(`SwapsWithin.map_read_silenced`), so no property set changes and no property of a model.
-/

set_option autoImplicit false
set_option relaxedAutoImplicit false

namespace ApiOutline.OpenApi

open Flattening (Lookup collect collectReference collect_of_ref propertySets)

/-! ### Objects with a reference -/

/-- What a reference contributes wherever it is met: nothing if its name is on the path or there is
no schema of that name, and otherwise the set of that schema. -/
structure ContributesTarget (path : String) (schema : Schema) : Prop where
  of_cut (find : Lookup) (schemas : Table Schema) (set : PropertySet) (state : Flattening)
    (hpath : refName path ∈ state.path) :
    collect find schemas schema set state = (set, state.cut)
  of_dangling (find : Lookup) (schemas : Table Schema) (set : PropertySet) (state : Flattening)
    (hpath : refName path ∉ state.path) (hget : schemas.get? (refName path) = none) :
    collect find schemas schema set state = (set, state)
  of_target (find : Lookup) (schemas : Table Schema) (set : PropertySet) (state : Flattening)
    (target : Schema) (hpath : refName path ∉ state.path)
    (hget : schemas.get? (refName path) = some target) :
    collect find schemas schema set state =
      (set.merge (find (refName path) target state).1, (find (refName path) target state).2)

/-- An object is taken for a reference and nothing else, as a schema and as anything that may be
given by reference. -/
structure ReadsAsReference (path : String) (members : Members) : Prop where
  schema : ∃ schema, Schema.read (.object members) = .ok schema ∧
    TypeRef.ofSchema schema = .reference (refName path) ∧ ContributesTarget path schema
  refOr {α : Type} (read : Json → Except Mismatch α) :
    RefOr.read read (.object members) = .ok (.ref path)

theorem Schema.ref_ofMembers_eq_some_iff {members : Members} {path : String} :
    (ofMembers members).ref = some path ↔ members.lookup "$ref" = some (.string path) :=
  text_eq_some_iff (by simp [fieldRules])

theorem Schema.ref_ofMembers_eq_some {members : Members} {path : String}
    (href : members.lookup "$ref" = some (.string path)) : (ofMembers members).ref = some path :=
  ref_ofMembers_eq_some_iff.mpr href

theorem ofSchema_of_ref {schema : Schema} {path : String} (href : schema.ref = some path) :
    TypeRef.ofSchema schema = .reference (refName path) := by
  obtain ⟨type, ref, format, description, properties, required, items, default, enum, allOf, oneOf,
    anyOf⟩ := schema
  obtain rfl : ref = some path := href
  rw [TypeRef.ofSchema]

theorem ofSchema_of_plain {schema : Schema} (hplain : schema.ref = none) :
    TypeRef.ofSchema schema =
      .ofName (schema.type.bind SchemaType.name?) schema.format
        (TypeRef.ofSchema? schema.items) := by
  cases schema
  subst hplain
  rw [TypeRef.ofSchema]

theorem contributesTarget_of_ref {schema : Schema} {path : String}
    (href : schema.ref = some path) : ContributesTarget path schema where
  of_cut find schemas set state hpath := by
    rw [collect_of_ref href, collectReference, if_pos hpath]
  of_dangling find schemas set state hpath hget := by
    rw [collect_of_ref href, collectReference, if_neg hpath, hget]
  of_target find schemas set state target hpath hget := by
    rw [collect_of_ref href, collectReference, if_neg hpath, hget]

theorem readsAsReference {members : Members} {path : String}
    (href : members.lookup "$ref" = some (.string path)) : ReadsAsReference path members where
  schema := by
    have hread := Schema.ref_ofMembers_eq_some href
    exact ⟨_, by rw [Schema.read], ofSchema_of_ref hread, contributesTarget_of_ref hread⟩
  refOr read := by
    rw [RefOr.read, Json.get?, href]

/-! ### Schemas composed of them -/

/-- The fields whose values are lists of schemas to be composed. -/
def composedFields : List String := ["allOf", "oneOf", "anyOf"]

/-- Two values that are the same but for one in place of another, which is the whole of the schema
or, at whatever depth, one of the schemas it is composed of. -/
inductive SwapsWithin (value other : Json) : Json → Json → Prop
  | whole : SwapsWithin value other value other
  | member {key : String} {first second : Json} (hkey : key ∈ composedFields)
      (before after : Members) (front back : List Json) (h : SwapsWithin value other first second) :
      SwapsWithin value other
        (.object (before ++ (key, .array (front ++ first :: back)) :: after))
        (.object (before ++ (key, .array (front ++ second :: back)) :: after))
  /-- A schema that is written as the sequence of the values of its fields. -/
  | field {key : String} {first second : Json} (hkey : key ∈ composedFields)
      (before after : List Json) (hname : Schema.fieldNames[before.length]? = some key)
      (front back : List Json) (h : SwapsWithin value other first second) :
      SwapsWithin value other (.array (before ++ .array (front ++ first :: back) :: after))
        (.array (before ++ .array (front ++ second :: back) :: after))

/-- A value for a field, with the schemas silenced that are to be composed. -/
def SchemaField.silenced : SchemaField → SchemaField
  | .allOf value => .allOf (value.map Schema.silenced)
  | .oneOf value => .oneOf (value.map Schema.silenced)
  | .anyOf value => .anyOf (value.map Schema.silenced)
  | field => field

theorem Schema.withSilencedMembers_set (schema : Schema) (field : SchemaField) :
    (schema.set field).withSilencedMembers = schema.withSilencedMembers.set field.silenced := by
  cases field <;> rfl

theorem Schema.withSilencedMembers_ofMembers_congr {key : String} {value other : Json}
    (h : (SchemaField.read key value).silenced = (SchemaField.read key other).silenced)
    (before after : Members) :
    (ofMembers (before ++ (key, value) :: after)).withSilencedMembers =
      (ofMembers (before ++ (key, other) :: after)).withSilencedMembers := by
  induction before with
  | nil =>
    rw [List.nil_append, List.nil_append, ofMembers, ofMembers, withSilencedMembers_set,
      withSilencedMembers_set, h]
  | cons entry before ih =>
    obtain ⟨name, content⟩ := entry
    rw [List.cons_append, List.cons_append, ofMembers, ofMembers, withSilencedMembers_set,
      withSilencedMembers_set, ih]

theorem Schema.withSilencedMembers_ofValues_congr {names : List String} {key : String}
    {value other : Json}
    (h : (SchemaField.read key value).silenced = (SchemaField.read key other).silenced)
    (before after : List Json) (hname : names[before.length]? = some key) :
    (ofValues names (before ++ value :: after)).withSilencedMembers =
      (ofValues names (before ++ other :: after)).withSilencedMembers := by
  rw [ofValues_eq_ofMembers, ofValues_eq_ofMembers, zip_append_cons hname, zip_append_cons hname,
    withSilencedMembers_ofMembers_congr h]

/-- A list counts as a whole or not at all, which is the same for either of two items that are read
alike. -/
theorem Schema.map_readAll_congr {value other : Json}
    (h : (Schema.read value).map silenced = (Schema.read other).map silenced)
    (front back : List Json) :
    (readAll (front ++ value :: back)).map (List.map silenced) =
      (readAll (front ++ other :: back)).map (List.map silenced) := by
  induction front with
  | nil =>
    rw [List.nil_append, List.nil_append, readAll, readAll]
    cases hvalue : Schema.read value <;> cases hother : Schema.read other <;>
      cases readAll back <;> simp_all [Except.map]
  | cons first front ih =>
    rw [List.cons_append, List.cons_append, readAll, readAll]
    cases Schema.read first with
    | error mismatch => rfl
    | ok schema =>
      cases hvalue : readAll (front ++ value :: back) <;>
        cases hother : readAll (front ++ other :: back) <;> simp_all

theorem SchemaField.silenced_read_congr {key : String} (hkey : key ∈ composedFields)
    {values others : List Json} (h : (Schema.readAll values).map (List.map Schema.silenced) =
      (Schema.readAll others).map (List.map Schema.silenced)) :
    (read key (.array values)).silenced = (read key (.array others)).silenced := by
  have hlist : ((Schema.readAll values).getD []).map Schema.silenced =
      ((Schema.readAll others).getD []).map Schema.silenced := by
    cases hvalues : Schema.readAll values <;> cases hothers : Schema.readAll others <;> simp_all
  simp only [composedFields, List.mem_cons, List.not_mem_nil, or_false] at hkey
  rcases hkey with rfl | rfl | rfl
  · exact congrArg SchemaField.allOf hlist
  · exact congrArg SchemaField.oneOf hlist
  · exact congrArg SchemaField.anyOf hlist

/-- Schemas composed of two values that are the same once silenced are so too. -/
theorem SwapsWithin.map_read_silenced {value other first second : Json}
    (hwhole : (Schema.read value).map Schema.silenced = (Schema.read other).map Schema.silenced)
    (h : SwapsWithin value other first second) :
    (Schema.read first).map Schema.silenced = (Schema.read second).map Schema.silenced := by
  induction h with
  | whole => exact hwhole
  | member hkey before after front back _ ih =>
    have hfield := SchemaField.silenced_read_congr hkey (Schema.map_readAll_congr ih front back)
    rw [Schema.read, Schema.read]
    exact congrArg Except.ok
      (Schema.silenced_congr (Schema.withSilencedMembers_ofMembers_congr hfield before after))
  | field hkey before after hname front back _ ih =>
    have hfield := SchemaField.silenced_read_congr hkey (Schema.map_readAll_congr ih front back)
    rw [Schema.read, Schema.read, List.length_append, List.length_append, List.length_cons,
      List.length_cons]
    cases Schema.lengthMismatch? (before.length + (after.length + 1)) with
    | some mismatch => rfl
    | none =>
      exact congrArg Except.ok (Schema.silenced_congr
        (Schema.withSilencedMembers_ofValues_congr hfield before after hname))

/-! ### Property sets -/

/-- What is the same of two tables of schemas that are the same once silenced. -/
theorem map_eq_of_silenced_eq {β : Type} {first second : Except Mismatch (Table Schema)}
    (h : first.map (Table.mapValues Schema.silenced) =
      second.map (Table.mapValues Schema.silenced)) {view : Table Schema → β}
    (hview : ∀ schemas, view (schemas.mapValues Schema.silenced) = view schemas) :
    first.map view = second.map view := by
  have hsilent : ∀ result : Except Mismatch (Table Schema),
      result.map view = (result.map (Table.mapValues Schema.silenced)).map view := by
    intro result
    cases result with
    | error mismatch => rfl
    | ok schemas => exact congrArg Except.ok (hview schemas).symm
  rw [hsilent first, h, ← hsilent second]

/-- The models of a table by name, with their properties. -/
def modelProperties (schemas : Table Schema) : List (String × List Property) :=
  (Model.ofSchemas schemas).map fun model ↦ (model.name, model.properties)

theorem modelProperties_silenced (schemas : Table Schema) :
    modelProperties (schemas.mapValues Schema.silenced) = modelProperties schemas := by
  rw [modelProperties, modelProperties, Model.map_properties_ofSchemas,
    Model.map_properties_ofSchemas, Flattening.propertySets_silenced]

/-- Two objects with the same reference are the same reference wherever one can stand. With one in
place of the other, as a shared schema or among the members of one, a table of schemas can be read
as before, and its property sets and the properties of its models are the same. -/
theorem reference_silences_siblings {members others : Members} {path : String}
    (href : members.lookup "$ref" = some (.string path))
    (hother : others.lookup "$ref" = some (.string path)) :
    ReadsAsReference path members ∧ ReadsAsReference path others ∧
      (∀ first second : Json, SwapsWithin (.object members) (.object others) first second →
        ∀ (name : String) (before after : Members),
          let schemas := readTable Schema.read (.object (before ++ (name, first) :: after))
          let swapped := readTable Schema.read (.object (before ++ (name, second) :: after))
          schemas.map Table.keys = swapped.map Table.keys ∧
            schemas.map propertySets = swapped.map propertySets ∧
            schemas.map modelProperties = swapped.map modelProperties) ∧
      ∀ (α : Type) (read : Json → Except Mismatch α) (table : Table (RefOr α)),
        (RefOr.read read (.object members)).map (RefOr.resolve table) =
          (RefOr.read read (.object others)).map (RefOr.resolve table) := by
  have hreads := readsAsReference href
  have hreadsOther := readsAsReference hother
  refine ⟨hreads, hreadsOther, ?_, ?_⟩
  · intro first second hswap name before after schemas swapped
    have hwhole : (Schema.read (.object members)).map Schema.silenced =
        (Schema.read (.object others)).map Schema.silenced := by
      have hmembers := Schema.silenced_of_ref (Schema.ref_ofMembers_eq_some href)
      have hothers := Schema.silenced_of_ref (Schema.ref_ofMembers_eq_some hother)
      rw [Schema.read, Schema.read]
      exact congrArg Except.ok (hmembers.trans hothers.symm)
    have hsilenced := map_readTable_congr (hswap.map_read_silenced hwhole) name before after
    refine ⟨map_eq_of_silenced_eq hsilenced fun schemas ↦ ?_,
      map_eq_of_silenced_eq hsilenced Flattening.propertySets_silenced,
      map_eq_of_silenced_eq hsilenced modelProperties_silenced⟩
    exact List.map_map
  · intro α read table
    rw [hreads.refOr read, hreadsOther.refOr read]

/-- A reference beside properties, and the same beside members of the wrong forms. -/
theorem reference_silences_siblings_pet :
    let path := "#/components/schemas/Pet"
    let members : Members :=
      [("$ref", .string path), ("properties", .object [("age", .object [])])]
    let others : Members :=
      [("allOf", .bool true), ("$ref", .string path), ("required", .array [.string "age"])]
    let own : Json := .object [("properties", .object [("claws", .object [])])]
    let cat (reference : Members) : Json := .object [("allOf", .array [own, .object reference])]
    let pet : Json := .object [("properties", .object [("name", .object [])])]
    let models (reference : Members) :=
      (readTable Schema.read (.object [("Cat", cat reference), ("Pet", pet)])).map modelProperties
    ReadsAsReference path members ∧ ReadsAsReference path others ∧
      (models members).toOption.map (List.map fun entry ↦ (entry.1, entry.2.map (·.name))) =
        some [("Cat", ["claws", "name"]), ("Pet", ["name"])] ∧
      models members = models others := by
  intro path members others own cat pet models
  obtain ⟨hreads, hreadsOther, htables, -⟩ :=
    reference_silences_siblings (show members.lookup "$ref" = some (.string path) from rfl)
      (show others.lookup "$ref" = some (.string path) from rfl)
  have hswap : SwapsWithin (.object members) (.object others) (cat members) (cat others) :=
    .member (List.mem_cons_self) [] [] [own] [] .whole
  obtain ⟨-, -, hmodels⟩ := htables (cat members) (cat others) hswap "Cat" [] [("Pet", pet)]
  exact ⟨hreads, hreadsOther, by decide +kernel, hmodels⟩

end ApiOutline.OpenApi
