import ApiOutline.Proofs.Flattening.Cache
import ApiOutline.Proofs.Schemas.Change

/-!
Schemas with what references silence taken away. Of a schema with a reference nothing else counts,
so `Schema.silenced` keeps the reference alone, in the schema itself and in those it is composed of.
Flattening does not see the difference (`Flattening.Plain.collect_silenced`): two tables that are
the same once silenced have the same property sets, and models with the same properties.
-/

set_option autoImplicit false
set_option relaxedAutoImplicit false

namespace ApiOutline.OpenApi

/-! ### Silenced schemas -/

mutual

/-- A schema without what stands beside a reference, its own and those of its members. -/
def Schema.silenced : Schema → Schema
  | ⟨_, some path, _, _, _, _, _, _, _, _, _, _⟩ => { Schema.blank with ref := some path }
  | ⟨type, none, format, description, properties, required, items, default, enum, allOf, oneOf,
      anyOf⟩ =>
    ⟨type, none, format, description, properties, required, items, default, enum,
      Schema.silencedAll allOf, Schema.silencedAll oneOf, Schema.silencedAll anyOf⟩

def Schema.silencedAll : List Schema → List Schema
  | [] => []
  | schema :: rest => schema.silenced :: Schema.silencedAll rest

end

/-- A schema with its members silenced, whether or not it is a reference itself. -/
def Schema.withSilencedMembers (schema : Schema) : Schema :=
  { schema with
    allOf := schema.allOf.map .silenced
    oneOf := schema.oneOf.map .silenced
    anyOf := schema.anyOf.map .silenced }

theorem Schema.silencedAll_eq_map (list : List Schema) : silencedAll list = list.map silenced := by
  induction list with
  | nil => rfl
  | cons schema rest ih => rw [silencedAll, List.map_cons, ih]

theorem Schema.silenced_of_ref {schema : Schema} {path : String} (href : schema.ref = some path) :
    schema.silenced = { blank with ref := some path } := by
  obtain ⟨type, ref, format, description, properties, required, items, default, enum, allOf, oneOf,
    anyOf⟩ := schema
  obtain rfl : ref = some path := href
  rw [silenced]

theorem Schema.silenced_of_plain {schema : Schema} (hplain : schema.ref = none) :
    schema.silenced = schema.withSilencedMembers := by
  obtain ⟨type, ref, format, description, properties, required, items, default, enum, allOf, oneOf,
    anyOf⟩ := schema
  obtain rfl : ref = none := hplain
  rw [silenced, withSilencedMembers, silencedAll_eq_map, silencedAll_eq_map, silencedAll_eq_map]

@[simp]
theorem Schema.ref_silenced (schema : Schema) : schema.silenced.ref = schema.ref := by
  cases href : schema.ref with
  | none =>
    rw [silenced_of_plain href]
    exact href
  | some path => rw [silenced_of_ref href]

/-- What a schema says beside its members decides what of them is silenced. -/
theorem Schema.silenced_congr {schema other : Schema}
    (h : schema.withSilencedMembers = other.withSilencedMembers) :
    schema.silenced = other.silenced := by
  have href : schema.withSilencedMembers.ref = other.withSilencedMembers.ref := congrArg _ h
  change schema.ref = other.ref at href
  cases hother : other.ref with
  | none => rw [silenced_of_plain (href.trans hother), silenced_of_plain hother, h]
  | some path => rw [silenced_of_ref (href.trans hother), silenced_of_ref hother]

end ApiOutline.OpenApi

namespace ApiOutline.Flattening

open OpenApi (Schema refName)

/-! ### Flattening -/

theorem members_silenced {schema : Schema} (hplain : schema.ref = none) :
    members schema.silenced = (members schema).map Schema.silenced := by
  rw [Schema.silenced_of_plain hplain, members, members, Schema.withSilencedMembers]
  cases schema.allOf with
  | nil => cases schema.oneOf <;> cases schema.anyOf <;> rfl
  | cons first rest => rfl

/-- A schema contributes the same when it and the schemas of all names are silenced. -/
theorem Plain.collect_silenced (schemas : Table Schema) (path : List String) (schema : Schema)
    (set : PropertySet) :
    collect (schemas.mapValues Schema.silenced) path schema.silenced set =
      collect schemas path schema set := by
  induction path, schema using walk_induction schemas generalizing set with
  | cut path schema ref href hpath =>
    have hsilenced : schema.silenced.ref = some ref := (schema.ref_silenced).trans href
    rw [collect_of_cut hsilenced hpath, collect_of_cut href hpath]
  | dangling path schema ref href hget =>
    have hsilenced : schema.silenced.ref = some ref := (schema.ref_silenced).trans href
    have hgetSilenced : (schemas.mapValues Schema.silenced).get? (refName ref) = none := by
      rw [Table.get?_mapValues, hget, Option.map_none]
    rw [collect_of_dangling hsilenced hgetSilenced, collect_of_dangling href hget]
  | target path schema ref target href hpath hget ih =>
    have hsilenced : schema.silenced.ref = some ref := (schema.ref_silenced).trans href
    have hgetSilenced :
        (schemas.mapValues Schema.silenced).get? (refName ref) = some target.silenced := by
      rw [Table.get?_mapValues, hget, Option.map_some]
    rw [collect_of_target hsilenced hpath hgetSilenced, collect_of_target href hpath hget,
      component, component, ih]
  | plain path schema hplain ih =>
    have hsilenced : schema.silenced.ref = none := (schema.ref_silenced).trans hplain
    have hall : collectAll (schemas.mapValues Schema.silenced) path (members schema.silenced) set =
        collectAll schemas path (members schema) set := by
      rw [members_silenced hplain, collectAll_eq_foldl, collectAll_eq_foldl, List.foldl_map]
      exact List.foldl_ext _ _ _ fun set member hmember ↦ ih member hmember set
    have hproperties : schema.silenced.properties = schema.properties := by
      rw [Schema.silenced_of_plain hplain]
      rfl
    have hrequired : schema.silenced.required = schema.required := by
      rw [Schema.silenced_of_plain hplain]
      rfl
    rw [collect_of_plain hsilenced, collect_of_plain hplain, hall, hproperties, hrequired]

/-! ### Property sets and models -/

/-- The names of a table of schemas, each with its property set. -/
def propertySets (schemas : Table Schema) : List (String × PropertySet) :=
  schemas.keys.zip (components schemas schemas.entries .start).1

theorem propertySets_eq_map (schemas : Table Schema) :
    propertySets schemas = schemas.entries.map fun entry ↦
      (entry.1, Plain.component schemas [] entry.1 entry.2) := by
  have hsets := components_eq_map (List.Subset.refl schemas.entries)
    (show start.path = [] from rfl) CacheSound.start
  rw [propertySets, hsets, Table.keys, List.zip_map']

theorem propertySets_silenced (schemas : Table Schema) :
    propertySets (schemas.mapValues Schema.silenced) = propertySets schemas := by
  rw [propertySets_eq_map, propertySets_eq_map]
  change (schemas.entries.map fun entry ↦ (entry.1, entry.2.silenced)).map _ = _
  rw [List.map_map]
  refine List.map_congr_left fun entry _ ↦ ?_
  exact congrArg (Prod.mk entry.1) (Plain.collect_silenced schemas [entry.1] entry.2 .empty)

end ApiOutline.Flattening

namespace ApiOutline

open OpenApi (Schema)

/-- A model shows the property set of its schema. -/
theorem Model.map_properties_ofSchemas (schemas : Table Schema) :
    (ofSchemas schemas).map (fun model ↦ (model.name, model.properties)) =
      (Flattening.propertySets schemas).map fun entry ↦ (entry.1, entry.2.toProperties) := by
  rw [ofSchemas_eq_map, Flattening.propertySets_eq_map, List.map_map, List.map_map]
  rfl

end ApiOutline
