import ApiOutline.Proofs.Flattening.Cache
import ApiOutline.Proofs.Interfaces.Partition

/-!
Every part of an outline is found by its name. The names of interfaces come from a list of distinct
ones, an operation takes a free name when it joins its interface, models are the entries of a table,
and a property that is declared again keeps its one entry. Where names are distinct, the first part
of a name is the only one (`find?_of_nodup`).
-/

set_option autoImplicit false
set_option relaxedAutoImplicit false

namespace ApiOutline

theorem find?_of_nodup {α : Type} {list : List α} (name : α → String)
    (hnodup : (list.map name).Nodup) {part : α} (hpart : part ∈ list) :
    list.find? (name · = name part) = some part := by
  induction list with
  | nil => simp at hpart
  | cons first rest ih =>
    obtain ⟨hfirst, hrest⟩ := List.nodup_cons.mp hnodup
    rcases List.mem_cons.mp hpart with rfl | hpart
    · simp
    · have hne : name first ≠ name part := fun h ↦ hfirst (h ▸ List.mem_map_of_mem hpart)
      rw [List.find?_cons_of_neg (by simpa using hne)]
      exact ih hrest hpart

/-! ### Properties -/

/-- Collecting keeps the declared names of a set distinct. -/
theorem Flattening.Plain.nodup_collect (schemas : Table OpenApi.Schema) (path : List String)
    (schema : OpenApi.Schema) (set : PropertySet)
    (hset : (set.properties.map Prod.fst).Nodup) :
    ((collect schemas path schema set).properties.map Prod.fst).Nodup := by
  induction path, schema using walk_induction schemas generalizing set with
  | cut path schema ref href hpath => rwa [collect_of_cut href hpath]
  | dangling path schema ref href hget => rwa [collect_of_dangling href hget]
  | target path schema ref target href hpath hget ih =>
    rw [collect_of_target href hpath hget]
    exact Entries.nodup_putAll hset _
  | plain path schema hplain ih =>
    rw [collect_of_plain hplain, collectAll_eq_foldl]
    refine Entries.nodup_putAll ?_ schema.properties
    exact List.foldlRecOn (motive := fun set ↦ (set.properties.map Prod.fst).Nodup)
      (members schema) _ hset fun set hset member hmember ↦ ih member hmember set hset

theorem Model.nodup_properties {schemas : Table OpenApi.Schema} {model : Model}
    (hmodel : model ∈ Model.ofSchemas schemas) : (model.properties.map (·.name)).Nodup := by
  rw [Model.ofSchemas_eq_map] at hmodel
  obtain ⟨entry, -, rfl⟩ := List.mem_map.mp hmodel
  rw [Model.ofSchema, PropertySet.toProperties, List.map_map]
  exact Flattening.Plain.nodup_collect schemas [entry.1] entry.2 .empty List.nodup_nil

theorem Model.nodup_ofSchemas (schemas : Table OpenApi.Schema) :
    ((Model.ofSchemas schemas).map (·.name)).Nodup := by
  rw [Model.ofSchemas_eq_map, List.map_map]
  exact schemas.nodup

/-! ### Interfaces -/

theorem Interface.nodup_ofDocument (document : OpenApi.Document) :
    ((Interface.ofDocument document).map (·.name)).Nodup := by
  rw [Interface.ofDocument_eq_map, List.map_map]
  exact (List.map_id _).symm ▸ nodup_eraseDups _

theorem Interface.nodup_operations {document : OpenApi.Document} {interface : Interface}
    (hinterface : interface ∈ Interface.ofDocument document) :
    (interface.operations.map (·.functionName)).Nodup := by
  obtain ⟨-, -, hoperations⟩ := Interface.eq_of_mem_ofDocument hinterface
  rw [hoperations]
  exact nodup_functionName_renamed _

/-! ### Outlines -/

/-- The names of the parts of an outline are distinct, and each part is found by its own. -/
structure Outline.Addressable (outline : Outline) : Prop where
  nodup_interfaces : (outline.interfaces.map (·.name)).Nodup
  nodup_operations : ∀ interface ∈ outline.interfaces,
    (interface.operations.map (·.functionName)).Nodup
  nodup_models : (outline.models.map (·.name)).Nodup
  nodup_properties : ∀ model ∈ outline.models, (model.properties.map (·.name)).Nodup
  interface?_name : ∀ interface ∈ outline.interfaces,
    outline.interface? interface.name = some interface
  operation?_functionName : ∀ interface ∈ outline.interfaces, ∀ operation ∈ interface.operations,
    interface.operation? operation.functionName = some operation
  model?_name : ∀ model ∈ outline.models, outline.model? model.name = some model
  property?_name : ∀ model ∈ outline.models, ∀ property ∈ model.properties,
    model.property? property.name = some property

theorem Outline.ofDocument_addressable (document : OpenApi.Document) :
    (Outline.ofDocument document).Addressable where
  nodup_interfaces := Interface.nodup_ofDocument document
  nodup_operations := fun _ ↦ Interface.nodup_operations
  nodup_models := Model.nodup_ofSchemas document.sharedParts.schemas
  nodup_properties := fun _ ↦ Model.nodup_properties
  interface?_name := fun _ hinterface ↦
    find?_of_nodup Interface.name (Interface.nodup_ofDocument document) hinterface
  operation?_functionName := fun _ hinterface _ hoperation ↦
    find?_of_nodup Operation.functionName (Interface.nodup_operations hinterface) hoperation
  model?_name := fun _ hmodel ↦
    find?_of_nodup Model.name (Model.nodup_ofSchemas document.sharedParts.schemas) hmodel
  property?_name := fun _ hmodel _ hproperty ↦
    find?_of_nodup Property.name (Model.nodup_properties hmodel) hproperty

end ApiOutline
