import ApiOutline.Proofs.Schemas.Change

/-!
What schemas have to do with interfaces: they give the types of parameters and contents, and nothing
else. So if a change of schemas changes each type in one way, the interfaces of a changed document
are those of the document with their types changed (`Interface.ofDocument_mapSchemas`).
-/

set_option autoImplicit false
set_option relaxedAutoImplicit false

namespace ApiOutline

open OpenApi (Components RefOr Schema SchemaPlace)

variable {α β : Type}

/-! ### Outlines with their types changed -/

def Parameter.retype (retype : TypeRef → TypeRef) (parameter : Parameter) : Parameter :=
  { parameter with type := retype parameter.type }

def Operation.retype (retype : TypeRef → TypeRef) (operation : Operation) : Operation :=
  { operation with
    parameters := operation.parameters.map (·.retype retype)
    requestBody := operation.requestBody.map retype
    responseType := retype operation.responseType }

def Interface.retype (retype : TypeRef → TypeRef) (interface : Interface) : Interface :=
  { interface with operations := interface.operations.map (·.retype retype) }

theorem Operation.retype_id (operation : Operation) : operation.retype id = operation := by
  have hparameters : operation.parameters.map (·.retype id) = operation.parameters :=
    (List.map_congr_left fun _ _ ↦ rfl).trans (List.map_id _)
  rw [retype, hparameters, Option.map_id]
  rfl

theorem Interface.retype_id (interface : Interface) : interface.retype id = interface := by
  have hoperations : interface.operations.map (·.retype id) = interface.operations :=
    (List.map_congr_left fun operation _ ↦ operation.retype_id).trans (List.map_id _)
  rw [retype, hoperations]

/-- A change of the schemas of parameters and media types that changes each type in one way, and not
where there is no schema to make a type of. -/
structure Retypes (change : SchemaPlace → Schema → Schema) (retype : TypeRef → TypeRef) : Prop where
  parameter : ∀ schema, TypeRef.ofSchema (change .parameter schema) = retype (.ofSchema schema)
  mediaType : ∀ schema, TypeRef.ofSchema (change .mediaType schema) = retype (.ofSchema schema)
  jsonElement : retype .jsonElement = .jsonElement
  unit : retype .unit = .unit

variable {change : SchemaPlace → Schema → Schema} {retype : TypeRef → TypeRef}

theorem TypeRef.ofSchema?_map {change : Schema → Schema}
    (h : ∀ schema, ofSchema (change schema) = retype (ofSchema schema))
    (hnone : retype .jsonElement = .jsonElement) (schema : Option Schema) :
    ofSchema? (schema.map change) = retype (ofSchema? schema) := by
  cases schema with
  | none => exact hnone.symm
  | some schema => exact h schema

/-! ### References -/

theorem OpenApi.RefOr.resolve_map (change : α → β) (table : Table (RefOr α)) (node : RefOr α) :
    (node.map change).resolve (table.mapValues (.map change)) =
      (node.resolve table).map change := by
  rw [resolve, resolve]
  generalize maxNodes = nodes
  induction nodes generalizing node with
  | zero => rfl
  | succ nodes ih =>
    cases node with
    | item value => rfl
    | ref path =>
      rw [RefOr.map, follow, follow, Table.get?_mapValues]
      cases table.get? (OpenApi.refName path) with
      | none => rfl
      | some next => exact ih next

/-! ### Parameters -/

theorem Parameter.ofDeclared?_mapSchemas (h : Retypes change retype)
    (parameter : OpenApi.Parameter) :
    ofDeclared? (parameter.mapSchemas change) = (ofDeclared? parameter).map (·.retype retype) := by
  rw [ofDeclared?, ofDeclared?, Option.map_map]
  have htype := TypeRef.ofSchema?_map h.parameter h.jsonElement parameter.schema
  simp only [OpenApi.Parameter.mapSchemas, htype]
  rfl

theorem Parameter.override_retype (parameters : List Parameter) (parameter : Parameter) :
    override (parameters.map (·.retype retype)) (parameter.retype retype) =
      (override parameters parameter).map (·.retype retype) := by
  induction parameters with
  | nil => rfl
  | cons first rest ih =>
    have hkey : (first.retype retype).sameKey (parameter.retype retype) =
        first.sameKey parameter :=
      rfl
    rw [List.map_cons, override, override, hkey, ih]
    cases first.sameKey parameter <;> rfl

theorem Parameter.ofList_mapSchemas (h : Retypes change retype) (components : Components)
    (declared : List (RefOr OpenApi.Parameter)) :
    ofList (components.mapSchemas change) (declared.map (.map (·.mapSchemas change))) =
      (ofList components declared).map (·.retype retype) := by
  rw [ofList, ofList, List.filterMap_map, List.map_filterMap]
  refine List.filterMap_congr fun node _ ↦ ?_
  rw [Function.comp_apply, OpenApi.Components.mapSchemas, OpenApi.RefOr.resolve_map]
  cases node.resolve components.parameters with
  | none => rfl
  | some parameter => exact Parameter.ofDeclared?_mapSchemas h parameter

theorem Parameter.merge_mapSchemas (h : Retypes change retype) (components : Components)
    (shared own : List (RefOr OpenApi.Parameter)) :
    merge (components.mapSchemas change) (shared.map (.map (·.mapSchemas change)))
        (own.map (.map (·.mapSchemas change))) =
      (merge components shared own).map (·.retype retype) := by
  rw [merge, merge, ofList_mapSchemas h, ofList_mapSchemas h]
  generalize ofList components shared = parameters
  induction ofList components own generalizing parameters with
  | nil => rfl
  | cons first rest ih => rw [List.map_cons, List.foldl_cons, override_retype, ih, List.foldl_cons]

/-! ### Contents -/

theorem jsonContent?_mapValues (content : Table OpenApi.MediaType)
    (change : OpenApi.MediaType → OpenApi.MediaType) :
    jsonContent? (content.mapValues change) = (jsonContent? content).map change := by
  rw [jsonContent?, jsonContent?, Table.get?_mapValues]
  cases content.get? "application/json" with
  | some mediaType => rfl
  | none =>
    simp only [Option.map_none, Table.mapValues, List.find?_map, Option.map_map]
    rfl

theorem requestType?_mapSchemas (h : Retypes change retype) (components : Components)
    (body : Option (RefOr OpenApi.RequestBody)) :
    requestType? (components.mapSchemas change) (body.map (.map (·.mapSchemas change))) =
      (requestType? components body).map retype := by
  cases body with
  | none => rfl
  | some node =>
    have hnode : (node.map (·.mapSchemas change)).resolve
        (components.mapSchemas change).requestBodies =
          (node.resolve components.requestBodies).map (·.mapSchemas change) :=
      OpenApi.RefOr.resolve_map _ _ _
    rw [requestType?, requestType?, Option.map_some]
    simp only [bind, Option.bind_some, hnode]
    cases node.resolve components.requestBodies with
    | none => rfl
    | some requestBody =>
      have hcontent := jsonContent?_mapValues requestBody.content (·.mapSchemas change)
      simp only [Option.map_some, Option.bind_some, OpenApi.RequestBody.mapSchemas, hcontent]
      cases jsonContent? requestBody.content with
      | none => rfl
      | some mediaType =>
        exact congrArg some (TypeRef.ofSchema?_map h.mediaType h.jsonElement mediaType.schema)

theorem successResponse?_mapValues (responses : Table (RefOr OpenApi.Response))
    (change : RefOr OpenApi.Response → RefOr OpenApi.Response) :
    successResponse? (responses.mapValues change) = (successResponse? responses).map change := by
  rw [successResponse?, successResponse?]
  induction successStatuses with
  | nil => rfl
  | cons status rest ih =>
    rw [List.findSome?_cons, List.findSome?_cons, ih]
    simp only [Table.mapValues, List.find?_map, Function.comp_def]
    cases responses.entries.find? fun entry ↦ Text.equalIgnoringAsciiCase entry.1 status <;> rfl

theorem responseType_mapSchemas (h : Retypes change retype) (components : Components)
    (responses : Table (RefOr OpenApi.Response)) :
    responseType (components.mapSchemas change) (responses.mapValues (.map (·.mapSchemas change))) =
      retype (responseType components responses) := by
  rw [responseType, responseType, successResponse?_mapValues]
  cases successResponse? responses with
  | none => exact h.unit.symm
  | some node =>
    have hnode : (node.map (·.mapSchemas change)).resolve (components.mapSchemas change).responses =
        (node.resolve components.responses).map (·.mapSchemas change) :=
      OpenApi.RefOr.resolve_map _ _ _
    simp only [bind, Option.map_some, Option.bind_some, hnode]
    cases node.resolve components.responses with
    | none => exact h.unit.symm
    | some response =>
      have hcontent := jsonContent?_mapValues response.content (·.mapSchemas change)
      simp only [Option.map_some, Option.bind_some, OpenApi.Response.mapSchemas, hcontent]
      cases jsonContent? response.content with
      | none => exact h.unit.symm
      | some mediaType => exact TypeRef.ofSchema?_map h.mediaType h.jsonElement mediaType.schema

/-! ### Operations -/

theorem Operation.ofDeclared_mapSchemas (h : Retypes change retype) (components : Components)
    (path : String) (method : Method) (shared : List (RefOr OpenApi.Parameter))
    (operation : OpenApi.Operation) :
    ofDeclared (components.mapSchemas change) path method
        (shared.map (.map (·.mapSchemas change))) (operation.mapSchemas change) =
      (ofDeclared components path method shared operation).retype retype := by
  rw [ofDeclared, ofDeclared, Operation.retype, OpenApi.Operation.mapSchemas]
  dsimp only
  rw [Parameter.merge_mapSchemas h, requestType?_mapSchemas h, responseType_mapSchemas h]

def DeclaredOperation.mapSchemas (change : SchemaPlace → Schema → Schema)
    (declared : DeclaredOperation) : DeclaredOperation :=
  { declared with
    shared := declared.shared.map (.map (·.mapSchemas change))
    operation := declared.operation.mapSchemas change }

theorem DeclaredOperation.ofItem_mapSchemas (path : String) (item : OpenApi.PathItem) :
    ofItem path (item.mapSchemas change) = (ofItem path item).map (·.mapSchemas change) := by
  rw [ofItem, ofItem, List.map_filterMap]
  refine List.filterMap_congr fun method _ ↦ ?_
  have hoperation : (item.mapSchemas change).operation? method =
      (item.operation? method).map (·.mapSchemas change) := by
    cases method <;> rfl
  rw [hoperation]
  cases item.operation? method <;> rfl

theorem DeclaredOperation.ofDocument_mapSchemas (document : OpenApi.Document) :
    ofDocument (document.mapSchemas change) = (ofDocument document).map (·.mapSchemas change) := by
  rw [ofDocument, ofDocument, List.map_flatMap, OpenApi.Document.mapSchemas, Table.mapValues,
    List.flatMap_map]
  exact congrArg (document.paths.entries.flatMap ·) (funext fun _ ↦ ofItem_mapSchemas _ _)

/-! ### Interfaces -/

/-- Types have no part in the names of operations. -/
theorem renamed_retype (operations : List Operation) :
    renamed (operations.map (·.retype retype)) = (renamed operations).map (·.retype retype) := by
  induction operations using List.reverseRecOn with
  | nil => rfl
  | append_singleton operations operation ih =>
    rw [List.map_append, List.map_singleton, renamed_concat, renamed_concat, ih, appendFree,
      appendFree, List.map_append, List.map_map]
    rfl

theorem operationsOf_mapSchemas (h : Retypes change retype) (components : Components)
    (declared : List DeclaredOperation) (name : String) :
    operationsOf (components.mapSchemas change) (declared.map (·.mapSchemas change)) name =
      (operationsOf components declared name).map (·.retype retype) := by
  rw [operationsOf, operationsOf, ← renamed_retype, List.filter_map, List.map_map, List.map_map]
  refine congrArg renamed (List.map_congr_left fun next _ ↦ ?_)
  exact Operation.ofDeclared_mapSchemas h components _ _ _ _

theorem sharedParts_mapSchemas (document : OpenApi.Document) :
    (document.mapSchemas change).sharedParts = document.sharedParts.mapSchemas change := by
  rw [OpenApi.Document.sharedParts, OpenApi.Document.sharedParts, OpenApi.Document.mapSchemas]
  cases document.components <;> rfl

theorem Interface.ofDocument_mapSchemas (h : Retypes change retype) (document : OpenApi.Document) :
    ofDocument (document.mapSchemas change) = (ofDocument document).map (·.retype retype) := by
  rw [ofDocument_eq_map, ofDocument_eq_map, DeclaredOperation.ofDocument_mapSchemas,
    sharedParts_mapSchemas, List.map_map, List.map_map]
  refine List.map_congr_left fun name _ ↦ ?_
  rw [operationsOf_mapSchemas h]
  rfl

end ApiOutline
