import ApiOutline.Proofs.Flattening.Conflicts
import ApiOutline.Proofs.Parameters.Merging
import ApiOutline.Proofs.References.LastSegment

/-!
Where the types of an outline come from. Each is read from one schema of the document, or from none
where there is none (`TypeRef.ReadFrom`): a reference is the last segment of what the schema at its
place refers to, whether or not there is a model of that name, and the items of a list are read from
the items of the schema. The type of no value is read from no schema, so it is nowhere but where a
response has no content.
-/

set_option autoImplicit false
set_option relaxedAutoImplicit false

namespace ApiOutline

open OpenApi (Components Document IsLastSegment MediaType RefOr RequestBody Response Schema)

/-- A type as it is read from a schema, or from the lack of one. -/
def TypeRef.ReadFrom : TypeRef → Option Schema → Prop
  | .reference name, schema =>
    ∃ node path, schema = some node ∧ node.ref = some path ∧ IsLastSegment name path
  | .list item, schema => ∃ node, schema = some node ∧ node.ref = none ∧ item.ReadFrom node.items
  | .primitive _, schema => ∃ node, schema = some node ∧ node.ref = none
  | .jsonElement, schema => ∀ node, schema = some node → node.ref = none
  | .unit, _ => False

theorem TypeRef.readFrom_ofName {node : Schema} (hplain : node.ref = none)
    (name format : Option String) {item : TypeRef} (hitem : item.ReadFrom node.items) :
    (ofName name format item).ReadFrom (some node) := by
  have hprimitive (name : PrimitiveType) : (primitive name).ReadFrom (some node) :=
    ⟨node, rfl, hplain⟩
  unfold ofName
  split
  · exact hprimitive .string
  · exact hprimitive _
  · exact hprimitive _
  · exact hprimitive .boolean
  · exact ⟨node, rfl, hplain, hitem⟩
  · rintro _ ⟨⟩
    exact hplain

mutual

theorem TypeRef.readFrom_ofSchema : (schema : Schema) → (ofSchema schema).ReadFrom (some schema)
  | ⟨_, some path, _, _, _, _, _, _, _, _, _, _⟩ => by
    rw [ofSchema]
    exact ⟨_, path, rfl, rfl, OpenApi.isLastSegment_iff.mpr rfl⟩
  | ⟨_, none, _, _, _, _, items, _, _, _, _, _⟩ => by
    rw [ofSchema]
    exact readFrom_ofName rfl _ _ (readFrom_ofSchema? items)

theorem TypeRef.readFrom_ofSchema? : (schema : Option Schema) → (ofSchema? schema).ReadFrom schema
  | none => by
    rw [ofSchema?]
    rintro _ ⟨⟩
  | some schema => by
    rw [ofSchema?]
    exact readFrom_ofSchema schema

end

/-! ### Operations -/

/-- The JSON content of a request body. -/
def requestContent? (components : Components) (body : Option (RefOr RequestBody)) :
    Option MediaType :=
  body.bind fun node ↦ (node.resolve components.requestBodies).bind (jsonContent? ·.content)

/-- The JSON content of the response that counts. -/
def responseContent? (components : Components) (responses : Table (RefOr Response)) :
    Option MediaType :=
  (successResponse? responses).bind fun node ↦
    (node.resolve components.responses).bind (jsonContent? ·.content)

theorem requestType?_eq_map (components : Components) (body : Option (RefOr RequestBody)) :
    requestType? components body =
      (requestContent? components body).map fun mediaType ↦ .ofSchema? mediaType.schema := by
  unfold requestType? requestContent?
  simp only [Option.map_eq_bind, Option.bind_eq_bind, Option.bind_assoc]
  rfl

theorem responseType_eq_getD (components : Components) (responses : Table (RefOr Response)) :
    responseType components responses =
      ((responseContent? components responses).map fun mediaType ↦
        .ofSchema? mediaType.schema).getD .unit := by
  unfold responseType
  dsimp only
  split
  · next hnone =>
    have hcontent : responseContent? components responses = none := hnone
    rw [hcontent, Option.map_none, Option.getD_none]
  · next mediaType hsome =>
    have hcontent : responseContent? components responses = some mediaType := hsome
    rw [hcontent, Option.map_some, Option.getD_some]

/-- The types of an operation, each read from what is declared at its place: parameters from the
declarations that count, and the others from JSON content. -/
structure Operation.TypesReadFrom (components : Components)
    (shared : List (RefOr OpenApi.Parameter)) (declared : OpenApi.Operation)
    (operation : Operation) : Prop where
  parameters : ∃ chosen,
    Overrides Parameter.declaredKey (Parameter.declarations components shared)
      (Parameter.declarations components declared.parameters) chosen ∧
    List.Forall₂ (fun declaration parameter ↦ parameter.type.ReadFrom declaration.schema)
      chosen operation.parameters
  requestBody : Option.Rel (fun mediaType type ↦ TypeRef.ReadFrom type mediaType.schema)
    (requestContent? components declared.requestBody) operation.requestBody
  responseType_unit : responseContent? components declared.responses = none →
    operation.responseType = .unit
  responseType_read : ∀ mediaType, responseContent? components declared.responses = some mediaType →
    operation.responseType.ReadFrom mediaType.schema

theorem Operation.ofDeclared_typesReadFrom (components : Components) (path : String)
    (method : Method) (shared : List (RefOr OpenApi.Parameter)) (declared : OpenApi.Operation)
    (name : String) :
    TypesReadFrom components shared declared
      { ofDeclared components path method shared declared with functionName := name } where
  parameters := by
    refine ⟨_, overrides_foldl _ _ _, ?_⟩
    refine (Parameter.forall₂_translates_merge components shared declared.parameters).imp ?_
    intro declaration parameter h
    rw [h.type_eq]
    exact TypeRef.readFrom_ofSchema? declaration.schema
  requestBody := by
    change Option.Rel _ _ (requestType? components declared.requestBody)
    rw [requestType?_eq_map]
    cases requestContent? components declared.requestBody with
    | none => exact .none
    | some mediaType => exact .some (TypeRef.readFrom_ofSchema? mediaType.schema)
  responseType_unit := by
    intro hnone
    change ApiOutline.responseType components declared.responses = .unit
    rw [responseType_eq_getD, hnone]
    rfl
  responseType_read := by
    intro mediaType hsome
    change (ApiOutline.responseType components declared.responses).ReadFrom mediaType.schema
    rw [responseType_eq_getD, hsome]
    exact TypeRef.readFrom_ofSchema? mediaType.schema

/-! ### Outlines -/

/-- The types of a model, each read from the last declaration of its property that the walk from its
schema comes to. -/
def Model.TypesReadFrom (schemas : Table Schema) (schema : Schema) (model : Model) : Prop :=
  ∀ property ∈ model.properties, ∃ declared,
    Entries.IsLast (Flattening.declarations schemas [model.name] schema) property.name declared ∧
      property.type.ReadFrom (some declared)

/-- Every type of an outline is read from the document at the same place. -/
structure Outline.TypesReadFrom (document : Document) (outline : Outline) : Prop where
  operations : ∀ interface ∈ outline.interfaces, ∀ operation ∈ interface.operations,
    ∃ item declared, document.paths.get? operation.path = some item ∧
      item.operation? operation.method = some declared ∧
      operation.TypesReadFrom document.sharedParts item.parameters declared
  models : ∀ model ∈ outline.models, ∃ schema,
    document.sharedParts.schemas.get? model.name = some schema ∧
      model.TypesReadFrom document.sharedParts.schemas schema

theorem Outline.ofDocument_typesReadFrom (document : Document) :
    (ofDocument document).TypesReadFrom document where
  operations := by
    intro interface hinterface operation hoperation
    obtain ⟨declared, hdeclared, hsame⟩ := Interface.exists_declared hinterface hoperation
    obtain ⟨item, hget, hshared, hmethod⟩ := DeclaredOperation.exists_item hdeclared
    have hpath : operation.path = declared.path := congrArg (·.path) hsame
    have hmethods : operation.method = declared.method := congrArg (·.method) hsame
    refine ⟨item, declared.operation, hpath ▸ hget, hmethods ▸ hmethod, ?_⟩
    rw [hsame, ← hshared]
    exact Operation.ofDeclared_typesReadFrom _ _ _ _ _ _
  models := by
    intro model hmodel
    rw [ofDocument, Model.ofSchemas_eq_map] at hmodel
    obtain ⟨⟨name, schema⟩, hentry, rfl⟩ := List.mem_map.mp hmodel
    refine ⟨schema, Table.get?_eq_some_iff.mpr hentry, fun property hproperty ↦ ?_⟩
    have hsettles := Model.ofSchema_settles document.sharedParts.schemas name schema
    obtain ⟨declared, hlast, htype, -, -⟩ := hsettles.eq_last property hproperty
    exact ⟨declared, hlast, htype ▸ TypeRef.readFrom_ofSchema declared⟩

end ApiOutline
