import ApiOutline.Proofs.Flattening.Cache
import ApiOutline.Proofs.Schemas.Loading
import ApiOutline.Proofs.Schemas.Retyping

/-!
What a schema says is a matter of its own type. Any object will do for a schema: the document is
accepted as before, and is the same once schemas are blank (`Document.ofTree_swap`). With all
schemas blank a document has the same outline but for its types, and as no schema makes the type of
no value (`TypeRef.ofSchema_ne_unit`) it still shows where there is one. Interfaces look at no
shared schema, and models at no other, so with these blank they are the same, types and all.
-/

set_option autoImplicit false
set_option relaxedAutoImplicit false

namespace ApiOutline

open OpenApi (Document Members Schema SchemaPlace Swaps)

/-! ### Types that tell no schemas apart -/

theorem TypeRef.ofName_ne_unit (name format : Option String) (item : TypeRef) :
    ofName name format item ≠ .unit := by
  unfold ofName
  split <;> simp

theorem TypeRef.ofSchema_ne_unit (schema : Schema) : ofSchema schema ≠ .unit := by
  obtain ⟨type, ref, format, _, _, _, items, _, _, _, _, _⟩ := schema
  cases ref with
  | some path => simp [ofSchema]
  | none =>
    rw [ofSchema]
    exact ofName_ne_unit _ _ _

/-- A type with nothing known of it but whether there is a value. -/
def TypeRef.blurred : TypeRef → TypeRef
  | .unit => .unit
  | _ => .jsonElement

theorem TypeRef.blurred_ofSchema (schema : Schema) : (ofSchema schema).blurred = .jsonElement := by
  have hunit := ofSchema_ne_unit schema
  cases htype : ofSchema schema with
  | unit => exact absurd htype hunit
  | _ => rfl

theorem retypes_blank : Retypes (fun _ _ ↦ .blank) .blurred where
  parameter schema := (TypeRef.blurred_ofSchema schema).symm
  mediaType schema := (TypeRef.blurred_ofSchema schema).symm
  jsonElement := rfl
  unit := rfl

/-- Shared schemas made blank, and all others as they are. -/
def blankShared : SchemaPlace → Schema → Schema
  | .shared, _ => .blank
  | _, schema => schema

/-- All schemas made blank but the shared ones. -/
def blankUnshared : SchemaPlace → Schema → Schema
  | .shared, schema => schema
  | _, _ => .blank

theorem retypes_blankShared : Retypes blankShared id where
  parameter _ := rfl
  mediaType _ := rfl
  jsonElement := rfl
  unit := rfl

/-! ### Outlines -/

/-- Two outlines that are the same but for the types of values and the insides of models. -/
structure Outline.SameButTypes (outline other : Outline) : Prop where
  title_eq : outline.title = other.title
  version_eq : outline.version = other.version
  interfaces_eq : outline.interfaces.map (·.retype .blurred) =
    other.interfaces.map (·.retype .blurred)
  modelNames_eq : outline.models.map (·.name) = other.models.map (·.name)

/-- The models of a document are those of its shared schemas, whatever these say. -/
theorem Model.map_name_mapSchemas (change : SchemaPlace → Schema → Schema) (document : Document) :
    (ofSchemas (document.mapSchemas change).sharedParts.schemas).map (·.name) =
      (ofSchemas document.sharedParts.schemas).map (·.name) := by
  rw [ofSchemas_eq_map, ofSchemas_eq_map, sharedParts_mapSchemas, OpenApi.Components.mapSchemas,
    Table.mapValues, List.map_map, List.map_map, List.map_map]
  rfl

theorem Outline.sameButTypes_of_blank_eq {document other : Document}
    (h : document.mapSchemas (fun _ _ ↦ .blank) = other.mapSchemas (fun _ _ ↦ .blank)) :
    (ofDocument document).SameButTypes (ofDocument other) where
  title_eq := congrArg (·.info.title) h
  version_eq := congrArg (·.info.version) h
  interfaces_eq := by
    rw [ofDocument, ofDocument, ← Interface.ofDocument_mapSchemas retypes_blank, h,
      Interface.ofDocument_mapSchemas retypes_blank]
  modelNames_eq := by
    rw [ofDocument, ofDocument, ← Model.map_name_mapSchemas (fun _ _ ↦ .blank), h,
      Model.map_name_mapSchemas]

theorem Interface.ofDocument_eq_of_blankShared_eq {document other : Document}
    (h : document.mapSchemas blankShared = other.mapSchemas blankShared) :
    ofDocument document = ofDocument other := by
  have hsame (document : Document) :
      ofDocument (document.mapSchemas blankShared) = ofDocument document := by
    rw [ofDocument_mapSchemas retypes_blankShared]
    exact (List.map_congr_left fun interface _ ↦ interface.retype_id).trans (List.map_id _)
  rw [← hsame document, h, hsame other]

theorem Model.ofSchemas_eq_of_blankUnshared_eq {document other : Document}
    (h : document.mapSchemas blankUnshared = other.mapSchemas blankUnshared) :
    ofSchemas document.sharedParts.schemas = ofSchemas other.sharedParts.schemas := by
  have hsame (document : Document) :
      (document.mapSchemas blankUnshared).sharedParts.schemas = document.sharedParts.schemas := by
    rw [sharedParts_mapSchemas]
    exact Table.eq_of_entries_eq (List.map_id _)
  rw [← hsame document, h, hsame other]

/-- Another object in the place of a schema neither fails a document nor changes more of its outline
than types and models: no interface if the schema is a shared one, and no model if it is not. -/
theorem Outline.sameButTypes_of_swap {place : SchemaPlace} {tree other : Json}
    (hswap : Swaps place (.record .document) tree other) {document : Document}
    (hload : Document.ofTree tree = .ok document) :
    ∃ otherDocument, Document.ofTree other = .ok otherDocument ∧
      (ofDocument otherDocument).SameButTypes (ofDocument document) ∧
      (place = .shared →
        (ofDocument otherDocument).interfaces = (ofDocument document).interfaces) ∧
      (place ≠ .shared → (ofDocument otherDocument).models = (ofDocument document).models) := by
  obtain ⟨otherDocument, hother, hblank⟩ :=
    Document.ofTree_swap (fun _ _ ↦ .blank) (fun _ _ ↦ rfl) hswap hload
  have hsame (change : SchemaPlace → Schema → Schema)
      (hchange : ∀ schema other, change place schema = change place other) :
      otherDocument.mapSchemas change = document.mapSchemas change := by
    obtain ⟨sameDocument, hloaded, hsame⟩ := Document.ofTree_swap change hchange hswap hload
    obtain rfl := Except.ok.inj (hother.symm.trans hloaded)
    exact hsame
  refine ⟨otherDocument, hother, sameButTypes_of_blank_eq hblank, fun hshared ↦ ?_, fun hplace ↦ ?_⟩
  · subst hshared
    exact Interface.ofDocument_eq_of_blankShared_eq (hsame blankShared fun _ _ ↦ rfl)
  · refine Model.ofSchemas_eq_of_blankUnshared_eq (hsame blankUnshared fun schema other ↦ ?_)
    cases place with
    | shared => exact absurd rfl hplace
    | _ => rfl

/-- A response as text, and the same with a schema that makes little sense but is a reference. -/
theorem Outline.sameButTypes_of_swap_ping :
    let document (schema : Members) : Json := .object
      [("openapi", .string "3.0.0"),
        ("info", .object [("title", .string "Ping"), ("version", .string "1")]),
        ("paths", .object [("/ping", .object [("get", .object [("responses", .object
          [("200", .object [("content", .object
            [("application/json", .object [("schema", .object schema)])])])])])])])]
    let plain := document [("type", .string "string")]
    let swapped := document
      [("type", .array [.null]), ("$ref", .string "Pet"), ("items", .bool true)]
    let responseTypes (tree : Json) := (Document.ofTree tree).map fun document ↦
      (ofDocument document).interfaces.map (·.operations.map (·.responseType))
    Swaps .mediaType (.record .document) plain swapped ∧
      responseTypes plain = .ok [[.primitive .string]] ∧
      responseTypes swapped = .ok [[.reference "Pet"]] ∧
      ∃ document other, Document.ofTree plain = .ok document ∧ Document.ofTree swapped = .ok other ∧
        (ofDocument other).SameButTypes (ofDocument document) := by
  intro document plain swapped responseTypes
  have hswap : Swaps .mediaType (.record .document) plain swapped :=
    .member (.head _) [_, _] [] <| .entry "/ping" [] [] <|
      .member (.head _) [] [] <| .member (.tail _ (.tail _ (.head _))) [] [] <|
        .entry "200" [] [] <| .member (.head _) [] [] <|
          .entry "application/json" [] [] <| .member (.head _) [] [] <| .schema _ _
  obtain ⟨loaded, hload⟩ : ∃ loaded, Document.ofTree plain = .ok loaded := ⟨_, rfl⟩
  obtain ⟨other, hother, hsame, -⟩ := Outline.sameButTypes_of_swap hswap hload
  exact ⟨hswap, by rfl, by rfl, loaded, other, hload, hother, hsame⟩

end ApiOutline
