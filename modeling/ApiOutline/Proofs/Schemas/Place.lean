import ApiOutline.OpenApi.Reader
import ApiOutline.OpenApi.Structure

/-!
Where the schemas of a document are. A document is made of records, lists and tables, and the fields
of its records say which of their values have schemas in them. So a schema has a place: below the
fields, items and entries that lead from the document to it. `Swaps` relates two values that differ
in the schema of one such place.
-/

set_option autoImplicit false
set_option relaxedAutoImplicit false

namespace ApiOutline.OpenApi

/-- What a schema is the schema of: a parameter, a media type, or itself among the shared parts. -/
inductive SchemaPlace where
  | parameter
  | mediaType
  | shared

/-- The records with schemas in them. -/
inductive RecordKind where
  | mediaType
  | parameter
  | requestBody
  | response
  | operation
  | pathItem
  | components
  | document

/-- The parts of a document down to its schemas. -/
inductive Part where
  | schema (place : SchemaPlace)
  | record (kind : RecordKind)
  | list (items : Part)
  | table (values : Part)

namespace RecordKind

/-- The fields in the order in which a sequence gives their values. -/
def fieldNames : RecordKind → List String
  | .mediaType => ["schema"]
  | .parameter => ["name", "in", "required", "description", "schema"]
  | .requestBody => ["content"]
  | .response => ["description", "content"]
  | .operation => ["operationId", "summary", "description", "tags", "deprecated", "parameters",
    "requestBody", "responses"]
  | .pathItem => ["get", "post", "put", "patch", "delete", "parameters"]
  | .components => ["schemas", "parameters", "requestBodies", "responses"]
  | .document => ["openapi", "info", "tags", "paths", "components"]

/-- The fields whose values have schemas in them, and what these values are. -/
def parts : RecordKind → List (String × Part)
  | .mediaType => [("schema", .schema .mediaType)]
  | .parameter => [("schema", .schema .parameter)]
  | .requestBody => [("content", .table (.record .mediaType))]
  | .response => [("content", .table (.record .mediaType))]
  | .operation => [("parameters", .list (.record .parameter)),
    ("requestBody", .record .requestBody), ("responses", .table (.record .response))]
  | .pathItem => [("get", .record .operation), ("post", .record .operation),
    ("put", .record .operation), ("patch", .record .operation), ("delete", .record .operation),
    ("parameters", .list (.record .parameter))]
  | .components => [("schemas", .table (.schema .shared)),
    ("parameters", .table (.record .parameter)), ("requestBodies", .table (.record .requestBody)),
    ("responses", .table (.record .response))]
  | .document => [("paths", .table (.record .pathItem)), ("components", .record .components)]

end RecordKind

/-- Two values of a part that are the same but for one object, which is the schema of a place. -/
inductive Swaps (place : SchemaPlace) : Part → Json → Json → Prop
  | schema (members others : Members) :
      Swaps place (.schema place) (.object members) (.object others)
  | member {kind : RecordKind} {key : String} {part : Part} {value other : Json}
      (hpart : (key, part) ∈ kind.parts) (before after : Members)
      (h : Swaps place part value other) :
      Swaps place (.record kind) (.object (before ++ (key, value) :: after))
        (.object (before ++ (key, other) :: after))
  /-- A record that is written as the sequence of the values of its fields. -/
  | value {kind : RecordKind} {key : String} {part : Part} {value other : Json}
      (hpart : (key, part) ∈ kind.parts) (before after : List Json)
      (hkey : kind.fieldNames[before.length]? = some key) (h : Swaps place part value other) :
      Swaps place (.record kind) (.array (before ++ value :: after))
        (.array (before ++ other :: after))
  | item {part : Part} {value other : Json} (before after : List Json)
      (h : Swaps place part value other) :
      Swaps place (.list part) (.array (before ++ value :: after))
        (.array (before ++ other :: after))
  | entry {part : Part} {value other : Json} (key : String) (before after : Members)
      (h : Swaps place part value other) :
      Swaps place (.table part) (.object (before ++ (key, value) :: after))
        (.object (before ++ (key, other) :: after))

end ApiOutline.OpenApi
