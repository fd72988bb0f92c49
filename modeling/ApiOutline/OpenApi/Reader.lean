import ApiOutline.OpenApi.Document
import ApiOutline.OpenApi.Record

/-!
Reading a document from its JSON value. Outside schemas the forms are strict: a member of the wrong
form makes the document unreadable.
-/

set_option autoImplicit false

namespace ApiOutline.OpenApi

variable {α : Type}

/-- Reads a reference, which is an object with a string under `$ref`, or else the part itself. Its
members beside `$ref` do not matter. -/
def RefOr.read (read : Json → Except Mismatch α) (json : Json) : Except Mismatch (RefOr α) :=
  match json.get? "$ref" with
  | some (.string path) => .ok (.ref path)
  | _ =>
    match read json with
    | .ok value => .ok (.item value)
    | .error _ => .error .neitherReferenceNorValue

def MediaType.read : Json → Except Mismatch MediaType :=
  RecordForm.read ⟨"MediaType", [("schema", .optional)]⟩ ⟨none⟩
    fun mediaType key value =>
      match key with
      | "schema" => do return { mediaType with schema := ← readOptional Schema.read value }
      | _ => .ok mediaType

def Parameter.form : RecordForm :=
  ⟨"Parameter", [("name", .required), ("in", .required), ("required", .optional),
    ("description", .optional), ("schema", .optional)]⟩

def Parameter.read : Json → Except Mismatch Parameter :=
  Parameter.form.read ⟨"", "", none, none, none⟩
    fun parameter key value =>
      match key with
      | "name" => do return { parameter with name := ← readString value }
      | "in" => do return { parameter with location := ← readString value }
      | "required" => do return { parameter with required := ← readOptional readBool value }
      | "description" => do return { parameter with description := ← readOptional readString value }
      | "schema" => do return { parameter with schema := ← readOptional Schema.read value }
      | _ => .ok parameter

def RequestBody.read : Json → Except Mismatch RequestBody :=
  RecordForm.read ⟨"RequestBody", [("content", .defaulted)]⟩ ⟨.empty⟩
    fun body key value =>
      match key with
      | "content" => do return { body with content := ← readTable MediaType.read value }
      | _ => .ok body

def Response.read : Json → Except Mismatch Response :=
  RecordForm.read ⟨"Response", [("description", .optional), ("content", .defaulted)]⟩ ⟨none, .empty⟩
    fun response key value =>
      match key with
      | "description" => do return { response with description := ← readOptional readString value }
      | "content" => do return { response with content := ← readTable MediaType.read value }
      | _ => .ok response

def Operation.form : RecordForm :=
  ⟨"Operation", [("operationId", .optional), ("summary", .optional), ("description", .optional),
    ("tags", .defaulted), ("deprecated", .defaulted), ("parameters", .defaulted),
    ("requestBody", .optional), ("responses", .defaulted)]⟩

def Operation.blank : Operation := ⟨none, none, none, [], false, [], none, .empty⟩

def Operation.read : Json → Except Mismatch Operation :=
  Operation.form.read .blank
    fun operation key value =>
      match key with
      | "operationId" => do return { operation with operationId := ← readOptional readString value }
      | "summary" => do return { operation with summary := ← readOptional readString value }
      | "description" => do return { operation with description := ← readOptional readString value }
      | "tags" => do return { operation with tags := ← readList readString value }
      | "deprecated" => do return { operation with deprecated := ← readBool value }
      | "parameters" => do
        return { operation with parameters := ← readList (RefOr.read Parameter.read) value }
      | "requestBody" => do
        return { operation with requestBody := ← readOptional (RefOr.read RequestBody.read) value }
      | "responses" => do
        return { operation with responses := ← readTable (RefOr.read Response.read) value }
      | _ => .ok operation

def PathItem.form : RecordForm :=
  ⟨"PathItem", [("get", .optional), ("post", .optional), ("put", .optional), ("patch", .optional),
    ("delete", .optional), ("parameters", .defaulted)]⟩

def PathItem.blank : PathItem := ⟨none, none, none, none, none, []⟩

def PathItem.read : Json → Except Mismatch PathItem :=
  PathItem.form.read .blank
    fun item key value =>
      match key with
      | "get" => do return { item with get := ← readOptional Operation.read value }
      | "post" => do return { item with post := ← readOptional Operation.read value }
      | "put" => do return { item with put := ← readOptional Operation.read value }
      | "patch" => do return { item with patch := ← readOptional Operation.read value }
      | "delete" => do return { item with delete := ← readOptional Operation.read value }
      | "parameters" => do
        return { item with parameters := ← readList (RefOr.read Parameter.read) value }
      | _ => .ok item

def Tag.read : Json → Except Mismatch Tag :=
  RecordForm.read ⟨"Tag", [("name", .required), ("description", .optional)]⟩ ⟨"", none⟩
    fun tag key value =>
      match key with
      | "name" => do return { tag with name := ← readString value }
      | "description" => do return { tag with description := ← readOptional readString value }
      | _ => .ok tag

def Info.read : Json → Except Mismatch Info :=
  RecordForm.read ⟨"Info", [("title", .required), ("version", .required)]⟩ ⟨"", ""⟩
    fun info key value =>
      match key with
      | "title" => do return { info with title := ← readString value }
      | "version" => do return { info with version := ← readString value }
      | _ => .ok info

def Components.form : RecordForm :=
  ⟨"Components",
    [("schemas", .defaulted), ("parameters", .defaulted), ("requestBodies", .defaulted),
      ("responses", .defaulted)]⟩

def Components.read : Json → Except Mismatch Components :=
  Components.form.read .empty
    fun components key value =>
      match key with
      | "schemas" => do return { components with schemas := ← readTable Schema.read value }
      | "parameters" => do
        return { components with parameters := ← readTable (RefOr.read Parameter.read) value }
      | "requestBodies" => do
        return { components with requestBodies := ← readTable (RefOr.read RequestBody.read) value }
      | "responses" => do
        return { components with responses := ← readTable (RefOr.read Response.read) value }
      | _ => .ok components

def Document.form : RecordForm :=
  ⟨"OpenApiDocument", [("openapi", .required), ("info", .required), ("tags", .defaulted),
    ("paths", .required), ("components", .optional)]⟩

def Document.read : Json → Except Mismatch Document :=
  Document.form.read ⟨"", ⟨"", ""⟩, [], .empty, none⟩
    fun document key value =>
      match key with
      | "openapi" => do return { document with openapi := ← readString value }
      | "info" => do return { document with info := ← Info.read value }
      | "tags" => do return { document with tags := ← readList Tag.read value }
      | "paths" => do return { document with paths := ← readTable PathItem.read value }
      | "components" => do
        return { document with components := ← readOptional Components.read value }
      | _ => .ok document

end ApiOutline.OpenApi
