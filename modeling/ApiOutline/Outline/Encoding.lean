import ApiOutline.Json.Printer
import ApiOutline.Outline.Basic

/-!
The JSON value of an outline. Every field is written, absent values as `null`, in the order in which
the fields are declared.
-/

set_option autoImplicit false

namespace ApiOutline

def Json.ofStrings (values : List String) : Json := .array (values.map .string)

def TypeRef.toJson : TypeRef → Json
  | .primitive name => .object [("kind", .string "primitive"), ("name", .string name.text)]
  | .list item => .object [("kind", .string "list"), ("item", item.toJson)]
  | .reference name => .object [("kind", .string "reference"), ("name", .string name)]
  | .jsonElement => .object [("kind", .string "jsonElement")]
  | .unit => .object [("kind", .string "unit")]

def Parameter.toJson (parameter : Parameter) : Json :=
  .object [
    ("name", .string parameter.name),
    ("location", .string parameter.location.text),
    ("type", parameter.type.toJson),
    ("required", .bool parameter.required),
    ("description", .ofOption .string parameter.description)]

def Operation.toJson (operation : Operation) : Json :=
  .object [
    ("functionName", .string operation.functionName),
    ("httpMethod", .string operation.method.text),
    ("path", .string operation.path),
    ("summary", .ofOption .string operation.summary),
    ("description", .ofOption .string operation.description),
    ("deprecated", .bool operation.deprecated),
    ("parameters", .array (operation.parameters.map Parameter.toJson)),
    ("requestBody", .ofOption TypeRef.toJson operation.requestBody),
    ("responseType", operation.responseType.toJson)]

def Interface.toJson (interface : Interface) : Json :=
  .object [
    ("name", .string interface.name),
    ("description", .ofOption .string interface.description),
    ("operations", .array (interface.operations.map Operation.toJson))]

def Property.toJson (property : Property) : Json :=
  .object [
    ("name", .string property.name),
    ("type", property.type.toJson),
    ("required", .bool property.required),
    ("defaultValue", .ofOption .string property.defaultValue),
    ("description", .ofOption .string property.description)]

def Model.toJson (model : Model) : Json :=
  .object [
    ("name", .string model.name),
    ("properties", .array (model.properties.map Property.toJson)),
    ("description", .ofOption .string model.description),
    ("enumValues", .ofStrings model.enumValues)]

def Outline.toJson (outline : Outline) : Json :=
  .object [
    ("title", .string outline.title),
    ("version", .string outline.version),
    ("interfaces", .array (outline.interfaces.map Interface.toJson)),
    ("models", .array (outline.models.map Model.toJson))]

/-- The text of an outline, on one line or indented. -/
def Outline.render (outline : Outline) (compact : Bool) : String :=
  if compact then outline.toJson.compact else outline.toJson.indented

end ApiOutline
