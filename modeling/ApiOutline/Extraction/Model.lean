import ApiOutline.Json.Printer
import ApiOutline.Outline.Basic
import ApiOutline.Extraction.Composition

/-!
Models. Every schema among the shared parts becomes a model with the properties of its composition.
Literals are written as plain texts, and `null` not at all.
-/

set_option autoImplicit false

namespace ApiOutline

/-- A literal as a plain text: strings as they are, and arrays and objects as JSON. -/
def literalText? : Json → Option String
  | .null => none
  | .string value => some value
  | json => some json.compact

def PropertySet.toProperties (set : PropertySet) : List Property :=
  set.properties.map fun entry =>
    { name := entry.1
      type := .ofSchema entry.2
      required := set.required.contains entry.1
      defaultValue := entry.2.default.bind literalText?
      description := entry.2.description }

def Model.ofSchema (name : String) (schema : OpenApi.Schema) (set : PropertySet) : Model :=
  { name
    properties := set.toProperties
    description := schema.description
    enumValues := schema.enum.filterMap literalText? }

/-- The models of a table of schemas, in its order. -/
def Model.ofSchemas (schemas : Table OpenApi.Schema) : List Model :=
  let sets := (Flattening.components schemas schemas.entries .start).1
  (schemas.entries.zip sets).map fun item => .ofSchema item.1.1 item.1.2 item.2

end ApiOutline
