import ApiOutline.OpenApi.Document

/-!
Types of an outline, and the type that a schema stands for. Every schema has a type; where its shape
says too little the type is any JSON value.
-/

set_option autoImplicit false

namespace ApiOutline

inductive PrimitiveType where
  | string
  | int
  | long
  | double
  | float
  | boolean
deriving DecidableEq

def PrimitiveType.text : PrimitiveType → String
  | .string => "String"
  | .int => "Int"
  | .long => "Long"
  | .double => "Double"
  | .float => "Float"
  | .boolean => "Boolean"

inductive TypeRef where
  | primitive (name : PrimitiveType)
  | list (item : TypeRef)
  /-- A model by its name, whether or not there is one. -/
  | reference (name : String)
  /-- Any JSON value. -/
  | jsonElement
  /-- No value at all. -/
  | unit
deriving DecidableEq

namespace TypeRef

def text : TypeRef → String
  | .primitive name => name.text
  | .list item => s!"List<{item.text}>"
  | .reference name => name
  | .jsonElement => "JsonElement"
  | .unit => "Unit"

/-- The type of a schema with a type name and a format; `item` is the type of the items. -/
def ofName (name format : Option String) (item : TypeRef) : TypeRef :=
  match name with
  | some "string" => .primitive .string
  | some "integer" => .primitive (if format = some "int64" then .long else .int)
  | some "number" => .primitive (if format = some "float" then .float else .double)
  | some "boolean" => .primitive .boolean
  | some "array" => .list item
  | _ => .jsonElement

mutual

/-- The type of a schema. A reference counts before anything else. -/
def ofSchema : OpenApi.Schema → TypeRef
  | ⟨_, some path, _, _, _, _, _, _, _, _, _, _⟩ => .reference (OpenApi.refName path)
  | ⟨type, none, format, _, _, _, items, _, _, _, _, _⟩ =>
    ofName (type.bind OpenApi.SchemaType.name?) format (ofSchema? items)

/-- The type of a schema that may be absent. -/
def ofSchema? : Option OpenApi.Schema → TypeRef
  | none => .jsonElement
  | some schema => ofSchema schema

end

end TypeRef

end ApiOutline
