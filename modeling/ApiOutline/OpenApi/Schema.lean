import ApiOutline.OpenApi.Mismatch

/-!
Schemas, and how they are read. A schema is lenient: a member of the wrong form is as good as
absent, so every JSON object is a schema, and a list of schemas or of names counts as a whole or not
at all. A sequence is read as the values of the fields in the order of their declaration.
-/

set_option autoImplicit false

namespace ApiOutline.OpenApi

/-- The `type` of a schema: one name, alternatives, or anything else, which says nothing. -/
inductive SchemaType where
  | single (name : String)
  | multiple (names : List String)
  | other (value : Json)

/-- The name that counts; among alternatives the first that is not `null`. -/
def SchemaType.name? : SchemaType → Option String
  | .single name => some name
  | .multiple names => names.find? (· ≠ "null")
  | .other _ => none

structure Schema where
  type : Option SchemaType
  ref : Option String
  format : Option String
  description : Option String
  properties : List (String × Schema)
  required : List String
  items : Option Schema
  default : Option Json
  enum : List Json
  allOf : List Schema
  oneOf : List Schema
  anyOf : List Schema

namespace Schema

/-- The schema that says nothing. -/
def blank : Schema := ⟨none, none, none, none, [], [], none, none, [], [], [], []⟩

instance : Inhabited Schema := ⟨blank⟩

/-- The fields of a schema in the order of their declaration. -/
def fieldNames : List String :=
  ["type", "$ref", "format", "description", "properties", "required", "items", "default", "enum",
    "allOf", "oneOf", "anyOf"]

/-- A sequence has to reach the fields `type` and `default`, which have no form to fall back to, and
may not go beyond the last field. -/
def lengthMismatch? (length : Nat) : Option Mismatch :=
  if length = 0 then some (.tooShort 0 "Schema" 12)
  else if length < 8 then some (.tooShort 7 "Schema" 12)
  else if length > 12 then some (.tooLong length)
  else none

end Schema

def stringOf? : Json → Option String
  | .string value => some value
  | _ => none

/-- The strings of an array that holds nothing else. -/
def stringsOf? : Json → Option (List String)
  | .array items => items.mapM stringOf?
  | _ => none

def schemaTypeOf? : Json → Option SchemaType
  | .null => none
  | .string name => some (.single name)
  | json =>
    match stringsOf? json with
    | some names => some (.multiple names)
    | none => some (.other json)

/-- A value given for one field of a schema, read for that field. -/
inductive SchemaField where
  | type (value : Option SchemaType)
  | ref (value : Option String)
  | format (value : Option String)
  | description (value : Option String)
  | properties (value : List (String × Schema))
  | required (value : List String)
  | items (value : Option Schema)
  | default (value : Option Json)
  | enum (value : List Json)
  | allOf (value : List Schema)
  | oneOf (value : List Schema)
  | anyOf (value : List Schema)
  | unknown

def Schema.set (schema : Schema) : SchemaField → Schema
  | .type value => { schema with type := value }
  | .ref value => { schema with ref := value }
  | .format value => { schema with format := value }
  | .description value => { schema with description := value }
  | .properties value => { schema with properties := value }
  | .required value => { schema with required := value }
  | .items value => { schema with items := value }
  | .default value => { schema with default := value }
  | .enum value => { schema with enum := value }
  | .allOf value => { schema with allOf := value }
  | .oneOf value => { schema with oneOf := value }
  | .anyOf value => { schema with anyOf := value }
  | .unknown => schema

/-- Reads a value for a field whose form holds no schemas. -/
def plainField (key : String) (json : Json) : SchemaField :=
  match key with
  | "type" => .type (schemaTypeOf? json)
  | "$ref" => .ref (stringOf? json)
  | "format" => .format (stringOf? json)
  | "description" => .description (stringOf? json)
  | "required" => .required ((stringsOf? json).getD [])
  | "default" => .default (match json with | .null => none | value => some value)
  | "enum" => .enum (match json with | .array items => items | _ => [])
  | "properties" => .properties []
  | "items" => .items none
  | "allOf" => .allOf []
  | "oneOf" => .oneOf []
  | "anyOf" => .anyOf []
  | _ => .unknown

mutual

/-- Reads a value for the field of a name. -/
def SchemaField.read (key : String) : Json → SchemaField
  | .array values =>
    match key with
    | "items" =>
      match Schema.lengthMismatch? values.length with
      | none => .items (some (Schema.ofValues Schema.fieldNames values))
      | some _ => .items none
    | "allOf" => .allOf ((Schema.readAll values).getD [])
    | "oneOf" => .oneOf ((Schema.readAll values).getD [])
    | "anyOf" => .anyOf ((Schema.readAll values).getD [])
    | _ => plainField key (.array values)
  | .object members =>
    match key with
    | "items" => .items (some (Schema.ofMembers members))
    | "properties" => .properties ((Schema.readMembers members).getD [])
    | _ => plainField key (.object members)
  | json => plainField key json

/-- The schema of an object. The first member under a key counts. -/
def Schema.ofMembers : List (String × Json) → Schema
  | [] => .blank
  | (key, value) :: rest => (Schema.ofMembers rest).set (SchemaField.read key value)

/-- The schema of the values of some fields. -/
def Schema.ofValues : List String → List Json → Schema
  | key :: keys, value :: values => (Schema.ofValues keys values).set (SchemaField.read key value)
  | _, _ => .blank

def Schema.read : Json → Except Mismatch Schema
  | .object members => .ok (Schema.ofMembers members)
  | .array values =>
    match Schema.lengthMismatch? values.length with
    | none => .ok (Schema.ofValues Schema.fieldNames values)
    | some mismatch => .error mismatch
  | json => .error (.wrongForm json (.record "Schema"))

/-- The schemas of a list in which every item can be read. -/
def Schema.readAll : List Json → Option (List Schema)
  | [] => some []
  | value :: values =>
    match Schema.read value, Schema.readAll values with
    | .ok schema, some schemas => some (schema :: schemas)
    | _, _ => none

/-- The named schemas of an object in which every member can be read. -/
def Schema.readMembers : List (String × Json) → Option (List (String × Schema))
  | [] => some []
  | (key, value) :: rest =>
    match Schema.read value, Schema.readMembers rest with
    | .ok schema, some schemas => some ((key, schema) :: schemas)
    | _, _ => none

end

end ApiOutline.OpenApi
