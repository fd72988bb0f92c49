import ApiOutline.Json.Basic
import ApiOutline.Text.Quoted

/-!
Why a JSON value does not have the form of a part of a document: what was found and what was
expected in its place.
-/

set_option autoImplicit false

namespace ApiOutline.OpenApi

/-- The forms that are asked for. A record is written as a mapping of its fields, or as the sequence
of their values. -/
inductive Form where
  | string
  | boolean
  | sequence
  | mapping
  | record (name : String)

def Form.text : Form → String
  | .string => "a string"
  | .boolean => "a boolean"
  | .sequence => "a sequence"
  | .mapping => "a map"
  | .record name => s!"struct {name}"

inductive Mismatch where
  | wrongForm (found : Json) (expected : Form)
  | missingField (name : String)
  /-- A sequence that ends before the field at place `length` of a record. -/
  | tooShort (length : Nat) (record : String) (fields : Nat)
  | tooLong (length : Nat)
  /-- A value that is neither a reference nor the object that a reference could stand for. -/
  | neitherReferenceNorValue

/-- What was found, as it is named in messages. -/
def foundText : Json → String
  | .null => "null"
  | .bool value => s!"boolean `{value}`"
  | .number (.integer value) => s!"integer `{value}`"
  | .number (.float value) => s!"floating point `{Number.layout.text value}`"
  | .string value => s!"string {Text.quoted value}"
  | .array _ => "sequence"
  | .object _ => "map"

def Mismatch.message : Mismatch → String
  | .wrongForm found expected => s!"invalid type: {foundText found}, expected {expected.text}"
  | .missingField name => s!"missing field `{name}`"
  | .tooShort length record fields =>
    let plural := if fields = 1 then "" else "s"
    s!"invalid length {length}, expected struct {record} with {fields} element{plural}"
  | .tooLong length => s!"invalid length {length}, expected fewer elements in array"
  | .neitherReferenceNorValue => "data did not match any variant of untagged enum RefOr"

end ApiOutline.OpenApi
