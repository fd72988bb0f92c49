import ApiOutline.Table
import ApiOutline.Yaml.Lexer
import ApiOutline.Yaml.Printer

/-!
YAML values as JSON values. Tags are dropped, and what is not a finite number becomes null. Keys
become texts; of two entries whose keys have the same text the later gives the value and the earlier
the place.
-/

set_option autoImplicit false

namespace ApiOutline.Yaml

/-- A number as JSON, which has finite numbers only. -/
def jsonNumber : Number → Json
  | .integer value => .number (.integer value)
  | .float value => if value.isFinite then .number (.float value) else .null

/-- A key of a mapping as a key of an object. -/
def keyText : Value → String
  | .string text => text
  | .number value => numberText value
  | .bool value => boolText value
  | .null => "null"
  | value => value.text

mutual

def Value.toJson : Value → Json
  | .null => .null
  | .bool value => .bool value
  | .number value => jsonNumber value
  | .string text => .string text
  | .sequence items => .array (itemsToJson items)
  | .mapping entries => .object (Entries.putAll [] (entriesToJson entries))
  | .tagged _ value => value.toJson

def itemsToJson : List Value → List Json
  | [] => []
  | item :: rest => item.toJson :: itemsToJson rest

def entriesToJson : List (Value × Value) → List (String × Json)
  | [] => []
  | (key, value) :: rest => (keyText key, value.toJson) :: entriesToJson rest

end

/-- Reads a YAML text as a JSON value. -/
def readJson (text : String) : Except Fault Json := do
  let document ← Document.ofTokens (← tokens text.toList)
  return (← document.value).toJson

end ApiOutline.Yaml
