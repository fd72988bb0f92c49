import ApiOutline.Decimal.Layout

/-!
JSON values. The members of an object keep their order. Numbers are whole numbers or doubles, as
they were written: `1` and `1.0` differ.
-/

set_option autoImplicit false

namespace ApiOutline

/-- A whole number, or a double. -/
inductive Number where
  | integer (value : Int)
  | float (value : Float)

/-- JSON writes the sign of every exponent. It has no text for the doubles that are not finite,
which do not occur in a JSON value. -/
def Number.layout : Decimal.Layout := ⟨true, "null", "null", "null"⟩

def Number.text : Number → String
  | .integer value => toString value
  | .float value => layout.text value

inductive Json where
  | null
  | bool (value : Bool)
  | number (value : Number)
  | string (value : String)
  | array (items : List Json)
  | object (members : List (String × Json))

instance : Inhabited Json := ⟨.null⟩

namespace Json

/-- The member of an object under a key. -/
def get? (key : String) : Json → Option Json
  | .object members => members.lookup key
  | _ => none

def isNull : Json → Bool
  | .null => true
  | _ => false

def ofOption {α : Type} (encode : α → Json) : Option α → Json
  | none => .null
  | some value => encode value

end Json

end ApiOutline
