import ApiOutline.Json.Basic

/-!
JSON text. The compact text holds no blanks; the indented text puts every item and member on a line
of its own, two spaces deeper than the container, and leaves empty containers closed up. Strings
escape quotes, backslashes and control characters alone, so neither text holds a line break of a
string.
-/

set_option autoImplicit false

namespace ApiOutline.Json

/-- A digit of base sixteen, lowercase. -/
def hexDigit (n : Nat) : Char := Nat.digitChar (n % 16)

def escapedChar (c : Char) : List Char :=
  match c with
  | '"' => ['\\', '"']
  | '\\' => ['\\', '\\']
  | '\n' => ['\\', 'n']
  | '\r' => ['\\', 'r']
  | '\t' => ['\\', 't']
  | '\x08' => ['\\', 'b']
  | '\x0c' => ['\\', 'f']
  | c =>
    if c.toNat < 0x20 then ['\\', 'u', '0', '0', hexDigit (c.toNat / 16), hexDigit c.toNat] else [c]

def stringText (s : String) : List Char := '"' :: s.toList.flatMap escapedChar ++ ['"']

def boolText (b : Bool) : List Char := (if b then "true" else "false").toList

mutual

def compactText : Json → List Char
  | .null => "null".toList
  | .bool value => boolText value
  | .number value => value.text.toList
  | .string value => stringText value
  | .array items => '[' :: compactItems items ++ [']']
  | .object members => '\x7b' :: compactMembers members ++ ['\x7d']

def compactItems : List Json → List Char
  | [] => []
  | [item] => compactText item
  | item :: rest => compactText item ++ ',' :: compactItems rest

def compactMembers : List (String × Json) → List Char
  | [] => []
  | [(key, value)] => stringText key ++ ':' :: compactText value
  | (key, value) :: rest => stringText key ++ ':' :: compactText value ++ ',' :: compactMembers rest

end

/-- A line break, and the blanks of a depth. -/
def newline (depth : Nat) : List Char := '\n' :: List.replicate (2 * depth) ' '

mutual

/-- The text of a value inside `depth` containers. -/
def indentedText (depth : Nat) : Json → List Char
  | .null => "null".toList
  | .bool value => boolText value
  | .number value => value.text.toList
  | .string value => stringText value
  | .array [] => ['[', ']']
  | .array (item :: rest) =>
    '[' :: indentedItems (depth + 1) (item :: rest) ++ newline depth ++ [']']
  | .object [] => ['\x7b', '\x7d']
  | .object (member :: rest) =>
    '\x7b' :: indentedMembers (depth + 1) (member :: rest) ++ newline depth ++ ['\x7d']

def indentedItems (depth : Nat) : List Json → List Char
  | [] => []
  | [item] => newline depth ++ indentedText depth item
  | item :: rest => newline depth ++ indentedText depth item ++ ',' :: indentedItems depth rest

def indentedMembers (depth : Nat) : List (String × Json) → List Char
  | [] => []
  | [(key, value)] => newline depth ++ stringText key ++ ':' :: ' ' :: indentedText depth value
  | (key, value) :: rest =>
    newline depth ++ stringText key ++ ':' :: ' ' :: indentedText depth value ++
      ',' :: indentedMembers depth rest

end

def compact (json : Json) : String := String.ofList json.compactText

def indented (json : Json) : String := String.ofList (json.indentedText 0)

end ApiOutline.Json
