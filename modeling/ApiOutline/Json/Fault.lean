/-!
Why and where a text is not JSON. A fault holds the rest of the text at its place, so that reading
needs to count nothing; line and column come from the whole text, the column in bytes.
-/

set_option autoImplicit false

namespace ApiOutline.Json

inductive Reason where
  | unclosedValue
  | unclosedArray
  | unclosedObject
  | unclosedString
  | expectedValue
  | expectedLiteral
  | expectedColon
  | expectedItemSeparator
  | expectedMemberSeparator
  | keyNotString
  | trailingComma
  | trailingCharacters
  | invalidEscape
  | loneSurrogate
  | unfinishedPair
  | controlCharacter
  | invalidNumber
  | numberOutOfRange
  | tooDeep
deriving DecidableEq

def Reason.message : Reason → String
  | .unclosedValue => "EOF while parsing a value"
  | .unclosedArray => "EOF while parsing a list"
  | .unclosedObject => "EOF while parsing an object"
  | .unclosedString => "EOF while parsing a string"
  | .expectedValue => "expected value"
  | .expectedLiteral => "expected ident"
  | .expectedColon => "expected `:`"
  | .expectedItemSeparator => "expected `,` or `]`"
  | .expectedMemberSeparator => "expected `,` or `\x7d`"
  | .keyNotString => "key must be a string"
  | .trailingComma => "trailing comma"
  | .trailingCharacters => "trailing characters"
  | .invalidEscape => "invalid escape"
  | .loneSurrogate => "lone leading surrogate in hex escape"
  | .unfinishedPair => "unexpected end of hex escape"
  | .controlCharacter => "control character (\\u0000-\\u001F) found while parsing a string"
  | .invalidNumber => "invalid number"
  | .numberOutOfRange => "number out of range"
  | .tooDeep => "recursion limit exceeded"

/-- A reason, and its place: `ahead` bytes into the rest of the text. -/
structure Fault where
  reason : Reason
  rest : List Char
  ahead : Nat

/-- The number of bytes of a text. -/
def byteSize (cs : List Char) : Nat := cs.foldl (fun n c => n + c.utf8Size) 0

/-- The line, from one, and the column, from nought, of the place `offset` bytes into a text that
starts at a given line and column. -/
def position (line column offset : Nat) : List Char → Nat × Nat
  | [] => (line, column)
  | c :: cs =>
    if offset < c.utf8Size then (line, column + offset)
    else if c = '\n' then position (line + 1) 0 (offset - 1) cs
    else position line (column + c.utf8Size) (offset - c.utf8Size) cs

/-- The message about a fault in a text. -/
def Fault.message (fault : Fault) (text : String) : String :=
  let cs := text.toList
  let (line, column) := position 1 0 (byteSize cs - byteSize fault.rest + fault.ahead) cs
  s!"{fault.reason.message} at line {line} column {column}"

end ApiOutline.Json
