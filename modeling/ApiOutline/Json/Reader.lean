import ApiOutline.Json.Numeral
import ApiOutline.Table
import ApiOutline.Text.Digit

/-!
Reading JSON text. A stage says what may come next and which containers are open; each step takes
one mark, string, number or literal off the text, so the outcome is decided from left to right and
the first fault is the one reported. Of two members with one key the later gives the value, the
earlier the place. There is a limit to how many containers may be open at a time, which is 127 for
the texts that are read.
-/

set_option autoImplicit false

namespace ApiOutline.Json

/-! ### Strings and literals -/

def simpleEscape? : Char → Option Char
  | '"' => some '"'
  | '\\' => some '\\'
  | '/' => some '/'
  | 'b' => some '\x08'
  | 'f' => some '\x0c'
  | 'n' => some '\n'
  | 'r' => some '\r'
  | 't' => some '\t'
  | _ => none

/-- The value of the four digits of base sixteen that a text starts with. -/
def readHex (cs : List Char) : Except Fault Nat :=
  let four := cs.take 4
  if byteSize four < 4 then .error ⟨.unclosedString, [], 0⟩
  else if four.length < 4 then .error ⟨.invalidEscape, cs, 4⟩
  else
    match Text.natural? 16 four with
    | some code => .ok code
    | none => .error ⟨.invalidEscape, cs, 4⟩

/-- Reads an escape after its `u`, and gives the character and how many characters it takes. Those
beyond 16 bits are written as a pair of surrogates. -/
def readUnicodeEscape (cs : List Char) : Except Fault (Char × Nat) := do
  let first ← readHex cs
  if 0xDC00 ≤ first && first ≤ 0xDFFF then .error ⟨.loneSurrogate, cs.drop 4, 0⟩
  else if first < 0xD800 || 0xDBFF < first then .ok (Char.ofNat first, 4)
  else
    match cs.drop 4 with
    | '\\' :: 'u' :: rest =>
      let second ← readHex rest
      if 0xDC00 ≤ second && second ≤ 0xDFFF then
        .ok (Char.ofNat (0x10000 + (first - 0xD800) * 0x400 + (second - 0xDC00)), 10)
      else .error ⟨.loneSurrogate, rest.drop 4, 0⟩
    | '\\' :: c :: rest => .error ⟨.unfinishedPair, c :: rest, 1⟩
    | '\\' :: [] => .error ⟨.unclosedString, [], 0⟩
    | c :: rest => .error ⟨.unfinishedPair, c :: rest, 1⟩
    | [] => .error ⟨.unclosedString, [], 0⟩

/-- Reads an escape after its backslash, and gives the character and how many characters it takes.
-/
def readEscape : List Char → Except Fault (Char × Nat)
  | [] => .error ⟨.unclosedString, [], 0⟩
  | 'u' :: rest => do
    let (c, n) ← readUnicodeEscape rest
    return (c, n + 1)
  | c :: rest =>
    match simpleEscape? c with
    | some meant => .ok (meant, 1)
    | none => .error ⟨.invalidEscape, c :: rest, 1⟩

/-- Reads a string after its first quote; `done` are its characters so far, the last first, and `n`
counts the characters of the text they took. -/
def readString (done : List Char) (n : Nat) : List Char → Except Fault (String × Nat)
  | [] => .error ⟨.unclosedString, [], 0⟩
  | '"' :: _ => .ok (String.ofList done.reverse, n + 1)
  | '\\' :: rest =>
    match readEscape rest with
    | .error fault => .error fault
    | .ok (c, used) => readString (c :: done) (n + 1 + used) (rest.drop used)
  | c :: rest =>
    if c.toNat < 0x20 then .error ⟨.controlCharacter, c :: rest, 1⟩
    else readString (c :: done) (n + 1) rest
termination_by cs => cs.length
decreasing_by
  all_goals simp only [List.length_drop, List.length_cons]
  all_goals omega

/-- Checks that a text goes on with the given letters. -/
def expectLetters : (letters text : List Char) → Except Fault Unit
  | [], _ => .ok ()
  | _ :: _, [] => .error ⟨.unclosedValue, [], 0⟩
  | letter :: letters, c :: rest =>
    if c = letter then expectLetters letters rest else .error ⟨.expectedLiteral, c :: rest, 1⟩

/-! ### Stages -/

/-- An open container that waits for a value: an array with its items so far, the last first, or an
object with its members so far and the key of the next. -/
inductive Frame where
  | items (done : List Json)
  | members (done : List (String × Json)) (key : String)

/-- What may come next. The stack holds the containers around it, the innermost first. -/
inductive Stage where
  /-- A value. -/
  | value (stack : List Frame)
  /-- The first item of an array, or its end. -/
  | firstItem (stack : List Frame)
  /-- The item after a comma. -/
  | nextItem (done : List Json) (stack : List Frame)
  /-- A comma or the end of an array. -/
  | afterItem (done : List Json) (stack : List Frame)
  /-- The first key of an object, or its end. -/
  | firstKey (stack : List Frame)
  /-- The key after a comma. -/
  | nextKey (done : List (String × Json)) (stack : List Frame)
  /-- The colon after a key. -/
  | colon (done : List (String × Json)) (key : String) (stack : List Frame)
  /-- A comma or the end of an object. -/
  | afterMember (done : List (String × Json)) (stack : List Frame)
  /-- Nothing: the outermost value has been read. -/
  | complete (value : Json)

/-- The stage after a value that the innermost frame has waited for. -/
def Stage.afterValue (value : Json) : List Frame → Stage
  | [] => .complete value
  | .items done :: stack => .afterItem (value :: done) stack
  | .members done key :: stack => .afterMember (Entries.put done key value) stack

/-- The stage of a text that ends. -/
def Stage.finish : Stage → Except Fault Json
  | .complete result => .ok result
  | .value _ | .nextItem .. | .nextKey .. => .error ⟨.unclosedValue, [], 0⟩
  | .firstItem _ | .afterItem .. => .error ⟨.unclosedArray, [], 0⟩
  | .firstKey _ | .colon .. | .afterMember .. => .error ⟨.unclosedObject, [], 0⟩

/-- Takes the beginning of a value, `c` and some of what follows, where no more containers may be
open than the limit says; the number is how many characters after `c` were taken. -/
def startValue (limit : Nat) (stack : List Frame) (c : Char) (rest : List Char) :
    Except Fault (Stage × Nat) :=
  let literal (letters : List Char) (value : Json) : Except Fault (Stage × Nat) := do
    expectLetters letters rest
    return (.afterValue value stack, letters.length)
  match c with
  | '[' =>
    if stack.length < limit then .ok (.firstItem stack, 0) else .error ⟨.tooDeep, c :: rest, 1⟩
  | '\x7b' =>
    if stack.length < limit then .ok (.firstKey stack, 0) else .error ⟨.tooDeep, c :: rest, 1⟩
  | '"' => do
    let (text, n) ← readString [] 0 rest
    return (.afterValue (.string text) stack, n)
  | 'n' => literal ['u', 'l', 'l'] .null
  | 't' => literal ['r', 'u', 'e'] (.bool true)
  | 'f' => literal ['a', 'l', 's', 'e'] (.bool false)
  | '-' => do
    let (value, n) ← readUnsigned true rest
    return (.afterValue (.number value) stack, n)
  | c =>
    if c.isDigit then do
      let (value, n) ← readUnsigned false (c :: rest)
      return (.afterValue (.number value) stack, n - 1)
    else .error ⟨.expectedValue, c :: rest, 1⟩

/-- Takes a key, or refuses what stands in its place. -/
def startKey (done : List (String × Json)) (stack : List Frame) (c : Char) (rest : List Char) :
    Except Fault (Stage × Nat) :=
  if c = '"' then do
    let (key, n) ← readString [] 0 rest
    return (.colon done key stack, n)
  else .error ⟨.keyNotString, c :: rest, 1⟩

/-- Takes `c`, which is not blank, and some of what follows; the number is how many characters after
`c` were taken. -/
def Stage.step (limit : Nat) (stage : Stage) (c : Char) (rest : List Char) :
    Except Fault (Stage × Nat) :=
  match stage with
  | .value stack => startValue limit stack c rest
  | .firstItem stack =>
    if c = ']' then .ok (.afterValue (.array []) stack, 0)
    else startValue limit (.items [] :: stack) c rest
  | .nextItem done stack =>
    if c = ']' then .error ⟨.trailingComma, c :: rest, 1⟩
    else startValue limit (.items done :: stack) c rest
  | .afterItem done stack =>
    if c = ',' then .ok (.nextItem done stack, 0)
    else if c = ']' then .ok (.afterValue (.array done.reverse) stack, 0)
    else .error ⟨.expectedItemSeparator, c :: rest, 1⟩
  | .firstKey stack =>
    if c = '\x7d' then .ok (.afterValue (.object []) stack, 0) else startKey [] stack c rest
  | .nextKey done stack =>
    if c = '\x7d' then .error ⟨.trailingComma, c :: rest, 1⟩ else startKey done stack c rest
  | .colon done key stack =>
    if c = ':' then .ok (.value (.members done key :: stack), 0)
    else .error ⟨.expectedColon, c :: rest, 1⟩
  | .afterMember done stack =>
    if c = ',' then .ok (.nextKey done stack, 0)
    else if c = '\x7d' then .ok (.afterValue (.object done) stack, 0)
    else .error ⟨.expectedMemberSeparator, c :: rest, 1⟩
  | .complete _ => .error ⟨.trailingCharacters, c :: rest, 1⟩

def isBlank (c : Char) : Bool := c = ' ' || c = '\n' || c = '\t' || c = '\r'

/-- Reads a text from a stage on. -/
def Stage.run (limit : Nat) (stage : Stage) : List Char → Except Fault Json
  | [] => stage.finish
  | c :: rest =>
    if isBlank c then stage.run limit rest
    else
      match stage.step limit c rest with
      | .error fault => .error fault
      | .ok (next, n) => next.run limit (rest.drop n)
termination_by cs => cs.length
decreasing_by
  all_goals simp only [List.length_drop, List.length_cons]
  all_goals omega

/-- The most containers that may be open at a time. -/
def maxDepth : Nat := 127

/-- Reads a JSON text. -/
def read (text : String) : Except Fault Json := (Stage.value []).run maxDepth text.toList

end ApiOutline.Json
