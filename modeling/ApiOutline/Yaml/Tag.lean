import ApiOutline.Text.Digit
import ApiOutline.Yaml.Fault
import ApiOutline.Yaml.Spot

/-!
Tags of YAML nodes. Octets of a character may be written as `%41`. Some groups of octets have the
form of a character without being one: those of a code that needs fewer octets, or that no character
has. A tag with one of these says nothing of its node if it starts with an exclamation mark, and is
foreign otherwise. Each part of a tag ends in front of its first null character.
-/

set_option autoImplicit false

namespace ApiOutline.Yaml

/-! ### What a tag says -/

/-- The characters of a tag, none for octets that are no character. -/
abbrev TagText := List (Option Char)

def tagTextOf (text : String) : TagText := text.toList.map some

/-- The kinds of scalars of the core schema that a tag can ask for. The tag of its strings asks for
nothing more than a foreign one does. -/
inductive CoreKind where
  | bool
  | int
  | float
  | null

/-- What a tag says of its node: nothing, a name of its own, a kind of the core schema, or something
that is not known here. -/
inductive Tag where
  | void
  | named (name : String)
  | core (kind : CoreKind)
  | foreign

/-- The tags of the core schema start with this. -/
def coreTagStart : String := "tag:yaml.org,2002:"

def coreKinds : List (TagText × CoreKind) :=
  [("bool", .bool), ("int", .int), ("float", .float), ("null", .null)].map fun (name, kind) =>
    (tagTextOf (coreTagStart ++ name), kind)

/-- The tag of a text. The name of a tag follows its exclamation mark, and is that mark if nothing
does. -/
def Tag.ofText (text : TagText) : Tag :=
  match text with
  | [some '!'] => .named "!"
  | some '!' :: rest =>
    match rest.mapM id with
    | some name => .named (String.ofList name)
    | none => .void
  | text => ((coreKinds.lookup text).map Tag.core).getD .foreign

/-! ### Octets -/

/-- A character of which octets are missing: how many, what is known of its code, and the least code
that needs so many octets. -/
structure PartialChar where
  missing : Nat
  code : Nat
  least : Nat

/-- What the first octet of a character says of it. -/
def PartialChar.ofFirst? (octet : Nat) : Option PartialChar :=
  if octet < 0x80 then some ⟨0, octet, 0⟩
  else if octet / 0x20 = 6 then some ⟨1, octet % 0x20, 0x80⟩
  else if octet / 0x10 = 14 then some ⟨2, octet % 0x10, 0x800⟩
  else if octet / 8 = 30 then some ⟨3, octet % 8, 0x10000⟩
  else none

def PartialChar.add? (partialChar : PartialChar) (octet : Nat) : Option PartialChar :=
  if octet / 0x40 = 2 then
    some ⟨partialChar.missing - 1, partialChar.code * 0x40 + octet % 0x40, partialChar.least⟩
  else none

/-- The character of a code, unless the code needs fewer octets or no character has it. -/
def PartialChar.char? (partialChar : PartialChar) : Option Char :=
  if h : partialChar.code.isValidChar then
    if partialChar.least ≤ partialChar.code then some (Char.ofNatAux partialChar.code h) else none
  else none

/-- Replaces the octets written as `%41`, after those of a character begun. -/
def decodeOctets (begun : Option PartialChar) : List Char → Option TagText
  | [] => if begun.isNone then some [] else none
  | '%' :: a :: b :: cs => do
    let octet ← Text.natural? 16 [a, b]
    let next ← match begun with
      | none => PartialChar.ofFirst? octet
      | some partialChar => partialChar.add? octet
    if next.missing = 0 then return next.char? :: (← decodeOctets none cs)
    else decodeOctets (some next) cs
  | c :: cs =>
    if c = '%' || begun.isSome then none else (decodeOctets none cs).map (some c :: ·)

/-! ### Reading -/

/-- The characters of a tag that are neither letters nor digits. -/
def tagMarks : List Char :=
  [';', '/', '?', ':', '@', '&', '=', '+', '$', '.', '%', '!', '~', '*', '\x27', '(', ')']

/-- The characters of a tag; flow indicators only between angle brackets and in directives. -/
def isTagChar (withFlow : Bool) (c : Char) : Bool :=
  isWordChar c || tagMarks.contains c || (withFlow && [',', '[', ']'].contains c)

/-- Reads the rest of a part of a tag after `start`; both together may not be empty. The mark that
`start` begins with is left out. -/
def readTagText (withFlow : Bool) (start : List Char) (spots : List Spot) :
    Except Fault (TagText × List Spot) :=
  let taken := charsOf (spots.takeWhile (isTagChar withFlow ·.char))
  if start.isEmpty && taken.isEmpty then .error .badTag
  else
    match decodeOctets none taken with
    | none => .error .badTag
    | some text =>
      .ok (((start.drop 1).map some ++ text).takeWhile (· ≠ some '\x00'), spots.drop taken.length)

/-- Reads a handle, an exclamation mark that a name and another mark may follow. -/
def readHandle (spots : List Spot) : Except Fault (List Char × List Spot) :=
  match spots with
  | [] => .error .badTag
  | first :: rest =>
    if first.char ≠ '!' then .error .badTag
    else
      let name := charsOf (rest.takeWhile (isWordChar ·.char))
      match rest.drop name.length with
      | last :: more =>
        if last.char = '!' then .ok ('!' :: name ++ ['!'], more)
        else .ok ('!' :: name, last :: more)
      | [] => .ok ('!' :: name, [])

/-- Whether the characters are a handle with a mark at both ends. -/
def isFullHandle (handle : List Char) : Bool := handle.length > 1 && handle.getLast? = some '!'

/-- Reads the parts of a tag, of which the spots start with the exclamation mark: a whole one
between angle brackets, which has no handle, a suffix to a handle, or a name. An exclamation mark
without a name is whole. -/
def readTag (inFlow : Bool) (spots : List Spot) :
    Except Fault ((String × TagText) × List Spot) := do
  let (parts, rest) ←
    if startsWith ['!', '<'] spots then do
      let (text, rest) ← readTagText true [] (spots.drop 2)
      if startsWith ['>'] rest then pure (("", text), rest.drop 1) else .error .badTag
    else do
      let (handle, rest) ← readHandle spots
      if isFullHandle handle then
        let (suffix, rest) ← readTagText false [] rest
        pure ((String.ofList handle, suffix), rest)
      else
        let (suffix, rest) ← readTagText false handle rest
        pure (if suffix.isEmpty then ("", [some '!']) else ("!", suffix), rest)
  if atGap rest || (inFlow && startsWith [','] rest) then return (parts, rest)
  else .error .badTag

end ApiOutline.Yaml
