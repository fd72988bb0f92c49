import ApiOutline.Text.Blank
import ApiOutline.Yaml.Page
import ApiOutline.Yaml.Scalar
import ApiOutline.Yaml.Value

/-!
Values as YAML text, which is how keys that are not scalars are named. Collections are written in
lines, empty ones between brackets; a sequence in a mapping has its dashes in the column of the
keys. A string is written without marks if that can be read back as the string.
-/

set_option autoImplicit false

namespace ApiOutline.Yaml

/-- YAML needs no sign of a positive exponent, and has names for the doubles that are not finite. -/
def doubleLayout : Decimal.Layout := ⟨false, ".inf", "-.inf", ".nan"⟩

def numberText : Number → String
  | .integer value => toString value
  | .float value => doubleLayout.text value

def boolText (value : Bool) : String := if value then "true" else "false"

/-! ### Which marks a string needs -/

/-- How the text of a scalar is marked. -/
inductive Marking where
  | none
  | single
  | double
  | literal
deriving DecidableEq

def isAnyBreak (c : Char) : Bool := isBreak c || c = '\r' || c = '\u0085'

/-- Whether a character, or the end of the text, ends a word. -/
def endsWord (next : Option Char) : Bool :=
  next.all fun c => isBlank c || isAnyBreak c || c = '\x00'

/-- The characters that can be written as they are. -/
def isPrintable (c : Char) : Bool :=
  let n := c.toNat
  n = 0x0A || (0x20 ≤ n && n ≤ 0x7E) || (0xA0 ≤ n && n ≤ 0xD7FF) ||
    (0xE000 ≤ n && n ≤ 0xFFFD && n ≠ 0xFEFF) || 0x10000 ≤ n

/-- Whether a space comes right after a break. -/
def hasIndentedLine : List Char → Bool
  | c :: d :: cs => (isAnyBreak c && d = ' ') || hasIndentedLine (d :: cs)
  | _ => false

/-- Whether a space comes right before a break. -/
def hasTrailingBlank : List Char → Bool
  | c :: d :: cs => (c = ' ' && isAnyBreak d) || hasTrailingBlank (d :: cs)
  | _ => false

/-- Whether a colon ends a word, or a hash starts one, among the characters after `previous`. -/
def hasInnerMark (previous : Char) : List Char → Bool
  | [] => false
  | c :: cs =>
    (c = ':' && endsWord cs.head?) || (c = '#' && endsWord (some previous)) || hasInnerMark c cs

/-- Whether a text holds what would be taken for a mark of YAML. -/
def hasMark (cs : List Char) : Bool :=
  Text.startsWith ['-', '-', '-'] cs || Text.startsWith ['.', '.', '.'] cs ||
    match cs with
    | [] => false
    | c :: rest =>
      isFlowMark c || ['#', '&', '*', '!', '|', '>', '\x27', '"', '%', '@', '\x60'].contains c ||
        (['?', ':', '-'].contains c && endsWord rest.head?) || hasInnerMark c rest

def allowsPlain (cs : List Char) : Bool :=
  cs.all (fun c => isPrintable c && !isAnyBreak c) && cs.head? ≠ some ' ' &&
    cs.getLast? ≠ some ' ' && !hasMark cs

def allowsSingle (cs : List Char) : Bool :=
  cs.all isPrintable && !hasIndentedLine cs && !hasTrailingBlank cs

def allowsLiteral (cs : List Char) : Bool :=
  cs.all isPrintable && !hasTrailingBlank cs && cs.getLast? ≠ some ' '

/-- Whether a plain scalar of this text would be the string again. -/
def readsAsItself (text : String) : Bool :=
  !isZeroPadded (splitSign text.toList).2 &&
    match Value.ofUntagged .plain text with
    | .ok (.string _) => true
    | _ => false

/-- The marking of a string. A text of several lines is literal; else the first of no marks, single
and double quotes that can hold it. -/
def markingOf (text : String) : Marking :=
  let cs := text.toList
  let quoted := if allowsSingle cs then Marking.single else .double
  if cs.contains '\n' then (if allowsLiteral cs then .literal else .double)
  else if readsAsItself text && allowsPlain cs then .none
  else quoted

/-! ### Scalars -/

def upperHexDigit (n : Nat) : Char := (Nat.digitChar (n % 16)).toUpper

/-- A number with a fixed count of digits of base sixteen. -/
def hexDigits : (count n : Nat) → List Char
  | 0, _ => []
  | count + 1, n => hexDigits count (n / 16) ++ [upperHexDigit n]

/-- What a character is between double quotes. -/
def escapedText (c : Char) : List Char :=
  match c with
  | '"' => ['\\', '"']
  | '\\' => ['\\', '\\']
  | '\x00' => ['\\', '0']
  | '\x07' => ['\\', 'a']
  | '\x08' => ['\\', 'b']
  | '\t' => ['\\', 't']
  | '\n' => ['\\', 'n']
  | '\x0b' => ['\\', 'v']
  | '\x0c' => ['\\', 'f']
  | '\r' => ['\\', 'r']
  | '\x1b' => ['\\', 'e']
  | '\u0085' => ['\\', 'N']
  | '\u2028' => ['\\', 'L']
  | '\u2029' => ['\\', 'P']
  | c =>
    let n := c.toNat
    if isPrintable c then [c]
    else if n ≤ 0xFF then '\\' :: 'x' :: hexDigits 2 n
    else if n ≤ 0xFFFF then '\\' :: 'u' :: hexDigits 4 n
    else '\\' :: 'U' :: hexDigits 8 n

/-- The mark of a literal block: its indentation if the text does not show it, and how it ends. -/
def literalHeader (cs : List Char) : List Char :=
  let hint := if cs.head?.any (fun c => c = ' ' || isAnyBreak c) then ['2'] else []
  let ending := match cs.reverse with
    | c :: rest =>
      if !isAnyBreak c then ['-'] else if rest.head?.all isAnyBreak then ['+'] else []
    | [] => ['-']
  '|' :: hint ++ ending

namespace Page

/-- Writes a scalar, of which further lines start at the column. -/
def writeScalar (page : Page) (column : Nat) (marking : Marking) (text : String) : Page :=
  let cs := text.toList
  match marking with
  | .none => page.space.write cs
  | .double => page.space.write ('"' :: cs.flatMap escapedText ++ ['"'])
  | .single =>
    let doubled := cs.flatMap fun c => if c = '\x27' then [c, c] else [c]
    let (page, afterBreak) := (page.space.write ['\x27']).writeLines column false doubled
    (if afterBreak then page.indentTo column else page).write ['\x27']
  | .literal =>
    let page := (page.space.write (literalHeader cs)).breakLine '\n'
    ({ page with spaced := true, fresh := true }.writeLines column true cs).1

end Page

/-! ### Tags -/

def isTagText (c : Char) : Bool :=
  c.isAlphanum || ['_', '-', ';', '/', '?', ':', '@', '&', '=', '+', '$', ',', '.', '~', '*',
    '\x27', '(', ')', '[', ']'].contains c

/-- The octets of a character that a tag cannot hold, as numbers of base sixteen. -/
def tagCharText (c : Char) : List Char :=
  if isTagText c then [c]
  else (String.singleton c).toUTF8.toList.flatMap fun octet => '%' :: hexDigits 2 octet.toNat

/-- A tag with its exclamation mark. -/
def markedTag (tag : String) : List Char :=
  let name := bareTag tag
  if name.head? = some '!' then name else '!' :: name

/-- The text of a tag; one without a name has angle brackets. -/
def tagText (tag : String) : List Char :=
  match (markedTag tag).drop 1 with
  | [] => '!' :: '<' :: tagCharText '!' ++ ['>']
  | name => '!' :: name.flatMap tagCharText

def Page.writeTag (page : Page) : Option String → Page
  | none => page
  | some tag => page.space.write (tagText tag)

/-! ### Collections -/

/-- The longest key in octets that is written in front of its colon without a mark. -/
def maxSimpleKeySize : Nat := 128

/-- How many octets a key takes on the line of its colon, none if it takes several lines. -/
def keySize? : Value → Option Nat
  | .null => some 4
  | .bool value => some (boolText value).utf8ByteSize
  | .number value => some (numberText value).utf8ByteSize
  | .string text => if text.toList.any isAnyBreak then none else some text.utf8ByteSize
  | .sequence items => if items.isEmpty then some 0 else none
  | .mapping entries => if entries.isEmpty then some 0 else none
  | .tagged tag value =>
    (keySize? value).map fun size => (String.ofList (markedTag tag)).utf8ByteSize + size

/-- Whether a key can stand in front of its colon without a mark. -/
def isSimpleKey (key : Value) : Bool := (keySize? key).any (· ≤ maxSimpleKeySize)

/-- The column of the entries of a collection in one with entries at `indent`, if there is one. -/
def innerColumn (indent : Option Nat) : Nat := (indent.map (· + 2)).getD 0

mutual

/-- Writes a value inside a collection with entries in the column `indent`. -/
def Page.writeValue (page : Page) (indent : Option Nat) (inMapping : Bool) (tag : Option String) :
    Value → Page
  | .tagged tag value => page.writeValue indent inMapping (some tag) value
  | .sequence [] => (page.writeTag tag).space.write ['[', ']']
  | .mapping [] => (page.writeTag tag).space.write ['\x7b', '\x7d']
  | .sequence (item :: rest) =>
    let page := page.writeTag tag
    let column := if inMapping && !page.fresh then indent.getD 0 else innerColumn indent
    page.writeItems column (item :: rest)
  | .mapping (entry :: rest) =>
    (page.writeTag tag).writeEntries (innerColumn indent) (entry :: rest)
  | .null => (page.writeTag tag).writeScalar 0 .none "null"
  | .bool value => (page.writeTag tag).writeScalar 0 .none (boolText value)
  | .number value => (page.writeTag tag).writeScalar 0 .none (numberText value)
  | .string text =>
    (page.writeTag tag).writeScalar ((indent.map (· + 2)).getD 2) (markingOf text) text

def Page.writeItems (page : Page) (column : Nat) : List Value → Page
  | [] => page
  | item :: rest =>
    let page := (page.indentTo column).writeEntryMark '-'
    (page.writeValue (some column) false none item).writeItems column rest

def Page.writeEntries (page : Page) (column : Nat) : List (Value × Value) → Page
  | [] => page
  | (key, value) :: rest =>
    let page := page.indentTo column
    let page :=
      if isSimpleKey key then
        (page.writeValue (some column) true none key).write [':']
      else
        let page := (page.writeEntryMark '?').writeValue (some column) true none key
        (page.indentTo column).writeEntryMark ':'
    (page.writeValue (some column) true none value).writeEntries column rest

end

/-! ### Values without a text -/

/-- Whether a key is a mapping of one entry, as which a tag counts too. -/
def isSingle : Value → Bool
  | .mapping [_] | .tagged .. => true
  | _ => false

mutual

/-- Whether a value has a text. A mapping of one entry without a tag has none if its key is one as
well, since a tag is told from such a mapping by its key. -/
def hasText (underTag : Bool) : Value → Bool
  | .sequence items => allHaveText items
  | .mapping [(key, value)] =>
    (underTag || !isSingle key) && hasText false key && hasText false value
  | .mapping entries => entriesHaveText entries
  | .tagged _ value => hasText true value
  | _ => true

def allHaveText : List Value → Bool
  | [] => true
  | item :: rest => hasText false item && allHaveText rest

def entriesHaveText : List (Value × Value) → Bool
  | [] => true
  | (key, value) :: rest => hasText false key && hasText false value && entriesHaveText rest

end

/-- The YAML text of a value, without blanks at its end. -/
def Value.text (value : Value) : String :=
  if hasText false value then
    String.ofList (Text.trimEnd (Page.start.writeValue none false none value).text.reverse)
  else ""

end ApiOutline.Yaml
