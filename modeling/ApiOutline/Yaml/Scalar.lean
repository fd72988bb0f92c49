import ApiOutline.Yaml.Token

/-!
Scalars of YAML text. Lines of plain and quoted scalars are folded: blanks around breaks are
dropped, a single break is a space, and of several breaks all but the first stay. The lines of a
literal block keep their breaks; a folded block joins lines that do not start with a blank. Each
reader goes through the text once and stops at the first spot that no longer belongs to the scalar.
-/

set_option autoImplicit false

namespace ApiOutline.Yaml

/-- A scalar so far, its characters the last first: its text, and what came since then, which is
either blanks on the same line, or the first break, unless that one was escaped, and later breaks.
-/
structure Folding where
  text : List Char
  blanks : List Char
  broken : Bool
  firstBreak : Option Char
  laterBreaks : List Char

namespace Folding

def ofText (text : List Char) : Folding := ⟨text, [], false, none, []⟩

def start : Folding := ofText []

/-- Adds a blank, which counts only before a break. -/
def addBlank (folding : Folding) (c : Char) : Folding :=
  if folding.broken then folding else { folding with blanks := c :: folding.blanks }

def addBreak (folding : Folding) (c : Char) : Folding :=
  if folding.broken then { folding with laterBreaks := c :: folding.laterBreaks }
  else { folding with blanks := [], broken := true, firstBreak := some c }

/-- The text with what came since then joined to it. -/
def joined (folding : Folding) : List Char :=
  if !folding.broken then folding.blanks ++ folding.text
  else
    match folding.firstBreak with
    | some '\n' =>
      if folding.laterBreaks.isEmpty then ' ' :: folding.text
      else folding.laterBreaks ++ folding.text
    | some c => folding.laterBreaks ++ c :: folding.text
    | none => folding.laterBreaks ++ folding.text

/-- Joins what came since the text, and adds a character. -/
def addChar (folding : Folding) (c : Char) : Folding := ofText (c :: folding.joined)

/-- Joins what came since the text, and goes on after an escaped break. -/
def addEscapedBreak (folding : Folding) : Folding :=
  { ofText folding.joined with broken := true }

end Folding

def isFlowMark (c : Char) : Bool := [',', '[', ']', '\x7b', '\x7d'].contains c

/-! ### Plain scalars -/

/-- Whether a text goes on with a mark of flow collections or keys. -/
def beforeFlowMark (rest : List Spot) : Bool :=
  rest.head?.any fun next => next.char = '?' || isFlowMark next.char

/-- Whether a plain scalar ends before a character with the given rest. -/
def endsPlain (inFlow : Bool) (c : Char) (rest : List Spot) : Bool :=
  (c = ':' && atGap rest) || (inFlow && isFlowMark c)

/-- Reads a plain scalar, whose lines are indented to the column `indent` at least outside of flow
collections. -/
def readPlain (inFlow : Bool) (indent : Nat) (folding : Folding) :
    List Spot → Except Fault (Folding × List Spot)
  | [] => .ok (folding, [])
  | spot :: rest =>
    let c := spot.char
    if isBlank c then
      if folding.broken && spot.column < indent && c = '\t' then .error .tabInIndentation
      else readPlain inFlow indent (folding.addBlank c) rest
    else if isBreak c then readPlain inFlow indent (folding.addBreak c) rest
    else if (folding.broken || !folding.blanks.isEmpty) &&
        ((!inFlow && spot.column < indent) || atDocumentMark (spot :: rest) || c = '#') then
      .ok (folding, spot :: rest)
    else if inFlow && c = ':' && beforeFlowMark rest then .error .ambiguousColon
    else if endsPlain inFlow c rest then .ok (folding, spot :: rest)
    else readPlain inFlow indent (folding.addChar c) rest

/-! ### Quoted scalars -/

/-- Where a reader of a quoted scalar stands: in its text, after a quote that ends the scalar unless
another follows it, after a backslash, or in a number of which some digits are missing. -/
inductive QuoteState where
  | text
  | quote
  | escape
  | code (missing number : Nat)

/-- The character that a letter stands for after a backslash. -/
def escaped? : Char → Option Char
  | '0' => some '\x00'
  | 'a' => some '\x07'
  | 'b' => some '\x08'
  | 't' => some '\t'
  | '\t' => some '\t'
  | 'n' => some '\n'
  | 'v' => some '\x0b'
  | 'f' => some '\x0c'
  | 'r' => some '\r'
  | 'e' => some '\x1b'
  | ' ' => some ' '
  | '"' => some '"'
  | '/' => some '/'
  | '\\' => some '\\'
  | 'N' => some '\u0085'
  | '_' => some '\u00a0'
  | 'L' => some '\u2028'
  | 'P' => some '\u2029'
  | _ => none

/-- How many digits of base sixteen follow a letter after a backslash. -/
def codeLength? : Char → Option Nat
  | 'x' => some 2
  | 'u' => some 4
  | 'U' => some 8
  | _ => none

/-- Reads a quoted scalar after its first quote. -/
def readQuoted (quote : Char) (state : QuoteState) (folding : Folding) :
    List Spot → Except Fault (Folding × List Spot)
  | [] =>
    match state with
    | .quote => .ok (folding, [])
    | _ => .error .unclosedQuote
  | spot :: rest =>
    let c := spot.char
    match state with
    | .text =>
      if isBlank c then readQuoted quote .text (folding.addBlank c) rest
      else if isBreak c then readQuoted quote .text (folding.addBreak c) rest
      else if atDocumentMark (spot :: rest) then .error .documentMarkInQuotes
      else if c = quote then
        let folding := .ofText folding.joined
        if quote = '"' then .ok (folding, rest) else readQuoted quote .quote folding rest
      else if c = '\\' && quote = '"' then readQuoted quote .escape (.ofText folding.joined) rest
      else readQuoted quote .text (folding.addChar c) rest
    | .quote =>
      if c = quote then readQuoted quote .text (folding.addChar c) rest
      else .ok (folding, spot :: rest)
    | .escape =>
      if isBreak c then readQuoted quote .text folding.addEscapedBreak rest
      else
        match escaped? c, codeLength? c with
        | some meant, _ => readQuoted quote .text (folding.addChar meant) rest
        | none, some digits => readQuoted quote (.code digits 0) folding rest
        | none, none => .error .badEscape
    | .code missing number =>
      match Text.digit? 16 c with
      | none => .error .badEscape
      | some digit =>
        let number := 16 * number + digit
        if missing > 1 then readQuoted quote (.code (missing - 1) number) folding rest
        else if (0xD800 ≤ number && number ≤ 0xDFFF) || number > 0x10FFFF then .error .badEscape
        else readQuoted quote .text (folding.addChar (Char.ofNat number)) rest

/-! ### Block scalars -/

/-- What happens to the breaks at the end of a block: all but the first are dropped, all are kept,
or all are dropped. -/
inductive Chomping where
  | clip
  | keep
  | strip
deriving DecidableEq

def chompingOf? : Char → Option Chomping
  | '+' => some .keep
  | '-' => some .strip
  | _ => none

/-- The digit of an indentation, from one to nine. -/
def indentationOf? (c : Char) : Option Nat :=
  if '1' ≤ c && c ≤ '9' then some (c.toNat - '0'.toNat) else none

/-- Reads the line of a block scalar after its mark: how to end the block and how deep it is
indented, in either order. -/
def readBlockHeader (spots : List Spot) :
    Except Fault (Chomping × Option Nat × List Spot) :=
  let chomping (spots : List Spot) := spots.head?.bind fun spot => chompingOf? spot.char
  let indentation (spots : List Spot) := spots.head?.bind fun spot => indentationOf? spot.char
  let afterFlag (flag : Bool) (spots : List Spot) := if flag then spots.drop 1 else spots
  let early := chomping spots
  let rest := afterFlag early.isSome spots
  let digit := indentation rest
  let rest := afterFlag digit.isSome rest
  let late := if early.isNone && digit.isSome then chomping rest else none
  let rest := dropComment (dropBlanks (afterFlag late.isSome rest))
  if atLineEnd rest then .ok ((early.or late).getD .clip, digit, rest.drop 1)
  else .error .badBlockHeader

/-- A block scalar so far: its text, the last character first, the break of its last line, the
breaks of the empty lines since, and whether its last line started with a blank. -/
structure Block where
  text : List Char
  lineBreak : Option Char
  emptyLines : List Char
  afterBlank : Bool

namespace Block

def start : Block := ⟨[], none, [], false⟩

/-- Joins the breaks before a line that starts with `c`. Between two lines that do not start with a
blank a folded block turns a single break into a space and drops the first of several. -/
def beginLine (block : Block) (literal : Bool) (c : Char) : Block :=
  let folds := !literal && block.lineBreak = some '\n' && !block.afterBlank && !isBlank c
  let text :=
    if folds then (if block.emptyLines.isEmpty then ' ' :: block.text else block.text)
    else block.lineBreak.toList ++ block.text
  ⟨block.emptyLines ++ text, none, [], isBlank c⟩

def finish (block : Block) (chomping : Chomping) : List Char :=
  match chomping with
  | .strip => block.text
  | .clip => block.lineBreak.toList ++ block.text
  | .keep => block.emptyLines ++ block.lineBreak.toList ++ block.text

end Block

/-- The indentation of a block that does not state it: that of its first line that is not empty, or
of a longer line of blanks before it, but at least `least`. -/
def foundIndent (least longest : Nat) : Nat := max 1 (max least longest)

/-- Reads the lines of a block scalar. Without an `indent` yet, `longest` is the longest indentation
of the empty lines so far; `inLine` says whether a line has begun. -/
def readBlockLines (literal : Bool) (least : Nat) (indent : Option Nat) (longest : Nat)
    (inLine : Bool) (block : Block) : List Spot → Except Fault (Block × List Spot)
  | [] => .ok (block, [])
  | spot :: rest =>
    let c := spot.char
    if inLine then
      if isBreak c then
        readBlockLines literal least indent longest false { block with lineBreak := some c } rest
      else
        readBlockLines literal least indent longest true { block with text := c :: block.text } rest
    else
      let inMargin := indent.all (spot.column < ·)
      if c = ' ' && inMargin then readBlockLines literal least indent longest false block rest
      else if c = '\t' && inMargin then .error .tabInIndentation
      else
        let longest := max longest spot.column
        if isBreak c then
          readBlockLines literal least indent longest false
            { block with emptyLines := c :: block.emptyLines } rest
        else
          let indent := indent.getD (foundIndent least longest)
          if spot.column = indent then
            let block := block.beginLine literal c
            readBlockLines literal least (some indent) longest true
              { block with text := c :: block.text } rest
          else .ok (block, spot :: rest)

/-- Reads a block scalar after its mark. `parent` is the indentation of the collection around it. -/
def readBlock (literal : Bool) (parent : Option Nat) (spots : List Spot) :
    Except Fault (List Char × List Spot) := do
  let (chomping, digit, rest) ← readBlockHeader spots
  let least := match parent with | some n => n + 1 | none => 0
  let indent := digit.map fun n => parent.getD 0 + n
  let (block, rest) ← readBlockLines literal least indent 0 false .start rest
  return ((block.finish chomping).reverse, rest)

end ApiOutline.Yaml
