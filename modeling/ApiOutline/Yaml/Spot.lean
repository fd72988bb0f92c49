/-!
The characters of a YAML text with their places. The breaks that all mean the same are one character
from the start, the line feed; the separators of lines and paragraphs of Unicode break lines too,
but stay what they are inside scalars.
-/

set_option autoImplicit false

namespace ApiOutline.Yaml

/-- A character, how many octets come before it, its line, and its column on the line. -/
structure Spot where
  char : Char
  index : Nat
  line : Nat
  column : Nat

def isBreak (c : Char) : Bool := c = '\n' || c = '\u2028' || c = '\u2029'

/-- A space or a tab. -/
def isBlank (c : Char) : Bool := c = ' ' || c = '\t'

/-- The characters that may stand in a YAML text. -/
def isAllowed (c : Char) : Bool :=
  let n := c.toNat
  n = 0x09 || n = 0x0A || n = 0x0D || (0x20 ≤ n && n ≤ 0x7E) || n = 0x85 ||
    (0xA0 ≤ n && n ≤ 0xD7FF) || (0xE000 ≤ n && n ≤ 0xFFFD) || 0x10000 ≤ n

/-- The characters of names of anchors, directives and tag handles. -/
def isWordChar (c : Char) : Bool := c.isAlphanum || c = '_' || c = '-'

/-- The characters of a text with their places, after `done`, the last first. A carriage return,
alone or before a line feed, and the next-line control are line feeds. -/
def locateAfter (done : List Spot) (index line column : Nat) : List Char → List Spot
  | [] => done.reverse
  | '\r' :: '\n' :: cs =>
    locateAfter (⟨'\n', index, line, column⟩ :: done) (index + 2) (line + 1) 0 cs
  | c :: cs =>
    let meant := if c = '\r' || c = '\u0085' then '\n' else c
    let done := ⟨meant, index, line, column⟩ :: done
    if isBreak meant then locateAfter done (index + c.utf8Size) (line + 1) 0 cs
    else locateAfter done (index + c.utf8Size) line (column + 1) cs

def locate (cs : List Char) : List Spot := locateAfter [] 0 0 0 cs

/-- The characters of some spots. -/
def charsOf (spots : List Spot) : List Char := spots.map (·.char)

/-- Whether a text ends here, or goes on with a blank or a break. -/
def atGap : List Spot → Bool
  | [] => true
  | spot :: _ => isBlank spot.char || isBreak spot.char

/-- Whether a text ends here, or goes on with a break. -/
def atLineEnd : List Spot → Bool
  | [] => true
  | spot :: _ => isBreak spot.char

/-- Whether the first spots hold the given characters. -/
def startsWith : List Char → List Spot → Bool
  | [], _ => true
  | _ :: _, [] => false
  | c :: cs, spot :: rest => spot.char = c && startsWith cs rest

/-- Whether a line starts here with three dashes or three dots that stand alone. -/
def atDocumentMark (spots : List Spot) : Bool :=
  (spots.head?.any (·.column = 0)) &&
    (startsWith ['-', '-', '-'] spots || startsWith ['.', '.', '.'] spots) && atGap (spots.drop 3)

def dropBlanks (spots : List Spot) : List Spot := spots.dropWhile (isBlank ·.char)

/-- What is left of a line from a comment on, that is its break. -/
def dropComment (spots : List Spot) : List Spot :=
  if spots.head?.any (·.char = '#') then spots.dropWhile (!isBreak ·.char) else spots

end ApiOutline.Yaml
