/-!
White space of Unicode, and texts without it at their ends; the capitals and small letters of ASCII;
the pieces of a text between the places of a character.
-/

set_option autoImplicit false

namespace ApiOutline.Text

/-- The property White_Space. -/
def isBlank (c : Char) : Bool :=
  let n := c.toNat
  (0x09 ≤ n && n ≤ 0x0D) || n = 0x20 || n = 0x85 || n = 0xA0 || n = 0x1680 ||
    (0x2000 ≤ n && n ≤ 0x200A) || n = 0x2028 || n = 0x2029 || n = 0x202F || n = 0x205F || n = 0x3000

def trimStart (cs : List Char) : List Char := cs.dropWhile isBlank

def trimEnd (cs : List Char) : List Char := (cs.reverse.dropWhile isBlank).reverse

def trim (cs : List Char) : List Char := trimEnd (trimStart cs)

/-- A capital of ASCII as its small letter; other characters stay. -/
def asciiLower (c : Char) : Char :=
  if 'A' ≤ c && c ≤ 'Z' then Char.ofNat (c.toNat + 32) else c

/-- Whether two texts are equal up to the case of the letters of ASCII. -/
def equalIgnoringAsciiCase (a b : String) : Bool :=
  a.toList.map asciiLower == b.toList.map asciiLower

/-- Whether a text starts with the given characters. -/
def startsWith : (start text : List Char) → Bool
  | [], _ => true
  | _ :: _, [] => false
  | s :: start, c :: text => s == c && startsWith start text

/-- Whether a text ends with the given characters. -/
def endsWith (ending text : List Char) : Bool := startsWith ending.reverse text.reverse

/-- The pieces of a text around a separator, which are one more than the separators. -/
def splitAt (separator : Char) : List Char → List (List Char)
  | [] => [[]]
  | c :: cs =>
    match splitAt separator cs with
    | [] => [[c]]
    | piece :: pieces => if c = separator then [] :: piece :: pieces else (c :: piece) :: pieces

end ApiOutline.Text
