import ApiOutline.Yaml.Tag

/-!
The tokens of a YAML text, and how names and directives are read.
-/

set_option autoImplicit false

namespace ApiOutline.Yaml

/-- Whether a scalar is written without marks, so that its text decides what it is, or within marks
that make it a string. -/
inductive ScalarStyle where
  | plain
  | marked
deriving DecidableEq

inductive Token where
  | version (major minor : Nat)
  | tagHandle (handle : String) (expansion : TagText)
  | documentStart
  | documentEnd
  | sequenceStart
  | mappingStart
  | blockEnd
  | flowSequenceStart
  | flowSequenceEnd
  | flowMappingStart
  | flowMappingEnd
  | blockEntry
  | flowEntry
  | key
  | value
  | alias (name : String)
  | anchor (name : String)
  | tag (handle : String) (suffix : TagText)
  | scalar (style : ScalarStyle) (text : String)
deriving DecidableEq

/-- Reads the name of an anchor or an alias after its mark. -/
def readName (spots : List Spot) : Except Fault (String × List Spot) :=
  let name := charsOf (spots.takeWhile (isWordChar ·.char))
  let rest := spots.drop name.length
  let closed := atGap rest || rest.head?.any fun spot =>
    ['?', ':', ',', ']', '\x7d', '%', '@', '\x60'].contains spot.char
  if name.isEmpty || !closed then .error .badAnchor else .ok (String.ofList name, rest)

/-! ### Directives -/

/-- Reads a number of at most nine digits. -/
def readVersionNumber (spots : List Spot) : Except Fault (Nat × List Spot) :=
  let digits := charsOf (spots.takeWhile (·.char.isDigit))
  if digits.isEmpty || digits.length > 9 then .error .badVersion
  else
    .ok (digits.foldl (fun n d => 10 * n + (d.toNat - '0'.toNat)) 0, spots.drop digits.length)

def readVersion (spots : List Spot) : Except Fault (Token × List Spot) := do
  let (major, rest) ← readVersionNumber (dropBlanks spots)
  if !startsWith ['.'] rest then .error .badVersion
  let (minor, rest) ← readVersionNumber (rest.drop 1)
  return (.version major minor, rest)

def readTagDirective (spots : List Spot) : Except Fault (Token × List Spot) := do
  let (handle, rest) ← readHandle (dropBlanks spots)
  if !isFullHandle handle && handle.length > 1 then .error .badDirective
  if !rest.head?.any (isBlank ·.char) then .error .badDirective
  let (expansion, rest) ← readTagText true [] (dropBlanks rest)
  if atGap rest then return (.tagHandle (String.ofList handle) expansion, rest)
  else .error .badDirective

/-- Reads a directive after its percent sign, and the rest of its line. -/
def readDirective (spots : List Spot) : Except Fault (Token × List Spot) := do
  let name := charsOf (spots.takeWhile (isWordChar ·.char))
  let rest := spots.drop name.length
  if name.isEmpty || !atGap rest then .error .badDirective
  let (token, rest) ←
    if name = "YAML".toList then readVersion rest
    else if name = "TAG".toList then readTagDirective rest
    else .error .badDirective
  let rest := dropComment (dropBlanks rest)
  if atLineEnd rest then return (token, rest.drop 1) else .error .badDirective

end ApiOutline.Yaml
