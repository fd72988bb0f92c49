import ApiOutline.Yaml.Scalar

/-!
The tokens of a YAML text. Outside of flow collections the columns decide where collections open and
close: a mark of an entry or a key further right than the innermost collection opens one, and a
token further left closes those that it leaves. A node that a colon follows on its line turns out to
be a key, and its mark is put in front of it then; until that is known it is a pending key.
-/

set_option autoImplicit false

namespace ApiOutline.Yaml

/-- A node that is a key if a colon follows: how many tokens come before it, and where it starts. A
required one stands where only a key can stand. -/
structure PendingKey where
  place : Nat
  spot : Spot
  required : Bool

/-- How many octets may come between the start of a key and its colon. -/
def maxKeyLength : Nat := 1024

/-- Whether a colon at the spot comes too late for the key. -/
def PendingKey.isStale (key : PendingKey) (spot : Spot) : Bool :=
  key.spot.line < spot.line || key.spot.index + maxKeyLength < spot.index

/-- The tokens so far, the columns of the open block collections, the innermost first, the pending
key of the innermost flow collection or of the text outside of them, those of the levels around it,
and whether a key may start here. -/
structure Lexer where
  tokens : Array Token
  columns : List Nat
  key : Option PendingKey
  outerKeys : List (Option PendingKey)
  keyAllowed : Bool

namespace Lexer

def start : Lexer := ⟨#[], [], none, [], true⟩

def inFlow (lexer : Lexer) : Bool := !lexer.outerKeys.isEmpty

def push (lexer : Lexer) (token : Token) : Lexer := { lexer with tokens := lexer.tokens.push token }

def insert (lexer : Lexer) (place : Nat) (token : Token) : Lexer :=
  { lexer with tokens := lexer.tokens.insertIdxIfInBounds place token }

/-! ### Pending keys -/

/-- Gives up a pending key of the innermost level that is stale at the spot. The keys of the levels
around it can wait until theirs is the innermost: a stale key stays stale. -/
def dropStaleKey (lexer : Lexer) (spot : Spot) : Except Fault Lexer :=
  match lexer.key with
  | none => .ok lexer
  | some key =>
    if !key.isStale spot then .ok lexer
    else if key.required then .error .missingColon
    else .ok { lexer with key := none }

/-- Gives up the pending key of the innermost level. -/
def dropKey (lexer : Lexer) : Except Fault Lexer :=
  if lexer.key.any (·.required) then .error .missingColon else .ok { lexer with key := none }

/-- Makes the node that starts at the spot a pending key if one may start here. -/
def startNode (lexer : Lexer) (spot : Spot) : Except Fault Lexer := do
  if !lexer.keyAllowed then return lexer
  let required := !lexer.inFlow && lexer.columns.head? = some spot.column
  let lexer ← lexer.dropKey
  return { lexer with key := some ⟨lexer.tokens.size, spot, required⟩ }

/-! ### Block collections -/

/-- Opens a block collection at the column, unless the innermost one is as far right. Its token goes
in front of the token at the place. -/
def openBlock (lexer : Lexer) (column place : Nat) (token : Token) : Lexer :=
  if lexer.inFlow || lexer.columns.head?.any (column ≤ ·) then lexer
  else { lexer.insert place token with columns := column :: lexer.columns }

/-- Closes the block collections right of the column. -/
def closeBlocks (lexer : Lexer) (column : Nat) : Lexer :=
  if lexer.inFlow then lexer
  else
    let left := lexer.columns.takeWhile (column < ·)
    { lexer with
      tokens := lexer.tokens ++ (left.map fun _ => Token.blockEnd).toArray
      columns := lexer.columns.drop left.length }

/-- Closes all block collections, as the end of a document does. -/
def closeAllBlocks (lexer : Lexer) : Lexer :=
  if lexer.inFlow then lexer
  else
    { lexer with
      tokens := lexer.tokens ++ (lexer.columns.map fun _ => Token.blockEnd).toArray
      columns := [] }

/-! ### Tokens -/

/-- Takes a token that ends what came before it: all block collections, and the chance of a key. -/
def pushBoundary (lexer : Lexer) (token : Token) : Except Fault Lexer := do
  let lexer ← lexer.closeAllBlocks.dropKey
  return { lexer.push token with keyAllowed := false }

def openFlow (lexer : Lexer) (spot : Spot) (token : Token) : Except Fault Lexer := do
  let lexer ← lexer.startNode spot
  let outerKeys := lexer.key :: lexer.outerKeys
  return { lexer with key := none, outerKeys, keyAllowed := true }.push token

def closeFlow (lexer : Lexer) (token : Token) : Except Fault Lexer := do
  let lexer ← lexer.dropKey
  let key := lexer.outerKeys.head?.join
  return { lexer with key, outerKeys := lexer.outerKeys.tail, keyAllowed := false }.push token

/-- Takes the mark of an entry, or of a key before its node; outside of flow collections it stands
where a key may start, and may open a collection. -/
def pushMark (lexer : Lexer) (spot : Spot) (opening token : Token) (fault : Fault) :
    Except Fault Lexer := do
  if !lexer.inFlow && !lexer.keyAllowed then .error fault
  let lexer ← (lexer.openBlock spot.column lexer.tokens.size opening).dropKey
  return lexer.push token

/-- Takes the colon before a value. The pending key becomes a key; without one the colon follows a
marked key, or an empty one. -/
def pushValue (lexer : Lexer) (spot : Spot) : Except Fault Lexer :=
  match lexer.key with
  | some key =>
    let lexer := (lexer.insert key.place .key).openBlock key.spot.column key.place .mappingStart
    .ok { lexer.push .value with key := none, keyAllowed := false }
  | none =>
    if !lexer.inFlow && !lexer.keyAllowed then .error .misplacedValue
    else
      let lexer := lexer.openBlock spot.column lexer.tokens.size .mappingStart
      .ok ({ lexer with keyAllowed := !lexer.inFlow }.push .value)

/-- Takes a node of one token, after which no key may start. -/
def pushNode (lexer : Lexer) (spot : Spot) (token : Token) : Except Fault Lexer := do
  let lexer ← lexer.startNode spot
  return { lexer.push token with keyAllowed := false }

/-- Whether a plain scalar may start here: with no mark of YAML, or with one that nothing of its
meaning follows. -/
def startsPlain (inFlow : Bool) (c : Char) (rest : List Spot) : Bool :=
  if c = '-' then !rest.head?.any fun next => isBlank next.char
  else if c = '?' || c = ':' then !inFlow && !atGap rest
  else
    !isBlank c && !isFlowMark c &&
      !(['#', '&', '*', '!', '|', '>', '\x27', '"', '%', '@', '\x60'].contains c)

/-- Takes the token that starts at a spot. -/
def next (lexer : Lexer) (spot : Spot) (rest : List Spot) : Except Fault (Lexer × List Spot) := do
  let lexer ← lexer.dropStaleKey spot
  let lexer := lexer.closeBlocks spot.column
  let c := spot.char
  if spot.column = 0 && c = '%' then
    let lexer ← lexer.closeAllBlocks.dropKey
    let (token, rest) ← readDirective rest
    return ({ lexer.push token with keyAllowed := false }, rest)
  else if atDocumentMark (spot :: rest) then
    let token := if c = '-' then Token.documentStart else .documentEnd
    return (← lexer.pushBoundary token, rest.drop 2)
  else if c = '[' then return (← lexer.openFlow spot .flowSequenceStart, rest)
  else if c = '\x7b' then return (← lexer.openFlow spot .flowMappingStart, rest)
  else if c = ']' then return (← lexer.closeFlow .flowSequenceEnd, rest)
  else if c = '\x7d' then return (← lexer.closeFlow .flowMappingEnd, rest)
  else if c = ',' then
    return ({ (← lexer.dropKey).push .flowEntry with keyAllowed := true }, rest)
  else if c = '-' && atGap rest then
    let lexer ← lexer.pushMark spot .sequenceStart .blockEntry .misplacedEntry
    return ({ lexer with keyAllowed := true }, rest)
  else if c = '?' && (lexer.inFlow || atGap rest) then
    let lexer ← lexer.pushMark spot .mappingStart .key .misplacedKey
    return ({ lexer with keyAllowed := !lexer.inFlow }, rest)
  else if c = ':' && (lexer.inFlow || atGap rest) then return (← lexer.pushValue spot, rest)
  else if c = '*' then
    let (name, rest) ← readName rest
    return (← lexer.pushNode spot (.alias name), rest)
  else if c = '&' then
    let (name, rest) ← readName rest
    return (← lexer.pushNode spot (.anchor name), rest)
  else if c = '!' then
    let ((handle, suffix), rest) ← readTag lexer.inFlow (spot :: rest)
    return (← lexer.pushNode spot (.tag handle suffix), rest)
  else if (c = '|' || c = '>') && !lexer.inFlow then
    let lexer ← lexer.dropKey
    let (text, rest) ← readBlock (c = '|') lexer.columns.head? rest
    return ({ lexer.push (.scalar .marked (String.ofList text)) with keyAllowed := true }, rest)
  else if c = '\x27' || c = '"' then
    let (folding, rest) ← readQuoted c .text .start rest
    return (← lexer.pushNode spot (.scalar .marked (String.ofList folding.text.reverse)), rest)
  else if startsPlain lexer.inFlow c rest then
    let indent := match lexer.columns.head? with | some column => column + 1 | none => 0
    let (folding, rest) ← readPlain lexer.inFlow indent .start (spot :: rest)
    let lexer ← lexer.pushNode spot (.scalar .plain (String.ofList folding.text.reverse))
    return ({ lexer with keyAllowed := folding.broken }, rest)
  else .error .noToken

/-- Passes over blanks, breaks and comments. Outside of flow collections a break allows a key, and
no tab stands before one. A byte order mark may open a line. -/
def skipGap (inFlow inComment keyAllowed : Bool) : List Spot → Bool × List Spot
  | [] => (keyAllowed, [])
  | spot :: rest =>
    if isBreak spot.char then skipGap inFlow false (keyAllowed || !inFlow) rest
    else if inComment || spot.char = ' ' || (spot.char = '\t' && (inFlow || !keyAllowed)) ||
        (spot.char = '\ufeff' && spot.column = 0) then
      skipGap inFlow inComment keyAllowed rest
    else if spot.char = '#' then skipGap inFlow true keyAllowed rest
    else (keyAllowed, spot :: rest)

/-- Takes all tokens of the spots. Each takes a spot at least, so that `allowance` is enough if it
is more than their number. -/
def run (allowance : Nat) (lexer : Lexer) (spots : List Spot) : Except Fault (Array Token) :=
  let (keyAllowed, rest) := skipGap lexer.inFlow false lexer.keyAllowed spots
  match allowance, rest with
  | _, [] => do return (← lexer.closeAllBlocks.dropKey).tokens
  | 0, _ => .error .noToken
  | allowance + 1, spot :: rest =>
    match next { lexer with keyAllowed } spot rest with
    | .error fault => .error fault
    | .ok (lexer, rest) => run allowance lexer rest

end Lexer

/-- The tokens of a text. -/
def tokens (cs : List Char) : Except Fault (List Token) :=
  if cs.all isAllowed then
    let spots := locate cs
    (Lexer.start.run (spots.length + 1) spots).map (·.toList)
  else .error .controlCharacter

end ApiOutline.Yaml
