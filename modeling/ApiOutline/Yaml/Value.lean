import ApiOutline.Yaml.Node
import ApiOutline.Yaml.Plain

/-!
YAML values, and how the nodes of a document stand for them. Aliases are replaced by what they stand
for; how often that may happen grows with the document, and collections nest at most 128 deep, so
every document is read in the end. The keys of a mapping are distinct.
-/

set_option autoImplicit false

namespace ApiOutline.Yaml

inductive Value where
  | null
  | bool (value : Bool)
  | number (value : Number)
  | string (value : String)
  | sequence (items : List Value)
  | mapping (entries : List (Value × Value))
  | tagged (tag : String) (value : Value)

instance : Inhabited Value := ⟨.null⟩

/-! ### Equality -/

/-- Equality of numbers as keys: whole numbers and doubles differ, and what is not a number equals
itself. -/
def sameNumber : Number → Number → Bool
  | .integer m, .integer n => m = n
  | .float x, .float y => x == y || (x.isNaN && y.isNaN)
  | _, _ => false

/-- A tag without an exclamation mark in front, unless it is nothing else. -/
def bareTag (tag : String) : List Char :=
  match tag.toList with
  | '!' :: c :: cs => c :: cs
  | cs => cs

mutual

/-- Equality of keys; the order of the entries of a mapping does not count. -/
def Value.same : Value → Value → Bool
  | .null, .null => true
  | .bool a, .bool b => a = b
  | .number m, .number n => sameNumber m n
  | .string a, .string b => a = b
  | .sequence items, .sequence others => sameItems items others
  | .mapping entries, .mapping others =>
    entries.length = others.length && allFound entries others
  | .tagged tag value, .tagged other content => bareTag tag = bareTag other && value.same content
  | _, _ => false

def sameItems : List Value → List Value → Bool
  | [], [] => true
  | item :: rest, other :: others => item.same other && sameItems rest others
  | _, _ => false

def allFound : List (Value × Value) → List (Value × Value) → Bool
  | [], _ => true
  | (key, value) :: rest, others =>
    (others.any fun other => key.same other.1 && value.same other.2) && allFound rest others

end

/-! ### Scalars -/

/-- What a scalar without a tag stands for. -/
def Value.ofUntagged (style : ScalarStyle) (text : String) : Except Fault Value :=
  match style with
  | .marked => .ok (.string text)
  | .plain =>
    let cs := text.toList
    if cs.isEmpty || isNull text then .ok .null
    else
      match bool? text, wholeNumber? cs with
      | some value, _ => .ok (.bool value)
      | none, some whole => whole.map .number
      | none, none =>
        if isZeroPadded (splitSign cs).2 then .ok (.string text)
        else
          match double? cs with
          | some value => .ok (.number (.float value))
          | none => .ok (.string text)

/-- What a scalar stands for that a tag gives a kind of the core schema. -/
def Value.ofCore (kind : CoreKind) (text : String) : Except Fault Value :=
  let found : Option (Except Fault Value) :=
    match kind with
    | .bool => (bool? text).map fun value => .ok (.bool value)
    | .int => (wholeNumber? text.toList).map fun whole => whole.map .number
    | .float => (double? text.toList).map fun value => .ok (.number (.float value))
    | .null => if isNull text then some (.ok .null) else none
  found.getD (.error .badScalar)

/-- What a scalar stands for. One with a foreign tag is a string. -/
def Value.ofScalar (tag : Option Tag) (style : ScalarStyle) (text : String) : Except Fault Value :=
  match tag with
  | none | some .void => Value.ofUntagged style text
  | some (.named name) => (Value.ofUntagged style text).map (.tagged name)
  | some (.core kind) => Value.ofCore kind text
  | some .foreign => .ok (.string text)

/-- A collection with the name that its tag gives it, if there is one. -/
def Value.withTag (tag : Option Tag) (value : Value) : Value :=
  match tag with
  | some (.named name) => .tagged name value
  | _ => value

/-! ### Nodes -/

/-- How deep collections nest at most. -/
def maxDepth : Nat := 128

/-- How many aliases are followed at most for each event of a document. -/
def aliasesPerEvent : Nat := 100

/-- Reads values and counts the aliases that were followed. -/
abbrev AliasCount := StateT Nat (Except Fault)

namespace Document

/-- The node that a node stands for. -/
def target (document : Document) : Node → AliasCount Node
  | .alias number => do
    let count := (← get) + 1
    if count > aliasesPerEvent * document.eventCount then throw .tooManyAliases
    set count
    match document.targets.lookup number with
    | some node => return node
    | none => throw .unknownAnchor
  | node => return node

def addEntry (readNode : Node → AliasCount Value) (done : List (Value × Value))
    (entry : Node × Node) : AliasCount (List (Value × Value)) := do
  let key ← readNode entry.1
  if done.any fun other => key.same other.1 then throw .repeatedKey
  let value ← readNode entry.2
  return (key, value) :: done

/-- Reads a node in which collections nest as deep as `allowance`. -/
def readNode (document : Document) (allowance : Nat) (node : Node) : AliasCount Value := do
  match ← document.target node with
  | .alias _ => throw .unknownAnchor
  | .scalar tag style text => Value.ofScalar tag style text
  | .sequence tag items =>
    match allowance with
    | 0 => throw .tooDeep
    | allowance + 1 =>
      let items ← items.mapM (document.readNode allowance)
      return (Value.sequence items).withTag tag
  | .mapping tag entries =>
    match allowance with
    | 0 => throw .tooDeep
    | allowance + 1 =>
      let done ← entries.foldlM (addEntry (document.readNode allowance)) []
      return (Value.mapping done.reverse).withTag tag

def value (document : Document) : Except Fault Value :=
  (document.readNode maxDepth document.root).run' 0

end Document

end ApiOutline.Yaml
