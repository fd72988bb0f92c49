import ApiOutline.Yaml.Fault
import ApiOutline.Yaml.Token

/-!
The nodes of a YAML document, read from its tokens one by one. What is read so far is a stack of
open collections, the innermost first; each finished node goes into the collection on top, and the
end of a collection makes a node of it.

Anchors are numbered. A name takes the count of the names before its anchor, so that one which names
a second node can share its number with the name that comes next. Of the nodes with one number the
last to start is the target of the aliases with that number, wherever they stand.
-/

set_option autoImplicit false

namespace ApiOutline.Yaml

inductive Node where
  | alias (number : Nat)
  | scalar (tag : Option Tag) (style : ScalarStyle) (text : String)
  | sequence (tag : Option Tag) (items : List Node)
  | mapping (tag : Option Tag) (entries : List (Node × Node))

/-- The node of nothing at all. -/
def Node.empty : Node := .scalar none .plain ""

/-- A document: its outermost node, the nodes that aliases stand for by number, and the count of its
events, which is one for an alias or a scalar and two for a collection. -/
structure Document where
  root : Node
  targets : List (Nat × Node)
  eventCount : Nat

/-! ### Anchors -/

/-- The number of an anchored node, and how many anchors came before it. -/
structure Anchor where
  number : Nat
  order : Nat

/-- The numbers of the names, the order of the node that has each number, both the latest first, and
how many names and anchors there are. -/
structure Anchors where
  numbers : List (String × Nat)
  holders : List (Nat × Nat)
  targets : List (Nat × Node)
  nameCount : Nat
  count : Nat

namespace Anchors

def empty : Anchors := ⟨[], [], [], 0, 0⟩

/-- Gives a name to the node that starts. -/
def define (anchors : Anchors) (name : String) : Anchors × Anchor :=
  let number := anchors.nameCount
  let isNew := (anchors.numbers.lookup name).isNone
  ({ anchors with
      numbers := (name, number) :: anchors.numbers
      holders := (number, anchors.count) :: anchors.holders
      nameCount := if isNew then number + 1 else number
      count := anchors.count + 1 },
    ⟨number, anchors.count⟩)

/-- Keeps a finished node as a target, unless a later one has taken its number. -/
def settle (anchors : Anchors) (anchor : Option Anchor) (node : Node) : Anchors :=
  match anchor with
  | none => anchors
  | some anchor =>
    if anchors.holders.lookup anchor.number = some anchor.order then
      { anchors with targets := (anchor.number, node) :: anchors.targets }
    else anchors

end Anchors

/-! ### Open collections -/

/-- What stands in front of a node. -/
structure Properties where
  anchor : Option Anchor
  tag : Option Tag

def Properties.none : Properties := ⟨.none, .none⟩

/-- How a sequence is written: with dashes in columns of its own, with dashes in the column of the
mapping around it, or between brackets. -/
inductive SequenceForm where
  | block
  | unindented
  | flow
deriving DecidableEq

/-- How a mapping is written: in lines, between braces, or as one entry of a sequence between
brackets. -/
inductive MappingForm where
  | block
  | flow
  | pair
deriving DecidableEq

/-- What a mapping waits for: a key, a key that takes no value, or the value of a key. -/
inductive Slot where
  | key
  | loneKey
  | value (key : Node)

/-- An open collection with its content so far, the last first. -/
inductive Frame where
  | sequence (form : SequenceForm) (properties : Properties) (items : List Node)
  | mapping (form : MappingForm) (properties : Properties) (entries : List (Node × Node))
      (slot : Slot)

/-- What the next token is taken for: a directive or the start of the document; the next entry of
the innermost collection or its end, where `separated` says that no comma is missing; the mark of a
value; a node after a mark, which may be left out; a node after some properties; or nothing, since
the document is complete. -/
inductive Stage where
  | prologue (directives : Bool)
  | entry (separated : Bool)
  | value
  | node
  | content (properties : Properties)
  | complete (root : Node)

/-- Puts a node where the innermost collection waits for one. A pair ends with its value. -/
def place (node : Node) : List Frame → List Frame × Stage
  | [] => ([], .complete node)
  | .sequence form properties items :: frames =>
    (.sequence form properties (node :: items) :: frames, .entry false)
  | .mapping form properties entries .key :: frames =>
    (.mapping form properties entries (.value node) :: frames, .value)
  | .mapping form properties entries .loneKey :: frames =>
    (.mapping form properties ((node, .empty) :: entries) .key :: frames, .entry false)
  | .mapping .pair properties _ (.value key) :: frames =>
    place (.mapping properties.tag [(key, node)]) frames
  | .mapping form properties entries (.value key) :: frames =>
    (.mapping form properties ((key, node) :: entries) .key :: frames, .entry false)

/-- Whether a node that starts with `-` or `?` or a key may stand here. -/
def allowsBlock : List Frame → Bool
  | [] | .sequence .block .. :: _ | .sequence .unindented .. :: _ | .mapping .block .. :: _ => true
  | _ => false

/-- Whether a sequence may start with a dash in the column of the collection around it. -/
def allowsUnindented : List Frame → Bool
  | .mapping .block .. :: _ => true
  | _ => false

/-- Whether a token after a mark leaves out the node. -/
def leavesOut : List Frame → Token → Bool
  | [], token => [.documentStart, .documentEnd].contains token
  | .sequence .block .. :: _, token => [.blockEntry, .blockEnd].contains token
  | .sequence .unindented .. :: _, token => [.blockEntry, .key, .value, .blockEnd].contains token
  | .sequence .flow .. :: _, _ => false
  | .mapping .block .. :: _, token => [.key, .value, .blockEnd].contains token
  | .mapping .flow _ _ (.value _) :: _, token => [.flowEntry, .flowMappingEnd].contains token
  | .mapping .flow .. :: _, token => [.value, .flowEntry, .flowMappingEnd].contains token
  | .mapping .pair _ _ (.value _) :: _, token => [.flowEntry, .flowSequenceEnd].contains token
  | .mapping .pair .. :: _, token => [.value, .flowEntry, .flowSequenceEnd].contains token

/-- Whether a token goes on with a node that has some properties. -/
def goesOn (frames : List Frame) (properties : Properties) : Token → Bool
  | .scalar .. | .flowSequenceStart | .flowMappingStart => true
  | .sequenceStart | .mappingStart => allowsBlock frames
  | .blockEntry => allowsUnindented frames
  | .anchor _ => properties.anchor.isNone
  | .tag .. => properties.tag.isNone
  | _ => false

/-! ### Reading -/

/-- A document read in part. -/
structure Reading where
  frames : List Frame
  stage : Stage
  hasVersion : Bool
  handles : List (String × TagText)
  anchors : Anchors
  eventCount : Nat

namespace Reading

def start : Reading := ⟨[], .prologue false, false, [], .empty, 0⟩

/-- The tags that need no directive. -/
def standardHandles : List (String × TagText) :=
  [("!", [some '!']), ("!!", tagTextOf coreTagStart)]

def placeNode (reading : Reading) (anchor : Option Anchor) (node : Node) : Reading :=
  let (frames, stage) := place node reading.frames
  { reading with frames, stage, anchors := reading.anchors.settle anchor node }

def placeScalar (reading : Reading) (properties : Properties) (style : ScalarStyle)
    (text : String) : Reading :=
  { reading with eventCount := reading.eventCount + 1 }.placeNode properties.anchor
    (.scalar properties.tag style text)

def openFrame (reading : Reading) (frame : Frame) (stage : Stage) : Reading :=
  { reading with
    frames := frame :: reading.frames, stage, eventCount := reading.eventCount + 2 }

/-- Ends the innermost collection. -/
def closeFrame (reading : Reading) : Reading :=
  match reading.frames with
  | .sequence _ properties items :: frames =>
    { reading with frames }.placeNode properties.anchor (.sequence properties.tag items.reverse)
  | .mapping _ properties entries _ :: frames =>
    { reading with frames }.placeNode properties.anchor (.mapping properties.tag entries.reverse)
  | [] => reading

/-- Puts an empty node where the token, or the end of the text, leaves out what could stand. -/
def fill (reading : Reading) (next : Option Token) : Reading :=
  match reading.stage with
  | .node =>
    if next.all (leavesOut reading.frames) then reading.placeScalar .none .plain "" else reading
  | .content properties =>
    if next.any (goesOn reading.frames properties) then reading
    else reading.placeScalar properties .plain ""
  | _ => reading

/-- Ends a sequence without columns of its own in front of anything but a dash. -/
def endUnindented (reading : Reading) (next : Token) : Reading :=
  match reading.stage, reading.frames with
  | .entry _, .sequence .unindented .. :: _ =>
    if next = .blockEntry then reading else reading.closeFrame
  | _, _ => reading

/-- Gives an empty value to a key that no colon follows. -/
def fillValue (reading : Reading) (next : Token) : Reading :=
  match reading.stage with
  | .value => if next = .value then reading else reading.placeScalar .none .plain ""
  | _ => reading

/-- The tag of a handle and a suffix; a whole tag has no handle. -/
def tag (reading : Reading) (handle : String) (suffix : TagText) : Except Fault Tag :=
  if handle.isEmpty then .ok (.ofText suffix)
  else
    match (reading.handles ++ standardHandles).lookup handle with
    | some expansion => .ok (.ofText (expansion ++ suffix))
    | none => .error .unknownTagHandle

/-- Takes a token of a node. -/
def takeNode (reading : Reading) (properties : Properties) (token : Token) :
    Except Fault Reading :=
  match token with
  | .alias name =>
    match reading.anchors.numbers.lookup name with
    | some number =>
      .ok ({ reading with eventCount := reading.eventCount + 1 }.placeNode none (.alias number))
    | none => .error .unknownAnchor
  | .anchor name =>
    let (anchors, anchor) := reading.anchors.define name
    .ok { reading with anchors, stage := .content { properties with anchor := some anchor } }
  | .tag handle suffix => do
    let tag ← reading.tag handle suffix
    return { reading with stage := .content { properties with tag := some tag } }
  | .scalar style text => .ok (reading.placeScalar properties style text)
  | .flowSequenceStart => .ok (reading.openFrame (.sequence .flow properties []) (.entry true))
  | .flowMappingStart => .ok (reading.openFrame (.mapping .flow properties [] .key) (.entry true))
  | .sequenceStart =>
    if allowsBlock reading.frames then
      .ok (reading.openFrame (.sequence .block properties []) (.entry true))
    else .error .expectedNode
  | .mappingStart =>
    if allowsBlock reading.frames then
      .ok (reading.openFrame (.mapping .block properties [] .key) (.entry true))
    else .error .expectedNode
  | .blockEntry =>
    if allowsUnindented reading.frames then
      .ok (reading.openFrame (.sequence .unindented properties []) .node)
    else .error .expectedNode
  | _ => .error .expectedNode

/-- Takes the token of an entry of the innermost collection, or of its end. -/
def takeEntry (reading : Reading) (separated : Bool) (token : Token) : Except Fault Reading :=
  match reading.frames with
  | .sequence .flow .. :: _ =>
    if token = .flowSequenceEnd then .ok reading.closeFrame
    else if !separated then
      if token = .flowEntry then .ok { reading with stage := .entry true }
      else .error .expectedFlowSeparator
    else if token = .key then .ok (reading.openFrame (.mapping .pair .none [] .key) .node)
    else reading.takeNode .none token
  | .mapping .flow properties entries _ :: frames =>
    if token = .flowMappingEnd then .ok reading.closeFrame
    else if !separated then
      if token = .flowEntry then .ok { reading with stage := .entry true }
      else .error .expectedFlowSeparator
    else if token = .key then .ok { reading with stage := .node }
    else
      { reading with frames := .mapping .flow properties entries .loneKey :: frames }.takeNode .none
        token
  | .mapping .. :: _ =>
    if token = .blockEnd then .ok reading.closeFrame
    else if token = .key then .ok { reading with stage := .node }
    else .error .expectedKey
  | _ =>
    if token = .blockEnd then .ok reading.closeFrame
    else if token = .blockEntry then .ok { reading with stage := .node }
    else .error .expectedEntry

/-- Takes a token before the document. After a directive the start of the document is marked. -/
def takePrologue (reading : Reading) (directives : Bool) (token : Token) : Except Fault Reading :=
  match token with
  | .version major minor =>
    if reading.hasVersion then .error .repeatedDirective
    else if major = 1 && (minor = 1 || minor = 2) then
      .ok { reading with stage := .prologue true, hasVersion := true }
    else .error .unsupportedVersion
  | .tagHandle handle expansion =>
    if (reading.handles.lookup handle).isSome then .error .repeatedDirective
    else
      .ok { reading with
        stage := .prologue true, handles := (handle, expansion) :: reading.handles }
  | .documentStart => .ok { reading with stage := .node }
  | token => if directives then .error .expectedDocumentStart else reading.takeNode .none token

/-- Whether an empty key takes up the token as well: that of a pair whose key is marked. -/
def swallows (reading : Reading) (token : Token) : Bool :=
  match reading.stage, reading.frames with
  | .node, .mapping .pair _ _ .key :: _ => leavesOut reading.frames token
  | _, _ => false

/-- Takes the next token. -/
def take (reading : Reading) (token : Token) : Except Fault Reading :=
  if reading.swallows token then .ok (reading.fill token)
  else
    let reading := ((reading.fill token).endUnindented token).fillValue token
    match reading.stage with
    | .prologue directives => reading.takePrologue directives token
    | .entry separated => reading.takeEntry separated token
    | .value => .ok { reading with stage := .node }
    | .node => reading.takeNode .none token
    | .content properties => reading.takeNode properties token
    | .complete _ => if token = .documentEnd then .ok reading else .error .severalDocuments

/-- The document at the end of the text. -/
def finish (reading : Reading) : Except Fault Document :=
  let reading := if reading.frames.isEmpty then reading.fill none else reading
  match reading.stage with
  | .complete root => .ok ⟨root, reading.anchors.targets, reading.eventCount⟩
  | .prologue false => .ok ⟨.empty, [], 1⟩
  | .prologue true => .error .expectedDocumentStart
  | _ => .error .expectedNode

end Reading

/-- The document of some tokens. There is no second one. -/
def Document.ofTokens (tokens : List Token) : Except Fault Document := do
  let reading ← tokens.foldlM Reading.take .start
  reading.finish

end ApiOutline.Yaml
