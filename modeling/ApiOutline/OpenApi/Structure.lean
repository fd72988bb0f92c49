import ApiOutline.Json.Printer
import ApiOutline.OpenApi.Fault
import ApiOutline.Table
import ApiOutline.Text.Blank

/-!
The fields that every document has: its version, its title and version of the API, and its paths.
The three parts are checked on their own and every fault is reported, in this order. A version may
be written as a number, which stands for its text.
-/

set_option autoImplicit false

namespace ApiOutline.OpenApi

abbrev Members := List (String × Json)

/-- The text of a scalar, the JSON text of another value. -/
def scalarText : Json → String
  | .string value => value
  | json => json.compact

def isSupportedVersion (version : String) : Bool :=
  Text.startsWith ['3', '.'] (Text.trim version.toList)

def versionTextFaults (version : String) : List DocumentFault :=
  if isSupportedVersion version then [] else [.unsupportedVersion version]

/-- Without a version the field `swagger`, of the formats before the third, gives a better reason.
-/
def versionFaults (root : Members) : List DocumentFault :=
  match root.lookup "openapi" with
  | none | some .null =>
    match root.lookup "swagger" with
    | some version => [.unsupportedVersion s!"swagger {scalarText version}"]
    | none => [.missing .openapi]
  | some (.string version) => versionTextFaults version
  | some (.number version) => versionTextFaults version.text
  | some _ => [.badForm .versionNotString]

/-- Whether a member is there and not null. -/
def hasValue (members : Members) (key : String) : Bool :=
  match members.lookup key with
  | none | some .null => false
  | some _ => true

def infoFaults (root : Members) : List DocumentFault :=
  match root.lookup "info" with
  | none | some .null => [.missing .info]
  | some (.object info) =>
    (if hasValue info "title" then [] else [.missing .title]) ++
      (if hasValue info "version" then [] else [.missing .version])
  | some _ => [.badForm .infoNotMapping]

def pathsFaults (root : Members) : List DocumentFault :=
  match root.lookup "paths" with
  | none | some .null => [.missing .paths]
  | some (.object _) => []
  | some _ => [.badForm .pathsNotMapping]

/-- A number as its text; other values stay. -/
def textOfNumber : Json → Json
  | .number value => .string value.text
  | json => json

/-- The members with the value under a key changed. -/
def mapMember (key : String) (change : Json → Json) (members : Members) : Members :=
  members.map fun entry => (entry.1, if entry.1 = key then change entry.2 else entry.2)

def Info.withTextVersion : Json → Json
  | .object info => .object (mapMember "version" textOfNumber info)
  | json => json

/-- Checks the fields that every document has, and gives the document with its versions as texts. -/
def checkStructure : Json → Except (List DocumentFault) Json
  | .object root =>
    match versionFaults root ++ infoFaults root ++ pathsFaults root with
    | [] =>
      .ok (.object (mapMember "info" Info.withTextVersion (mapMember "openapi" textOfNumber root)))
    | faults => .error faults
  | json => .error [.notMapping json]

end ApiOutline.OpenApi
