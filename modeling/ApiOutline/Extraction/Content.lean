import ApiOutline.Outline.Basic
import ApiOutline.Text.Blank

/-!
The types of request bodies and responses, which are those of their JSON content. Of several
responses the one of the first success status counts, in the order of `successStatuses`; if it is a
reference that leads nowhere, or has no JSON content, the operation answers with nothing.
-/

set_option autoImplicit false

namespace ApiOutline

open OpenApi (Components MediaType RefOr RequestBody Response)

/-- Whether a media type denotes JSON, its parameters aside. -/
def isJsonMediaType (mediaType : String) : Bool :=
  let essence := (Text.trim (mediaType.toList.takeWhile (· ≠ ';'))).map Text.asciiLower
  essence = "application/json".toList || Text.endsWith "+json".toList essence

/-- The JSON content: under exactly `application/json`, or else the first that denotes JSON. -/
def jsonContent? (content : Table MediaType) : Option MediaType :=
  match content.get? "application/json" with
  | some mediaType => some mediaType
  | none => (content.entries.find? fun entry => isJsonMediaType entry.1).map Prod.snd

/-- The type of a request body, none if there is no body to be read as JSON. -/
def requestType? (components : Components) (body : Option (RefOr RequestBody)) :
    Option TypeRef := do
  let node ← body
  let requestBody ← node.resolve components.requestBodies
  let mediaType ← jsonContent? requestBody.content
  return .ofSchema? mediaType.schema

/-- The statuses of success, the preferred ones first. -/
def successStatuses : List String :=
  ["200", "201", "202", "203", "204", "205", "206", "207", "2XX", "default"]

/-- The response of the most preferred success status, the first declared if there are several. -/
def successResponse? (responses : Table (RefOr Response)) : Option (RefOr Response) :=
  successStatuses.findSome? fun status =>
    (responses.entries.find? fun entry => Text.equalIgnoringAsciiCase entry.1 status).map Prod.snd

def responseType (components : Components) (responses : Table (RefOr Response)) : TypeRef :=
  let content := do
    let node ← successResponse? responses
    let response ← node.resolve components.responses
    jsonContent? response.content
  match content with
  | none => .unit
  | some mediaType => .ofSchema? mediaType.schema

end ApiOutline
