import ApiOutline.Json.Fault
import ApiOutline.OpenApi.Mismatch
import ApiOutline.Yaml.Fault

/-!
Why a text is not an OpenAPI document that can be read. Faults inside schemas and dangling
references are none of these: they only leave parts of the outline empty.
-/

set_option autoImplicit false

namespace ApiOutline.OpenApi

/-- The fields without which nothing can be made of a document. -/
inductive RequiredField where
  | openapi
  | info
  | title
  | version
  | paths
deriving DecidableEq

def RequiredField.text : RequiredField → String
  | .openapi => "openapi"
  | .info => "info"
  | .title => "info.title"
  | .version => "info.version"
  | .paths => "paths"

/-- A fault of the syntax; a text that starts like JSON is explained as JSON. -/
inductive SyntaxFault where
  | json (fault : Json.Fault) (text : String)
  | yaml (fault : Yaml.Fault)

def SyntaxFault.message : SyntaxFault → String
  | .json fault text => fault.message text
  | .yaml fault => fault.message

/-- A field that is present with the wrong form. -/
inductive FormFault where
  | versionNotString
  | infoNotMapping
  | pathsNotMapping
  | mismatch (reason : Mismatch)

def FormFault.message : FormFault → String
  | .versionNotString => "'openapi' must be a version string"
  | .infoNotMapping => "'info' must be a mapping"
  | .pathsNotMapping => "'paths' must be a mapping"
  | .mismatch reason => reason.message

inductive DocumentFault where
  /-- Nothing but white space. -/
  | empty
  | badSyntax (fault : SyntaxFault)
  /-- The document is a value of another kind. -/
  | notMapping (found : Json)
  | missing (field : RequiredField)
  | unsupportedVersion (version : String)
  | badForm (fault : FormFault)

/-- The kind of a value, as it is named for a whole document. -/
def kindText : Json → String
  | .null => "null"
  | .bool _ => "a boolean"
  | .number _ => "a number"
  | .string _ => "a string"
  | .array _ => "a sequence"
  | .object _ => "a mapping"

def DocumentFault.message : DocumentFault → String
  | .empty => "OpenAPI document is empty"
  | .badSyntax fault => s!"Failed to parse OpenAPI document: {fault.message}"
  | .notMapping found =>
    s!"OpenAPI document must be a mapping at the top level, found {kindText found}"
  | .missing field => s!"Missing required field '{field.text}'"
  | .unsupportedVersion version => s!"Unsupported OpenAPI version '{version}', expected 3.x"
  | .badForm fault => s!"Invalid OpenAPI document structure: {fault.message}"

end ApiOutline.OpenApi
