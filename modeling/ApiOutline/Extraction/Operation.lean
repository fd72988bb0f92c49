import ApiOutline.Naming.Style
import ApiOutline.Extraction.Content
import ApiOutline.Extraction.Parameter

/-!
Operations. An operation is named by its `operationId` in camel case, or, if that has no letter or
number in it, by its method and the segments of its path.
-/

set_option autoImplicit false

namespace ApiOutline.Operation

/-- A segment of a path without the braces around it. -/
def trimBraces (segment : List Char) : List Char :=
  ((segment.dropWhile (· = '\x7b')).reverse.dropWhile (· = '\x7d')).reverse

/-- The segments of a path that have a name, each after an underscore. -/
def segmentText (path : String) : List Char :=
  ((Text.splitAt '/' path.toList).map trimBraces).flatMap fun segment =>
    if segment.isEmpty then [] else '_' :: segment

/-- The name made from a method and a path. -/
def derivedName (path : String) (method : Method) : String :=
  Naming.camelCase (String.ofList (method.key.toList ++ segmentText path))

def nameOf (path : String) (method : Method) (operationId : Option String) : String :=
  match operationId.map Naming.camelCase with
  | none | some "" => derivedName path method
  | some name => name

/-- The outline of a declared operation; `shared` are the parameters declared for its path. -/
def ofDeclared (components : OpenApi.Components) (path : String) (method : Method)
    (shared : List (OpenApi.RefOr OpenApi.Parameter)) (operation : OpenApi.Operation) : Operation :=
  { functionName := nameOf path method operation.operationId
    method
    path
    summary := operation.summary
    description := operation.description
    deprecated := operation.deprecated
    parameters := Parameter.merge components shared operation.parameters
    requestBody := requestType? components operation.requestBody
    responseType := ApiOutline.responseType components operation.responses }

end ApiOutline.Operation
