import ApiOutline.Outline.Basic

/-!
The parameters of an operation. Those of the path come first, then those of the operation itself, of
which one with the name and location of an earlier parameter takes its place. Parameters in other
places than path, query and header, and references that lead nowhere, leave no trace.
-/

set_option autoImplicit false

namespace ApiOutline

def ParameterLocation.ofText? : String → Option ParameterLocation
  | "path" => some .path
  | "query" => some .query
  | "header" => some .header
  | _ => none

namespace Parameter

/-- A parameter of the path is required whatever its declaration says. -/
def ofDeclared? (parameter : OpenApi.Parameter) : Option Parameter :=
  (ParameterLocation.ofText? parameter.location).map fun location =>
    { name := parameter.name
      location
      type := .ofSchema? parameter.schema
      required := location = .path || parameter.required.getD false
      description := parameter.description }

/-- Whether two parameters have the same name and location. -/
def sameKey (a b : Parameter) : Bool := a.name = b.name && a.location = b.location

/-- Puts a parameter in the place of the first with its name and location, or at the end. -/
def override : List Parameter → Parameter → List Parameter
  | [], parameter => [parameter]
  | first :: rest, parameter =>
    if first.sameKey parameter then parameter :: rest else first :: override rest parameter

/-- The parameters that a list of declarations stands for. -/
def ofList (components : OpenApi.Components) (declared : List (OpenApi.RefOr OpenApi.Parameter)) :
    List Parameter :=
  declared.filterMap fun node => (node.resolve components.parameters).bind ofDeclared?

/-- The parameters of an operation from those declared for its path and for itself. -/
def merge (components : OpenApi.Components)
    (shared own : List (OpenApi.RefOr OpenApi.Parameter)) : List Parameter :=
  (ofList components own).foldl override (ofList components shared)

end Parameter

end ApiOutline
