import ApiOutline.Outline.TypeRef

/-!
The outline of an API: its operations, grouped into interfaces, and its models. Parts are found by
their names.
-/

set_option autoImplicit false

namespace ApiOutline

inductive ParameterLocation where
  | path
  | query
  | header
deriving DecidableEq

def ParameterLocation.text : ParameterLocation → String
  | .path => "PATH"
  | .query => "QUERY"
  | .header => "HEADER"

structure Parameter where
  name : String
  location : ParameterLocation
  type : TypeRef
  required : Bool
  description : Option String
deriving DecidableEq

structure Operation where
  functionName : String
  method : Method
  path : String
  summary : Option String
  description : Option String
  deprecated : Bool
  parameters : List Parameter
  requestBody : Option TypeRef
  responseType : TypeRef
deriving DecidableEq

structure Interface where
  name : String
  description : Option String
  operations : List Operation
deriving DecidableEq

structure Property where
  name : String
  type : TypeRef
  required : Bool
  defaultValue : Option String
  description : Option String
deriving DecidableEq

structure Model where
  name : String
  properties : List Property
  description : Option String
  enumValues : List String
deriving DecidableEq

structure Outline where
  title : String
  version : String
  interfaces : List Interface
  models : List Model
deriving DecidableEq

def Interface.operation? (interface : Interface) (name : String) : Option Operation :=
  interface.operations.find? (·.functionName = name)

def Model.property? (model : Model) (name : String) : Option Property :=
  model.properties.find? (·.name = name)

namespace Outline

def interface? (outline : Outline) (name : String) : Option Interface :=
  outline.interfaces.find? (·.name = name)

def model? (outline : Outline) (name : String) : Option Model :=
  outline.models.find? (·.name = name)

def operationCount (outline : Outline) : Nat :=
  outline.interfaces.foldl (fun count interface => count + interface.operations.length) 0

end Outline

end ApiOutline
