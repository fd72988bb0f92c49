import ApiOutline.OpenApi.Reference
import ApiOutline.OpenApi.Schema

/-!
An OpenAPI document, as far as its interfaces and models depend on it.
-/

set_option autoImplicit false

namespace ApiOutline

/-- The methods that operations are declared under. -/
inductive Method where
  | get
  | post
  | put
  | patch
  | delete
deriving DecidableEq

/-- The methods in the order in which the operations of a path are listed. -/
def Method.all : List Method := [.get, .post, .put, .patch, .delete]

def Method.text : Method → String
  | .get => "GET"
  | .post => "POST"
  | .put => "PUT"
  | .patch => "PATCH"
  | .delete => "DELETE"

/-- The name of a method in a path item, which is also how names made from it start. -/
def Method.key : Method → String
  | .get => "get"
  | .post => "post"
  | .put => "put"
  | .patch => "patch"
  | .delete => "delete"

namespace OpenApi

structure MediaType where
  schema : Option Schema

structure Parameter where
  name : String
  location : String
  required : Option Bool
  description : Option String
  schema : Option Schema

structure RequestBody where
  content : Table MediaType

structure Response where
  description : Option String
  content : Table MediaType

structure Operation where
  operationId : Option String
  summary : Option String
  description : Option String
  tags : List String
  deprecated : Bool
  parameters : List (RefOr Parameter)
  requestBody : Option (RefOr RequestBody)
  responses : Table (RefOr Response)

/-- The operations under one path, and the parameters they share. -/
structure PathItem where
  get : Option Operation
  post : Option Operation
  put : Option Operation
  patch : Option Operation
  delete : Option Operation
  parameters : List (RefOr Parameter)

def PathItem.operation? (item : PathItem) : Method → Option Operation
  | .get => item.get
  | .post => item.post
  | .put => item.put
  | .patch => item.patch
  | .delete => item.delete

structure Tag where
  name : String
  description : Option String

structure Info where
  title : String
  version : String

/-- The shared parts that references stand for. -/
structure Components where
  schemas : Table Schema
  parameters : Table (RefOr Parameter)
  requestBodies : Table (RefOr RequestBody)
  responses : Table (RefOr Response)

def Components.empty : Components := ⟨.empty, .empty, .empty, .empty⟩

structure Document where
  openapi : String
  info : Info
  tags : List Tag
  paths : Table PathItem
  components : Option Components

def Document.sharedParts (document : Document) : Components := document.components.getD .empty

end OpenApi

end ApiOutline
