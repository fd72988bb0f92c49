import ApiOutline.Extraction.Operation

/-!
Interfaces. Operations with the same interface name, which is made from their first tag, form an
interface; interfaces and operations keep the order of declaration. Within an interface a name that
is taken gets the least number from two on that makes it free.
-/

set_option autoImplicit false

namespace ApiOutline

/-- An operation where it is declared. -/
structure DeclaredOperation where
  path : String
  method : Method
  shared : List (OpenApi.RefOr OpenApi.Parameter)
  operation : OpenApi.Operation

/-- The operations of a path, in the order of their methods. -/
def DeclaredOperation.ofItem (path : String) (item : OpenApi.PathItem) : List DeclaredOperation :=
  Method.all.filterMap fun method =>
    (item.operation? method).map fun operation => ⟨path, method, item.parameters, operation⟩

/-- The operations of a document in the order of declaration. -/
def DeclaredOperation.ofDocument (document : OpenApi.Document) : List DeclaredOperation :=
  document.paths.entries.flatMap fun entry => ofItem entry.1 entry.2

def DeclaredOperation.interfaceName (declared : DeclaredOperation) : String :=
  Naming.interfaceName declared.operation.tags.head?

/-- A name with a number at its end. -/
def numbered (name : String) (number : Nat) : String := name ++ toString number

/-- A name that is not taken: the name itself, or with the least number from two on that makes it
free. Among as many numbers as there are taken names one is free, as the name itself is taken. -/
def freeName (taken : List String) (name : String) : String :=
  if name ∈ taken then
    (((List.range' 2 taken.length).map (numbered name)).find? (· ∉ taken)).getD name
  else name

/-- Adds an operation to the interface of a name, under a free name. -/
def addOperation (groups : List (String × List Operation)) (interface : String)
    (operation : Operation) : List (String × List Operation) :=
  let existing := (groups.lookup interface).getD []
  let name := freeName (existing.map (·.functionName)) operation.functionName
  Entries.put groups interface (existing ++ [{ operation with functionName := name }])

/-- The operations of a document by the names of their interfaces. -/
def groupOperations (components : OpenApi.Components) (declared : List DeclaredOperation) :
    List (String × List Operation) :=
  declared.foldl (fun groups d =>
    addOperation groups d.interfaceName
      (.ofDeclared components d.path d.method d.shared d.operation)) []

/-- The description of an interface: that of the last tag with a description that names it. -/
def interfaceDescription? (tags : List OpenApi.Tag) (interface : String) : Option String :=
  let described := tags.filterMap fun tag =>
    tag.description.map fun description => (Naming.interfaceName (some tag.name), description)
  described.reverse.lookup interface

def Interface.ofDocument (document : OpenApi.Document) : List Interface :=
  (groupOperations document.sharedParts (DeclaredOperation.ofDocument document)).map fun group =>
    { name := group.1
      description := interfaceDescription? document.tags group.1
      operations := group.2 }

end ApiOutline
