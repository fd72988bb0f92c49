import ApiOutline.OpenApi.Structure

/-!
Extensions of a document: entries whose key starts with `x-`. Among the paths and among the
responses of an operation the keys are data, so extensions have to be taken out there; everywhere
else unknown members are ignored anyway.
-/

set_option autoImplicit false

namespace ApiOutline.OpenApi

def isExtension (key : String) : Bool := Text.startsWith ['x', '-'] key.toList

def dropExtensionEntries (members : Members) : Members :=
  members.filter fun entry => !isExtension entry.1

/-- A value with the change made to its members, if it is an object. -/
def onObject (change : Members → Members) : Json → Json
  | .object members => .object (change members)
  | json => json

/-- The members of an operation, without extensions among the responses. -/
def dropResponseExtensions : Members → Members :=
  mapMember "responses" (onObject dropExtensionEntries)

/-- The members of a path item, without extensions among the responses of its operations. -/
def dropItemExtensions (item : Members) : Members :=
  item.map fun entry => (entry.1, onObject dropResponseExtensions entry.2)

def dropPathExtensions (paths : Members) : Members :=
  (dropExtensionEntries paths).map fun entry => (entry.1, onObject dropItemExtensions entry.2)

/-- A document without extensions where keys are data. -/
def dropExtensions : Json → Json := onObject (mapMember "paths" (onObject dropPathExtensions))

end ApiOutline.OpenApi
