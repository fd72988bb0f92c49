import ApiOutline.OpenApi.Document

/-!
The properties of composed schemas. A schema contributes the properties of the members of `allOf`,
or else of the first member of `oneOf` or `anyOf`, and then its own; a reference contributes what
the schema of its name does. Of a property that is declared again the last declaration counts, at
the place of the first.

References may be circular. A reference to a schema on the path from the outermost one is cut and
contributes nothing. The set of a schema is kept for later references unless a reference was cut
below it, for then the set depends on the path.
-/

set_option autoImplicit false

namespace ApiOutline

open OpenApi (Schema refName)

/-- Properties in the order of their first declaration, and the names of required ones. -/
structure PropertySet where
  properties : List (String × Schema)
  required : List String

namespace PropertySet

def empty : PropertySet := ⟨[], []⟩

def declare (set : PropertySet) (properties : List (String × Schema)) : PropertySet :=
  { set with properties := Entries.putAll set.properties properties }

/-- Adds a name to a list without repetitions. -/
def addName (names : List String) (name : String) : List String :=
  if name ∈ names then names else names ++ [name]

def require (set : PropertySet) (names : List String) : PropertySet :=
  { set with required := names.foldl addName set.required }

/-- Adds what another set holds, as if it were declared here. -/
def merge (set other : PropertySet) : PropertySet :=
  (set.declare other.properties).require other.required

end PropertySet

/-- The state of flattening: the names from the outermost schema down to the current one, the sets
kept so far, how many references were cut, and the names of the schemas walked, each the latest
first. -/
structure Flattening where
  path : List String
  cache : List (String × PropertySet)
  cuts : Nat
  walked : List String

namespace Flattening

def start : Flattening := ⟨[], [], 0, []⟩

/-- The state on entering the schema of a name. -/
def enter (state : Flattening) (name : String) : Flattening :=
  { state with path := name :: state.path, walked := name :: state.walked }

/-- The state on leaving the schema of a name. -/
def leave (state : Flattening) (name : String) : Flattening :=
  { state with path := state.path.erase name }

def cut (state : Flattening) : Flattening := { state with cuts := state.cuts + 1 }

def keep (state : Flattening) (name : String) (set : PropertySet) : Flattening :=
  { state with cache := (name, set) :: state.cache }

/-- How the set of a schema of a name is found. -/
abbrev Lookup := String → Schema → Flattening → PropertySet × Flattening

/-- Adds what a reference contributes. -/
def collectReference (find : Lookup) (schemas : Table Schema) (path : String) (set : PropertySet)
    (state : Flattening) : PropertySet × Flattening :=
  let name := refName path
  if name ∈ state.path then (set, state.cut)
  else
    match schemas.get? name with
    | none => (set, state)
    | some target =>
      let (found, state) := find name target state
      (set.merge found, state)

mutual

/-- Adds to a set what a schema contributes. -/
def collect (find : Lookup) (schemas : Table Schema) :
    Schema → PropertySet → Flattening → PropertySet × Flattening
  | ⟨_, some path, _, _, _, _, _, _, _, _, _, _⟩, set, state =>
    collectReference find schemas path set state
  | ⟨_, none, _, _, properties, required, _, _, _, allOf, oneOf, anyOf⟩, set, state =>
    let (set, state) :=
      match allOf, oneOf, anyOf with
      | [], [], [] => (set, state)
      | [], [], first :: _ => collect find schemas first set state
      | [], first :: _, _ => collect find schemas first set state
      | first :: rest, _, _ =>
        let (set, state) := collect find schemas first set state
        collectAll find schemas rest set state
    ((set.declare properties).require required, state)

/-- Adds to a set what the schemas of a list contribute, one after the other. -/
def collectAll (find : Lookup) (schemas : Table Schema) :
    List Schema → PropertySet → Flattening → PropertySet × Flattening
  | [], set, state => (set, state)
  | schema :: rest, set, state =>
    let (set, state) := collect find schemas schema set state
    collectAll find schemas rest set state

end

/-- The set of the schema of a name. The allowance bounds how deep references may nest below it; as
many as there are names outside the path always suffice, as a nested reference adds to the path. -/
def component (schemas : Table Schema) : (allowance : Nat) → Lookup
  | allowance, name, schema, state =>
    match state.cache.lookup name with
    | some set => (set, state)
    | none =>
      match allowance with
      | 0 => (.empty, state)
      | allowance + 1 =>
        let (set, after) :=
          collect (component schemas allowance) schemas schema .empty (state.enter name)
        let after := after.leave name
        (set, if after.cuts = state.cuts then after.keep name set else after)

/-- The sets of all schemas of a table, in their order, each after the ones before it. -/
def components (schemas : Table Schema) :
    List (String × Schema) → Flattening → List PropertySet × Flattening
  | [], state => ([], state)
  | (name, schema) :: rest, state =>
    let (set, state) := component schemas schemas.entries.length name schema state
    let (sets, state) := components schemas rest state
    (set :: sets, state)

end Flattening

end ApiOutline
