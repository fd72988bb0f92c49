import ApiOutline.OpenApi.Mismatch
import ApiOutline.Table

/-!
Reading records and lists. A record is read from an object by its members in their order, so the
first offending one is reported, and only then are missing fields; unknown members are ignored. A
sequence gives the values of the fields in the order of their declaration.
-/

set_option autoImplicit false

namespace ApiOutline.OpenApi

variable {α : Type}

/-- Where a field may be missing: nowhere, in an object, or at the end of a sequence too. -/
inductive Presence where
  | required
  | optional
  | defaulted
deriving DecidableEq

/-- The name of a record and its fields in the order of their declaration. -/
structure RecordForm where
  name : String
  fields : List (String × Presence)

namespace RecordForm

/-- The first field that a record cannot do without and that is not among the members. -/
def missingField? (form : RecordForm) (members : List (String × Json)) : Option String :=
  (form.fields.find? fun field =>
    field.2 = .required && !members.any fun entry => entry.1 == field.1).map Prod.fst

/-- What is wrong with the length of a sequence of field values. -/
def lengthMismatch? (form : RecordForm) (length : Nat) : Option Mismatch :=
  let count := form.fields.length
  if length > count then some (.tooLong length)
  else
    let missing := (form.fields.drop length).takeWhile fun field => field.2 = .defaulted
    let place := length + missing.length
    if place < count then some (.tooShort place form.name count) else none

/-- Reads a record. It starts as `blank`, and `put` reads a value for the field of a name. -/
def read (form : RecordForm) (blank : α) (put : α → String → Json → Except Mismatch α) :
    Json → Except Mismatch α
  | .object members => do
    let record ← members.foldlM (fun record entry => put record entry.1 entry.2) blank
    match form.missingField? members with
    | some name => .error (.missingField name)
    | none => .ok record
  | .array values => do
    let named := (form.fields.map Prod.fst).zip values
    let record ← named.foldlM (fun record entry => put record entry.1 entry.2) blank
    match form.lengthMismatch? values.length with
    | some mismatch => .error mismatch
    | none => .ok record
  | json => .error (.wrongForm json (.record form.name))

end RecordForm

def readString : Json → Except Mismatch String
  | .string value => .ok value
  | json => .error (.wrongForm json .string)

def readBool : Json → Except Mismatch Bool
  | .bool value => .ok value
  | json => .error (.wrongForm json .boolean)

/-- Reads a value that may be absent, which `null` says. -/
def readOptional (read : Json → Except Mismatch α) : Json → Except Mismatch (Option α)
  | .null => .ok none
  | json => (read json).map some

def readList (read : Json → Except Mismatch α) : Json → Except Mismatch (List α)
  | .array items => items.mapM read
  | json => .error (.wrongForm json .sequence)

def readTable (read : Json → Except Mismatch α) : Json → Except Mismatch (Table α)
  | .object members => do
    let entries ← members.mapM fun entry => do return (entry.1, ← read entry.2)
    return Table.ofList entries
  | json => .error (.wrongForm json .mapping)

end ApiOutline.OpenApi
