import ApiOutline.OpenApi.Document
import ApiOutline.Proofs.Interfaces.Partition
import ApiOutline.Proofs.Schemas.Place

/-!
A document with its schemas changed, each by its place. Nothing else of the document changes, so two
documents that are the same after a change differ in no more than what the change takes from their
schemas.
-/

set_option autoImplicit false
set_option relaxedAutoImplicit false

namespace ApiOutline

/-! ### Tables with their values changed -/

theorem Table.eq_of_entries_eq {α : Type} {table other : Table α}
    (h : table.entries = other.entries) : table = other := by
  cases table
  cases other
  congr

theorem Table.get?_mapValues {α β : Type} (change : α → β) (table : Table α) (key : String) :
    (table.mapValues change).get? key = (table.get? key).map change := by
  rw [get?, get?, mapValues]
  dsimp only
  induction table.entries with
  | nil => rfl
  | cons entry rest ih =>
    rw [List.map_cons, List.lookup_cons, List.lookup_cons, ih]
    cases key == entry.1 <;> rfl

theorem Entries.map_put {α β : Type} (change : α → β) (entries : List (String × α)) (key : String)
    (value : α) :
    (put entries key value).map (fun entry ↦ (entry.1, change entry.2)) =
      put (entries.map fun entry ↦ (entry.1, change entry.2)) key (change value) := by
  induction entries with
  | nil => rfl
  | cons entry rest ih =>
    by_cases hkey : entry.1 = key
    · simp [put, hkey]
    · simp [put, hkey, ih]

theorem Table.mapValues_ofList {α β : Type} (change : α → β) (entries : List (String × α)) :
    (Table.ofList entries).mapValues change =
      Table.ofList (entries.map fun entry ↦ (entry.1, change entry.2)) := by
  have hputAll : ∀ done : List (String × α),
      (Entries.putAll done entries).map (fun entry ↦ (entry.1, change entry.2)) =
        Entries.putAll (done.map fun entry ↦ (entry.1, change entry.2))
          (entries.map fun entry ↦ (entry.1, change entry.2)) := by
    induction entries with
    | nil => exact fun _ ↦ rfl
    | cons entry rest ih =>
      intro done
      refine (ih (Entries.put done entry.1 entry.2)).trans ?_
      rw [Entries.map_put]
      rfl
  exact Table.eq_of_entries_eq (hputAll [])

namespace OpenApi

/-! ### Documents with their schemas changed -/

/-- A reference as it is, or the part itself changed. -/
def RefOr.map {α β : Type} (change : α → β) : RefOr α → RefOr β
  | .ref path => .ref path
  | .item value => .item (change value)

variable (change : SchemaPlace → Schema → Schema)

def MediaType.mapSchemas (mediaType : MediaType) : MediaType :=
  ⟨mediaType.schema.map (change .mediaType)⟩

def Parameter.mapSchemas (parameter : Parameter) : Parameter :=
  { parameter with schema := parameter.schema.map (change .parameter) }

def RequestBody.mapSchemas (body : RequestBody) : RequestBody :=
  ⟨body.content.mapValues (·.mapSchemas change)⟩

def Response.mapSchemas (response : Response) : Response :=
  { response with content := response.content.mapValues (·.mapSchemas change) }

def Operation.mapSchemas (operation : Operation) : Operation :=
  { operation with
    parameters := operation.parameters.map (.map (·.mapSchemas change))
    requestBody := operation.requestBody.map (.map (·.mapSchemas change))
    responses := operation.responses.mapValues (.map (·.mapSchemas change)) }

def PathItem.mapSchemas (item : PathItem) : PathItem where
  get := item.get.map (·.mapSchemas change)
  post := item.post.map (·.mapSchemas change)
  put := item.put.map (·.mapSchemas change)
  patch := item.patch.map (·.mapSchemas change)
  delete := item.delete.map (·.mapSchemas change)
  parameters := item.parameters.map (.map (·.mapSchemas change))

def Components.mapSchemas (components : Components) : Components where
  schemas := components.schemas.mapValues (change .shared)
  parameters := components.parameters.mapValues (.map (·.mapSchemas change))
  requestBodies := components.requestBodies.mapValues (.map (·.mapSchemas change))
  responses := components.responses.mapValues (.map (·.mapSchemas change))

def Document.mapSchemas (document : Document) : Document :=
  { document with
    paths := document.paths.mapValues (·.mapSchemas change)
    components := document.components.map (·.mapSchemas change) }

end OpenApi

end ApiOutline
