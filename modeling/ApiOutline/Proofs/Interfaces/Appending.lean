import ApiOutline.OpenApi.Reader
import ApiOutline.Proofs.Interfaces.Partition

/-!
Paths added at the end of a document only add to its outline. An operation takes a name that is free
among those before it, so what is declared after it has no part in its name: the operations of an
interface are a prefix of those it has in the longer document (`operationsOf_prefix`). Names of
interfaces appear in the order of declaration, so new ones come last (`eraseDups_prefix`).
-/

set_option autoImplicit false
set_option relaxedAutoImplicit false

namespace ApiOutline

open OpenApi (Components Document PathItem)

theorem eraseDups_prefix (names more : List String) :
    names.eraseDups <+: (names ++ more).eraseDups := by
  rw [List.eraseDups_append]
  exact List.prefix_append _ _

/-- Operations are appended, and those before them stay as they are. -/
theorem prefix_foldl_appendFree (existing operations : List Operation) :
    existing <+: operations.foldl appendFree existing := by
  induction operations generalizing existing with
  | nil => exact List.prefix_refl existing
  | cons operation rest ih => exact (List.prefix_append existing _).trans (ih _)

theorem operationsOf_prefix (components : Components) (declared more : List DeclaredOperation)
    (name : String) :
    operationsOf components declared name <+: operationsOf components (declared ++ more) name := by
  rw [operationsOf, operationsOf, List.filter_append, List.map_append, renamed, renamed,
    List.foldl_append]
  exact prefix_foldl_appendFree _ _

theorem DeclaredOperation.ofDocument_append {document longer : Document}
    {more : List (String × PathItem)}
    (hpaths : longer.paths.entries = document.paths.entries ++ more) :
    ofDocument longer = ofDocument document ++ more.flatMap fun entry ↦ ofItem entry.1 entry.2 := by
  rw [ofDocument, hpaths, List.flatMap_append]
  rfl

/-- An interface with operations added after those it had. -/
structure Interface.Extends (longer interface : Interface) : Prop where
  name_eq : longer.name = interface.name
  description_eq : longer.description = interface.description
  operations_prefix : interface.operations <+: longer.operations

/-- An outline with operations and interfaces added after those it had: every interface stays in its
place. -/
structure Outline.Extends (longer outline : Outline) : Prop where
  interface_extends : ∀ (place : ℕ) (interface : Interface),
    outline.interfaces[place]? = some interface →
      ∃ longerInterface, longer.interfaces[place]? = some longerInterface ∧
        longerInterface.Extends interface
  models_eq : longer.models = outline.models

/-- Paths added after those of a document rename and move nothing of its outline. -/
theorem Outline.ofDocument_extends {document longer : Document} {more : List (String × PathItem)}
    (htags : longer.tags = document.tags) (hcomponents : longer.components = document.components)
    (hpaths : longer.paths.entries = document.paths.entries ++ more) :
    (Outline.ofDocument longer).Extends (Outline.ofDocument document) where
  interface_extends := by
    intro place interface hinterface
    rw [ofDocument, Interface.ofDocument_eq_map, List.getElem?_map, Option.map_eq_some_iff]
      at hinterface
    obtain ⟨name, hname, rfl⟩ := hinterface
    have hdeclared := DeclaredOperation.ofDocument_append hpaths
    have hshared : longer.sharedParts = document.sharedParts := congrArg (·.getD .empty) hcomponents
    have hlonger : (Outline.ofDocument longer).interfaces[place]? = some
        { name
          description := interfaceDescription? longer.tags name
          operations := operationsOf longer.sharedParts (DeclaredOperation.ofDocument longer)
            name } := by
      obtain ⟨rest, hrest⟩ := eraseDups_prefix
        ((DeclaredOperation.ofDocument document).map (·.interfaceName))
        ((more.flatMap fun entry ↦ DeclaredOperation.ofItem entry.1 entry.2).map (·.interfaceName))
      rw [ofDocument, Interface.ofDocument_eq_map, List.getElem?_map, hdeclared, List.map_append,
        ← hrest, List.getElem?_append_left (List.getElem?_eq_some_iff.mp hname).1, hname,
        Option.map_some]
    refine ⟨_, hlonger, rfl, congrArg (interfaceDescription? · name) htags, ?_⟩
    dsimp only
    rw [hdeclared, hshared]
    exact operationsOf_prefix _ _ _ _
  models_eq := by
    rw [ofDocument, ofDocument, Document.sharedParts, hcomponents, Document.sharedParts]

/-- An operation added later, whose own name was given to one before it, is the one that takes
another. -/
theorem Outline.ofDocument_extends_list :
    let listing (id : String) := some { OpenApi.Operation.blank with operationId := some id }
    let item := { PathItem.blank with get := listing "list", post := listing "list" }
    let added := { PathItem.blank with get := listing "list2" }
    let document : Document := ⟨"3.0.0", ⟨"Lists", "1"⟩, [], .ofList [("/a", item)], none⟩
    let longer := { document with paths := .ofList [("/a", item), ("/b", added)] }
    longer.tags = document.tags ∧ longer.components = document.components ∧
      longer.paths.entries = document.paths.entries ++ [("/b", added)] ∧
      (Outline.ofDocument longer).Extends (Outline.ofDocument document) ∧
      (Outline.ofDocument longer).interfaces.map (·.operations.map (·.functionName)) =
        [["list", "list2", "list22"]] := by
  intro listing item added document longer
  exact ⟨rfl, rfl, rfl, Outline.ofDocument_extends rfl rfl rfl, by decide +kernel⟩

end ApiOutline
