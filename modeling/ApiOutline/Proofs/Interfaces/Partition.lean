import ApiOutline.Extraction.Document
import ApiOutline.Proofs.Interfaces.Grouping
import Mathlib.Algebra.BigOperators.Group.List.Lemmas

/-!
The interfaces of a document divide its operations: each declared operation is in exactly one of
them, in the order of declaration, and which others there are makes no difference to an interface.
What is declared is read off the paths of the document, with the methods written out
(`OpenApi.Document.declared`), and that is all that is listed (`ofDocument_eq`). The operations
declared for one interface alone are those that the whole document declares for it
(`ofDocument_keepInterface`), and `grouped` looks at nothing else.
-/

set_option autoImplicit false
set_option relaxedAutoImplicit false

namespace ApiOutline

/-! ### Declared operations -/

/-- The operations declared under a path: that of GET, then those of POST, PUT, PATCH and DELETE, as
far as there are any. -/
def OpenApi.PathItem.declared (path : String) (item : OpenApi.PathItem) : List DeclaredOperation :=
  (item.get.map (⟨path, .get, item.parameters, ·⟩)).toList ++
    (item.post.map (⟨path, .post, item.parameters, ·⟩)).toList ++
    (item.put.map (⟨path, .put, item.parameters, ·⟩)).toList ++
    (item.patch.map (⟨path, .patch, item.parameters, ·⟩)).toList ++
    (item.delete.map (⟨path, .delete, item.parameters, ·⟩)).toList

/-- The operations declared in a document, path by path. -/
def OpenApi.Document.declared (document : OpenApi.Document) : List DeclaredOperation :=
  document.paths.entries.flatMap fun entry ↦ entry.2.declared entry.1

theorem DeclaredOperation.ofItem_eq (path : String) (item : OpenApi.PathItem) :
    ofItem path item = item.declared path := by
  rw [ofItem, List.filterMap_eq_flatMap_toList, OpenApi.PathItem.declared]
  simp only [Method.all, List.flatMap_cons, List.flatMap_nil, List.append_nil, List.append_assoc,
    OpenApi.PathItem.operation?]

/-- No declared operation is passed over, and none is listed twice. -/
theorem DeclaredOperation.ofDocument_eq (document : OpenApi.Document) :
    ofDocument document = document.declared :=
  congrArg (document.paths.entries.flatMap ·) (funext fun entry ↦ ofItem_eq entry.1 entry.2)

/-! ### Documents with the operations of one interface -/

/-- A table with its values changed. -/
def Table.mapValues {α β : Type} (change : α → β) (table : Table α) : Table β where
  entries := table.entries.map fun entry ↦ (entry.1, change entry.2)
  nodup := by
    rw [List.map_map]
    exact table.nodup

/-- A path item without the operations that do not pass a test. -/
def OpenApi.PathItem.keep (test : OpenApi.Operation → Bool) (item : OpenApi.PathItem) :
    OpenApi.PathItem :=
  { item with
    get := item.get.filter test
    post := item.post.filter test
    put := item.put.filter test
    patch := item.patch.filter test
    delete := item.delete.filter test }

/-- A document without the operations of all interfaces but one. -/
def OpenApi.Document.keepInterface (document : OpenApi.Document) (name : String) :
    OpenApi.Document :=
  { document with
    paths := document.paths.mapValues
      (·.keep fun operation ↦ Naming.interfaceName operation.tags.head? = name) }

theorem operation?_keep (test : OpenApi.Operation → Bool) (item : OpenApi.PathItem)
    (method : Method) :
    (item.keep test).operation? method = (item.operation? method).filter test := by
  cases method <;> rfl

theorem DeclaredOperation.ofItem_keep (test : OpenApi.Operation → Bool) (path : String)
    (item : OpenApi.PathItem) :
    ofItem path (item.keep test) = (ofItem path item).filter (test ·.operation) := by
  rw [ofItem, ofItem, List.filter_filterMap]
  refine List.filterMap_congr fun method _ ↦ ?_
  rw [operation?_keep]
  cases item.operation? method with
  | none => rfl
  | some operation =>
    by_cases htest : test operation <;> simp [Option.filter, htest, OpenApi.PathItem.keep]

theorem DeclaredOperation.ofDocument_keepInterface (document : OpenApi.Document) (name : String) :
    ofDocument (document.keepInterface name) =
      (ofDocument document).filter (·.interfaceName = name) := by
  rw [ofDocument, ofDocument, List.filter_flatMap, OpenApi.Document.keepInterface, Table.mapValues,
    List.flatMap_map]
  refine congrArg (document.paths.entries.flatMap ·) (funext fun entry ↦ ?_)
  exact ofItem_keep _ entry.1 entry.2

/-! ### The interfaces of a document -/

theorem Interface.ofDocument_eq_map (document : OpenApi.Document) :
    Interface.ofDocument document =
      ((DeclaredOperation.ofDocument document).map (·.interfaceName)).eraseDups.map fun name ↦
        { name
          description := interfaceDescription? document.tags name
          operations := operationsOf document.sharedParts (DeclaredOperation.ofDocument document)
            name } := by
  rw [ofDocument, groupOperations_eq_grouped, grouped, List.map_map]
  rfl

/-- All that an interface says follows from its name. -/
theorem Interface.eq_of_mem_ofDocument {document : OpenApi.Document} {interface : Interface}
    (hinterface : interface ∈ Interface.ofDocument document) :
    interface.name ∈ (DeclaredOperation.ofDocument document).map (·.interfaceName) ∧
      interface.description = interfaceDescription? document.tags interface.name ∧
      interface.operations = operationsOf document.sharedParts
        (DeclaredOperation.ofDocument document) interface.name := by
  rw [Interface.ofDocument_eq_map] at hinterface
  obtain ⟨name, hname, rfl⟩ := List.mem_map.mp hinterface
  exact ⟨List.mem_eraseDups.mp hname, rfl, rfl⟩

theorem operationsOf_ne_nil {components : OpenApi.Components} {declared : List DeclaredOperation}
    {name : String} (hname : name ∈ declared.map (·.interfaceName)) :
    operationsOf components declared name ≠ [] := by
  obtain ⟨next, hnext, rfl⟩ := List.mem_map.mp hname
  intro hempty
  have hmap := map_renamed (fun _ ↦ ()) (fun _ _ ↦ rfl)
    ((declared.filter (·.interfaceName = next.interfaceName)).map (·.outline components))
  rw [show renamed _ = [] from hempty, List.map_nil, eq_comm, List.map_eq_nil_iff,
    List.map_eq_nil_iff, List.filter_eq_nil_iff] at hmap
  exact hmap next hnext (by simp)

/-- Renaming keeps the places of operations. -/
theorem map_place_operationsOf (components : OpenApi.Components)
    (declared : List DeclaredOperation) (name : String) :
    (operationsOf components declared name).map (fun operation ↦ (operation.path, operation.method))
      = (declared.filter (·.interfaceName = name)).map fun next ↦ (next.path, next.method) := by
  rw [operationsOf, map_renamed _ fun _ _ ↦ rfl, List.map_map]
  rfl

theorem length_operationsOf (components : OpenApi.Components) (declared : List DeclaredOperation)
    (name : String) :
    (operationsOf components declared name).length =
      (declared.map (·.interfaceName)).count name := by
  have hlength := congrArg List.length (map_place_operationsOf components declared name)
  rw [List.length_map, List.length_map] at hlength
  rw [hlength, List.count, List.countP_map, List.countP_eq_length_filter]
  rfl

/-- Every declared operation is in the group of exactly one of the distinct names. -/
theorem length_flatMap_operationsOf (components : OpenApi.Components)
    (declared : List DeclaredOperation) :
    ((declared.map (·.interfaceName)).eraseDups.flatMap (operationsOf components declared)).length =
      declared.length := by
  let names := declared.map (·.interfaceName)
  have hperm : names.eraseDups.Perm names.dedup := by
    rw [List.perm_ext_iff_of_nodup (nodup_eraseDups names) (List.nodup_dedup names)]
    intro name
    rw [List.mem_eraseDups, List.mem_dedup]
  rw [List.length_flatMap]
  simp only [length_operationsOf]
  rw [(hperm.map _).sum_eq, List.sum_map_count_dedup_eq_length, List.length_map]

theorem Outline.operationCount_eq_length (outline : Outline) :
    outline.operationCount = (outline.interfaces.flatMap (·.operations)).length := by
  have hfold : ∀ (interfaces : List Interface) (count : ℕ),
      interfaces.foldl (fun count interface ↦ count + interface.operations.length) count =
        count + (interfaces.flatMap (·.operations)).length := by
    intro interfaces
    induction interfaces with
    | nil => exact fun count ↦ rfl
    | cons first rest ih =>
      intro count
      rw [List.foldl_cons, ih, List.flatMap_cons, List.length_append, Nat.add_assoc]
  rw [operationCount, hfold, Nat.zero_add]

theorem operationCount_ofDocument (document : OpenApi.Document) :
    (Outline.ofDocument document).operationCount =
      (DeclaredOperation.ofDocument document).length := by
  rw [Outline.operationCount_eq_length, Outline.ofDocument, Interface.ofDocument_eq_map,
    List.flatMap_map]
  exact length_flatMap_operationsOf _ _

theorem lookup_filterMap_description (tags : List OpenApi.Tag) (name : String) :
    (tags.filterMap fun tag ↦ tag.description.map fun description ↦
        (Naming.interfaceName (some tag.name), description)).lookup name =
      (tags.find? fun tag ↦ tag.description.isSome &&
        Naming.interfaceName (some tag.name) = name).bind (·.description) := by
  induction tags with
  | nil => rfl
  | cons tag rest ih =>
    cases hdescription : tag.description with
    | none => simp [hdescription, ih]
    | some description =>
      by_cases hname : Naming.interfaceName (some tag.name) = name
      · simp [hdescription, hname]
      · have hne : (name == Naming.interfaceName (some tag.name)) = false :=
          beq_eq_false_iff_ne.mpr fun h ↦ hname h.symm
        simp [hdescription, hname, List.lookup_cons, hne, ih]

/-- The last tag with a description that names an interface describes it. -/
theorem interfaceDescription?_eq (tags : List OpenApi.Tag) (name : String) :
    interfaceDescription? tags name =
      (tags.filter fun tag ↦ tag.description.isSome &&
        Naming.interfaceName (some tag.name) = name).getLast?.bind (·.description) := by
  rw [interfaceDescription?, ← List.filterMap_reverse, lookup_filterMap_description,
    List.getLast?_filter]

/-! ### An interface by itself -/

theorem eraseDups_of_forall_eq {names : List String} {name : String} (hne : names ≠ [])
    (hall : ∀ other ∈ names, other = name) : names.eraseDups = [name] := by
  cases names with
  | nil => exact absurd rfl hne
  | cons first rest =>
    obtain rfl : first = name := hall first List.mem_cons_self
    have hrest : rest.filter (fun other ↦ !other == first) = [] := by
      rw [List.filter_eq_nil_iff]
      intro other hother
      simp [hall other (List.mem_cons_of_mem first hother)]
    rw [List.eraseDups_cons, hrest, List.eraseDups_nil]

theorem operationsOf_filter (components : OpenApi.Components) (declared : List DeclaredOperation)
    (name : String) :
    operationsOf components (declared.filter (·.interfaceName = name)) name =
      operationsOf components declared name := by
  rw [operationsOf, operationsOf, List.filter_filter]
  simp only [Bool.and_self]

theorem Interface.ofDocument_keepInterface {document : OpenApi.Document} {interface : Interface}
    (hinterface : interface ∈ Interface.ofDocument document) :
    Interface.ofDocument (document.keepInterface interface.name) = [interface] := by
  obtain ⟨hname, hdescription, hoperations⟩ := Interface.eq_of_mem_ofDocument hinterface
  obtain ⟨next, hnext, hsame⟩ := List.mem_map.mp hname
  have hkept : next ∈
      (DeclaredOperation.ofDocument document).filter (·.interfaceName = interface.name) :=
    List.mem_filter.mpr ⟨hnext, by simpa using hsame⟩
  have hnames : (((DeclaredOperation.ofDocument document).filter
      (·.interfaceName = interface.name)).map (·.interfaceName)).eraseDups = [interface.name] := by
    refine eraseDups_of_forall_eq (List.ne_nil_of_mem (List.mem_map_of_mem hkept)) ?_
    intro other hother
    obtain ⟨declared, hdeclared, rfl⟩ := List.mem_map.mp hother
    simpa using (List.mem_filter.mp hdeclared).2
  rw [Interface.ofDocument_eq_map, DeclaredOperation.ofDocument_keepInterface, hnames,
    List.map_singleton, operationsOf_filter]
  change [Interface.mk interface.name (interfaceDescription? document.tags interface.name)
    (operationsOf document.sharedParts (DeclaredOperation.ofDocument document) interface.name)] =
      [interface]
  rw [← hdescription, ← hoperations]

/-! ### The partition -/

/-- How the interfaces of an outline divide the operations that a document declares. -/
structure Outline.Partitions (outline : Outline) (document : OpenApi.Document) : Prop where
  /-- The interfaces are those of the declared operations, each where it appears first. -/
  names_eq : outline.interfaces.map (·.name) =
    (document.declared.map fun declared ↦
      Naming.interfaceName declared.operation.tags.head?).eraseDups
  operations_ne_nil : ∀ interface ∈ outline.interfaces, interface.operations ≠ []
  /-- An interface holds what is declared for it, in the order of declaration. -/
  places_eq : ∀ interface ∈ outline.interfaces,
    interface.operations.map (fun operation ↦ (operation.path, operation.method)) =
      (document.declared.filter fun declared ↦
        Naming.interfaceName declared.operation.tags.head? = interface.name).map
          fun declared ↦ (declared.path, declared.method)
  operationCount_eq : outline.operationCount = document.declared.length
  /-- The last tag with a description that names an interface describes it. -/
  description_eq : ∀ interface ∈ outline.interfaces, interface.description =
    (document.tags.filter fun tag ↦ tag.description.isSome &&
      Naming.interfaceName (some tag.name) = interface.name).getLast?.bind (·.description)
  /-- Without the operations of all others, an interface is the same. -/
  alone_eq : ∀ interface ∈ outline.interfaces,
    (Outline.ofDocument (document.keepInterface interface.name)).interfaces = [interface]

/-- No declared operation is lost, listed twice or listed elsewhere. -/
theorem Outline.ofDocument_partitions (document : OpenApi.Document) :
    (Outline.ofDocument document).Partitions document where
  names_eq := by
    rw [Outline.ofDocument, Interface.ofDocument_eq_map, List.map_map,
      ← DeclaredOperation.ofDocument_eq]
    exact List.map_id _
  operations_ne_nil := by
    intro interface hinterface
    obtain ⟨hname, -, hoperations⟩ := Interface.eq_of_mem_ofDocument hinterface
    rw [hoperations]
    exact operationsOf_ne_nil hname
  places_eq := by
    intro interface hinterface
    obtain ⟨-, -, hoperations⟩ := Interface.eq_of_mem_ofDocument hinterface
    rw [hoperations, ← DeclaredOperation.ofDocument_eq]
    exact map_place_operationsOf _ _ interface.name
  operationCount_eq := by
    rw [operationCount_ofDocument, DeclaredOperation.ofDocument_eq]
  description_eq := by
    intro interface hinterface
    obtain ⟨-, hdescription, -⟩ := Interface.eq_of_mem_ofDocument hinterface
    rw [hdescription]
    exact interfaceDescription?_eq document.tags interface.name
  alone_eq := fun _ hinterface ↦ Interface.ofDocument_keepInterface hinterface

end ApiOutline
