import ApiOutline.Proofs.Entries
import ApiOutline.Proofs.Interfaces.FreeName

/-!
Grouping of operations, loop against law. The law says it at once: the names of the interfaces are
those of the declared operations, each where it appears first, and under a name are the operations
declared for it, in their order and renamed among themselves (`grouped`).
`groupOperations_eq_grouped` is the run of the loop, by one declared operation at a time
(`addOperation_grouped`).
-/

set_option autoImplicit false
set_option relaxedAutoImplicit false

namespace ApiOutline

open OpenApi (Components)

/-! ### The operations of one interface -/

/-- The outline of a declared operation, before it is renamed. -/
def DeclaredOperation.outline (components : Components) (declared : DeclaredOperation) :
    Operation :=
  .ofDeclared components declared.path declared.method declared.shared declared.operation

/-- Operations with one more, under a free name. -/
def appendFree (existing : List Operation) (operation : Operation) : List Operation :=
  existing ++ [{ operation with
    functionName := freeName (existing.map (·.functionName)) operation.functionName }]

/-- The operations of an interface, each renamed if its name is taken by one before it. -/
def renamed (operations : List Operation) : List Operation := operations.foldl appendFree []

theorem renamed_concat (operations : List Operation) (operation : Operation) :
    renamed (operations ++ [operation]) = appendFree (renamed operations) operation := by
  rw [renamed, List.foldl_concat]
  rfl

/-- Nothing but names is changed. -/
theorem map_renamed {α : Type} (f : Operation → α)
    (hf : ∀ (operation : Operation) (name : String),
      f { operation with functionName := name } = f operation) (operations : List Operation) :
    (renamed operations).map f = operations.map f := by
  induction operations using List.reverseRecOn with
  | nil => rfl
  | append_singleton operations operation ih =>
    rw [renamed_concat, appendFree, List.map_append, List.map_append, ih, List.map_singleton,
      List.map_singleton, hf]

theorem nodup_functionName_renamed (operations : List Operation) :
    ((renamed operations).map (·.functionName)).Nodup := by
  induction operations using List.reverseRecOn with
  | nil => exact List.nodup_nil
  | append_singleton operations operation ih =>
    rw [renamed_concat, appendFree, List.map_append, List.map_singleton, ← List.concat_eq_append,
      List.nodup_concat]
    exact ⟨freeName_not_mem _ _, ih⟩

/-! ### The loop -/

/-- The operations declared for an interface, renamed among themselves. -/
def operationsOf (components : Components) (declared : List DeclaredOperation) (name : String) :
    List Operation :=
  renamed ((declared.filter (·.interfaceName = name)).map (·.outline components))

/-- Every name of an interface, where it appears first, with the operations declared for it. -/
def grouped (components : Components) (declared : List DeclaredOperation) :
    List (String × List Operation) :=
  (declared.map (·.interfaceName)).eraseDups.map fun name ↦
    (name, operationsOf components declared name)

theorem operationsOf_concat (components : Components) (declared : List DeclaredOperation)
    (next : DeclaredOperation) (name : String) :
    operationsOf components (declared ++ [next]) name =
      if name = next.interfaceName then
        appendFree (operationsOf components declared name) (next.outline components)
      else operationsOf components declared name := by
  rw [operationsOf, List.filter_append]
  by_cases hname : name = next.interfaceName
  · simp [hname, renamed_concat, operationsOf]
  · have hne : ¬ next.interfaceName = name := fun h ↦ hname h.symm
    simp [hname, hne, operationsOf]

theorem lookup_grouped_getD (components : Components) (declared : List DeclaredOperation)
    (name : String) :
    ((grouped components declared).lookup name).getD [] = operationsOf components declared name := by
  by_cases hname : name ∈ declared.map (·.interfaceName)
  · rw [grouped, Entries.lookup_map_key (List.mem_eraseDups.mpr hname), Option.getD_some]
  · have hnone : (grouped components declared).lookup name = none := by
      rw [List.lookup_eq_none_iff]
      intro entry hentry
      obtain ⟨other, hother, rfl⟩ := List.mem_map.mp hentry
      have hne : name ≠ other := fun h ↦ hname (h ▸ List.mem_eraseDups.mp hother)
      simpa using hne
    have hempty : declared.filter (·.interfaceName = name) = [] := by
      rw [List.filter_eq_nil_iff]
      intro next hnext hsame
      exact hname (List.mem_map.mpr ⟨next, hnext, by simpa using hsame⟩)
    rw [hnone, operationsOf, hempty]
    rfl

/-- A step of the loop keeps the law. -/
theorem addOperation_grouped (components : Components) (declared : List DeclaredOperation)
    (next : DeclaredOperation) :
    addOperation (grouped components declared) next.interfaceName (next.outline components) =
      grouped components (declared ++ [next]) := by
  have hput : addOperation (grouped components declared) next.interfaceName
      (next.outline components) =
      Entries.put (grouped components declared) next.interfaceName
        (appendFree (operationsOf components declared next.interfaceName)
          (next.outline components)) := by
    rw [← lookup_grouped_getD]
    rfl
  rw [hput, grouped, Entries.put_map_key (nodup_eraseDups _), grouped, List.map_append,
    List.map_singleton, eraseDups_concat]
  simp only [List.mem_eraseDups]
  refine List.map_congr_left fun name _ ↦ ?_
  rw [operationsOf_concat]
  by_cases hname : name = next.interfaceName
  · simp [hname]
  · simp [hname]

theorem groupOperations_eq_grouped (components : Components) (declared : List DeclaredOperation) :
    groupOperations components declared = grouped components declared := by
  induction declared using List.reverseRecOn with
  | nil => rfl
  | append_singleton declared next ih =>
    rw [← addOperation_grouped, ← ih, groupOperations, List.foldl_concat]
    rfl

end ApiOutline
