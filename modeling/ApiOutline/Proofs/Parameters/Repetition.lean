import ApiOutline.OpenApi.Reader
import ApiOutline.Proofs.Interfaces.Partition
import ApiOutline.Proofs.Parameters.Overriding

/-!
How often an operation has a parameter of one name and location. The parameters of the path are
listed as they are declared, so what is repeated there stays repeated. Those of the operation itself
repeat nothing: each takes the place of an earlier one of its name and location, or else is the
first (`map_key_override`). So a repetition is one of the path (`count_key_merge_le`), and an
operation has distinct parameters if its path has.
-/

set_option autoImplicit false
set_option relaxedAutoImplicit false

namespace ApiOutline

/-! ### Parameters put in the place of others -/

namespace Parameter

/-- What tells the parameters of an operation apart. -/
def key (parameter : Parameter) : String × ParameterLocation :=
  (parameter.name, parameter.location)

theorem sameKey_iff (first second : Parameter) :
    first.sameKey second = true ↔ first.key = second.key := by
  unfold sameKey key
  rw [Bool.and_eq_true, decide_eq_true_iff, decide_eq_true_iff, Prod.mk.injEq]

theorem override_eq_overrideBy (parameters : List Parameter) (parameter : Parameter) :
    override parameters parameter = overrideBy key parameters parameter := by
  induction parameters with
  | nil => rfl
  | cons first rest ih => simp only [override, overrideBy, sameKey_iff, ih]

/-- A parameter adds its name and location at the end, unless there is one that has them. -/
theorem map_key_override (parameters : List Parameter) (parameter : Parameter) :
    (override parameters parameter).map key =
      if parameter.key ∈ parameters.map key then parameters.map key
      else parameters.map key ++ [parameter.key] := by
  rw [override_eq_overrideBy, map_key_overrideBy]
  split_ifs <;> rfl

/-- A parameter is repeated no more often than it was before another was put in. -/
theorem count_key_override_le (parameters : List Parameter) (parameter : Parameter)
    (wanted : String × ParameterLocation) :
    ((override parameters parameter).map key).count wanted ≤
      max 1 ((parameters.map key).count wanted) := by
  rw [map_key_override]
  split_ifs with hmem
  · exact Nat.le_max_right _ _
  · rw [List.count_append]
    by_cases hkey : parameter.key = wanted
    · have hnone : (parameters.map key).count wanted = 0 := List.count_eq_zero.mpr (hkey ▸ hmem)
      have hone : [parameter.key].count wanted ≤ 1 := List.count_le_length
      omega
    · have hnone : [parameter.key].count wanted = 0 :=
        List.count_eq_zero.mpr fun h ↦ hkey (List.mem_singleton.mp h).symm
      omega

/-- Of the parameters of an operation none is repeated more often than among those of its path. -/
theorem count_key_merge_le (components : OpenApi.Components)
    (shared own : List (OpenApi.RefOr OpenApi.Parameter)) (wanted : String × ParameterLocation) :
    ((merge components shared own).map key).count wanted ≤
      max 1 (((ofList components shared).map key).count wanted) := by
  have hfold : ∀ (overriding parameters : List Parameter),
      ((overriding.foldl override parameters).map key).count wanted ≤
        max 1 ((parameters.map key).count wanted) := by
    intro overriding
    induction overriding with
    | nil => exact fun parameters ↦ Nat.le_max_right _ _
    | cons parameter rest ih =>
      intro parameters
      have hrest := ih (override parameters parameter)
      have hstep := count_key_override_le parameters parameter wanted
      rw [List.foldl_cons]
      omega
  exact hfold (ofList components own) (ofList components shared)

end Parameter

/-! ### Operations and where they are declared -/

/-- An operation of an interface is one that the document declares, but for its name. -/
theorem Interface.exists_declared {document : OpenApi.Document} {interface : Interface}
    (hinterface : interface ∈ ofDocument document) {operation : Operation}
    (hoperation : operation ∈ interface.operations) :
    ∃ declared ∈ DeclaredOperation.ofDocument document,
      operation = { declared.outline document.sharedParts with
        functionName := operation.functionName } := by
  obtain ⟨-, -, hoperations⟩ := eq_of_mem_ofDocument hinterface
  let unnamed (operation : Operation) : Operation := { operation with functionName := "" }
  have hunnamed : unnamed operation ∈ interface.operations.map unnamed :=
    List.mem_map_of_mem hoperation
  rw [hoperations, operationsOf, map_renamed unnamed fun _ _ ↦ rfl, List.map_map, List.mem_map]
    at hunnamed
  obtain ⟨declared, hdeclared, hsame⟩ := hunnamed
  refine ⟨declared, (List.mem_filter.mp hdeclared).1, ?_⟩
  have hrename := congrArg (fun other : Operation ↦
    { other with functionName := operation.functionName }) hsame
  exact hrename.symm

theorem DeclaredOperation.exists_item {document : OpenApi.Document} {declared : DeclaredOperation}
    (hdeclared : declared ∈ ofDocument document) :
    ∃ item, document.paths.get? declared.path = some item ∧ declared.shared = item.parameters ∧
      item.operation? declared.method = some declared.operation := by
  obtain ⟨⟨path, item⟩, hentry, hitem⟩ := List.mem_flatMap.mp hdeclared
  obtain ⟨method, -, hmethod⟩ := List.mem_filterMap.mp hitem
  obtain ⟨operation, hoperation, rfl⟩ := Option.map_eq_some_iff.mp hmethod
  exact ⟨item, Table.get?_eq_some_iff.mpr hentry, rfl, hoperation⟩

/-! ### Outlines -/

/-- An operation has more than one parameter of a name and location only if the parameters declared
for its path have, and no more of them than these. So its parameters are distinct if those of its
path are, whatever it declares itself. -/
theorem Outline.count_parameters_le (document : OpenApi.Document) :
    ∀ interface ∈ (ofDocument document).interfaces, ∀ operation ∈ interface.operations,
      ∃ item, document.paths.get? operation.path = some item ∧
        (∀ wanted, (operation.parameters.map Parameter.key).count wanted ≤
          max 1 (((Parameter.ofList document.sharedParts item.parameters).map
            Parameter.key).count wanted)) ∧
        (((Parameter.ofList document.sharedParts item.parameters).map Parameter.key).Nodup →
          (operation.parameters.map Parameter.key).Nodup) := by
  intro interface hinterface operation hoperation
  obtain ⟨declared, hdeclared, hsame⟩ := Interface.exists_declared hinterface hoperation
  obtain ⟨item, hget, hshared, -⟩ := DeclaredOperation.exists_item hdeclared
  have hpath : operation.path = declared.path := congrArg (·.path) hsame
  have hparameters : operation.parameters =
      Parameter.merge document.sharedParts item.parameters declared.operation.parameters :=
    hshared ▸ congrArg (·.parameters) hsame
  have hcount : ∀ wanted, (operation.parameters.map Parameter.key).count wanted ≤
      max 1 (((Parameter.ofList document.sharedParts item.parameters).map
        Parameter.key).count wanted) := by
    intro wanted
    rw [hparameters]
    exact Parameter.count_key_merge_le _ _ _ wanted
  refine ⟨item, hpath ▸ hget, hcount, fun hnodup ↦ ?_⟩
  rw [List.nodup_iff_count_le_one] at hnodup ⊢
  intro wanted
  have hshared := hnodup wanted
  have hown := hcount wanted
  omega

/-- A parameter that is declared twice for a path and twice for its operation. -/
theorem Outline.count_parameters_le_limit :
    let limit : OpenApi.RefOr OpenApi.Parameter := .item ⟨"limit", "query", none, none, none⟩
    let page : OpenApi.RefOr OpenApi.Parameter := .item ⟨"page", "query", none, none, none⟩
    let listing := { OpenApi.Operation.blank with parameters := [page, limit, page, limit] }
    let item := { OpenApi.PathItem.blank with get := some listing, parameters := [limit, limit] }
    let document : OpenApi.Document :=
      ⟨"3.0.0", ⟨"Lists", "1"⟩, [], .ofList [("/list", item)], none⟩
    ∃ interface ∈ (ofDocument document).interfaces, ∃ operation ∈ interface.operations,
      operation.parameters.map Parameter.key =
        [("limit", .query), ("limit", .query), ("page", .query)] ∧
      ∃ item, document.paths.get? operation.path = some item ∧
        ∀ wanted, (operation.parameters.map Parameter.key).count wanted ≤
          max 1 (((Parameter.ofList document.sharedParts item.parameters).map
            Parameter.key).count wanted) := by
  intro limit page listing item document
  have hinterface : (ofDocument document).interfaces[0] ∈ (ofDocument document).interfaces :=
    List.getElem_mem (by decide +kernel)
  have hoperation : (ofDocument document).interfaces[0].operations.get ⟨0, by decide +kernel⟩ ∈
      (ofDocument document).interfaces[0].operations := List.get_mem _ _
  obtain ⟨found, hfound, hcount, -⟩ := count_parameters_le document _ hinterface _ hoperation
  exact ⟨_, hinterface, _, hoperation, by decide +kernel, found, hfound, hcount⟩

/-- A parameter that is declared twice for a path is listed twice, so not all parameters of an
operation are distinct. -/
theorem Outline.not_nodup_parameters_limit :
    let limit : OpenApi.RefOr OpenApi.Parameter := .item ⟨"limit", "query", none, none, none⟩
    let item := { OpenApi.PathItem.blank with
      get := some .blank
      parameters := [limit, limit] }
    let document : OpenApi.Document :=
      ⟨"3.0.0", ⟨"Lists", "1"⟩, [], .ofList [("/list", item)], none⟩
    ¬ ∀ interface ∈ (ofDocument document).interfaces, ∀ operation ∈ interface.operations,
      (operation.parameters.map Parameter.key).Nodup := by
  decide +kernel

end ApiOutline
