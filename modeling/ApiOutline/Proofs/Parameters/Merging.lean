import ApiOutline.Proofs.Parameters.Repetition

/-!
The parameters of an operation from the declarations for its path and for itself. Each parameter
says what a declaration does (`Translates`), and the declarations that count are those for the path
with those for the operation put in their place (`Overrides`), whether they are given there or
referred to. Declarations that a reference does not lead to, or in other places than path, query and
header, are none.
-/

set_option autoImplicit false
set_option relaxedAutoImplicit false

namespace ApiOutline

open OpenApi (Components RefOr)

/-- How a document names the location of a parameter. -/
def ParameterLocation.keyword : ParameterLocation → String
  | .path => "path"
  | .query => "query"
  | .header => "header"

theorem ParameterLocation.keyword_injective {location other : ParameterLocation}
    (h : location.keyword = other.keyword) : location = other := by
  cases location <;> cases other <;> first | rfl | exact absurd h (by decide)

theorem ParameterLocation.ofText?_eq_some_iff {text : String} {location : ParameterLocation} :
    ofText? text = some location ↔ text = location.keyword := by
  constructor
  · intro h
    unfold ofText? at h
    split at h
    · obtain rfl := Option.some.inj h
      rfl
    · obtain rfl := Option.some.inj h
      rfl
    · obtain rfl := Option.some.inj h
      rfl
    · simp at h
  · rintro rfl
    cases location <;> rfl

theorem ParameterLocation.ofText?_eq_none_iff {text : String} :
    ofText? text = none ↔ text ∉ ["path", "query", "header"] := by
  unfold ofText?
  split <;> simp_all

namespace Parameter

/-! ### Declarations -/

/-- What tells the declarations of parameters apart. -/
def declaredKey (declared : OpenApi.Parameter) : String × String :=
  (declared.name, declared.location)

/-- The declarations that a list gives or refers to, in the places that count. -/
def declarations (components : Components) (list : List (RefOr OpenApi.Parameter)) :
    List OpenApi.Parameter :=
  (list.filterMap (·.resolve components.parameters)).filter
    (·.location ∈ ["path", "query", "header"])

/-- A parameter says what its declaration does, and one of the path is required in any case. -/
structure Translates (declared : OpenApi.Parameter) (parameter : Parameter) : Prop where
  name_eq : parameter.name = declared.name
  keyword_eq : parameter.location.keyword = declared.location
  type_eq : parameter.type = .ofSchema? declared.schema
  required_iff : parameter.required = true ↔
    parameter.location = .path ∨ declared.required = some true
  description_eq : parameter.description = declared.description

theorem translates_of_ofDeclared? {declared : OpenApi.Parameter} {parameter : Parameter}
    (h : ofDeclared? declared = some parameter) : Translates declared parameter := by
  obtain ⟨location, hlocation, rfl⟩ := Option.map_eq_some_iff.mp h
  have hrequired : (declared.required.getD false = true) ↔ declared.required = some true := by
    rcases declared.required with _ | _ | _ <;> simp
  exact ⟨rfl, (ParameterLocation.ofText?_eq_some_iff.mp hlocation).symm, rfl,
    by simp [hrequired], rfl⟩

theorem ofDeclared?_eq_none_iff {declared : OpenApi.Parameter} :
    ofDeclared? declared = none ↔ declared.location ∉ ["path", "query", "header"] :=
  Option.map_eq_none_iff.trans ParameterLocation.ofText?_eq_none_iff

/-- The parameters of a list are its declarations, translated one by one. -/
theorem forall₂_translates_ofList (components : Components)
    (list : List (RefOr OpenApi.Parameter)) :
    List.Forall₂ Translates (declarations components list) (ofList components list) := by
  have hlist : ofList components list =
      (list.filterMap (·.resolve components.parameters)).filterMap ofDeclared? :=
    List.filterMap_filterMap.symm
  rw [declarations, hlist]
  induction list.filterMap (·.resolve components.parameters) with
  | nil => exact .nil
  | cons declared rest ih =>
    cases hdeclared : ofDeclared? declared with
    | none =>
      have hunknown := ofDeclared?_eq_none_iff.mp hdeclared
      rw [List.filter_cons_of_neg (by simpa using hunknown), List.filterMap_cons_none hdeclared]
      exact ih
    | some parameter =>
      have hknown : declared.location ∈ ["path", "query", "header"] := by
        by_contra hunknown
        simp [ofDeclared?_eq_none_iff.mpr hunknown] at hdeclared
      rw [List.filter_cons_of_pos (by simpa using hknown), List.filterMap_cons_some hdeclared]
      exact .cons (translates_of_ofDeclared? hdeclared) ih

/-- Two declarations have the same key if their parameters have. -/
theorem Translates.key_eq_iff {declared other : OpenApi.Parameter} {parameter another : Parameter}
    (h : Translates declared parameter) (hother : Translates other another) :
    parameter.key = another.key ↔ declaredKey declared = declaredKey other := by
  rw [key, key, declaredKey, declaredKey, Prod.mk.injEq, Prod.mk.injEq, h.name_eq, hother.name_eq,
    ← h.keyword_eq, ← hother.keyword_eq]
  exact and_congr_right' ⟨congrArg _, ParameterLocation.keyword_injective⟩

/-- To put parameters in the place of others is to do so with their declarations. -/
theorem forall₂_translates_override {declared : List OpenApi.Parameter}
    {parameters : List Parameter} (h : List.Forall₂ Translates declared parameters)
    {one : OpenApi.Parameter} {parameter : Parameter} (hone : Translates one parameter) :
    List.Forall₂ Translates (overrideBy declaredKey declared one)
      (override parameters parameter) := by
  rw [override_eq_overrideBy]
  induction h with
  | nil => exact .cons hone .nil
  | cons hfirst hrest ih =>
    rw [overrideBy, overrideBy]
    simp only [hfirst.key_eq_iff hone]
    split_ifs
    · exact .cons hone hrest
    · exact .cons hfirst ih

theorem forall₂_translates_merge (components : Components)
    (shared own : List (RefOr OpenApi.Parameter)) :
    List.Forall₂ Translates
      ((declarations components own).foldl (overrideBy declaredKey) (declarations components shared))
      (merge components shared own) := by
  have hfold : ∀ {overriding : List OpenApi.Parameter} {parameters : List Parameter},
      List.Forall₂ Translates overriding parameters → ∀ {declared : List OpenApi.Parameter}
        {merged : List Parameter}, List.Forall₂ Translates declared merged →
        List.Forall₂ Translates (overriding.foldl (overrideBy declaredKey) declared)
          (parameters.foldl override merged) := by
    intro overriding parameters h
    induction h with
    | nil => exact fun hmerged ↦ hmerged
    | cons hone _ ih => exact fun hmerged ↦ ih (forall₂_translates_override hmerged hone)
  exact hfold (forall₂_translates_ofList components own) (forall₂_translates_ofList components shared)

/-- The parameters of an operation are the translations of some declarations, one by one. These are
the declarations for its path with those for the operation itself put in their place. -/
theorem merge_overrides (components : Components) (shared own : List (RefOr OpenApi.Parameter)) :
    ∃ chosen : List OpenApi.Parameter,
      Overrides declaredKey (declarations components shared) (declarations components own) chosen ∧
        List.Forall₂ Translates chosen (merge components shared own) :=
  ⟨_, overrides_foldl declaredKey _ _, forall₂_translates_merge components shared own⟩

/-- A declaration for the operation takes the place of the first of its name for the path. -/
example :
    let declared (name location : String) (required : Option Bool) : RefOr OpenApi.Parameter :=
      .item ⟨name, location, required, none, none⟩
    let shared := [declared "limit" "query" none, declared "session" "cookie" none,
      declared "limit" "query" none]
    let own := [declared "page" "query" none, declared "limit" "query" (some true)]
    (merge .empty shared own).map (fun parameter ↦ (parameter.name, parameter.required)) =
      [("limit", true), ("limit", false), ("page", false)] := by
  decide +kernel

end Parameter

end ApiOutline
