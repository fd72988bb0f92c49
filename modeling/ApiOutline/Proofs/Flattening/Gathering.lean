import ApiOutline.Proofs.Flattening.Coverage

/-!
What the walk from a schema meets, in the order in which it does: the names whose schemas it goes on
with, each before what is met from there, and the nodes, each after its members. Nothing is merged
and nothing is kept, so a name or a node is listed each time it is met. Circular references are cut
as in flattening.

`mem_gather` says what is listed: the nodes visited (`Visits`) and the names entered (`Enters`).
-/

set_option autoImplicit false
set_option relaxedAutoImplicit false

namespace ApiOutline.Flattening

open OpenApi (Schema refName)

variable {α : Type} {schemas : Table Schema} {path : List String} {schema : Schema} {ref : String}

/-- A name whose schema the walk goes on with, from a schema below the names of a path. -/
inductive Enters (schemas : Table Schema) : List String → Schema → String → Prop
  | reference {path : List String} {schema target : Schema} {ref : String}
      (href : schema.ref = some ref) (hpath : refName ref ∉ path)
      (hget : schemas.get? (refName ref) = some target) : Enters schemas path schema (refName ref)
  | member {path : List String} {schema member : Schema} {name : String}
      (hplain : schema.ref = none) (hmember : member ∈ members schema)
      (hname : Enters schemas path member name) : Enters schemas path schema name
  | target {path : List String} {schema target : Schema} {ref name : String}
      (href : schema.ref = some ref) (hpath : refName ref ∉ path)
      (hget : schemas.get? (refName ref) = some target)
      (hname : Enters schemas (refName ref :: path) target name) : Enters schemas path schema name

theorem enters_of_plain {name : String} (hplain : schema.ref = none) :
    Enters schemas path schema name ↔ ∃ member ∈ members schema, Enters schemas path member name := by
  constructor
  · rintro (⟨href, -, -⟩ | ⟨-, hmember, hname⟩ | ⟨href, -, -, -⟩)
    · simp [hplain] at href
    · exact ⟨_, hmember, hname⟩
    · simp [hplain] at href
  · rintro ⟨member, hmember, hname⟩
    exact .member hplain hmember hname

theorem enters_of_ref {name : String} (href : schema.ref = some ref) :
    Enters schemas path schema name ↔ refName ref ∉ path ∧
      ∃ target, schemas.get? (refName ref) = some target ∧
        (name = refName ref ∨ Enters schemas (refName ref :: path) target name) := by
  constructor
  · rintro (⟨href', hpath, hget⟩ | ⟨hplain, -, -⟩ | ⟨href', hpath, hget, hname⟩)
    · obtain rfl : ref = _ := Option.some.inj (href.symm.trans href')
      exact ⟨hpath, _, hget, .inl rfl⟩
    · simp [href] at hplain
    · obtain rfl : ref = _ := Option.some.inj (href.symm.trans href')
      exact ⟨hpath, _, hget, .inr hname⟩
  · rintro ⟨hpath, target, hget, rfl | hname⟩
    · exact .reference href hpath hget
    · exact .target href hpath hget hname

/-- What the walk from a schema meets below the names of a path. -/
def gather (schemas : Table Schema) (atName : String → List α) (atNode : Schema → List α)
    (path : List String) (schema : Schema) : List α :=
  match schema.ref with
  | some ref =>
    if _hpath : refName ref ∈ path then []
    else
      match _hget : schemas.get? (refName ref) with
      | none => []
      | some target =>
        atName (refName ref) ++ gather schemas atName atNode (refName ref :: path) target
  | none =>
    ((members schema).attach.flatMap fun member ↦ gather schemas atName atNode path member.1) ++
      atNode schema
termination_by (room schemas path, sizeOf schema)
decreasing_by
  · exact Prod.Lex.left _ _ (room_cons_lt _hpath (Table.mem_keys_of_get? _hget))
  · exact Prod.Lex.right _ (sizeOf_lt_of_mem_members member.2)

section

variable {atName : String → List α} {atNode : Schema → List α}

theorem gather_of_cut (href : schema.ref = some ref) (hpath : refName ref ∈ path) :
    gather schemas atName atNode path schema = [] := by
  rw [gather]
  simp only [href, hpath, ↓reduceDIte]

theorem gather_of_dangling (href : schema.ref = some ref)
    (hget : schemas.get? (refName ref) = none) : gather schemas atName atNode path schema = [] := by
  rw [gather]
  split
  · next ref' href' =>
    obtain rfl : ref = ref' := Option.some.inj (href.symm.trans href')
    split
    · rfl
    · split
      · rfl
      · next target hget' => simp [hget] at hget'
  · next hplain => simp [href] at hplain

theorem gather_of_target {target : Schema} (href : schema.ref = some ref)
    (hpath : refName ref ∉ path) (hget : schemas.get? (refName ref) = some target) :
    gather schemas atName atNode path schema =
      atName (refName ref) ++ gather schemas atName atNode (refName ref :: path) target := by
  rw [gather]
  split
  · next ref' href' =>
    obtain rfl : ref = ref' := Option.some.inj (href.symm.trans href')
    rw [dif_neg hpath]
    split
    · next hnone => simp [hget] at hnone
    · next target' hget' =>
      obtain rfl : target = target' := Option.some.inj (hget.symm.trans hget')
      rfl
  · next hplain => simp [href] at hplain

theorem gather_of_plain (hplain : schema.ref = none) :
    gather schemas atName atNode path schema =
      (members schema).flatMap (gather schemas atName atNode path) ++ atNode schema := by
  rw [gather]
  split
  · next href => simp [hplain] at href
  · rw [List.flatMap_subtype (g := gather schemas atName atNode path) (fun _ _ ↦ rfl),
      List.unattach_attach]

theorem mem_gather (path : List String) (schema : Schema) (item : α) :
    item ∈ gather schemas atName atNode path schema ↔
      (∃ name, Enters schemas path schema name ∧ item ∈ atName name) ∨
        ∃ node, Visits schemas path schema node ∧ item ∈ atNode node := by
  induction path, schema using Plain.walk_induction schemas with
  | cut path schema ref href hpath =>
    simp [gather_of_cut href hpath, enters_of_ref href, visits_of_ref href, hpath]
  | dangling path schema ref href hget =>
    simp [gather_of_dangling href hget, enters_of_ref href, visits_of_ref href, hget]
  | target path schema ref target href hpath hget ih =>
    rw [gather_of_target href hpath hget, List.mem_append, ih]
    simp only [enters_of_ref href, visits_of_ref href, hget]
    grind
  | plain path schema hplain ih =>
    rw [gather_of_plain hplain, List.mem_append, List.mem_flatMap]
    simp only [enters_of_plain hplain, visits_of_plain hplain]
    grind

end

end ApiOutline.Flattening
