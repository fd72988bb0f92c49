import ApiOutline.Proofs.Addressing

/-!
A model depends on no more than its walk meets. Two tables of schemas may declare different schemas
and in different orders: as long as they give the same schema to each name that the walk from a
model comes to, the model is the same (`find?_ofSchemas_eq_of_reached`).

The walk itself is then the same in both tables (`Reaches.walk_of_same`), so they agree at every
reference met (`SameAlong`), and that is all that flattening looks up (`collect_congr_schemas`).
-/

set_option autoImplicit false
set_option relaxedAutoImplicit false

namespace ApiOutline.Flattening

open OpenApi (IsLastSegment Schema isLastSegment_iff refName)
open Relation (ReflTransGen)

variable {schemas others : Table Schema}

/-- The names of schemas that the walk from the schema of a name comes to, that name included. -/
inductive Reaches (schemas : Table Schema) (name : String) : String → Prop
  | self {schema : Schema} (hget : schemas.get? name = some schema) : Reaches schemas name name
  | reference {schema node target : Schema} {ref reached : String}
      (hget : schemas.get? name = some schema)
      (hwalk : ReflTransGen (Leads schemas) schema node) (href : node.ref = some ref)
      (hreached : IsLastSegment reached ref) (htarget : schemas.get? reached = some target) :
      Reaches schemas name reached

theorem Reaches.ofRef {name : String} {schema node target : Schema} {ref : String}
    (hget : schemas.get? name = some schema) (hwalk : ReflTransGen (Leads schemas) schema node)
    (href : node.ref = some ref) (htarget : schemas.get? (refName ref) = some target) :
    Reaches schemas name (refName ref) :=
  .reference hget hwalk href (isLastSegment_iff.mpr rfl) htarget

/-- Two tables give the same to every reference that the walk from a schema meets. -/
def SameAlong (schemas others : Table Schema) (schema : Schema) : Prop :=
  ∀ node ref, ReflTransGen (Leads schemas) schema node → node.ref = some ref →
    schemas.get? (refName ref) = others.get? (refName ref)

theorem SameAlong.leads {schema next : Schema} (h : SameAlong schemas others schema)
    (hnext : Leads schemas schema next) : SameAlong schemas others next :=
  fun node ref hwalk href ↦ h node ref (hwalk.head hnext) href

/-- Flattening looks up nothing but the references met. -/
theorem Plain.collect_congr_schemas {path : List String} {schema : Schema}
    (h : SameAlong schemas others schema) (set : PropertySet) :
    collect schemas path schema set = collect others path schema set := by
  induction path, schema using walk_induction schemas generalizing set with
  | cut path schema ref href hpath => rw [collect_of_cut href hpath, collect_of_cut href hpath]
  | dangling path schema ref href hget =>
    have hother : others.get? (refName ref) = none := (h schema ref .refl href).symm.trans hget
    rw [collect_of_dangling href hget, collect_of_dangling href hother]
  | target path schema ref target href hpath hget ih =>
    have hother : others.get? (refName ref) = some target :=
      (h schema ref .refl href).symm.trans hget
    rw [collect_of_target href hpath hget, collect_of_target href hpath hother, component,
      component, ih (h.leads (.ofRef href hget))]
  | plain path schema hplain ih =>
    have hall : collectAll schemas path (members schema) set =
        collectAll others path (members schema) set := by
      rw [collectAll_eq_foldl, collectAll_eq_foldl]
      exact List.foldl_ext _ _ _ fun set member hmember ↦
        ih member hmember (h.leads (.member hplain hmember)) set
    rw [collect_of_plain hplain, collect_of_plain hplain, hall]

/-- Where the schemas of all names reached are the same, so is the walk. -/
theorem Reaches.walk_of_same {name : String} {schema node : Schema}
    (hsame : ∀ reached, Reaches schemas name reached →
      schemas.get? reached = others.get? reached)
    (hget : schemas.get? name = some schema) (hwalk : ReflTransGen (Leads schemas) schema node) :
    ReflTransGen (Leads others) schema node := by
  induction hwalk with
  | refl => exact .refl
  | tail hwalk hstep ih =>
    cases hstep with
    | member hplain hmember => exact ih.tail (.member hplain hmember)
    | reference href hreached htarget =>
      have hother := (hsame _ (.reference hget hwalk href hreached htarget)).symm.trans htarget
      exact ih.tail (.reference href hreached hother)

/-- A name that is reached in one table alone would be reached with different schemas, as it has
none in the other table. -/
theorem sameAlong_of_reached {name : String} {schema : Schema}
    (hget : schemas.get? name = some schema)
    (hsame : ∀ reached, Reaches schemas name reached ∨ Reaches others name reached →
      schemas.get? reached = others.get? reached) : SameAlong schemas others schema := by
  intro node ref hwalk href
  cases htarget : schemas.get? (refName ref) with
  | some target => exact htarget ▸ hsame _ (.inl (.ofRef hget hwalk href htarget))
  | none =>
    cases hother : others.get? (refName ref) with
    | none => rfl
    | some target =>
      have hgetOther : others.get? name = some schema := (hsame name (.inl (.self hget))) ▸ hget
      have hwalkOther := Reaches.walk_of_same (fun reached h ↦ hsame reached (.inl h)) hget hwalk
      have hfound := hsame _ (.inr (.ofRef hgetOther hwalkOther href hother))
      rw [htarget, hother] at hfound
      exact hfound

end ApiOutline.Flattening

namespace ApiOutline

open Flattening (Leads Reaches)
open OpenApi (Components Schema isLastSegment_iff refName)
open Relation (ReflTransGen)

theorem Model.find?_ofSchemas {schemas : Table Schema} {name : String} {schema : Schema}
    (hget : schemas.get? name = some schema) :
    (Model.ofSchemas schemas).find? (·.name = name) =
      some (.ofSchema name schema (Flattening.Plain.component schemas [] name schema)) := by
  have hmodel : Model.ofSchema name schema (Flattening.Plain.component schemas [] name schema) ∈
      Model.ofSchemas schemas := by
    rw [Model.ofSchemas_eq_map]
    exact List.mem_map_of_mem (Table.get?_eq_some_iff.mp hget)
  exact find?_of_nodup Model.name (Model.nodup_ofSchemas schemas) hmodel

/-- Tables that agree on the names reached from a declared one give it the same model, whatever else
they declare and in whatever order. -/
theorem Model.find?_ofSchemas_eq_of_reached {components others : Components} {name : String}
    {schema : Schema} (hget : components.schemas.get? name = some schema)
    (hsame : ∀ reached,
      Reaches components.schemas name reached ∨ Reaches others.schemas name reached →
        components.schemas.get? reached = others.schemas.get? reached) :
    ∃ model, (Model.ofSchemas components.schemas).find? (·.name = name) = some model ∧
      (Model.ofSchemas others.schemas).find? (·.name = name) = some model := by
  have hgetOther : others.schemas.get? name = some schema := hsame name (.inl (.self hget)) ▸ hget
  have hset : Flattening.Plain.component components.schemas [] name schema =
      Flattening.Plain.component others.schemas [] name schema :=
    Flattening.Plain.collect_congr_schemas (Flattening.sameAlong_of_reached hget hsame) .empty
  exact ⟨_, Model.find?_ofSchemas hget, hset ▸ Model.find?_ofSchemas hgetOther⟩

/-! ### Two schemas composed of each other, among others -/

private def referenceTo (path : String) : Schema := { Schema.blank with ref := some path }

private def cat : Schema :=
  { Schema.blank with
    allOf := [referenceTo "#/components/schemas/Pet"]
    properties := [("purrs", .blank)] }

private def pet : Schema :=
  { Schema.blank with
    oneOf := [referenceTo "#/components/schemas/Cat"]
    properties := [("name", .blank)] }

private theorem reached_from_cat {schemas : Table Schema} (hcat : schemas.get? "Cat" = some cat)
    (hpet : schemas.get? "Pet" = some pet) {reached : String} (h : Reaches schemas "Cat" reached) :
    reached = "Cat" ∨ reached = "Pet" := by
  have hcatName : refName "#/components/schemas/Cat" = "Cat" := by decide
  have hpetName : refName "#/components/schemas/Pet" = "Pet" := by decide
  have hwalk : ∀ node, ReflTransGen (Leads schemas) cat node → node = cat ∨ node = pet ∨
      node = referenceTo "#/components/schemas/Cat" ∨
      node = referenceTo "#/components/schemas/Pet" := by
    intro node hnode
    induction hnode with
    | refl => exact .inl rfl
    | tail _ hstep ih =>
      rcases ih with rfl | rfl | rfl | rfl <;>
        rcases hstep with ⟨href, hname, hget⟩ | ⟨hplain, hmember⟩
      · simp [cat, Schema.blank] at href
      · simp_all [cat, Flattening.members]
      · simp [pet, Schema.blank] at href
      · simp_all [pet, Flattening.members, Schema.blank]
      · obtain rfl := Option.some.inj href
        obtain rfl := isLastSegment_iff.mp hname
        simp_all
      · simp [referenceTo] at hplain
      · obtain rfl := Option.some.inj href
        obtain rfl := isLastSegment_iff.mp hname
        simp_all
      · simp [referenceTo] at hplain
  cases h with
  | self => exact .inl rfl
  | reference hget hnode href hsegment htarget =>
    obtain rfl := Option.some.inj (hget.symm.trans hcat)
    obtain rfl := isLastSegment_iff.mp hsegment
    rcases hwalk _ hnode with rfl | rfl | rfl | rfl
    · simp [cat, Schema.blank] at href
    · simp [pet, Schema.blank] at href
    · obtain rfl := Option.some.inj href
      exact .inl hcatName
    · obtain rfl := Option.some.inj href
      exact .inr hpetName

/-- The model of a schema that is composed with its own is the same among other schemas, which may
be circular too, and in another order. -/
theorem Model.find?_ofSchemas_eq_of_reached_cat :
    let here := { Components.empty with
      schemas := .ofList [("Cat", cat), ("Order", .blank), ("Pet", pet)] }
    let there := { Components.empty with
      schemas := .ofList [("Pet", pet), ("Order", referenceTo "Order"), ("Cat", cat)] }
    here.schemas.get? "Cat" = some cat ∧
      (∀ reached, Reaches here.schemas "Cat" reached ∨ Reaches there.schemas "Cat" reached →
        here.schemas.get? reached = there.schemas.get? reached) ∧
      ∃ model, (Model.ofSchemas here.schemas).find? (·.name = "Cat") = some model ∧
        (Model.ofSchemas there.schemas).find? (·.name = "Cat") = some model := by
  intro here there
  have hsame : ∀ reached, Reaches here.schemas "Cat" reached ∨ Reaches there.schemas "Cat" reached →
      here.schemas.get? reached = there.schemas.get? reached := by
    intro reached h
    have hreached : reached = "Cat" ∨ reached = "Pet" :=
      h.elim (reached_from_cat rfl rfl) (reached_from_cat rfl rfl)
    rcases hreached with rfl | rfl <;> rfl
  exact ⟨rfl, hsame, Model.find?_ofSchemas_eq_of_reached rfl hsame⟩

end ApiOutline
