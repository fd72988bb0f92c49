import ApiOutline.Extraction.Composition
import ApiOutline.Proofs.References.LastSegment
import Mathlib.Logic.Relation

/-!
The walk of a composed schema as a relation between schemas. A reference leads to the schema of the
last segment of its path, if there is one, and to nothing else; any other schema leads to the
members it is composed of. A walk through members alone comes to an end, as members lie within their
schema, so a circle of the walk goes through a reference (`Acyclic` says that none is reachable).

The recursion of flattening follows this relation: `collect_of_ref` and `collect_of_plain` are its
two cases, and `members_induction` is the induction over members.
-/

set_option autoImplicit false
set_option relaxedAutoImplicit false

namespace ApiOutline.Flattening

open OpenApi (IsLastSegment Schema isLastSegment_iff refName)
open Relation (ReflTransGen TransGen)

/-! ### Members -/

/-- The schemas that a schema without a reference is composed of: all of `allOf` if there are any,
or else the first of `oneOf`, or else the first of `anyOf`. -/
def members (schema : Schema) : List Schema :=
  match schema.allOf with
  | [] => (schema.oneOf.head?.or schema.anyOf.head?).toList
  | first :: rest => first :: rest

theorem sizeOf_members_lt (schema : Schema) : sizeOf (members schema) < sizeOf schema := by
  obtain ⟨type, ref, format, description, properties, required, items, default, enum, allOf, oneOf,
    anyOf⟩ := schema
  rcases allOf with _ | ⟨first, rest⟩
  · rcases oneOf with _ | ⟨first, rest⟩
    · cases anyOf <;> simp [members]
      omega
    · simp [members]
      omega
  · simp [members]
    omega

theorem sizeOf_lt_of_mem_members {schema member : Schema} (hmember : member ∈ members schema) :
    sizeOf member < sizeOf schema :=
  Nat.lt_trans (List.sizeOf_lt_of_mem hmember) (sizeOf_members_lt schema)

/-- Induction over the members of a schema, and their members, and so on. -/
@[elab_as_elim]
theorem members_induction {motive : Schema → Prop}
    (step : ∀ schema, (∀ member ∈ members schema, motive member) → motive schema)
    (schema : Schema) : motive schema :=
  step schema fun member _hmember ↦ members_induction step member
termination_by sizeOf schema
decreasing_by exact sizeOf_lt_of_mem_members _hmember

/-! ### The two cases of the recursion -/

variable {find : Lookup} {schemas : Table Schema}

theorem collect_of_ref {schema : Schema} {path : String} (href : schema.ref = some path)
    (set : PropertySet) (state : Flattening) :
    collect find schemas schema set state = collectReference find schemas path set state := by
  obtain ⟨type, ref, format, description, properties, required, items, default, enum, allOf, oneOf,
    anyOf⟩ := schema
  obtain rfl : ref = some path := href
  rw [collect]

theorem collect_of_plain {schema : Schema} (hplain : schema.ref = none) (set : PropertySet)
    (state : Flattening) :
    collect find schemas schema set state =
      let (set, state) := collectAll find schemas (members schema) set state
      ((set.declare schema.properties).require schema.required, state) := by
  obtain ⟨type, ref, format, description, properties, required, items, default, enum, allOf, oneOf,
    anyOf⟩ := schema
  obtain rfl : ref = none := hplain
  rcases allOf with _ | ⟨first, rest⟩
  · rcases oneOf with _ | ⟨first, rest⟩
    · rcases anyOf with _ | ⟨first, rest⟩ <;> simp [members, collect, collectAll]
    · simp [members, collect, collectAll]
  · simp [members, collect, collectAll]

/-! ### The relation -/

/-- What a schema leads to in one step of the walk. -/
inductive Leads (schemas : Table Schema) : Schema → Schema → Prop
  | reference {schema target : Schema} {path name : String} (href : schema.ref = some path)
      (hname : IsLastSegment name path) (hget : schemas.get? name = some target) :
      Leads schemas schema target
  | member {schema member : Schema} (hplain : schema.ref = none)
      (hmember : member ∈ members schema) : Leads schemas schema member

theorem Leads.ofRef {schema target : Schema} {path : String} (href : schema.ref = some path)
    (hget : schemas.get? (refName path) = some target) : Leads schemas schema target :=
  .reference href (isLastSegment_iff.mpr rfl) hget

/-- No circle of the walk is reachable from a schema. -/
def Acyclic (schemas : Table Schema) (schema : Schema) : Prop :=
  ∀ node, ReflTransGen (Leads schemas) schema node → ¬ TransGen (Leads schemas) node node

theorem Acyclic.of_leads {schema next : Schema} (h : Acyclic schemas schema)
    (hnext : Leads schemas schema next) : Acyclic schemas next :=
  fun node hnode ↦ h node (hnode.head hnext)

/-- A circle through a schema goes through one of those it leads to, so these decide. -/
theorem acyclic_iff_forall_leads {schema : Schema} :
    Acyclic schemas schema ↔ ∀ next, Leads schemas schema next → Acyclic schemas next := by
  constructor
  · exact fun h next hnext ↦ h.of_leads hnext
  · intro h node hnode hcircle
    rcases hnode.cases_head with rfl | ⟨next, hnext, hnode⟩
    · obtain ⟨next, hnext, hback⟩ := Relation.TransGen.head'_iff.mp hcircle
      exact h next hnext next .refl (.tail' hback hnext)
    · exact h next hnext node hnode hcircle

theorem acyclic_of_plain {schema : Schema} (hplain : schema.ref = none) :
    Acyclic schemas schema ↔ ∀ member ∈ members schema, Acyclic schemas member := by
  rw [acyclic_iff_forall_leads]
  constructor
  · exact fun h member hmember ↦ h member (.member hplain hmember)
  · rintro h next (⟨href, -, -⟩ | ⟨-, hmember⟩)
    · simp [hplain] at href
    · exact h next hmember

theorem acyclic_of_ref {schema target : Schema} {path : String} (href : schema.ref = some path)
    (hget : schemas.get? (refName path) = some target) :
    Acyclic schemas schema ↔ Acyclic schemas target := by
  rw [acyclic_iff_forall_leads]
  constructor
  · exact fun h ↦ h target (.ofRef href hget)
  · rintro h next (⟨href', hname, hget'⟩ | ⟨hplain, -⟩)
    · obtain rfl : _ = path := Option.some.inj (href'.symm.trans href)
      obtain rfl := isLastSegment_iff.mp hname
      obtain rfl := Option.some.inj (hget.symm.trans hget')
      exact h
    · simp [href] at hplain

theorem acyclic_of_dangling {schema : Schema} {path : String} (href : schema.ref = some path)
    (hget : schemas.get? (refName path) = none) : Acyclic schemas schema := by
  rw [acyclic_iff_forall_leads]
  rintro next (⟨href', hname, hget'⟩ | ⟨hplain, -⟩)
  · obtain rfl : _ = path := Option.some.inj (href'.symm.trans href)
    obtain rfl := isLastSegment_iff.mp hname
    simp [hget] at hget'
  · simp [href] at hplain

/-! ### What lies above a schema -/

/-- Every name of a path is that of a schema from which the walk leads to the current one. -/
def Above (schemas : Table Schema) (path : List String) (schema : Schema) : Prop :=
  ∀ name ∈ path, ∃ target, schemas.get? name = some target ∧
    ReflTransGen (Leads schemas) target schema

theorem Above.nil (schema : Schema) : Above schemas [] schema := by
  simp [Above]

theorem Above.leads {path : List String} {schema next : Schema} (h : Above schemas path schema)
    (hnext : Leads schemas schema next) : Above schemas path next := by
  intro name hname
  obtain ⟨target, hget, hreach⟩ := h name hname
  exact ⟨target, hget, hreach.tail hnext⟩

theorem Above.cons {path : List String} {name : String} {target : Schema}
    (h : Above schemas path target) (hget : schemas.get? name = some target) :
    Above schemas (name :: path) target := by
  intro other hother
  rcases List.mem_cons.mp hother with rfl | hother
  · exact ⟨target, hget, .refl⟩
  · exact h other hother

/-- A reference to a name above closes a circle. -/
theorem Above.not_acyclic {path : List String} {schema : Schema} {ref : String}
    (h : Above schemas path schema) (href : schema.ref = some ref) (hmem : refName ref ∈ path) :
    ¬ Acyclic schemas schema := by
  obtain ⟨target, hget, hreach⟩ := h _ hmem
  have hback : Leads schemas schema target := .ofRef href hget
  exact fun hacyclic ↦ hacyclic schema .refl (.head' hback hreach)

end ApiOutline.Flattening
