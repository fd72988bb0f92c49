import ApiOutline.Proofs.Loading.Checks
import ApiOutline.Proofs.Schemas.Reading
import Mathlib.Logic.Relation

/-!
Loading does not fail for what a schema says either. The checks of a document look at no schema
(`faults_swap`), and what is changed before the document is read, the texts of its versions and its
extensions, is not in a schema: so a swap stays a swap, or is gone if it lies in an extension
(`staysSwap_dropExtensions`). The rest is reading.
-/

set_option autoImplicit false
set_option relaxedAutoImplicit false

namespace ApiOutline.OpenApi

open Relation (ReflGen)

variable {place : SchemaPlace} {part : Part} {value other : Json}

/-! ### Changes that keep a swap -/

/-- The two values of a swap changed: they still differ in a schema at most. -/
abbrev StaysSwap (place : SchemaPlace) (part : Part) (change : Json → Json) : Prop :=
  ∀ value other, Swaps place part value other →
    ReflGen (Swaps place part) (change value) (change other)

theorem Swaps.reflGen_member {kind : RecordKind} {key : String} (hpart : (key, part) ∈ kind.parts)
    (h : ReflGen (Swaps place part) value other) (before after : Members) :
    ReflGen (Swaps place (.record kind)) (.object (before ++ (key, value) :: after))
      (.object (before ++ (key, other) :: after)) := by
  cases h with
  | refl => exact .refl
  | single h => exact .single (.member hpart before after h)

theorem Swaps.reflGen_entry (h : ReflGen (Swaps place part) value other) (key : String)
    (before after : Members) :
    ReflGen (Swaps place (.table part)) (.object (before ++ (key, value) :: after))
      (.object (before ++ (key, other) :: after)) := by
  cases h with
  | refl => exact .refl
  | single h => exact .single (.entry key before after h)

/-- Changes to the values of the fields of a record, which is left alone if it is a sequence. -/
theorem staysSwap_record {kind : RecordKind} {change : String → Json → Json}
    (h : ∀ key part, (key, part) ∈ kind.parts → StaysSwap place part (change key)) :
    StaysSwap place (.record kind)
      (onObject fun members ↦ members.map fun entry ↦ (entry.1, change entry.1 entry.2)) := by
  rintro _ _ (_ | @⟨_, key, part, value, other, hpart, before, after, hswap⟩ |
    ⟨hpart, before, after, hkey, hswap⟩ | _ | _)
  · simp only [onObject, List.map_append, List.map_cons]
    exact Swaps.reflGen_member hpart (h key part hpart value other hswap) _ _
  · exact .single (.value hpart before after hkey hswap)

theorem staysSwap_table {change : Json → Json} (h : StaysSwap place part change) :
    StaysSwap place (.table part)
      (onObject fun members ↦ members.map fun entry ↦ (entry.1, change entry.2)) := by
  rintro _ _ (_ | _ | _ | _ | @⟨_, value, other, key, before, after, hswap⟩)
  simp only [onObject, List.map_append, List.map_cons]
  exact Swaps.reflGen_entry (h value other hswap) key _ _

theorem staysSwap_dropExtensionEntries :
    StaysSwap place (.table part) (onObject dropExtensionEntries) := by
  rintro _ _ (_ | _ | _ | _ | @⟨_, value, other, key, before, after, hswap⟩)
  simp only [onObject, dropExtensionEntries, List.filter_append, List.filter_cons]
  split
  · exact .single (.entry key _ _ hswap)
  · exact .refl

theorem staysSwap_list (change : Members → Members) :
    StaysSwap place (.list part) (onObject change) := by
  rintro _ _ (_ | _ | _ | ⟨before, after, hswap⟩ | _)
  exact .single (.item before after hswap)

theorem StaysSwap.comp {first second : Json → Json} (hsecond : StaysSwap place part second)
    (hfirst : StaysSwap place part first) : StaysSwap place part (second ∘ first) := by
  intro value other hswap
  rw [Function.comp_apply, Function.comp_apply]
  rcases (Relation.reflGen_iff _ _ _).mp (hfirst value other hswap) with hsame | hstays
  · exact hsame ▸ .refl
  · exact hsecond _ _ hstays

theorem staysSwap_mapMember {kind : RecordKind} {key : String} {change : Json → Json}
    (h : ∀ part, (key, part) ∈ kind.parts → StaysSwap place part change) :
    StaysSwap place (.record kind) (onObject (mapMember key change)) := by
  refine @staysSwap_record place kind
    (fun name value ↦ if name = key then change value else value) ?_
  intro name part hpart value other hswap
  by_cases hname : name = key
  · simp only [hname, ↓reduceIte]
    exact h part (hname ▸ hpart) value other hswap
  · simp only [hname, ↓reduceIte]
    exact .single hswap

/-! ### The changes before a document is read -/

theorem staysSwap_dropResponseExtensions :
    StaysSwap place (.record .operation) (onObject dropResponseExtensions) := by
  refine staysSwap_mapMember fun part hpart ↦ ?_
  obtain rfl : part = .table (.record .response) := by simpa [RecordKind.parts] using hpart
  exact staysSwap_dropExtensionEntries

theorem staysSwap_dropItemExtensions :
    StaysSwap place (.record .pathItem) (onObject dropItemExtensions) := by
  refine @staysSwap_record place .pathItem (fun _ ↦ onObject dropResponseExtensions) ?_
  intro key part hpart
  have hparts : part = .record .operation ∨ part = .list (.record .parameter) := by
    simp only [RecordKind.parts, List.mem_cons, List.not_mem_nil, or_false, Prod.mk.injEq] at hpart
    tauto
  rcases hparts with rfl | rfl
  · exact staysSwap_dropResponseExtensions
  · exact staysSwap_list _

theorem staysSwap_dropPathExtensions :
    StaysSwap place (.table (.record .pathItem)) (onObject dropPathExtensions) := by
  have hcomp : onObject dropPathExtensions =
      onObject (fun paths ↦ paths.map fun entry ↦ (entry.1, onObject dropItemExtensions entry.2)) ∘
        onObject dropExtensionEntries := by
    funext paths
    cases paths <;> rfl
  rw [hcomp]
  exact (staysSwap_table staysSwap_dropItemExtensions).comp staysSwap_dropExtensionEntries

theorem staysSwap_dropExtensions : StaysSwap place (.record .document) dropExtensions := by
  refine staysSwap_mapMember fun part hpart ↦ ?_
  obtain rfl : part = .table (.record .pathItem) := by simpa [RecordKind.parts] using hpart
  exact staysSwap_dropPathExtensions

theorem staysSwap_withTextVersions :
    StaysSwap place (.record .document) (onObject withTextVersions) := by
  have hcomp : onObject withTextVersions =
      onObject (mapMember "info" Info.withTextVersion) ∘
        onObject (mapMember "openapi" textOfNumber) := by
    funext tree
    cases tree <;> rfl
  rw [hcomp]
  exact (staysSwap_mapMember (by simp [RecordKind.parts])).comp
    (staysSwap_mapMember (by simp [RecordKind.parts]))

/-! ### Documents -/

theorem pathsFaults_swap {root otherRoot : Members}
    (h : Swaps place (.record .document) (.object root) (.object otherRoot)) :
    pathsFaults root = pathsFaults otherRoot := by
  rcases h with _ | @⟨_, key, part, value, other, hpart, before, after, hswap⟩
  rw [pathsFaults, pathsFaults, List.lookup_append, List.lookup_append]
  cases before.lookup "paths" with
  | some paths => rfl
  | none =>
    by_cases hkey : key = "paths"
    · subst hkey
      obtain rfl : part = .table (.record .pathItem) := by simpa [RecordKind.parts] using hpart
      -- Both values are tables, so both are objects.
      cases hswap
      rfl
    · rw [List.lookup_cons, List.lookup_cons, beq_eq_false_iff_ne.mpr (Ne.symm hkey)]

theorem faults_swap {root otherRoot : Members}
    (h : Swaps place (.record .document) (.object root) (.object otherRoot)) :
    faults root = faults otherRoot := by
  refine faults_congr (fun key hkey ↦ h.get?_eq ?_) (pathsFaults_swap h)
  simp only [List.mem_cons, List.not_mem_nil, or_false] at hkey
  rcases hkey with rfl | rfl | rfl <;> decide

theorem map_mapError_congr {α ε ε' : Type} {first second : Except ε α} {change : α → α}
    (h : first.map change = second.map change) (explain : ε → ε') :
    (first.mapError explain).map change = (second.mapError explain).map change := by
  cases first <;> cases second <;> simp_all [Except.map, Except.mapError]

theorem Document.map_ofTree_swap {change : SchemaPlace → Schema → Schema}
    (hchange : ∀ schema other, change place schema = change place other) {root otherRoot : Members}
    (hswap : Swaps place (.record .document) (.object root) (.object otherRoot)) :
    (Document.ofTree (.object root)).map (·.mapSchemas change) =
      (Document.ofTree (.object otherRoot)).map (·.mapSchemas change) := by
  have hread : (Document.read (dropExtensions (.object (withTextVersions root)))).map
      (·.mapSchemas change) =
        (Document.read (dropExtensions (.object (withTextVersions otherRoot)))).map
          (·.mapSchemas change) := by
    rcases (Relation.reflGen_iff _ _ _).mp
      (staysSwap_dropExtensions.comp staysSwap_withTextVersions _ _ hswap) with hsame | hstays
    · exact congrArg (fun tree ↦ (Document.read tree).map (·.mapSchemas change)) hsame.symm
    · exact Document.readsAlike hchange _ _ hstays
  rw [ofTree, ofTree, checkStructure_object, checkStructure_object, faults_swap hswap]
  cases faults otherRoot with
  | cons fault rest => rfl
  | nil => exact map_mapError_congr hread _

/-- A document in which one schema is another object is accepted too, and differs in no more than
this schema. -/
theorem Document.ofTree_swap (change : SchemaPlace → Schema → Schema)
    (hchange : ∀ schema other, change place schema = change place other) {tree other : Json}
    (hswap : Swaps place (.record .document) tree other) {document : Document}
    (hload : Document.ofTree tree = .ok document) :
    ∃ otherDocument, Document.ofTree other = .ok otherDocument ∧
      otherDocument.mapSchemas change = document.mapSchemas change := by
  have hmap : (Document.ofTree other).map (·.mapSchemas change) =
      .ok (document.mapSchemas change) := by
    cases hswap with
    | member hpart before after hswap =>
      rw [← Document.map_ofTree_swap hchange (.member hpart before after hswap), hload]
      rfl
    | value => cases hload
  cases hother : Document.ofTree other with
  | error found => rw [hother] at hmap; cases hmap
  | ok otherDocument =>
    rw [hother] at hmap
    exact ⟨otherDocument, rfl, Except.ok.inj hmap⟩

end ApiOutline.OpenApi
