import ApiOutline.Proofs.Schemas.Change
import Mathlib.Data.List.Forall2

/-!
Reading does not fail for what a schema says. Two values that differ in the schema of one place are
read to the same mismatch, or to parts that differ in that schema alone (`Document.readsAlike`).

Every object is a schema, and that is where the argument starts (`Schema.readsAlike`). It is carried
outwards by one lemma for each way in which parts are put together: optional values, references and
parts, lists, tables and records.
-/

set_option autoImplicit false
set_option relaxedAutoImplicit false

namespace ApiOutline.OpenApi

variable {α β : Type} {place : SchemaPlace} {part : Part}

/-- The two values of a swap are read to the same mismatch, or to values that a change makes the
same. -/
def ReadsAlike (place : SchemaPlace) (part : Part) (read : Json → Except Mismatch α)
    (change : α → α) : Prop :=
  ∀ value other : Json, Swaps place part value other →
    (read value).map change = (read other).map change

/-! ### Results that a change makes the same -/

theorem map_bind_congr {first second : Except Mismatch α} {change : α → α} {alike : β → β}
    {next otherNext : α → Except Mismatch β} (h : first.map change = second.map change)
    (hnext : ∀ x y, change x = change y → (next x).map alike = (otherNext y).map alike) :
    (first >>= next).map alike = (second >>= otherNext).map alike := by
  cases first with
  | error mismatch => cases second <;> simp_all [Except.map, bind, Except.bind]
  | ok x =>
    cases second with
    | error mismatch => simp [Except.map] at h
    | ok y => exact hnext x y (Except.ok.inj h)

theorem map_mapM_congr {γ : Type} {read : γ → Except Mismatch α} {change : α → α} {xs ys : List γ}
    (h : List.Forall₂ (fun x y ↦ (read x).map change = (read y).map change) xs ys) :
    (xs.mapM read).map (List.map change) = (ys.mapM read).map (List.map change) := by
  induction h with
  | nil => rfl
  | cons hfirst _ ih =>
    rw [List.mapM_cons, List.mapM_cons]
    refine map_bind_congr hfirst fun x y hxy ↦ map_bind_congr ih fun rest otherRest hrest ↦ ?_
    exact congrArg Except.ok (by rw [List.map_cons, List.map_cons, hxy, hrest])

theorem map_bind_pure_congr (read : Except Mismatch α) {change : β → β} {set otherSet : α → β}
    (h : ∀ x, change (set x) = change (otherSet x)) :
    (read >>= fun x ↦ pure (set x)).map change =
      (read >>= fun x ↦ pure (otherSet x)).map change := by
  cases read with
  | error mismatch => rfl
  | ok x => exact congrArg Except.ok (h x)

/-- Two lists that differ in one item. -/
theorem forall₂_append_cons {γ : Type} {R : γ → γ → Prop} (hrefl : ∀ x, R x x) {x y : γ} (h : R x y)
    (before after : List γ) : List.Forall₂ R (before ++ x :: after) (before ++ y :: after) :=
  List.rel_append (List.forall₂_same.mpr fun x _ ↦ hrefl x)
    (.cons h (List.forall₂_same.mpr fun x _ ↦ hrefl x))

/-- Two tables that differ in the value of one entry. -/
theorem map_readTable_congr {read : Json → Except Mismatch α} {change : α → α} {value other : Json}
    (h : (read value).map change = (read other).map change) (key : String)
    (before after : List (String × Json)) :
    (readTable read (.object (before ++ (key, value) :: after))).map (Table.mapValues change) =
      (readTable read (.object (before ++ (key, other) :: after))).map
        (Table.mapValues change) := by
  let readEntry (entry : String × Json) : Except Mismatch (String × α) :=
    read entry.2 >>= fun value ↦ .ok (entry.1, value)
  let changeEntry (entry : String × α) : String × α := (entry.1, change entry.2)
  have hentry : (readEntry (key, value)).map changeEntry =
      (readEntry (key, other)).map changeEntry :=
    map_bind_congr h fun x y hxy ↦ congrArg (fun value ↦ Except.ok (key, value)) hxy
  have hentries := map_mapM_congr (forall₂_append_cons
    (R := fun x y ↦ (readEntry x).map changeEntry = (readEntry y).map changeEntry) (fun _ ↦ rfl)
    hentry before after)
  refine map_bind_congr hentries fun entries others hsame ↦ congrArg Except.ok ?_
  rw [Table.mapValues_ofList, Table.mapValues_ofList, hsame]

/-! ### Ways in which parts are put together -/

theorem ReadsAlike.optional {read : Json → Except Mismatch α} {change : α → α}
    (h : ReadsAlike place part read change) :
    ReadsAlike place part (readOptional read) (Option.map change) := by
  intro value other hswap
  -- Neither value of a swap is `null`.
  have hvalue : readOptional read value = read value >>= fun x ↦ .ok (some x) := by
    cases hswap <;> rfl
  have hother : readOptional read other = read other >>= fun x ↦ .ok (some x) := by
    cases hswap <;> rfl
  rw [hvalue, hother]
  exact map_bind_congr (h _ _ hswap) fun x y hxy ↦ congrArg (fun x ↦ Except.ok (some x)) hxy

theorem ReadsAlike.list {read : Json → Except Mismatch α} {change : α → α}
    (h : ReadsAlike place part read change) :
    ReadsAlike place (.list part) (readList read) (List.map change) := by
  rintro _ _ (_ | _ | _ | ⟨before, after, hswap⟩ | _)
  exact map_mapM_congr (forall₂_append_cons
    (R := fun x y ↦ (read x).map change = (read y).map change) (fun _ ↦ rfl) (h _ _ hswap)
    before after)

theorem ReadsAlike.table {read : Json → Except Mismatch α} {change : α → α}
    (h : ReadsAlike place part read change) :
    ReadsAlike place (.table part) (readTable read) (Table.mapValues change) := by
  rintro _ _ (_ | _ | _ | _ | ⟨key, before, after, hswap⟩)
  exact map_readTable_congr (h _ _ hswap) key before after

/-- A swap leaves the members under all other keys alone. -/
theorem Swaps.get?_eq {kind : RecordKind} {value other : Json} {name : String}
    (h : Swaps place (.record kind) value other) (hname : name ∉ kind.parts.map Prod.fst) :
    value.get? name = other.get? name := by
  rcases h with _ | @⟨_, key, _, _, _, hpart, before, after, -⟩ | _ | _ | _
  · have hne : name ≠ key := fun heq ↦ hname (heq ▸ List.mem_map_of_mem hpart)
    rw [Json.get?, Json.get?, List.lookup_append, List.lookup_append, List.lookup_cons,
      List.lookup_cons, beq_eq_false_iff_ne.mpr hne]
  · rfl

theorem ReadsAlike.refOr {read : Json → Except Mismatch α} {change : α → α} {kind : RecordKind}
    (h : ReadsAlike place (.record kind) read change) (hkind : "$ref" ∉ kind.parts.map Prod.fst) :
    ReadsAlike place (.record kind) (RefOr.read read) (RefOr.map change) := by
  intro value other hswap
  have hread := h value other hswap
  rw [RefOr.read, RefOr.read, hswap.get?_eq hkind]
  split
  · rfl
  · cases hvalue : read value <;> cases hother : read other <;>
      simp_all [Except.map, RefOr.map]

/-! ### Records -/

/-- A field of a record may be set to either of two values that are read alike. -/
theorem ReadsAlike.set {read : Json → Except Mismatch β} {alike : β → β}
    (h : ReadsAlike place part read alike) {value other : Json}
    (hswap : Swaps place part value other) {set : β → α} {change : α → α}
    (hset : ∀ x y, alike x = alike y → change (set x) = change (set y)) :
    (read value >>= fun x ↦ pure (set x)).map change =
      (read other >>= fun x ↦ pure (set x)).map change :=
  map_bind_congr (h value other hswap) fun x y hxy ↦ congrArg Except.ok (hset x y hxy)

/-- A record goes on alike with two fields, whatever the schemas of the fields before them were. -/
def PutsAlike (put : α → String → Json → Except Mismatch α) (change : α → α)
    (field other : String × Json) : Prop :=
  ∀ record another, change record = change another →
    (put record field.1 field.2).map change = (put another other.1 other.2).map change

theorem map_foldlM_congr {put : α → String → Json → Except Mismatch α} {change : α → α}
    {fields others : List (String × Json)} (h : List.Forall₂ (PutsAlike put change) fields others)
    {record another : α} (hrecord : change record = change another) :
    (fields.foldlM (fun record field ↦ put record field.1 field.2) record).map change =
      (others.foldlM (fun record field ↦ put record field.1 field.2) another).map change := by
  induction h generalizing record another with
  | nil => exact congrArg Except.ok hrecord
  | cons hfirst _ ih =>
    rw [List.foldlM_cons, List.foldlM_cons]
    exact map_bind_congr (hfirst record another hrecord) fun x y hxy ↦ ih hxy

theorem missingField?_swap (form : RecordForm) (key : String) (value other : Json)
    (before after : Members) :
    form.missingField? (before ++ (key, value) :: after) =
      form.missingField? (before ++ (key, other) :: after) := by
  simp only [RecordForm.missingField?, List.any_append, List.any_cons]

theorem zip_append_cons {names : List String} {key : String} {before : List Json}
    (hkey : names[before.length]? = some key) (value : Json) (after : List Json) :
    names.zip (before ++ value :: after) =
      names.zip before ++ (key, value) :: (names.drop (before.length + 1)).zip after := by
  induction before generalizing names with
  | nil =>
    cases names with
    | nil => simp at hkey
    | cons name rest =>
      obtain rfl := Option.some.inj hkey
      rfl
  | cons first before ih =>
    cases names with
    | nil => simp at hkey
    | cons name rest =>
      rw [List.length_cons, List.getElem?_cons_succ] at hkey
      rw [List.cons_append, List.zip_cons_cons, ih hkey]
      rfl

/-- A record is read alike if its fields are: one by one with the same values, and each field with
schemas in it with the two values of a swap. -/
theorem ReadsAlike.record {kind : RecordKind} {form : RecordForm} {blank : α}
    {put : α → String → Json → Except Mismatch α} {change : α → α}
    (hnames : form.fields.map Prod.fst = kind.fieldNames)
    (hsame : ∀ field, PutsAlike put change field field)
    (hparts : ∀ key part value other record, (key, part) ∈ kind.parts →
      Swaps place part value other →
        (put record key value).map change = (put record key other).map change) :
    ReadsAlike place (.record kind) (form.read blank put) change := by
  have hswapped {key : String} {part : Part} {value other : Json} (hpart : (key, part) ∈ kind.parts)
      (hswap : Swaps place part value other) : PutsAlike put change (key, value) (key, other) :=
    fun record another h ↦
      (hsame (key, value) record another h).trans (hparts key part value other another hpart hswap)
  rintro _ _ (_ | @⟨_, key, part, value, other, hpart, before, after, hswap⟩ |
    @⟨_, key, part, value, other, hpart, before, after, hkey, hswap⟩ | _ | _)
  · have hfields := forall₂_append_cons hsame (hswapped hpart hswap) before after
    rw [RecordForm.read, RecordForm.read, missingField?_swap form key value other]
    refine map_bind_congr (map_foldlM_congr hfields rfl) fun x y hxy ↦ ?_
    cases form.missingField? (before ++ (key, other) :: after) with
    | none => exact congrArg Except.ok hxy
    | some name => rfl
  · have hfields := forall₂_append_cons hsame (hswapped hpart hswap) (kind.fieldNames.zip before)
      ((kind.fieldNames.drop (before.length + 1)).zip after)
    rw [RecordForm.read, RecordForm.read, hnames, zip_append_cons hkey, zip_append_cons hkey,
      List.length_append, List.length_append, List.length_cons, List.length_cons]
    refine map_bind_congr (map_foldlM_congr hfields rfl) fun x y hxy ↦ ?_
    cases form.lengthMismatch? (before.length + (after.length + 1)) with
    | none => exact congrArg Except.ok hxy
    | some mismatch => rfl

/-! ### The records of a document -/

section Records

variable {change : SchemaPlace → Schema → Schema}
  (hchange : ∀ schema other, change place schema = change place other)
include hchange

theorem Schema.readsAlike (schemaPlace : SchemaPlace) :
    ReadsAlike place (.schema schemaPlace) Schema.read (change schemaPlace) := by
  rintro _ _ ⟨members, others⟩
  rw [Schema.read, Schema.read]
  exact congrArg Except.ok (hchange _ _)

theorem MediaType.readsAlike :
    ReadsAlike place (.record .mediaType) MediaType.read (·.mapSchemas change) := by
  refine ReadsAlike.record rfl ?_ ?_
  · rintro ⟨key, value⟩ record another h
    dsimp only
    split
    · exact map_bind_pure_congr _ fun x ↦ rfl
    · exact congrArg Except.ok h
  · intro key part value other record hpart hswap
    simp only [RecordKind.parts, List.mem_singleton, Prod.mk.injEq] at hpart
    obtain ⟨rfl, rfl⟩ := hpart
    exact (Schema.readsAlike hchange _).optional.set hswap fun x y hxy ↦ by
      simp only [MediaType.mapSchemas, hxy]

theorem Parameter.readsAlike :
    ReadsAlike place (.record .parameter) Parameter.read (·.mapSchemas change) := by
  refine ReadsAlike.record rfl ?_ ?_
  · rintro ⟨key, value⟩ record another h
    dsimp only
    split
    case h_6 => exact congrArg Except.ok h
    all_goals
      refine map_bind_pure_congr _ fun x ↦ ?_
      simp_all [Parameter.mapSchemas]
  · intro key part value other record hpart hswap
    simp only [RecordKind.parts, List.mem_singleton, Prod.mk.injEq] at hpart
    obtain ⟨rfl, rfl⟩ := hpart
    exact (Schema.readsAlike hchange _).optional.set hswap fun x y hxy ↦ by
      simp only [Parameter.mapSchemas, hxy]

theorem RequestBody.readsAlike :
    ReadsAlike place (.record .requestBody) RequestBody.read (·.mapSchemas change) := by
  refine ReadsAlike.record rfl ?_ ?_
  · rintro ⟨key, value⟩ record another h
    dsimp only
    split
    case h_2 => exact congrArg Except.ok h
    exact map_bind_pure_congr _ fun x ↦ rfl
  · intro key part value other record hpart hswap
    simp only [RecordKind.parts, List.mem_singleton, Prod.mk.injEq] at hpart
    obtain ⟨rfl, rfl⟩ := hpart
    exact (MediaType.readsAlike hchange).table.set hswap fun x y hxy ↦ by
      simp only [RequestBody.mapSchemas, hxy]

theorem Response.readsAlike :
    ReadsAlike place (.record .response) Response.read (·.mapSchemas change) := by
  refine ReadsAlike.record rfl ?_ ?_
  · rintro ⟨key, value⟩ record another h
    dsimp only
    split
    case h_3 => exact congrArg Except.ok h
    all_goals
      refine map_bind_pure_congr _ fun x ↦ ?_
      simp_all [Response.mapSchemas]
  · intro key part value other record hpart hswap
    simp only [RecordKind.parts, List.mem_singleton, Prod.mk.injEq] at hpart
    obtain ⟨rfl, rfl⟩ := hpart
    exact (MediaType.readsAlike hchange).table.set hswap fun x y hxy ↦ by
      simp only [Response.mapSchemas, hxy]

theorem Operation.readsAlike :
    ReadsAlike place (.record .operation) Operation.read (·.mapSchemas change) := by
  refine ReadsAlike.record rfl ?_ ?_
  · rintro ⟨key, value⟩ record another h
    dsimp only
    split
    case h_9 => exact congrArg Except.ok h
    all_goals
      refine map_bind_pure_congr _ fun x ↦ ?_
      simp_all [Operation.mapSchemas]
  · intro key part value other record hpart hswap
    have hparameters := ((Parameter.readsAlike hchange).refOr (by decide)).list
    have hbody := ((RequestBody.readsAlike hchange).refOr (by decide)).optional
    have hresponses := ((Response.readsAlike hchange).refOr (by decide)).table
    simp only [RecordKind.parts, List.mem_cons, List.not_mem_nil, or_false, Prod.mk.injEq] at hpart
    rcases hpart with ⟨rfl, rfl⟩ | ⟨rfl, rfl⟩ | ⟨rfl, rfl⟩
    · exact hparameters.set hswap fun x y hxy ↦ by simp only [Operation.mapSchemas, hxy]
    · exact hbody.set hswap fun x y hxy ↦ by simp only [Operation.mapSchemas, hxy]
    · exact hresponses.set hswap fun x y hxy ↦ by simp only [Operation.mapSchemas, hxy]

theorem PathItem.readsAlike :
    ReadsAlike place (.record .pathItem) PathItem.read (·.mapSchemas change) := by
  refine ReadsAlike.record rfl ?_ ?_
  · rintro ⟨key, value⟩ record another h
    dsimp only
    split
    case h_7 => exact congrArg Except.ok h
    all_goals
      refine map_bind_pure_congr _ fun x ↦ ?_
      simp_all [PathItem.mapSchemas]
  · intro key part value other record hpart hswap
    have hoperation := (Operation.readsAlike hchange).optional
    have hparameters := ((Parameter.readsAlike hchange).refOr (by decide)).list
    simp only [RecordKind.parts, List.mem_cons, List.not_mem_nil, or_false, Prod.mk.injEq] at hpart
    rcases hpart with ⟨rfl, rfl⟩ | ⟨rfl, rfl⟩ | ⟨rfl, rfl⟩ | ⟨rfl, rfl⟩ | ⟨rfl, rfl⟩ | ⟨rfl, rfl⟩
    case inr.inr.inr.inr.inr =>
      exact hparameters.set hswap fun x y hxy ↦ by simp only [PathItem.mapSchemas, hxy]
    all_goals
      exact hoperation.set hswap fun x y hxy ↦ by simp only [PathItem.mapSchemas, hxy]

theorem Components.readsAlike :
    ReadsAlike place (.record .components) Components.read (·.mapSchemas change) := by
  refine ReadsAlike.record rfl ?_ ?_
  · rintro ⟨key, value⟩ record another h
    dsimp only
    split
    case h_5 => exact congrArg Except.ok h
    all_goals
      refine map_bind_pure_congr _ fun x ↦ ?_
      simp_all [Components.mapSchemas]
  · intro key part value other record hpart hswap
    have hschemas := ReadsAlike.table (Schema.readsAlike hchange .shared)
    have hparameters := ((Parameter.readsAlike hchange).refOr (by decide)).table
    have hbodies := ((RequestBody.readsAlike hchange).refOr (by decide)).table
    have hresponses := ((Response.readsAlike hchange).refOr (by decide)).table
    simp only [RecordKind.parts, List.mem_cons, List.not_mem_nil, or_false, Prod.mk.injEq] at hpart
    rcases hpart with ⟨rfl, rfl⟩ | ⟨rfl, rfl⟩ | ⟨rfl, rfl⟩ | ⟨rfl, rfl⟩
    · exact hschemas.set hswap fun x y hxy ↦ by simp only [Components.mapSchemas, hxy]
    · exact hparameters.set hswap fun x y hxy ↦ by simp only [Components.mapSchemas, hxy]
    · exact hbodies.set hswap fun x y hxy ↦ by simp only [Components.mapSchemas, hxy]
    · exact hresponses.set hswap fun x y hxy ↦ by simp only [Components.mapSchemas, hxy]

theorem Document.readsAlike :
    ReadsAlike place (.record .document) Document.read (·.mapSchemas change) := by
  refine ReadsAlike.record rfl ?_ ?_
  · rintro ⟨key, value⟩ record another h
    dsimp only
    split
    case h_6 => exact congrArg Except.ok h
    all_goals
      refine map_bind_pure_congr _ fun x ↦ ?_
      simp_all [Document.mapSchemas]
  · intro key part value other record hpart hswap
    have hpaths := (PathItem.readsAlike hchange).table
    have hcomponents := (Components.readsAlike hchange).optional
    simp only [RecordKind.parts, List.mem_cons, List.not_mem_nil, or_false, Prod.mk.injEq] at hpart
    rcases hpart with ⟨rfl, rfl⟩ | ⟨rfl, rfl⟩
    · exact hpaths.set hswap fun x y hxy ↦ by simp only [Document.mapSchemas, hxy]
    · exact hcomponents.set hswap fun x y hxy ↦ by simp only [Document.mapSchemas, hxy]

end Records

end ApiOutline.OpenApi
