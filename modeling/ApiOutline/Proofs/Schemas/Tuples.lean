import ApiOutline.Outline.TypeRef
import ApiOutline.Proofs.References.Siblings
import ApiOutline.Proofs.Schemas.Lenient

/-!
Items that are a list, one schema for each place. A list is not a schema, so the items of such a
schema are absent, wherever the schema stands, unless the list has as many values as a schema can
have fields: then it is read as the values of the fields in their order (`Schema.read_tuple`), and
the schema has items that nobody wrote (`Schema.not_read_eq_of_eight`).
-/

set_option autoImplicit false
set_option relaxedAutoImplicit false

namespace ApiOutline.OpenApi

/-! ### Lists read as the values of fields -/

/-- A list with a value for each field up to `default`, and for no more fields than there are. -/
def Schema.FitsFields (values : List Json) : Prop := 8 ≤ values.length ∧ values.length ≤ 12

theorem Schema.lengthMismatch?_eq_none_iff {length : ℕ} :
    lengthMismatch? length = none ↔ 8 ≤ length ∧ length ≤ 12 := by
  unfold lengthMismatch?
  split_ifs <;> simp only [false_iff, true_iff] <;> omega

theorem Schema.read_array_of_fits {values : List Json} (h : FitsFields values) :
    read (.array values) = .ok (ofMembers (fieldNames.zip values)) := by
  rw [read, lengthMismatch?_eq_none_iff.mpr h, ofValues_eq_ofMembers]

theorem Schema.read_array_ne_ok {values : List Json} (h : ¬ FitsFields values) (schema : Schema) :
    read (.array values) ≠ .ok schema := by
  obtain ⟨mismatch, hmismatch⟩ :=
    Option.ne_none_iff_exists'.mp (lengthMismatch?_eq_none_iff.not.mpr h)
  simp [read, hmismatch]

/-! ### Schemas within others -/

/-- Two values for a field that are the same but for one of the schemas that the field holds. -/
inductive InField (first second : Json) : String → Json → Json → Prop
  | items : InField first second "items" first second
  | property (name : String) (front back : Members) :
      InField first second "properties" (.object (front ++ (name, first) :: back))
        (.object (front ++ (name, second) :: back))
  | composed {key : String} (hkey : key ∈ composedFields) (front back : List Json) :
      InField first second key (.array (front ++ first :: back)) (.array (front ++ second :: back))

/-- Two values that are the same but for one in place of another, which is the whole of the schema
or, at whatever depth, one that is held by a field. -/
inductive ReplacedWithin (value other : Json) : Json → Json → Prop
  | whole : ReplacedWithin value other value other
  | member {key : String} {first second content another : Json}
      (h : ReplacedWithin value other first second)
      (hfield : InField first second key content another) (before after : Members) :
      ReplacedWithin value other (.object (before ++ (key, content) :: after))
        (.object (before ++ (key, another) :: after))
  /-- A schema that is written as the sequence of the values of its fields. -/
  | place {key : String} {first second content another : Json}
      (h : ReplacedWithin value other first second)
      (hfield : InField first second key content another) (before after : List Json)
      (hname : Schema.fieldNames[before.length]? = some key) :
      ReplacedWithin value other (.array (before ++ content :: after))
        (.array (before ++ another :: after))

variable {value other first second : Json}

theorem InField.read_eq {key : String} {content another : Json}
    (h : InField first second key content another)
    (hread : Schema.read first = Schema.read second) :
    SchemaField.read key content = SchemaField.read key another := by
  rw [SchemaField.read_eq_ofKey, SchemaField.read_eq_ofKey]
  cases h with
  | items => exact congrArg (fun result ↦ SchemaField.items result.toOption) hread
  | property name front back =>
    simp only [SchemaField.ofKey, propertiesOf?, Schema.readMembers_eq_mapM, List.mapM_append,
      List.mapM_cons, hread]
  | composed hkey front back =>
    have hlist : schemasOf? (.array (front ++ first :: back)) =
        schemasOf? (.array (front ++ second :: back)) := by
      simp only [schemasOf?, Schema.readAll_eq_mapM, List.mapM_append, List.mapM_cons, hread]
    simp only [composedFields, List.mem_cons, List.not_mem_nil, or_false] at hkey
    rcases hkey with rfl | rfl | rfl
    · exact congrArg (fun schemas ↦ SchemaField.allOf (schemas.getD [])) hlist
    · exact congrArg (fun schemas ↦ SchemaField.oneOf (schemas.getD [])) hlist
    · exact congrArg (fun schemas ↦ SchemaField.anyOf (schemas.getD [])) hlist

theorem Schema.ofMembers_replace {key : String} {content another : Json}
    (h : SchemaField.read key content = SchemaField.read key another) (before after : Members) :
    ofMembers (before ++ (key, content) :: after) =
      ofMembers (before ++ (key, another) :: after) := by
  induction before with
  | nil => rw [List.nil_append, List.nil_append, ofMembers, ofMembers, h]
  | cons entry before ih =>
    obtain ⟨name, found⟩ := entry
    rw [List.cons_append, List.cons_append, ofMembers, ofMembers, ih]

/-- What is read alike may be replaced wherever it stands. -/
theorem ReplacedWithin.read_eq (h : ReplacedWithin value other first second)
    (hread : Schema.read value = Schema.read other) : Schema.read first = Schema.read second := by
  induction h with
  | whole => exact hread
  | member _ hfield before after ih =>
    rw [Schema.read, Schema.read, Schema.ofMembers_replace (hfield.read_eq ih)]
  | place _ hfield before after hname ih =>
    rw [Schema.read, Schema.read, Schema.ofValues_eq_ofMembers, Schema.ofValues_eq_ofMembers,
      zip_append_cons hname, zip_append_cons hname, Schema.ofMembers_replace (hfield.read_eq ih),
      List.length_append, List.length_append, List.length_cons, List.length_cons]

/-! ### Items that are a list -/

/-- A schema of lists, which refers to no other schema. -/
def Schema.IsArray (schema : Schema) : Prop :=
  schema.ref = none ∧ schema.type.bind SchemaType.name? = some "array"

theorem ofSchema_of_isArray {schema : Schema} (h : schema.IsArray) :
    TypeRef.ofSchema schema = .list (TypeRef.ofSchema? schema.items) := by
  rw [ofSchema_of_plain h.1, h.2, TypeRef.ofName]

namespace Schema

def itemsRule : FieldRule := ⟨"items", _, Schema.items, none, ReadsItems⟩

theorem itemsRule_mem : itemsRule ∈ fieldRules := by simp [fieldRules, itemsRule]

variable {members : Members} {values : List Json}

theorem not_itemsRule_gives (htuple : members.lookup "items" = some (.array values))
    (hfits : ¬ FitsFields values) (items : Option Schema) : ¬ itemsRule.Gives members items := by
  rintro ⟨value, hvalue, hreads⟩
  obtain rfl : Json.array values = value := Option.some.inj (htuple.symm.trans hvalue)
  rcases hreads with ⟨hnull, -⟩ | ⟨schema, hread, -⟩
  · exact nomatch hnull
  · exact read_array_ne_ok hfits schema hread

theorem items_ofMembers_of_fits (htuple : members.lookup "items" = some (.array values))
    (hfits : FitsFields values) :
    (ofMembers members).items = some (ofMembers (fieldNames.zip values)) :=
  (readFrom_ofMembers members itemsRule itemsRule_mem).eq_of_given _
    ⟨_, htuple, .inr ⟨_, read_array_of_fits hfits, rfl⟩⟩

theorem items_ofMembers_of_none (hnone : ∀ items, ¬ itemsRule.Gives members items) :
    (ofMembers members).items = none :=
  (readFrom_ofMembers members itemsRule itemsRule_mem).eq_absent hnone

theorem items_ofMembers_filter (members : Members) :
    (ofMembers (members.filter (·.1 ≠ "items"))).items = none :=
  items_ofMembers_of_none fun _ ⟨_, hvalue, _⟩ ↦
    nomatch (Entries.lookup_filter_self members "items").symm.trans hvalue

/-- Items that are a list of fewer than eight values, or of more than twelve, may as well be left
out, wherever the schema stands. A list of another length is read as the values of the fields, so
that the schema has items. -/
theorem read_tuple (members : Members) (values : List Json)
    (htuple : members.lookup "items" = some (.array values)) :
    let plain : Json := .object (members.filter (·.1 ≠ "items"))
    (read (.object members) = read plain ↔ ¬ FitsFields values) ∧
      (¬ FitsFields values →
        (∃ schema, read (.object members) = .ok schema ∧ schema.items = none ∧
          (schema.IsArray → TypeRef.ofSchema schema = .list .jsonElement)) ∧
        ∀ first second, ReplacedWithin (.object members) plain first second →
          read first = read second) ∧
      (FitsFields values →
        ∃ schema item, read (.object members) = .ok schema ∧
          read (.object (fieldNames.zip values)) = .ok item ∧ schema.items = some item ∧
          (schema.IsArray → TypeRef.ofSchema schema = .list (TypeRef.ofSchema item))) := by
  intro plain
  have hread (others : Members) : read (.object others) = .ok (ofMembers others) := by rw [read]
  have hsame (hfits : ¬ FitsFields values) : read (.object members) = read plain := by
    rw [hread, hread]
    exact congrArg Except.ok
      (ofMembers_filter_ne itemsRule_mem (not_itemsRule_gives htuple hfits)).symm
  refine ⟨⟨fun hsame hfits ↦ ?_, hsame⟩,
    fun hfits ↦ ⟨?_, fun first second h ↦ h.read_eq (hsame hfits)⟩,
    fun hfits ↦ ?_⟩
  · -- The items tell the two apart, as there are none without the member.
    rw [hread, hread] at hsame
    have hitems := items_ofMembers_of_fits htuple hfits
    rw [Except.ok.inj hsame, items_ofMembers_filter] at hitems
    exact Option.some_ne_none _ hitems.symm
  · have hitems := items_ofMembers_of_none (not_itemsRule_gives htuple hfits)
    refine ⟨_, hread members, hitems, fun harray ↦ ?_⟩
    rw [ofSchema_of_isArray harray, hitems, TypeRef.ofSchema?]
  · have hitems := items_ofMembers_of_fits htuple hfits
    refine ⟨_, _, hread members, hread _, hitems, fun harray ↦ ?_⟩
    rw [ofSchema_of_isArray harray, hitems, TypeRef.ofSchema?]

/-- A pair in a property of a schema in a composition. -/
theorem read_tuple_pair :
    let pair : Members :=
      [("type", .string "array"), ("items", .array [.object [("type", .string "string")], .null])]
    let around (tags : Json) : Json :=
      .object [("allOf", .array [.object [], .object [("properties", .object [("tags", tags)])]])]
    pair.lookup "items" = some (.array [.object [("type", .string "string")], .null]) ∧
      (read (.object pair)).map TypeRef.ofSchema = .ok (.list .jsonElement) ∧
      read (around (.object pair)) = read (around (.object [("type", .string "array")])) := by
  intro pair around
  have hpair : ¬ FitsFields [.object [("type", .string "string")], .null] := by
    rintro ⟨hlength, -⟩
    exact absurd hlength (by decide)
  obtain ⟨-, habsent, -⟩ := read_tuple pair _ rfl
  obtain ⟨⟨schema, hread, -, htype⟩, hwithin⟩ := habsent hpair
  refine ⟨rfl, ?_, ?_⟩
  · obtain rfl : ofMembers pair = schema := Except.ok.inj hread
    exact congrArg Except.ok (htype ⟨rfl, rfl⟩)
  · exact hwithin _ _ (.member (.member .whole (.property "tags" [] []) [] [])
      (.composed (by decide) [.object []] []) [] [])

/-- Eight values in a list give the schema items: the second value is what they refer to. -/
theorem not_read_eq_of_eight :
    let names : List String :=
      ["string", "integer", "number", "boolean", "string", "integer", "number", "boolean"]
    let members : Members := [("type", .string "array"), ("items", .array (names.map .string))]
    members.lookup "items" = some (.array (names.map .string)) ∧
      read (.object members) ≠ read (.object (members.filter (·.1 ≠ "items"))) ∧
      (read (.object members)).map TypeRef.ofSchema = .ok (.list (.reference "integer")) := by
  intro names members
  have htype : (read (.object members)).map TypeRef.ofSchema = .ok (.list (.reference "integer")) :=
    rfl
  have hplain : (read (.object (members.filter (·.1 ≠ "items")))).map TypeRef.ofSchema =
      .ok (.list .jsonElement) := rfl
  refine ⟨rfl, fun hsame ↦ ?_, htype⟩
  rw [hsame, hplain] at htype
  exact nomatch htype

end Schema

end ApiOutline.OpenApi
