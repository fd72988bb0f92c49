import ApiOutline.OpenApi.Structure
import ApiOutline.OpenApi.Schema
import ApiOutline.Proofs.Entries
import Mathlib.Data.List.Forall2

/-!
How lenient the reading of a schema is. Every object is a schema, and of its members one under the
key of each field counts. A field has a form, and a value that has this form gives the field its
content, all of it; without such a value the field is absent (`Schema.readFrom_ofMembers`). So
objects that give the same contents are the same schema (`Schema.ofMembers_congr`).
-/

set_option autoImplicit false
set_option relaxedAutoImplicit false

namespace ApiOutline.OpenApi

/-! ### The forms of fields -/

def ReadsText (value : Json) (text : Option String) : Prop := value = Json.ofOption .string text

def ReadsNames (value : Json) (names : List String) : Prop := value = .array (names.map .string)

def ReadsLiterals (value : Json) (literals : List Json) : Prop := value = .array literals

/-- Any value but `null`, which says nothing. -/
def ReadsDefault (value : Json) (literal : Option Json) : Prop :=
  value = .null ∧ literal = none ∨ value ≠ .null ∧ literal = some value

/-- A name, alternatives, or anything else, which is kept as it is. -/
inductive ReadsType : Json → Option SchemaType → Prop
  | absent : ReadsType .null none
  | single (name : String) : ReadsType (.string name) (some (.single name))
  | multiple (names : List String) :
      ReadsType (.array (names.map .string)) (some (.multiple names))
  | other {value : Json} (hnull : value ≠ .null) (hsingle : ∀ name, value ≠ .string name)
      (hmultiple : ∀ names : List String, value ≠ .array (names.map .string)) :
      ReadsType value (some (.other value))

def ReadsItems (value : Json) (items : Option Schema) : Prop :=
  value = .null ∧ items = none ∨ ∃ schema, Schema.read value = .ok schema ∧ items = some schema

/-- A list with a schema for each item. -/
def ReadsSchemas (value : Json) (schemas : List Schema) : Prop :=
  ∃ items, value = .array items ∧
    List.Forall₂ (fun item schema ↦ Schema.read item = .ok schema) items schemas

/-- An object with a schema for each member. -/
def ReadsProperties (value : Json) (properties : List (String × Schema)) : Prop :=
  ∃ members, value = .object members ∧
    List.Forall₂ (fun member property ↦
      member.1 = property.1 ∧ Schema.read member.2 = .ok property.2) members properties

/-- A field of a schema: its key, its content, the content without a value for it, and what it is
for a value to have the form of the field. -/
structure FieldRule where
  key : String
  Content : Type
  content : Schema → Content
  absent : Content
  Reads : Json → Content → Prop

/-- The fields in the order of their declaration. -/
def Schema.fieldRules : List FieldRule :=
  [⟨"type", _, Schema.type, none, ReadsType⟩,
    ⟨"$ref", _, Schema.ref, none, ReadsText⟩,
    ⟨"format", _, Schema.format, none, ReadsText⟩,
    ⟨"description", _, Schema.description, none, ReadsText⟩,
    ⟨"properties", _, Schema.properties, [], ReadsProperties⟩,
    ⟨"required", _, Schema.required, [], ReadsNames⟩,
    ⟨"items", _, Schema.items, none, ReadsItems⟩,
    ⟨"default", _, Schema.default, none, ReadsDefault⟩,
    ⟨"enum", _, Schema.enum, [], ReadsLiterals⟩,
    ⟨"allOf", _, Schema.allOf, [], ReadsSchemas⟩,
    ⟨"oneOf", _, Schema.oneOf, [], ReadsSchemas⟩,
    ⟨"anyOf", _, Schema.anyOf, [], ReadsSchemas⟩]

theorem Schema.map_key_fieldRules : fieldRules.map FieldRule.key = fieldNames := rfl

/-- A schema is told by the contents of its fields. -/
theorem Schema.eq_of_contents {schema other : Schema}
    (h : ∀ rule ∈ fieldRules, rule.content schema = rule.content other) : schema = other := by
  cases schema
  cases other
  simpa [fieldRules] using h

/-! ### Lists in which every item can be read -/

theorem mapM_eq_some_iff {α β : Type} {read : α → Option β} {items : List α} {contents : List β} :
    items.mapM read = some contents ↔
      List.Forall₂ (fun item content ↦ read item = some content) items contents := by
  induction items generalizing contents with
  | nil => simp [List.forall₂_nil_left_iff, eq_comm]
  | cons item items ih =>
    simp only [List.mapM_cons, Option.bind_eq_bind, Option.bind_eq_some_iff, ih,
      List.forall₂_cons_left_iff, Option.pure_def, Option.some.injEq]
    constructor
    · rintro ⟨content, hitem, rest, hrest, rfl⟩
      exact ⟨content, rest, hitem, hrest, rfl⟩
    · rintro ⟨content, rest, hitem, hrest, rfl⟩
      exact ⟨content, hitem, rest, hrest, rfl⟩

theorem toOption_eq_some_iff {ε α : Type} {result : Except ε α} {value : α} :
    result.toOption = some value ↔ result = .ok value := by
  cases result <;> simp [Except.toOption]

theorem stringOf?_eq_some_iff {value : Json} {text : String} :
    stringOf? value = some text ↔ value = .string text := by
  cases value <;> simp [stringOf?]

theorem stringsOf?_eq_some_iff {value : Json} {names : List String} :
    stringsOf? value = some names ↔ ReadsNames value names := by
  cases value with
  | array items =>
    simp only [stringsOf?, mapM_eq_some_iff, stringOf?_eq_some_iff, ReadsNames, Json.array.injEq]
    rw [← List.forall₂_map_right_iff, List.forall₂_eq_eq_eq]
  | _ => simp [stringsOf?, ReadsNames]

theorem Schema.readAll_eq_mapM (values : List Json) :
    readAll values = values.mapM fun value ↦ (Schema.read value).toOption := by
  induction values with
  | nil => rfl
  | cons value values ih =>
    rw [readAll, List.mapM_cons, ← ih]
    cases Schema.read value <;> cases readAll values <;> rfl

theorem Schema.readMembers_eq_mapM (members : Members) :
    readMembers members = members.mapM fun member ↦
      (Schema.read member.2).toOption.map (Prod.mk member.1) := by
  induction members with
  | nil => rfl
  | cons member members ih =>
    obtain ⟨key, value⟩ := member
    rw [readMembers, List.mapM_cons, ← ih]
    cases Schema.read value <;> cases readMembers members <;> rfl

/-! ### Reading one field -/

/-- The content that a field takes is the one that it is given, and without one it is absent. -/
structure Takes {β : Type} (given : β → Prop) (absent content : β) : Prop where
  eq_of_given : ∀ other, given other → content = other
  eq_absent : (∀ other, ¬ given other) → content = absent

section Takes

variable {β : Type} {given otherGiven : β → Prop} {absent content other : β}

theorem Takes.congr (h : Takes given absent content)
    (hgiven : ∀ other, given other ↔ otherGiven other) :
    Takes otherGiven absent content where
  eq_of_given other hother := h.eq_of_given other ((hgiven other).mpr hother)
  eq_absent hnone := h.eq_absent fun other ↦ (hgiven other).not.mpr (hnone other)

theorem Takes.unique (h : Takes given absent content) (hother : Takes given absent other) :
    content = other := by
  by_cases hsome : ∃ taken, given taken
  · obtain ⟨taken, htaken⟩ := hsome
    rw [h.eq_of_given taken htaken, hother.eq_of_given taken htaken]
  · rw [h.eq_absent (not_exists.mp hsome), hother.eq_absent (not_exists.mp hsome)]

theorem takes_getD {read : Option β} (h : ∀ content, read = some content ↔ given content)
    (absent : β) : Takes given absent (read.getD absent) where
  eq_of_given other hother := by rw [(h other).mpr hother, Option.getD_some]
  eq_absent hnone := by
    rw [Option.eq_none_iff_forall_ne_some.mpr fun content hcontent ↦
      hnone content ((h content).mp hcontent), Option.getD_none]

end Takes

/-! The contents that values of each form give, as they are computed. -/

def literalOf? : Json → Option Json
  | .null => none
  | value => some value

def literalsOf? : Json → Option (List Json)
  | .array values => some values
  | _ => none

def schemasOf? : Json → Option (List Schema)
  | .array values => Schema.readAll values
  | _ => none

def propertiesOf? : Json → Option (List (String × Schema))
  | .object members => Schema.readMembers members
  | _ => none

theorem takes_text (value : Json) : Takes (ReadsText value) none (stringOf? value) := by
  constructor
  · rintro (_ | text) rfl <;> rfl
  · intro hnone
    cases value with
    | string text => exact absurd rfl (hnone (some text))
    | _ => rfl

theorem takes_names (value : Json) : Takes (ReadsNames value) [] ((stringsOf? value).getD []) :=
  takes_getD (fun _ ↦ stringsOf?_eq_some_iff) []

theorem takes_literals (value : Json) :
    Takes (ReadsLiterals value) [] ((literalsOf? value).getD []) := by
  refine takes_getD (fun literals ↦ ?_) []
  cases value <;> simp [literalsOf?, ReadsLiterals]

theorem takes_default (value : Json) : Takes (ReadsDefault value) none (literalOf? value) := by
  constructor
  · rintro literal (⟨rfl, rfl⟩ | ⟨hnull, rfl⟩)
    · rfl
    · cases value with
      | null => exact absurd rfl hnull
      | _ => rfl
  · intro hnone
    cases value with
    | null => rfl
    | _ => exact absurd (.inr ⟨nofun, rfl⟩) (hnone _)

/-- There is no value that has not the form of a type. -/
theorem exists_readsType (value : Json) : ∃ type, ReadsType value type := by
  by_cases hnull : value = .null
  · exact ⟨none, hnull ▸ ReadsType.absent⟩
  by_cases hsingle : ∃ name, value = .string name
  · obtain ⟨name, rfl⟩ := hsingle
    exact ⟨_, .single name⟩
  by_cases hmultiple : ∃ names : List String, value = .array (names.map .string)
  · obtain ⟨names, rfl⟩ := hmultiple
    exact ⟨_, .multiple names⟩
  · exact ⟨_, .other hnull (not_exists.mp hsingle) (not_exists.mp hmultiple)⟩

theorem takes_type (value : Json) : Takes (ReadsType value) none (schemaTypeOf? value) := by
  have hreads : ∀ type, ReadsType value type → schemaTypeOf? value = type := by
    rintro _ (_ | name | names | ⟨hnull, hsingle, hmultiple⟩)
    · rfl
    · rfl
    · rw [schemaTypeOf?, stringsOf?_eq_some_iff.mpr rfl]
      all_goals nofun
    · rw [schemaTypeOf?, Option.eq_none_iff_forall_ne_some.mpr fun names hnames ↦
        hmultiple names (stringsOf?_eq_some_iff.mp hnames)]
      · exact hnull
      · exact hsingle
  refine ⟨hreads, fun hnone ↦ ?_⟩
  obtain ⟨type, htype⟩ := exists_readsType value
  exact absurd htype (hnone type)

theorem takes_items (value : Json) :
    Takes (ReadsItems value) none (Schema.read value).toOption := by
  constructor
  · rintro items (⟨rfl, rfl⟩ | ⟨schema, hread, rfl⟩)
    · rfl
    · exact toOption_eq_some_iff.mpr hread
  · intro hnone
    refine Option.eq_none_iff_forall_ne_some.mpr fun schema hschema ↦ ?_
    exact hnone _ (.inr ⟨schema, toOption_eq_some_iff.mp hschema, rfl⟩)

theorem takes_schemas (value : Json) :
    Takes (ReadsSchemas value) [] ((schemasOf? value).getD []) := by
  refine takes_getD (fun schemas ↦ ?_) []
  cases value with
  | array items =>
    simp only [schemasOf?, Schema.readAll_eq_mapM, mapM_eq_some_iff, toOption_eq_some_iff,
      ReadsSchemas, Json.array.injEq, exists_eq_left']
  | _ => simp [schemasOf?, ReadsSchemas]

theorem takes_properties (value : Json) :
    Takes (ReadsProperties value) [] ((propertiesOf? value).getD []) := by
  refine takes_getD (fun schemas ↦ ?_) []
  cases value with
  | object members =>
    simp only [propertiesOf?, Schema.readMembers_eq_mapM, mapM_eq_some_iff, Option.map_eq_some_iff,
      toOption_eq_some_iff, ReadsProperties, Json.object.injEq, exists_eq_left', Prod.ext_iff,
      exists_eq_right_right]
    simp only [and_comm]
  | _ => simp [propertiesOf?, ReadsProperties]

/-! ### Reading all fields -/

/-- A value read for the field of a key, whatever kind of value it is. -/
def SchemaField.ofKey (key : String) (value : Json) : SchemaField :=
  match key with
  | "type" => .type (schemaTypeOf? value)
  | "$ref" => .ref (stringOf? value)
  | "format" => .format (stringOf? value)
  | "description" => .description (stringOf? value)
  | "properties" => .properties ((propertiesOf? value).getD [])
  | "required" => .required ((stringsOf? value).getD [])
  | "items" => .items (Schema.read value).toOption
  | "default" => .default (literalOf? value)
  | "enum" => .enum ((literalsOf? value).getD [])
  | "allOf" => .allOf ((schemasOf? value).getD [])
  | "oneOf" => .oneOf ((schemasOf? value).getD [])
  | "anyOf" => .anyOf ((schemasOf? value).getD [])
  | _ => .unknown

theorem SchemaField.read_eq_ofKey (key : String) (value : Json) :
    read key value = ofKey key value := by
  unfold ofKey
  split
  case h_7 =>
    cases value with
    | array values =>
      rw [SchemaField.read, Schema.read]
      cases Schema.lengthMismatch? values.length <;> rfl
    | _ => rfl
  case h_13 => cases value <;> simp_all [SchemaField.read, plainField]
  all_goals cases value <;> rfl

theorem Schema.content_set_ofKey_of_ne {rule : FieldRule} (hrule : rule ∈ fieldRules) {key : String}
    (hkey : rule.key ≠ key) (schema : Schema) (value : Json) :
    rule.content (schema.set (SchemaField.ofKey key value)) = rule.content schema := by
  simp only [fieldRules, List.mem_cons, List.not_mem_nil, or_false] at hrule
  unfold SchemaField.ofKey
  split <;>
    rcases hrule with rfl | rfl | rfl | rfl | rfl | rfl | rfl | rfl | rfl | rfl | rfl | rfl <;>
    first | rfl | exact absurd rfl hkey

theorem Schema.takes_set_ofKey {rule : FieldRule} (hrule : rule ∈ fieldRules) (schema : Schema)
    (value : Json) : Takes (rule.Reads value) rule.absent
      (rule.content (schema.set (SchemaField.ofKey rule.key value))) := by
  simp only [fieldRules, List.mem_cons, List.not_mem_nil, or_false] at hrule
  rcases hrule with rfl | rfl | rfl | rfl | rfl | rfl | rfl | rfl | rfl | rfl | rfl | rfl
  · exact takes_type value
  · exact takes_text value
  · exact takes_text value
  · exact takes_text value
  · exact takes_properties value
  · exact takes_names value
  · exact takes_items value
  · exact takes_default value
  · exact takes_literals value
  · exact takes_schemas value
  · exact takes_schemas value
  · exact takes_schemas value

theorem Schema.read_object (members : Members) :
    read (.object members) = .ok (ofMembers members) :=
  rfl

/-- A sequence gives the values of the fields in their order. -/
theorem Schema.ofValues_eq_ofMembers (keys : List String) (values : List Json) :
    ofValues keys values = ofMembers (keys.zip values) := by
  induction keys generalizing values with
  | nil => simp [ofMembers, ofValues]
  | cons key keys ih =>
    cases values with
    | nil => simp [ofMembers, ofValues]
    | cons value values => rw [List.zip_cons_cons, ofMembers, ofValues, ih]

/-- The member under the key of a field gives it a content. -/
def FieldRule.Gives (rule : FieldRule) (members : Members) (content : rule.Content) : Prop :=
  ∃ value, members.lookup rule.key = some value ∧ rule.Reads value content

/-- The fields of a schema take what some members give them. -/
def Schema.ReadFrom (schema : Schema) (members : Members) : Prop :=
  ∀ rule ∈ fieldRules, Takes (rule.Gives members) rule.absent (rule.content schema)

theorem Schema.content_blank : ∀ rule ∈ fieldRules, rule.content blank = rule.absent := by
  simp [fieldRules, blank]

/-- Among members with one key the first counts. -/
theorem Schema.readFrom_ofMembers (members : Members) : (ofMembers members).ReadFrom members := by
  intro rule hrule
  induction members with
  | nil =>
    have hnone : ∀ content, ¬ rule.Gives [] content := by
      rintro content ⟨value, hvalue, -⟩
      exact nomatch hvalue
    exact ⟨fun content hcontent ↦ absurd hcontent (hnone content),
      fun _ ↦ content_blank rule hrule⟩
  | cons member members ih =>
    obtain ⟨key, value⟩ := member
    -- The member in front is set last: it decides the field of its key, and no other.
    rw [ofMembers, SchemaField.read_eq_ofKey]
    by_cases hkey : rule.key = key
    · subst hkey
      refine (takes_set_ofKey hrule (ofMembers members) value).congr fun content ↦ ?_
      simp only [FieldRule.Gives, List.lookup_cons_self, Option.some.injEq, exists_eq_left']
    · rw [content_set_ofKey_of_ne hrule hkey]
      refine ih.congr fun content ↦ ?_
      rw [FieldRule.Gives, FieldRule.Gives, List.lookup_cons, beq_eq_false_iff_ne.mpr hkey]

/-- Members that give each field the same are read as the same schema. -/
theorem Schema.ofMembers_congr {members others : Members}
    (h : ∀ rule ∈ fieldRules, ∀ content, rule.Gives members content ↔ rule.Gives others content) :
    ofMembers members = ofMembers others :=
  eq_of_contents fun rule hrule ↦ (readFrom_ofMembers members rule hrule).unique
    ((readFrom_ofMembers others rule hrule).congr fun content ↦ (h rule hrule content).symm)

theorem FieldRule.gives_congr {rule : FieldRule} {members others : Members}
    (h : others.lookup rule.key = members.lookup rule.key) (content : rule.Content) :
    rule.Gives members content ↔ rule.Gives others content := by
  rw [Gives, Gives, h]

theorem Schema.content_congr {rule : FieldRule} (hrule : rule ∈ fieldRules)
    {members others : Members}
    (h : members.lookup rule.key = others.lookup rule.key) :
    rule.content (ofMembers members) = rule.content (ofMembers others) :=
  (readFrom_ofMembers members rule hrule).unique
    ((readFrom_ofMembers others rule hrule).congr (FieldRule.gives_congr h))

/-- A field that may be absent has a content if the member under its key has the form for it. -/
theorem Schema.content_eq_some_iff {members : Members} {β : Type} {key : String}
    {content : Schema → Option β} {Reads : Json → Option β → Prop}
    (hrule : ⟨key, Option β, content, none, Reads⟩ ∈ fieldRules) {found : β} :
    content (ofMembers members) = some found ↔
      ∃ value, members.lookup key = some value ∧ Reads value (some found) := by
  have htakes := readFrom_ofMembers members _ hrule
  refine ⟨fun hfound ↦ ?_, fun hgiven ↦ htakes.eq_of_given _ hgiven⟩
  by_cases hsome : ∃ given, FieldRule.Gives ⟨key, Option β, content, none, Reads⟩ members given
  · obtain ⟨given, hgiven⟩ := hsome
    obtain rfl : given = some found := (htakes.eq_of_given given hgiven).symm.trans hfound
    exact hgiven
  · exact nomatch (htakes.eq_absent (not_exists.mp hsome)).symm.trans hfound

theorem Schema.text_eq_some_iff {members : Members} {key : String}
    {content : Schema → Option String}
    (hrule : ⟨key, Option String, content, none, ReadsText⟩ ∈ fieldRules) {text : String} :
    content (ofMembers members) = some text ↔ members.lookup key = some (.string text) := by
  rw [content_eq_some_iff hrule]
  exact exists_eq_right

/-- Members under a key that give the field of this key nothing may as well be left out. -/
theorem FieldRule.gives_filter_ne {rule : FieldRule} {members : Members} {key : String}
    (h : rule.key = key → ∀ content, ¬ rule.Gives members content) (content : rule.Content) :
    rule.Gives members content ↔ rule.Gives (members.filter (·.1 ≠ key)) content := by
  by_cases hkey : rule.key = key
  · have hnone : ¬ rule.Gives (members.filter (·.1 ≠ key)) content := by
      rintro ⟨value, hvalue, -⟩
      rw [hkey, Entries.lookup_filter_self] at hvalue
      exact nomatch hvalue
    exact iff_of_false (h hkey content) hnone
  · exact gives_congr (Entries.lookup_filter_ne members hkey) content

/-- There is one rule for each key. -/
theorem Schema.fieldRule_eq_of_key {rule another : FieldRule} (hrule : rule ∈ fieldRules)
    (hanother : another ∈ fieldRules) (hkey : rule.key = another.key) : rule = another :=
  List.inj_on_of_nodup_map (by rw [map_key_fieldRules]; decide) hrule hanother hkey

theorem Schema.key_mem_fieldNames {rule : FieldRule} (hrule : rule ∈ fieldRules) :
    rule.key ∈ fieldNames :=
  map_key_fieldRules ▸ List.mem_map_of_mem hrule

theorem Schema.ofMembers_filter_ne {rule : FieldRule} (hrule : rule ∈ fieldRules)
    {members : Members} (hnone : ∀ content, ¬ rule.Gives members content) :
    ofMembers (members.filter (·.1 ≠ rule.key)) = ofMembers members := by
  refine ofMembers_congr fun another hanother content ↦ ?_
  refine (FieldRule.gives_filter_ne (fun hkey ↦ ?_) content).symm
  obtain rfl := fieldRule_eq_of_key hanother hrule hkey
  exact hnone

/-- Every object is read as a schema, whose fields have the contents that its members give them. A
field has the same content in all objects with the same member under its key, so members under other
keys than those of fields have no effect, and a member that has not the form of its field has no
effect either. -/
theorem Schema.read_object_lenient (members : Members) :
    ∃ schema, read (.object members) = .ok schema ∧ schema.ReadFrom members ∧
      (∀ rule ∈ fieldRules, ∀ (others : Members) (other : Schema),
        read (.object others) = .ok other →
        others.lookup rule.key = members.lookup rule.key →
        rule.content other = rule.content schema) ∧
      (∀ others : Members,
        (∀ key ∈ fieldNames, others.lookup key = members.lookup key) →
        read (.object others) = .ok schema) ∧
      ∀ rule ∈ fieldRules, (∀ content, ¬ rule.Gives members content) →
        read (.object (members.filter (·.1 ≠ rule.key))) = .ok schema := by
  have hread (others : Members) : read (.object others) = .ok (ofMembers others) := by rw [read]
  refine ⟨ofMembers members, hread members, readFrom_ofMembers members, ?_, ?_, ?_⟩
  · intro rule hrule others other hother hlookup
    obtain rfl : ofMembers others = other := Except.ok.inj ((hread others).symm.trans hother)
    exact (readFrom_ofMembers others rule hrule).unique
      ((readFrom_ofMembers members rule hrule).congr (FieldRule.gives_congr hlookup))
  · intro others hlookup
    rw [hread, ofMembers_congr fun rule hrule content ↦
      (FieldRule.gives_congr (hlookup rule.key (key_mem_fieldNames hrule)) content).symm]
  · intro rule hrule hnone
    rw [hread, ofMembers_filter_ne hrule hnone]

/-- A flag in place of the required names has no effect, nor has a composition in which one of two
values is no schema, nor a member that is of no field. -/
theorem Schema.read_object_lenient_flag :
    let members : Members :=
      [("required", .bool true), ("properties", .object [("name", .object [])]),
        ("allOf", .array [.object [], .bool true])]
    ∃ schema, read (.object members) = .ok schema ∧ schema.required = [] ∧ schema.allOf = [] ∧
      schema.properties = [("name", blank)] ∧
      read (.object (members.filter (·.1 ≠ "required"))) = .ok schema ∧
      read (.object (members.filter (·.1 ≠ "allOf"))) = .ok schema ∧
      read (.object (("nullable", .bool true) :: members)) = .ok schema := by
  intro members
  obtain ⟨schema, hread, hfrom, -, hunknown, hlenient⟩ := read_object_lenient members
  let required : FieldRule := ⟨"required", _, Schema.required, [], ReadsNames⟩
  let allOf : FieldRule := ⟨"allOf", _, Schema.allOf, [], ReadsSchemas⟩
  let properties : FieldRule := ⟨"properties", _, Schema.properties, [], ReadsProperties⟩
  have hrequired : required ∈ fieldRules := by simp [fieldRules, required]
  have hallOf : allOf ∈ fieldRules := by simp [fieldRules, allOf]
  have hproperties : properties ∈ fieldRules := by simp [fieldRules, properties]
  have hflag : ∀ names, ¬ required.Gives members names := by
    rintro names ⟨value, hvalue, hreads⟩
    obtain rfl : Json.bool true = value := Option.some.inj hvalue
    exact nomatch hreads
  have hcomposed : ∀ schemas, ¬ allOf.Gives members schemas := by
    rintro schemas ⟨value, hvalue, items, hitems, hread⟩
    obtain rfl : Json.array [.object [], .bool true] = value := Option.some.inj hvalue
    obtain rfl := Json.array.inj hitems
    obtain - | ⟨-, - | ⟨hlast, -⟩⟩ := hread
    cases hlast
  have hgiven : properties.Gives members [("name", blank)] := by
    refine ⟨_, rfl, _, rfl, .cons ⟨rfl, ?_⟩ .nil⟩
    rw [read, ofMembers]
  refine ⟨schema, hread, (hfrom required hrequired).eq_absent hflag,
    (hfrom allOf hallOf).eq_absent hcomposed, (hfrom properties hproperties).eq_of_given _ hgiven,
    hlenient required hrequired hflag, hlenient allOf hallOf hcomposed,
    hunknown _ fun key hkey ↦ ?_⟩
  have hne : key ≠ "nullable" := by
    rintro rfl
    revert hkey
    decide
  rw [List.lookup_cons, beq_eq_false_iff_ne.mpr hne]

end ApiOutline.OpenApi
