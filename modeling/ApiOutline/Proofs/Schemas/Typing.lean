import ApiOutline.Proofs.References.LastSegment
import ApiOutline.Proofs.Schemas.Tuples

/-!
The types that objects stand for. `StandsFor` gives the type by the members of a schema as they are
written, with one clause for each type: a reference by a string under `$ref`, and otherwise by the
name under `type`, the format of a number and the items of a list. It is the type of the schema that
is read from these members, for all of them (`standsFor_iff`). No clause looks at other members, so
the type does not depend on them, in the items of a list as little as on the outside
(`AgreeOnType.ofSchema_eq`).
-/

set_option autoImplicit false
set_option relaxedAutoImplicit false

namespace ApiOutline.OpenApi

/-! ### Schemas as they are written -/

/-- The members of a schema as it is written: those of an object, or the values of the fields in
their order. -/
inductive WrittenAs : Json → Members → Prop
  | object (members : Members) : WrittenAs (.object members) members
  | sequence {values : List Json} (hfits : Schema.FitsFields values) :
      WrittenAs (.array values) (Schema.fieldNames.zip values)

theorem Schema.read_eq_ok_iff {value : Json} {schema : Schema} :
    read value = .ok schema ↔ ∃ members, WrittenAs value members ∧ ofMembers members = schema := by
  constructor
  · intro hread
    cases value with
    | object members =>
      rw [read_object] at hread
      exact ⟨members, .object members, Except.ok.inj hread⟩
    | array values =>
      by_cases hfits : FitsFields values
      · rw [read_array_of_fits hfits] at hread
        exact ⟨_, .sequence hfits, Except.ok.inj hread⟩
      · exact absurd hread (read_array_ne_ok hfits schema)
    | _ => simp [read] at hread
  · rintro ⟨_, _ | hfits, rfl⟩
    · exact read_object _
    · exact read_array_of_fits hfits

/-- The name that a value under `type` gives: the string itself, or among alternatives the first
that is not `null`. -/
inductive NamesType : Json → String → Prop
  | single (name : String) : NamesType (.string name) name
  | alternative (nulls : ℕ) {name : String} (hname : name ≠ "null") (others : List String) :
      NamesType (.array ((List.replicate nulls "null" ++ name :: others).map .string)) name

def NoReference (members : Members) : Prop :=
  ∀ path, members.lookup "$ref" ≠ some (.string path)

def HasType (members : Members) (name : String) : Prop :=
  ∃ value, members.lookup "type" = some value ∧ NamesType value name

def HasFormat (members : Members) (format : String) : Prop :=
  members.lookup "format" = some (.string format)

/-- The items are a schema with the given members. -/
def HasItems (members inner : Members) : Prop :=
  ∃ value, members.lookup "items" = some value ∧ WrittenAs value inner

/-- The type that a schema with some members stands for. -/
inductive StandsFor : Members → TypeRef → Prop
  | reference {members : Members} {path name : String}
      (href : members.lookup "$ref" = some (.string path)) (hname : IsLastSegment name path) :
      StandsFor members (.reference name)
  | string {members : Members} (hplain : NoReference members) (htype : HasType members "string") :
      StandsFor members (.primitive .string)
  | long {members : Members} (hplain : NoReference members) (htype : HasType members "integer")
      (hformat : HasFormat members "int64") : StandsFor members (.primitive .long)
  | int {members : Members} (hplain : NoReference members) (htype : HasType members "integer")
      (hformat : ¬ HasFormat members "int64") : StandsFor members (.primitive .int)
  | float {members : Members} (hplain : NoReference members) (htype : HasType members "number")
      (hformat : HasFormat members "float") : StandsFor members (.primitive .float)
  | double {members : Members} (hplain : NoReference members) (htype : HasType members "number")
      (hformat : ¬ HasFormat members "float") : StandsFor members (.primitive .double)
  | boolean {members : Members} (hplain : NoReference members) (htype : HasType members "boolean") :
      StandsFor members (.primitive .boolean)
  | list {members inner : Members} {item : TypeRef} (hplain : NoReference members)
      (htype : HasType members "array") (hitems : HasItems members inner)
      (hitem : StandsFor inner item) : StandsFor members (.list item)
  | untypedList {members : Members} (hplain : NoReference members)
      (htype : HasType members "array") (hitems : ∀ inner, ¬ HasItems members inner) :
      StandsFor members (.list .jsonElement)
  | other {members : Members} (hplain : NoReference members)
      (htype : ∀ name ∈ ["string", "integer", "number", "boolean", "array"],
        ¬ HasType members name) :
      StandsFor members .jsonElement

/-! ### The fields that give a type -/

namespace Schema

variable {members : Members}

theorem format_ofMembers_eq_some_iff {format : String} :
    (ofMembers members).format = some format ↔ HasFormat members format :=
  text_eq_some_iff (by simp [fieldRules])

theorem ref_ofMembers_eq_none_iff : (ofMembers members).ref = none ↔ NoReference members := by
  rw [Option.eq_none_iff_forall_ne_some]
  exact forall_congr' fun path ↦ ref_ofMembers_eq_some_iff.not

theorem items_ofMembers_eq_some_iff {item : Schema} :
    (ofMembers members).items = some item ↔
      ∃ inner, HasItems members inner ∧ ofMembers inner = item := by
  rw [content_eq_some_iff itemsRule_mem]
  constructor
  · rintro ⟨value, hvalue, ⟨-, hnone⟩ | ⟨schema, hread, hschema⟩⟩
    · exact nomatch hnone
    · obtain rfl := Option.some.inj hschema
      obtain ⟨inner, hwritten, hinner⟩ := read_eq_ok_iff.mp hread
      exact ⟨inner, ⟨value, hvalue, hwritten⟩, hinner⟩
  · rintro ⟨inner, ⟨value, hvalue, hwritten⟩, hinner⟩
    exact ⟨value, hvalue, .inr ⟨item, read_eq_ok_iff.mpr ⟨inner, hwritten, hinner⟩, rfl⟩⟩

theorem items_ofMembers_eq_none_iff :
    (ofMembers members).items = none ↔ ∀ inner, ¬ HasItems members inner := by
  rw [Option.eq_none_iff_forall_ne_some]
  constructor
  · intro hnone inner hitems
    exact hnone _ (items_ofMembers_eq_some_iff.mpr ⟨inner, hitems, rfl⟩)
  · intro hnone item hitem
    obtain ⟨inner, hitems, -⟩ := items_ofMembers_eq_some_iff.mp hitem
    exact hnone inner hitems

theorem find?_ne_null_eq_some_iff {names : List String} {name : String} :
    names.find? (· ≠ "null") = some name ↔
      name ≠ "null" ∧ ∃ nulls others, names = List.replicate nulls "null" ++ name :: others := by
  simp only [List.find?_eq_some_iff_append, decide_eq_true_eq, decide_not, Bool.not_not,
    Bool.not_eq_true', decide_eq_false_iff_not]
  refine and_congr_right fun _ ↦ ⟨?_, ?_⟩
  · rintro ⟨front, others, rfl, hfront⟩
    exact ⟨front.length, others, by rw [← List.eq_replicate_of_mem hfront]⟩
  · rintro ⟨nulls, others, rfl⟩
    exact ⟨_, others, rfl, fun other hother ↦ List.eq_of_mem_replicate hother⟩

/-- The name that counts is the one that the value gives. -/
theorem exists_name?_iff {value : Json} {name : String} :
    (∃ type, ReadsType value (some type) ∧ type.name? = some name) ↔ NamesType value name := by
  constructor
  · rintro ⟨_, single | names, hname⟩
    · obtain rfl := Option.some.inj hname
      exact .single _
    · obtain ⟨hne, nulls, others, rfl⟩ := find?_ne_null_eq_some_iff.mp hname
      exact .alternative nulls hne others
    · exact nomatch hname
  · rintro (_ | ⟨nulls, hne, others⟩)
    · exact ⟨_, .single name, rfl⟩
    · exact ⟨_, .multiple _, find?_ne_null_eq_some_iff.mpr ⟨hne, nulls, others, rfl⟩⟩

theorem typeName_eq_some_iff {name : String} :
    (ofMembers members).type.bind SchemaType.name? = some name ↔ HasType members name := by
  have hrule : ⟨"type", Option SchemaType, Schema.type, none, ReadsType⟩ ∈ fieldRules := by
    simp [fieldRules]
  simp only [Option.bind_eq_some_iff, content_eq_some_iff hrule]
  constructor
  · rintro ⟨type, ⟨value, hvalue, hreads⟩, hname⟩
    exact ⟨value, hvalue, exists_name?_iff.mp ⟨type, hreads, hname⟩⟩
  · rintro ⟨value, hvalue, hnames⟩
    obtain ⟨type, hreads, hname⟩ := exists_name?_iff.mpr hnames
    exact ⟨type, ⟨value, hvalue, hreads⟩, hname⟩

theorem sizeOf_item_lt {schema item : Schema} (hitem : schema.items = some item) :
    sizeOf item < sizeOf schema := by
  cases schema
  subst hitem
  simp only [mk.sizeOf_spec, Option.some.sizeOf_spec]
  omega

end Schema

/-! ### The type of a schema -/

variable {members : Members}

theorem ofSchema_of_hasType {name : String} (hplain : NoReference members)
    (htype : HasType members name) :
    TypeRef.ofSchema (.ofMembers members) =
      .ofName name (Schema.ofMembers members).format
        (TypeRef.ofSchema? (Schema.ofMembers members).items) := by
  rw [ofSchema_of_plain (Schema.ref_ofMembers_eq_none_iff.mpr hplain),
    Schema.typeName_eq_some_iff.mpr htype]

theorem StandsFor.eq_ofSchema {type : TypeRef} (h : StandsFor members type) :
    type = .ofSchema (.ofMembers members) := by
  induction h with
  | reference href hname =>
    rw [ofSchema_of_ref (Schema.ref_ofMembers_eq_some_iff.mpr href), isLastSegment_iff.mp hname]
  | string hplain htype | boolean hplain htype =>
    rw [ofSchema_of_hasType hplain htype, TypeRef.ofName]
  | long hplain htype hformat | float hplain htype hformat =>
    rw [ofSchema_of_hasType hplain htype, TypeRef.ofName,
      if_pos (Schema.format_ofMembers_eq_some_iff.mpr hformat)]
  | int hplain htype hformat | double hplain htype hformat =>
    rw [ofSchema_of_hasType hplain htype, TypeRef.ofName,
      if_neg (Schema.format_ofMembers_eq_some_iff.not.mpr hformat)]
  | list hplain htype hitems hitem ih =>
    rw [ofSchema_of_hasType hplain htype, TypeRef.ofName,
      Schema.items_ofMembers_eq_some_iff.mpr ⟨_, hitems, rfl⟩, TypeRef.ofSchema?, ih]
  | untypedList hplain htype hitems =>
    rw [ofSchema_of_hasType hplain htype, TypeRef.ofName,
      Schema.items_ofMembers_eq_none_iff.mpr hitems, TypeRef.ofSchema?]
  | other hplain htype =>
    rw [ofSchema_of_plain (Schema.ref_ofMembers_eq_none_iff.mpr hplain), TypeRef.ofName]
    all_goals exact fun hname ↦ htype _ (by simp) (Schema.typeName_eq_some_iff.mp hname)

/-- Every schema stands for a type. The items are a smaller schema. -/
theorem exists_standsFor (members : Members) : ∃ type, StandsFor members type := by
  by_cases href : ∃ path, members.lookup "$ref" = some (.string path)
  · obtain ⟨path, href⟩ := href
    exact ⟨_, .reference href (isLastSegment_iff.mpr rfl)⟩
  have hplain : NoReference members := not_exists.mp href
  by_cases htyped : ∃ name ∈ ["string", "integer", "number", "boolean", "array"],
      HasType members name
  · obtain ⟨name, hname, htype⟩ := htyped
    simp only [List.mem_cons, List.not_mem_nil, or_false] at hname
    obtain rfl | rfl | rfl | rfl | rfl := hname
    · exact ⟨_, .string hplain htype⟩
    · by_cases hformat : HasFormat members "int64"
      · exact ⟨_, .long hplain htype hformat⟩
      · exact ⟨_, .int hplain htype hformat⟩
    · by_cases hformat : HasFormat members "float"
      · exact ⟨_, .float hplain htype hformat⟩
      · exact ⟨_, .double hplain htype hformat⟩
    · exact ⟨_, .boolean hplain htype⟩
    · by_cases hsome : ∃ inner, HasItems members inner
      · obtain ⟨inner, hitems⟩ := hsome
        have hsmaller := Schema.sizeOf_item_lt
          (Schema.items_ofMembers_eq_some_iff.mpr ⟨inner, hitems, rfl⟩)
        obtain ⟨item, hitem⟩ := exists_standsFor inner
        exact ⟨_, .list hplain htype hitems hitem⟩
      · exact ⟨_, .untypedList hplain htype (not_exists.mp hsome)⟩
  · exact ⟨_, .other hplain fun name hname htype ↦ htyped ⟨name, hname, htype⟩⟩
termination_by sizeOf (Schema.ofMembers members)

theorem standsFor_iff {type : TypeRef} :
    StandsFor members type ↔ type = .ofSchema (.ofMembers members) := by
  refine ⟨StandsFor.eq_ofSchema, ?_⟩
  rintro rfl
  obtain ⟨type, htype⟩ := exists_standsFor members
  exact htype.eq_ofSchema ▸ htype

/-! ### Members without an effect -/

/-- The keys that a type is taken from, beside the items of a list. -/
def typingKeys : List String := ["$ref", "type", "format"]

/-- The same members under the keys that a type is taken from; but the items may also be two schemas
that are the same in this way. -/
inductive AgreeOnType : Members → Members → Prop
  | same {members others : Members}
      (h : ∀ key ∈ typingKeys, members.lookup key = others.lookup key)
      (hitems : members.lookup "items" = others.lookup "items") : AgreeOnType members others
  | items {members others inner otherInner : Members}
      (h : ∀ key ∈ typingKeys, members.lookup key = others.lookup key)
      (hitems : HasItems members inner) (hother : HasItems others otherInner)
      (hinner : AgreeOnType inner otherInner) : AgreeOnType members others

theorem ofSchema_congr {schema other : Schema}
    (h : ∀ rule ∈ Schema.fieldRules, rule.key ∈ typingKeys →
      rule.content schema = rule.content other)
    (hitems : TypeRef.ofSchema? schema.items = TypeRef.ofSchema? other.items) :
    TypeRef.ofSchema schema = TypeRef.ofSchema other := by
  obtain ⟨htype, href, hformat⟩ :
      schema.type = other.type ∧ schema.ref = other.ref ∧ schema.format = other.format := by
    simpa [Schema.fieldRules, typingKeys] using h
  cases hplain : other.ref with
  | some path => rw [ofSchema_of_ref hplain, ofSchema_of_ref (href.trans hplain)]
  | none =>
    rw [ofSchema_of_plain hplain, ofSchema_of_plain (href.trans hplain), htype, hformat, hitems]

theorem AgreeOnType.ofSchema_eq {others : Members} (h : AgreeOnType members others) :
    TypeRef.ofSchema (.ofMembers members) = TypeRef.ofSchema (.ofMembers others) := by
  induction h with
  | same h hitems =>
    refine ofSchema_congr (fun rule hrule hkey ↦ Schema.content_congr hrule (h _ hkey)) ?_
    exact congrArg TypeRef.ofSchema? (Schema.content_congr Schema.itemsRule_mem hitems)
  | items h hitems hother _ ih =>
    refine ofSchema_congr (fun rule hrule hkey ↦ Schema.content_congr hrule (h _ hkey)) ?_
    rw [Schema.items_ofMembers_eq_some_iff.mpr ⟨_, hitems, rfl⟩,
      Schema.items_ofMembers_eq_some_iff.mpr ⟨_, hother, rfl⟩, TypeRef.ofSchema?,
      TypeRef.ofSchema?, ih]

/-- Every object is read as a schema, and this has the type that the members stand for and no other.
Items count if they are an object or a sequence that can be read, and so at every depth; what the
members are under other keys does not count. -/
theorem ofSchema_read_object (members : Members) :
    ∃ schema, Schema.read (.object members) = .ok schema ∧
      (∀ type, StandsFor members type ↔ type = .ofSchema schema) ∧
      (∀ value item, Schema.read value = .ok item ↔
        ∃ inner, WrittenAs value inner ∧ Schema.read (.object inner) = .ok item) ∧
      ∀ others, AgreeOnType members others →
        ∃ other, Schema.read (.object others) = .ok other ∧
          TypeRef.ofSchema other = .ofSchema schema := by
  refine ⟨_, Schema.read_object members, fun type ↦ standsFor_iff, fun value item ↦ ?_,
    fun others h ↦ ?_⟩
  · simp only [Schema.read_object, Except.ok.injEq]
    exact Schema.read_eq_ok_iff
  · exact ⟨_, Schema.read_object others, h.ofSchema_eq.symm⟩

/-- Lists of lists of a model, whatever else is said about each of the three schemas, and although
the first name under `type` is `null`. -/
theorem ofSchema_read_object_nested :
    let nested (others : Members) : Members :=
      [("type", .array [.string "null", .string "array"]), ("properties", .object others),
        ("items", .object [("type", .string "array"), ("enum", .object others),
          ("items", .object (("$ref", .string "#/components/schemas/Track") :: others))])]
    let limited : Members := [("maxItems", .bool true)]
    (Schema.read (.object (nested []))).map TypeRef.ofSchema =
        .ok (.list (.list (.reference "Track"))) ∧
      (Schema.read (.object (nested limited))).map TypeRef.ofSchema =
        .ok (.list (.list (.reference "Track"))) := by
  intro nested limited
  have hname : IsLastSegment "Track" "#/components/schemas/Track" :=
    ⟨by decide, .inr ⟨"#/components/schemas", by decide⟩⟩
  have hstands : StandsFor (nested []) (.list (.list (.reference "Track"))) := by
    refine .list nofun ⟨_, rfl, .alternative 1 (by decide) []⟩ ⟨_, rfl, .object _⟩ ?_
    refine .list nofun ⟨_, rfl, .single _⟩ ⟨_, rfl, .object _⟩ ?_
    exact .reference rfl hname
  have hagree : AgreeOnType (nested []) (nested limited) := by
    refine .items ?_ ⟨_, rfl, .object _⟩ ⟨_, rfl, .object _⟩
      (.items ?_ ⟨_, rfl, .object _⟩ ⟨_, rfl, .object _⟩ (.same ?_ rfl))
    all_goals simp [typingKeys, nested, limited, List.lookup_cons]
  obtain ⟨schema, hread, htype, -, hothers⟩ := ofSchema_read_object (nested [])
  obtain ⟨other, hother, hsame⟩ := hothers (nested limited) hagree
  rw [hread, hother]
  have hschema := (htype _).mp hstands
  exact ⟨congrArg Except.ok hschema.symm, congrArg Except.ok (hsame.trans hschema.symm)⟩

end ApiOutline.OpenApi
