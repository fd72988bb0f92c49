import ApiOutline.Proofs.Entries
import ApiOutline.Yaml.Conversion
import Mathlib.Data.List.Forall2

/-!
YAML values as JSON values. `Converts` says what a value is as JSON, one form of value after the
other: tags are dropped, sequences keep their items, and the entries of a mapping, with the texts of
their keys, leave one member for each text. This is what is computed (`converts_iff`), so every
value is one JSON value and no other.

A JSON value is written as a YAML value with the same parts (`Value.ofJson`). It comes back as it
was, if its keys are distinct at every level and its floats are finite (`Proper`).
-/

set_option autoImplicit false
set_option relaxedAutoImplicit false

namespace ApiOutline.Yaml

/-! ### What a value is as JSON -/

/-- What a YAML value is as JSON. -/
inductive Converts : Value → Json → Prop
  | null : Converts .null .null
  | bool (value : Bool) : Converts (.bool value) (.bool value)
  | string (text : String) : Converts (.string text) (.string text)
  | integer (value : Int) :
      Converts (.number (.integer value)) (.number (.integer value))
  | finite {value : Float} (hfinite : value.isFinite = true) :
      Converts (.number (.float value)) (.number (.float value))
  | notFinite {value : Float} (hfinite : value.isFinite = false) :
      Converts (.number (.float value)) .null
  | tagged {tag : String} {value : Value} {json : Json} (hvalue : Converts value json) :
      Converts (.tagged tag value) json
  | sequence {items : List Value} {converted : List Json}
      (hitems : List.Forall₂ Converts items converted) :
      Converts (.sequence items) (.array converted)
  | mapping {entries : List (Value × Value)} {converted : List Json}
      {members : List (String × Json)}
      (hvalues : List.Forall₂ Converts (entries.map Prod.snd) converted)
      (hmembers :
        Entries.LeftBy ((entries.map fun entry ↦ keyText entry.1).zip converted) members) :
      Converts (.mapping entries) (.object members)

theorem itemsToJson_eq_map (items : List Value) : itemsToJson items = items.map Value.toJson := by
  induction items with
  | nil => rfl
  | cons item rest ih => rw [itemsToJson, ih, List.map_cons]

theorem entriesToJson_eq_map (entries : List (Value × Value)) :
    entriesToJson entries = entries.map fun entry ↦ (keyText entry.1, entry.2.toJson) := by
  induction entries with
  | nil => rfl
  | cons entry rest ih =>
    obtain ⟨key, value⟩ := entry
    rw [entriesToJson, ih, List.map_cons]

theorem forall₂_iff_map_eq {α β : Type} {relation : α → β → Prop} {convert : α → β} {items : List α}
    (h : ∀ item ∈ items, ∀ converted, relation item converted ↔ convert item = converted)
    (list : List β) : List.Forall₂ relation items list ↔ items.map convert = list := by
  induction items generalizing list with
  | nil => rw [List.forall₂_nil_left_iff, List.map_nil, eq_comm]
  | cons item rest ih =>
    obtain ⟨hitem, hrest⟩ := List.forall_mem_cons.mp h
    simp only [List.forall₂_cons_left_iff, hitem, ih hrest, List.map_cons]
    constructor
    · rintro ⟨_, _, rfl, rfl, rfl⟩
      rfl
    · rintro rfl
      exact ⟨_, _, rfl, rfl, rfl⟩

theorem converts_number_iff (number : Number) (json : Json) :
    Converts (.number number) json ↔ jsonNumber number = json := by
  constructor
  · rintro (_ | _ | _ | _ | hfinite | hfinite)
    · rfl
    · rw [jsonNumber, if_pos hfinite]
    · rw [jsonNumber, if_neg (Bool.not_eq_true _ ▸ hfinite)]
  · rintro rfl
    cases number with
    | integer value => exact .integer value
    | float value =>
      cases hfinite : value.isFinite with
      | true =>
        rw [jsonNumber, if_pos hfinite]
        exact .finite hfinite
      | false =>
        rw [jsonNumber, if_neg (Bool.not_eq_true _ ▸ hfinite)]
        exact .notFinite hfinite

theorem converts_sequence_iff {items : List Value}
    (h : ∀ item ∈ items, ∀ json, Converts item json ↔ item.toJson = json) (json : Json) :
    Converts (.sequence items) json ↔ (Value.sequence items).toJson = json := by
  rw [Value.toJson, itemsToJson_eq_map]
  constructor
  · rintro ⟨⟩
    next converted hitems => rw [(forall₂_iff_map_eq h converted).mp hitems]
  · rintro rfl
    exact .sequence ((forall₂_iff_map_eq h _).mpr rfl)

theorem converts_mapping_iff {entries : List (Value × Value)}
    (h : ∀ value ∈ entries.map Prod.snd, ∀ json, Converts value json ↔ value.toJson = json)
    (json : Json) : Converts (.mapping entries) json ↔ (Value.mapping entries).toJson = json := by
  have hzip : (entries.map fun entry ↦ keyText entry.1).zip
      ((entries.map Prod.snd).map Value.toJson) = entriesToJson entries := by
    rw [entriesToJson_eq_map, List.map_map, List.zip_map']
    rfl
  rw [Value.toJson, ← hzip]
  constructor
  · rintro ⟨⟩
    next converted members hvalues hmembers =>
      rw [(forall₂_iff_map_eq h converted).mp hvalues, Entries.leftBy_iff.mp hmembers]
  · rintro rfl
    exact .mapping ((forall₂_iff_map_eq h _).mpr rfl) (Entries.leftBy_iff.mpr rfl)

theorem sizeOf_lt_of_mem_values {entries : List (Value × Value)} {value : Value}
    (hvalue : value ∈ entries.map Prod.snd) : sizeOf value < sizeOf entries := by
  obtain ⟨⟨key, value⟩, hentry, rfl⟩ := List.mem_map.mp hvalue
  have hless := List.sizeOf_lt_of_mem hentry
  rw [Prod.mk.sizeOf_spec] at hless
  dsimp only
  omega

/-- Every value is one JSON value, the one that is computed. -/
theorem converts_iff (value : Value) (json : Json) : Converts value json ↔ value.toJson = json := by
  match value with
  | .null | .bool _ | .string _ =>
    constructor
    · rintro ⟨⟩
      rfl
    · rintro rfl
      constructor
  | .number number => exact converts_number_iff number json
  | .tagged tag value =>
    rw [Value.toJson, ← converts_iff value json]
    constructor
    · rintro ⟨⟩
      assumption
    · exact .tagged
  | .sequence items =>
    exact converts_sequence_iff (fun item _hitem ↦ converts_iff item) json
  | .mapping entries =>
    exact converts_mapping_iff (fun value _hvalue ↦ converts_iff value) json
termination_by sizeOf value
decreasing_by
  · rw [Value.tagged.sizeOf_spec]
    omega
  · have hless := List.sizeOf_lt_of_mem _hitem
    rw [Value.sequence.sizeOf_spec]
    omega
  · have hless := sizeOf_lt_of_mem_values _hvalue
    rw [Value.mapping.sizeOf_spec]
    omega

/-! ### JSON values as YAML -/

mutual

/-- A JSON value as a YAML value with the same parts. -/
def Value.ofJson : Json → Value
  | .null => .null
  | .bool value => .bool value
  | .number value => .number value
  | .string text => .string text
  | .array items => .sequence (itemsOfJson items)
  | .object members => .mapping (entriesOfJson members)

def itemsOfJson : List Json → List Value
  | [] => []
  | item :: rest => Value.ofJson item :: itemsOfJson rest

def entriesOfJson : List (String × Json) → List (Value × Value)
  | [] => []
  | (key, value) :: rest => (.string key, Value.ofJson value) :: entriesOfJson rest

end

/-- A JSON value whose doubles are finite and whose objects have distinct keys, as every value is
that was read from a text. -/
inductive Proper : Json → Prop
  | null : Proper .null
  | bool (value : Bool) : Proper (.bool value)
  | integer (value : Int) : Proper (.number (.integer value))
  | float {value : Float} (hfinite : value.isFinite = true) : Proper (.number (.float value))
  | string (text : String) : Proper (.string text)
  | array {items : List Json} (hitems : ∀ item ∈ items, Proper item) : Proper (.array items)
  | object {members : List (String × Json)} (hkeys : (members.map Prod.fst).Nodup)
      (hmembers : ∀ entry ∈ members, Proper entry.2) : Proper (.object members)

theorem itemsToJson_itemsOfJson {items : List Json}
    (h : ∀ item ∈ items, (Value.ofJson item).toJson = item) :
    itemsToJson (itemsOfJson items) = items := by
  induction items with
  | nil => rfl
  | cons item rest ih =>
    obtain ⟨hitem, hrest⟩ := List.forall_mem_cons.mp h
    rw [itemsOfJson, itemsToJson, hitem, ih hrest]

theorem entriesToJson_entriesOfJson {members : List (String × Json)}
    (h : ∀ entry ∈ members, (Value.ofJson entry.2).toJson = entry.2) :
    entriesToJson (entriesOfJson members) = members := by
  induction members with
  | nil => rfl
  | cons entry rest ih =>
    obtain ⟨key, value⟩ := entry
    obtain ⟨hvalue, hrest⟩ := List.forall_mem_cons.mp h
    rw [entriesOfJson, entriesToJson, hvalue, ih hrest, keyText]

theorem Proper.toJson_ofJson {json : Json} (h : Proper json) :
    (Value.ofJson json).toJson = json := by
  induction h with
  | null | bool | integer | string => rfl
  | float hfinite => rw [Value.ofJson, Value.toJson, jsonNumber, if_pos hfinite]
  | array _ ih => rw [Value.ofJson, Value.toJson, itemsToJson_itemsOfJson ih]
  | object hkeys _ ih =>
    rw [Value.ofJson, Value.toJson, entriesToJson_entriesOfJson ih,
      Entries.putAll_nil_of_nodup hkeys]

/-- Every value is the JSON value that its form says and no other. The members of an object stand
where the text of their key is first and have the value that it has last, so none is lost where
these texts are distinct, and a JSON value written as YAML comes back as it was. -/
theorem conversion_faithful :
    (∀ value json, Converts value json ↔ value.toJson = json) ∧
      (∀ entries : List (Value × Value), (entries.map fun entry ↦ keyText entry.1).Nodup →
        (Value.mapping entries).toJson =
          .object (entries.map fun entry ↦ (keyText entry.1, entry.2.toJson))) ∧
      ∀ json, Proper json → (Value.ofJson json).toJson = json := by
  refine ⟨converts_iff, fun entries hnodup ↦ ?_, fun json hproper ↦ hproper.toJson_ofJson⟩
  have hkeys : ((entriesToJson entries).map Prod.fst).Nodup := by
    rwa [entriesToJson_eq_map, List.map_map]
  rw [Value.toJson, Entries.putAll_nil_of_nodup hkeys, entriesToJson_eq_map]

/-- A mapping with keys of three kinds, and an object as YAML. -/
theorem conversion_faithful_statuses :
    let entries : List (Value × Value) :=
      [(.number (.integer 200), .tagged "!kept" (.string "found")), (.bool true, .sequence [.null]),
        (.string "limit", .number (.float 1.5))]
    let json : Json :=
      .object [("b", .array [.number (.integer 1), .number (.float 1.5)]), ("a", .null)]
    (entries.map fun entry ↦ keyText entry.1).Nodup ∧
      (Value.mapping entries).toJson = .object [("200", .string "found"),
        ("true", .array [.null]), ("limit", .number (.float 1.5))] ∧
      Proper json ∧ (Value.ofJson json).toJson = json := by
  intro entries json
  have hkeys : (entries.map fun entry ↦ keyText entry.1).Nodup := by decide
  have hitems : Proper (.array [.number (.integer 1), .number (.float 1.5)]) := by
    refine .array (List.forall_mem_cons.mpr ⟨.integer 1, ?_⟩)
    exact List.forall_mem_singleton.mpr (.float rfl)
  have hproper : Proper json :=
    .object (by decide) (List.forall_mem_cons.mpr ⟨hitems, List.forall_mem_singleton.mpr .null⟩)
  obtain ⟨-, hdistinct, hback⟩ := conversion_faithful
  exact ⟨hkeys, hdistinct entries hkeys, hproper, hback json hproper⟩

/-- A key that is a number and one that is a string may have one text. -/
example :
    (Value.mapping [(.number (.integer 200), .string "first"), (.bool true, .null),
      (.string "200", .number (.float (1 / 0)))]).toJson =
        .object [("200", .null), ("true", .null)] := by
  rfl

end ApiOutline.Yaml
