import ApiOutline.OpenApi.Load
import ApiOutline.Outline.Encoding
import ApiOutline.Proofs.Json.Reading
import Mathlib.Logic.Function.Basic

/-!
A printed outline loses nothing. Its JSON value is regular (`Outline.regular_toJson`), so both of
its texts are read to that value, and different values have different texts. The value determines
the outline (`Outline.toJson_injective`): a field is found under its key, the kind of a type says
which one it is, and an absent value is `null`, which no present one is.
-/

set_option autoImplicit false
set_option relaxedAutoImplicit false

namespace ApiOutline

open Function (Injective)

variable {α : Type} {encode : α → Json}

/-! ### The value is regular -/

theorem Json.regular_ofOption (h : ∀ value, (encode value).Regular) (value : Option α) :
    (Json.ofOption encode value).Regular := by
  cases value with
  | none => exact .null
  | some value => exact h value

theorem Json.regular_map (h : ∀ value, (encode value).Regular) (list : List α) :
    (Json.array (list.map encode)).Regular := by
  refine .array fun item hitem ↦ ?_
  obtain ⟨value, -, rfl⟩ := List.mem_map.mp hitem
  exact h value

theorem TypeRef.regular_toJson (type : TypeRef) : type.toJson.Regular := by
  induction type with
  | list item ih => exact .object (by simp) (by simp [ih, Json.Regular.string])
  | _ => exact .object (by simp) (by simp [Json.Regular.string])

theorem Parameter.regular_toJson (parameter : Parameter) : parameter.toJson.Regular := by
  refine .object (by simp) ?_
  simp [Json.Regular.string, Json.Regular.bool, TypeRef.regular_toJson, Json.regular_ofOption]

theorem Operation.regular_toJson (operation : Operation) : operation.toJson.Regular := by
  have hparameters := Json.regular_map Parameter.regular_toJson operation.parameters
  refine .object (by simp) ?_
  simp [Json.Regular.string, Json.Regular.bool, TypeRef.regular_toJson, Json.regular_ofOption,
    hparameters]

theorem Interface.regular_toJson (interface : Interface) : interface.toJson.Regular := by
  have hoperations := Json.regular_map Operation.regular_toJson interface.operations
  refine .object (by simp) ?_
  simp [Json.Regular.string, Json.regular_ofOption, hoperations]

theorem Property.regular_toJson (property : Property) : property.toJson.Regular := by
  refine .object (by simp) ?_
  simp [Json.Regular.string, Json.Regular.bool, TypeRef.regular_toJson, Json.regular_ofOption]

theorem Model.regular_toJson (model : Model) : model.toJson.Regular := by
  have hproperties := Json.regular_map Property.regular_toJson model.properties
  have henumValues := Json.regular_map Json.Regular.string model.enumValues
  refine .object (by simp) ?_
  simp [Json.Regular.string, Json.regular_ofOption, hproperties, Json.ofStrings, henumValues]

theorem Outline.regular_toJson (outline : Outline) : outline.toJson.Regular := by
  have hinterfaces := Json.regular_map Interface.regular_toJson outline.interfaces
  have hmodels := Json.regular_map Model.regular_toJson outline.models
  refine .object (by simp) ?_
  simp [Json.Regular.string, hinterfaces, hmodels]

/-! ### The value determines the outline -/

/-- An absent value is told from a present one, as no present one is `null`. -/
theorem Json.ofOption_injective (h : Injective encode) (hnull : ∀ value, encode value ≠ .null) :
    Injective (Json.ofOption encode) := by
  intro value other hsame
  cases value with
  | none =>
    cases other with
    | none => rfl
    | some other => exact absurd hsame.symm (hnull other)
  | some value =>
    cases other with
    | none => exact absurd hsame (hnull value)
    | some other => exact congrArg some (h hsame)

theorem Json.ofOption_string_injective : Injective (Json.ofOption .string) :=
  ofOption_injective (fun _ _ h ↦ Json.string.inj h) fun _ ↦ Json.noConfusion

theorem Json.array_map_injective (h : Injective encode) :
    Injective fun list : List α ↦ Json.array (list.map encode) :=
  fun _ _ hsame ↦ List.map_injective_iff.mpr h (Json.array.inj hsame)

theorem PrimitiveType.text_injective : Injective text := by
  intro name other h
  cases name <;> cases other <;> first | rfl | exact absurd h (by decide)

theorem ParameterLocation.text_injective : Injective text := by
  intro location other h
  cases location <;> cases other <;> first | rfl | exact absurd h (by decide)

theorem Method.text_injective : Injective text := by
  intro method other h
  cases method <;> cases other <;> first | rfl | exact absurd h (by decide)

theorem TypeRef.toJson_injective : Injective toJson := by
  intro type
  induction type with
  | primitive name =>
    intro other h
    cases other <;> simp [toJson] at h
    exact congrArg primitive (PrimitiveType.text_injective h)
  | list item ih =>
    intro other h
    cases other <;> simp [toJson] at h
    exact congrArg list (ih h)
  | reference name =>
    intro other h
    cases other <;> simp [toJson] at h
    exact congrArg reference h
  | jsonElement =>
    intro other h
    cases other <;> simp [toJson] at h
    rfl
  | unit =>
    intro other h
    cases other <;> simp [toJson] at h
    rfl

theorem TypeRef.toJson_ne_null (type : TypeRef) : type.toJson ≠ .null := by
  cases type <;> simp [toJson]

theorem Parameter.toJson_injective : Injective toJson := by
  rintro ⟨name, location, type, required, description⟩
    ⟨otherName, otherLocation, otherType, otherRequired, otherDescription⟩ h
  simp only [toJson, Json.object.injEq, List.cons.injEq, Prod.mk.injEq, Json.string.injEq,
    Json.bool.injEq, true_and, and_true] at h
  obtain ⟨rfl, hlocation, htype, rfl, hdescription⟩ := h
  obtain rfl := ParameterLocation.text_injective hlocation
  obtain rfl := TypeRef.toJson_injective htype
  obtain rfl := Json.ofOption_string_injective hdescription
  rfl

theorem Operation.toJson_injective : Injective toJson := by
  rintro ⟨functionName, method, path, summary, description, deprecated, parameters, requestBody,
    responseType⟩ ⟨otherName, otherMethod, otherPath, otherSummary, otherDescription,
    otherDeprecated, otherParameters, otherBody, otherResponse⟩ h
  simp only [toJson, Json.object.injEq, List.cons.injEq, Prod.mk.injEq, Json.string.injEq,
    Json.bool.injEq, true_and, and_true] at h
  obtain ⟨rfl, hmethod, rfl, hsummary, hdescription, rfl, hparameters, hbody, hresponse⟩ := h
  obtain rfl := Method.text_injective hmethod
  obtain rfl := Json.ofOption_string_injective hsummary
  obtain rfl := Json.ofOption_string_injective hdescription
  obtain rfl := Json.array_map_injective Parameter.toJson_injective hparameters
  obtain rfl :=
    Json.ofOption_injective TypeRef.toJson_injective TypeRef.toJson_ne_null hbody
  obtain rfl := TypeRef.toJson_injective hresponse
  rfl

theorem Interface.toJson_injective : Injective toJson := by
  rintro ⟨name, description, operations⟩ ⟨otherName, otherDescription, otherOperations⟩ h
  simp only [toJson, Json.object.injEq, List.cons.injEq, Prod.mk.injEq, Json.string.injEq,
    true_and, and_true] at h
  obtain ⟨rfl, hdescription, hoperations⟩ := h
  obtain rfl := Json.ofOption_string_injective hdescription
  obtain rfl := Json.array_map_injective Operation.toJson_injective hoperations
  rfl

theorem Property.toJson_injective : Injective toJson := by
  rintro ⟨name, type, required, defaultValue, description⟩
    ⟨otherName, otherType, otherRequired, otherDefault, otherDescription⟩ h
  simp only [toJson, Json.object.injEq, List.cons.injEq, Prod.mk.injEq, Json.string.injEq,
    Json.bool.injEq, true_and, and_true] at h
  obtain ⟨rfl, htype, rfl, hdefault, hdescription⟩ := h
  obtain rfl := TypeRef.toJson_injective htype
  obtain rfl := Json.ofOption_string_injective hdefault
  obtain rfl := Json.ofOption_string_injective hdescription
  rfl

theorem Model.toJson_injective : Injective toJson := by
  rintro ⟨name, properties, description, enumValues⟩
    ⟨otherName, otherProperties, otherDescription, otherValues⟩ h
  simp only [toJson, Json.object.injEq, List.cons.injEq, Prod.mk.injEq, Json.string.injEq,
    true_and, and_true] at h
  obtain ⟨rfl, hproperties, hdescription, hvalues⟩ := h
  obtain rfl := Json.array_map_injective Property.toJson_injective hproperties
  obtain rfl := Json.ofOption_string_injective hdescription
  obtain rfl := Json.array_map_injective (fun _ _ h ↦ Json.string.inj h) hvalues
  rfl

theorem Outline.toJson_injective : Injective toJson := by
  rintro ⟨title, version, interfaces, models⟩ ⟨otherTitle, otherVersion, otherInterfaces,
    otherModels⟩ h
  simp only [toJson, Json.object.injEq, List.cons.injEq, Prod.mk.injEq, Json.string.injEq,
    true_and, and_true] at h
  obtain ⟨rfl, rfl, hinterfaces, hmodels⟩ := h
  obtain rfl := Json.array_map_injective Interface.toJson_injective hinterfaces
  obtain rfl := Json.array_map_injective Model.toJson_injective hmodels
  rfl

/-! ### Texts -/

/-- The blanks of the text of an outline. -/
def spacingOf (compact : Bool) : Json.Spacing := if compact then .closed else .lines

theorem Outline.read_render_eq (outline : Outline) (compact : Bool) :
    Json.read (outline.render compact) = (Json.Stage.value []).run Json.maxDepth
      (Json.spacedText (spacingOf compact) 0 outline.toJson) := by
  cases compact with
  | true => exact outline.regular_toJson.read_compact_eq
  | false => exact outline.regular_toJson.read_indented_eq

theorem Outline.read_render {outline : Outline} (h : outline.toJson.nesting ≤ Json.maxDepth)
    (compact : Bool) : Json.read (outline.render compact) = .ok outline.toJson := by
  rw [read_render_eq]
  exact outline.regular_toJson.run_spacedText h (spacingOf compact)

/-- The reader refuses what nests too deep for it, and nothing else. -/
theorem Outline.isTooDeep_read_render {outline : Outline}
    (h : Json.maxDepth < outline.toJson.nesting) (compact : Bool) :
    Json.IsTooDeep (Json.read (outline.render compact)) := by
  rw [read_render_eq]
  exact outline.regular_toJson.isTooDeep_spacedText h (spacingOf compact)

/-- The text of an outline is taken for JSON and not for YAML. -/
theorem Outline.readTree_render {outline : Outline} (h : outline.toJson.nesting ≤ Json.maxDepth)
    (compact : Bool) : OpenApi.readTree (outline.render compact) = .ok outline.toJson := by
  have hbrace : ∃ rest, (outline.render compact).toList = '\x7b' :: rest := by
    cases compact
    · exact ⟨_, String.toList_ofList⟩
    · exact ⟨_, String.toList_ofList⟩
  obtain ⟨rest, htext⟩ := hbrace
  have hlooks : OpenApi.looksLikeJson (outline.render compact) = true := by
    rw [OpenApi.looksLikeJson, htext]
    rfl
  rw [OpenApi.readTree, if_pos hlooks, outline.read_render h compact]

theorem Outline.render_injective (compact : Bool) :
    Injective fun outline ↦ render outline compact := by
  intro outline other h
  cases compact with
  | true =>
    exact toJson_injective (outline.regular_toJson.eq_of_compact_eq other.regular_toJson h)
  | false =>
    exact toJson_injective (outline.regular_toJson.eq_of_indented_eq other.regular_toJson h)

/-- The texts of an outline are JSON for its value, within the limit of the reader, which refuses
them beyond it; the value and each text determine the outline, however deep it is; and the compact
text has no control characters, so it is one line. -/
theorem Outline.render_lossless (outline : Outline) :
    (outline.toJson.nesting ≤ Json.maxDepth → ∀ compact,
      Json.read (outline.render compact) = .ok outline.toJson ∧
        OpenApi.readTree (outline.render compact) = .ok outline.toJson) ∧
      (Json.maxDepth < outline.toJson.nesting → ∀ compact,
        Json.IsTooDeep (Json.read (outline.render compact))) ∧
      (∀ other : Outline, outline.toJson = other.toJson → outline = other) ∧
      (∀ (other : Outline) (compact : Bool),
        outline.render compact = other.render compact → outline = other) ∧
      ∀ c ∈ (outline.render true).toList, 0x20 ≤ c.toNat := by
  refine ⟨fun hnesting compact ↦ ⟨read_render hnesting compact, readTree_render hnesting compact⟩,
    fun hdeep compact ↦ isTooDeep_read_render hdeep compact, fun other h ↦ toJson_injective h,
    fun other compact h ↦ render_injective compact h, ?_⟩
  have htext : (outline.render true).toList = outline.toJson.compactText := String.toList_ofList
  rw [htext]
  exact outline.regular_toJson.printable_compactText

/-- Quotes, a line break, an empty text and an absent one. -/
theorem Outline.render_lossless_pets :
    let property : Property := ⟨"names", .list (.primitive .string), true, some "", none⟩
    let outline : Outline := ⟨"\"Pets\"\n", "", [], [⟨"Pet", [property], none, ["a\u2028b"]⟩]⟩
    outline.toJson.nesting ≤ Json.maxDepth ∧
      Json.read (outline.render true) = .ok outline.toJson ∧
      Json.read (outline.render false) = .ok outline.toJson ∧
      outline.render true ≠ outline.render false ∧
      ∀ other : Outline, outline.render false = other.render false → outline = other := by
  intro property outline
  obtain ⟨hread, -, -, hdetermines, -⟩ := outline.render_lossless
  have hnesting : outline.toJson.nesting ≤ Json.maxDepth := by decide +kernel
  exact ⟨hnesting, (hread hnesting true).1, (hread hnesting false).1, by decide +kernel,
    fun other ↦ hdetermines other false⟩

end ApiOutline
