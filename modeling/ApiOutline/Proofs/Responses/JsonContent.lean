import ApiOutline.Extraction.Content
import ApiOutline.Proofs.Search
import ApiOutline.Proofs.Text.Blank

/-!
Content in JSON. A media type is told by its essence, which is what stands before its parameters,
without white space around it (`isEssence_iff`). Of several media types that denote JSON the plain
one counts, or else the one declared first (`jsonContent?_eq_some_iff`).
-/

set_option autoImplicit false
set_option relaxedAutoImplicit false

namespace ApiOutline

open OpenApi (MediaType)

/-! ### Media types -/

/-- A media type without its parameters, which begin at the first semicolon, and without the white
space around what is left. -/
def IsEssence (essence : List Char) (mediaType : String) : Prop :=
  ∃ front parameters, mediaType.toList = front ++ parameters ∧ ';' ∉ front ∧
    (∀ c ∈ parameters.head?, c = ';') ∧ Text.IsTrimmed front essence

/-- A media type that is JSON or is written in it, whatever the case of its letters. -/
def DenotesJson (mediaType : String) : Prop :=
  ∃ essence, IsEssence essence mediaType ∧
    (essence.map Text.asciiLower = "application/json".toList ∨
      "+json".toList <:+ essence.map Text.asciiLower)

theorem isEssence_iff {essence : List Char} {mediaType : String} :
    IsEssence essence mediaType ↔
      essence = Text.trim (mediaType.toList.takeWhile (· ≠ ';')) := by
  constructor
  · rintro ⟨front, parameters, hsplit, hfront, hparameters, htrimmed⟩
    have hkept : ∀ c ∈ front, decide (c ≠ ';') = true :=
      fun c hc ↦ decide_eq_true fun heq ↦ hfront (heq ▸ hc)
    have hstop : parameters.takeWhile (· ≠ ';') = [] := by
      cases parameters with
      | nil => rfl
      | cons first parameters => exact List.takeWhile_cons_of_neg (by simp [hparameters first rfl])
    rw [hsplit, List.takeWhile_append_of_pos hkept, hstop, List.append_nil]
    exact Text.isTrimmed_iff.mp htrimmed
  · rintro rfl
    refine ⟨_, mediaType.toList.dropWhile (· ≠ ';'), List.takeWhile_append_dropWhile.symm, ?_, ?_,
      Text.isTrimmed_trim _⟩
    · intro hmem
      simpa using List.mem_takeWhile_imp hmem
    · intro c hc
      simpa using Text.head?_dropWhile_eq_false _ _ hc

theorem isJsonMediaType_iff (mediaType : String) :
    isJsonMediaType mediaType = true ↔ DenotesJson mediaType := by
  simp only [DenotesJson, isEssence_iff, exists_eq_left, isJsonMediaType, Bool.or_eq_true,
    decide_eq_true_eq, Text.endsWith_iff]

theorem denotesJson_plain : DenotesJson "application/json" :=
  (isJsonMediaType_iff _).mp (by decide +kernel)

/-! ### Contents -/

/-- The content that is read as JSON: the one under the plain media type, or else the first under a
media type that denotes JSON. -/
inductive IsJsonContent (content : Table MediaType) (mediaType : MediaType) : Prop
  | plain (hentry : ("application/json", mediaType) ∈ content.entries)
  | first (hplain : ∀ other, ("application/json", other) ∉ content.entries) (position : ℕ)
      (key : String) (hentry : content.entries[position]? = some (key, mediaType))
      (hjson : DenotesJson key) (hfirst : ∀ earlier entry, earlier < position →
        content.entries[earlier]? = some entry → ¬ DenotesJson entry.1)

variable {content : Table MediaType}

theorem get?_plain_eq_none_iff : content.get? "application/json" = none ↔
    ∀ other, ("application/json", other) ∉ content.entries := by
  simp only [← Table.get?_eq_some_iff, Option.eq_none_iff_forall_ne_some, ne_eq]

theorem jsonContent?_eq_some_iff {mediaType : MediaType} :
    jsonContent? content = some mediaType ↔ IsJsonContent content mediaType := by
  have hdenotes (key : String) : isJsonMediaType key = false ↔ ¬ DenotesJson key := by
    rw [← isJsonMediaType_iff, Bool.not_eq_true]
  rw [jsonContent?]
  split
  · next found hget =>
    have hentry := Table.get?_eq_some_iff.mp hget
    constructor
    · rintro ⟨⟩
      exact .plain hentry
    · rintro (hplain | ⟨hplain, -⟩)
      · rw [← hget, Table.get?_eq_some_iff.mpr hplain]
      · exact absurd hentry (hplain found)
  · next hget =>
    have hplain := get?_plain_eq_none_iff.mp hget
    rw [Option.map_eq_some_iff]
    constructor
    · rintro ⟨⟨key, _⟩, hfind, rfl⟩
      obtain ⟨hjson, position, hentry, hfirst⟩ := find?_eq_some_iff_position.mp hfind
      exact .first hplain position key hentry ((isJsonMediaType_iff key).mp hjson)
        fun earlier entry hless hearlier ↦
          (hdenotes entry.1).mp (hfirst earlier entry hless hearlier)
    · rintro (hentry | ⟨-, position, key, hentry, hjson, hfirst⟩)
      · exact absurd hentry (hplain mediaType)
      · exact ⟨(key, mediaType), find?_eq_some_iff_position.mpr
          ⟨(isJsonMediaType_iff key).mpr hjson, position, hentry, fun earlier entry hless hearlier ↦
            (hdenotes entry.1).mpr (hfirst earlier entry hless hearlier)⟩, rfl⟩

theorem jsonContent?_eq_none_iff :
    jsonContent? content = none ↔ ∀ entry ∈ content.entries, ¬ DenotesJson entry.1 := by
  rw [jsonContent?]
  split
  · next found hget =>
    have hentry := Table.get?_eq_some_iff.mp hget
    constructor
    · rintro ⟨⟩
    · intro h
      exact absurd denotesJson_plain (h _ hentry)
  · rw [Option.map_eq_none_iff, List.find?_eq_none]
    simp only [isJsonMediaType_iff]

end ApiOutline
