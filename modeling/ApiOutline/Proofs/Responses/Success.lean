import ApiOutline.Proofs.Outline.Types
import ApiOutline.Proofs.Responses.JsonContent

/-!
The response that an operation answers with. Of the responses with a status of success it is the one
at the least place, which is the number of the status among those of success, the preferred ones
first, and then the position of the declaration (`successResponse?_eq_some_iff`). No other response
has an effect on the type of the answer, as long as none takes the place of that one
(`Operation.answer_ofDeclared`).
-/

set_option autoImplicit false
set_option relaxedAutoImplicit false

namespace ApiOutline

open OpenApi (Components RefOr Response)

/-! ### The response that counts -/

/-- The ten statuses of success, the preferred ones first: the numbers from 200 to 207, then any
other number of the two hundreds, and what is declared for no number. -/
def statusesOfSuccess : List String := (List.range' 200 8).map toString ++ ["2XX", "default"]

theorem successStatuses_eq : successStatuses = statusesOfSuccess := by
  decide +kernel

/-- Whether a response is one of a status, the case of letters aside. -/
def hasStatus (status : String) (entry : String × RefOr Response) : Bool :=
  Text.equalIgnoringAsciiCase entry.1 status

/-- A response of success at its place: the number of its status and the position of the entry. -/
abbrev IsSuccessAt (responses : Table (RefOr Response)) (place : ℕ × ℕ)
    (entry : String × RefOr Response) : Prop :=
  PassesAt hasStatus statusesOfSuccess responses.entries place entry

/-- The response of success at the least place. -/
abbrev IsPreferredResponse (responses : Table (RefOr Response))
    (entry : String × RefOr Response) : Prop :=
  IsPreferred hasStatus statusesOfSuccess responses.entries entry

/-- One response is at a lower place than another. -/
def Precedes (responses : Table (RefOr Response)) (first second : String × RefOr Response) : Prop :=
  ∃ place other, IsSuccessAt responses place first ∧ IsSuccessAt responses other second ∧
    toLex place < toLex other

variable {responses : Table (RefOr Response)} {entry : String × RefOr Response}

/-- No two statuses of success are the same up to the case of letters. -/
theorem nodup_lower_statusesOfSuccess :
    (statusesOfSuccess.map fun status ↦ status.toList.map Text.asciiLower).Nodup := by
  decide +kernel

/-- A response of success has one place: its key is of one status, and is declared once. -/
theorem place_eq_of_isSuccessAt {place other : ℕ × ℕ} (h : IsSuccessAt responses place entry)
    (hother : IsSuccessAt responses other entry) : place = other := by
  obtain ⟨hitem, status, hstatus, hpasses⟩ := h
  obtain ⟨hitemOther, another, hanother, hpassesOther⟩ := hother
  have hlower : status.toList.map Text.asciiLower = another.toList.map Text.asciiLower :=
    (beq_iff_eq.mp hpasses).symm.trans (beq_iff_eq.mp hpassesOther)
  have hnumber {number : ℕ} {status : String} (hstatus : statusesOfSuccess[number]? = some status) :
      (statusesOfSuccess.map fun status ↦ status.toList.map Text.asciiLower)[number]? =
        some (status.toList.map Text.asciiLower) := by
    rw [List.getElem?_map, hstatus, Option.map_some]
  exact Prod.ext
    (index_eq_of_nodup nodup_lower_statusesOfSuccess (hnumber hstatus) (hlower ▸ hnumber hanother))
    (index_eq_of_nodup (responses.nodup.of_map _) hitem hitemOther)

theorem IsPreferredResponse.not_precedes (h : IsPreferredResponse responses entry)
    (another : String × RefOr Response) : ¬ Precedes responses another entry := by
  rintro ⟨place, other, hplace, hother, hless⟩
  obtain ⟨own, hown, hleast⟩ := h
  rw [← place_eq_of_isSuccessAt hown hother] at hless
  exact absurd (hleast place another hplace) (not_le_of_gt hless)

/-- A response that counts also counts among others, if it is not preceded there. -/
theorem IsPreferredResponse.of_not_precedes {others : Table (RefOr Response)}
    (h : IsPreferredResponse responses entry) (hentry : entry ∈ others.entries)
    (hbefore : ∀ another, ¬ Precedes others another entry) :
    IsPreferredResponse others entry := by
  obtain ⟨⟨number, _⟩, ⟨-, hstatus⟩, -⟩ := h
  obtain ⟨position, hposition⟩ := List.getElem?_of_mem hentry
  have hplace : IsSuccessAt others (number, position) entry := ⟨hposition, hstatus⟩
  exact ⟨_, hplace, fun place another hanother ↦
    le_of_not_gt fun hless ↦ hbefore another ⟨place, _, hanother, hplace, hless⟩⟩

theorem successResponse?_eq_map (responses : Table (RefOr Response)) :
    successResponse? responses = (statusesOfSuccess.findSome? fun status ↦
      responses.entries.find? (hasStatus status)).map Prod.snd := by
  rw [List.map_findSome?, successResponse?, successStatuses_eq]
  rfl

theorem successResponse?_eq_none_iff :
    successResponse? responses = none ↔ ∀ place entry, ¬ IsSuccessAt responses place entry := by
  rw [successResponse?_eq_map, Option.map_eq_none_iff, findSome?_find?_eq_none_iff]

theorem successResponse?_eq_some_iff {node : RefOr Response} :
    successResponse? responses = some node ↔ ∃ key, IsPreferredResponse responses (key, node) := by
  rw [successResponse?_eq_map, Option.map_eq_some_iff]
  constructor
  · rintro ⟨⟨key, _⟩, hfound, rfl⟩
    exact ⟨key, findSome?_find?_eq_some_iff.mp hfound⟩
  · rintro ⟨key, hpreferred⟩
    exact ⟨(key, node), findSome?_find?_eq_some_iff.mpr hpreferred, rfl⟩

/-- With one response under a key, the key of the response that counts is enough to tell it. -/
theorem isPreferredResponse_of_key {key : String} {node : RefOr Response}
    (hkey : (statusesOfSuccess.findSome? fun status ↦
      (responses.entries.find? (hasStatus status)).map Prod.fst) = some key)
    (hget : responses.get? key = some node) : IsPreferredResponse responses (key, node) := by
  obtain ⟨⟨_, found⟩, hfound, rfl⟩ : ∃ found, (statusesOfSuccess.findSome? fun status ↦
      responses.entries.find? (hasStatus status)) = some found ∧ found.1 = key := by
    rw [← Option.map_eq_some_iff, List.map_findSome?]
    exact hkey
  obtain ⟨place, hplace, -⟩ := findSome?_find?_eq_some_iff.mp hfound
  have hentry := Table.get?_eq_some_iff.mpr (List.mem_of_getElem? hplace.item_eq)
  obtain rfl : found = node := Option.some.inj (hentry.symm.trans hget)
  exact findSome?_find?_eq_some_iff.mp hfound

/-! ### The type of the answer -/

/-- The type that a response answers with: that of its JSON content, and no value if there is none
or if the response is a reference that is not resolved. -/
structure AnswersWith (components : Components) (node : RefOr Response) (type : TypeRef) :
    Prop where
  unit_of_unresolved : node.resolve components.responses = none → type = .unit
  unit_of_no_json : ∀ response, node.resolve components.responses = some response →
    (∀ entry ∈ response.content.entries, ¬ DenotesJson entry.1) → type = .unit
  eq_of_json : ∀ response mediaType, node.resolve components.responses = some response →
    IsJsonContent response.content mediaType → type = .ofSchema? mediaType.schema

theorem responseType_of_none (components : Components)
    (h : ∀ place entry, ¬ IsSuccessAt responses place entry) :
    responseType components responses = .unit := by
  rw [responseType_eq_getD, responseContent?, successResponse?_eq_none_iff.mpr h]
  rfl

theorem responseType_of_preferred (components : Components)
    (h : IsPreferredResponse responses entry) :
    responseType components responses =
      (((entry.2.resolve components.responses).bind (jsonContent? ·.content)).map
        fun mediaType ↦ .ofSchema? mediaType.schema).getD .unit := by
  rw [responseType_eq_getD, responseContent?, successResponse?_eq_some_iff.mpr ⟨entry.1, h⟩]
  rfl

theorem answersWith_of_preferred (components : Components)
    (h : IsPreferredResponse responses entry) :
    AnswersWith components entry.2 (responseType components responses) := by
  rw [responseType_of_preferred components h]
  constructor
  · intro hnone
    rw [hnone]
    rfl
  · intro response hresponse hcontent
    rw [hresponse, Option.bind_some, jsonContent?_eq_none_iff.mpr hcontent]
    rfl
  · intro response mediaType hresponse hcontent
    rw [hresponse, Option.bind_some, jsonContent?_eq_some_iff.mpr hcontent]
    rfl

/-- An operation answers with the response of success at the least place, of which there is no more
than one, and with no value if there is none. Another operation answers with the same type if it
declares that response too and none that precedes it, whatever else it declares. -/
theorem Operation.answer_ofDeclared (components : Components) (path : String) (method : Method)
    (shared : List (RefOr OpenApi.Parameter)) (declared : OpenApi.Operation) :
    let answer (declared : OpenApi.Operation) : TypeRef :=
      (ofDeclared components path method shared declared).responseType
    ((∃! entry, IsPreferredResponse declared.responses entry) ∨
      ∀ place entry, ¬ IsSuccessAt declared.responses place entry) ∧
    ((∀ place entry, ¬ IsSuccessAt declared.responses place entry) → answer declared = .unit) ∧
    ∀ entry, IsPreferredResponse declared.responses entry →
      AnswersWith components entry.2 (answer declared) ∧
      ∀ other : OpenApi.Operation, entry ∈ other.responses.entries →
        (∀ another, ¬ Precedes other.responses another entry) →
        answer other = answer declared := by
  intro answer
  refine ⟨?_, responseType_of_none components, fun entry hpreferred ↦
    ⟨answersWith_of_preferred components hpreferred, fun other hentry hbefore ↦ ?_⟩⟩
  · cases hfound : successResponse? declared.responses with
    | none => exact .inr (successResponse?_eq_none_iff.mp hfound)
    | some node =>
      obtain ⟨key, hpreferred⟩ := successResponse?_eq_some_iff.mp hfound
      exact .inl ⟨_, hpreferred, fun another hanother ↦ hanother.unique hpreferred⟩
  · have hother := hpreferred.of_not_precedes hentry hbefore
    change ApiOutline.responseType components other.responses =
      ApiOutline.responseType components declared.responses
    rw [responseType_of_preferred components hpreferred,
      responseType_of_preferred components hother]

/-- The response `201` counts although a default is declared before it, and it does so still among
other responses, where the default is gone and another response of success follows. -/
theorem Operation.answer_ofDeclared_created :
    let schema : OpenApi.Schema := { OpenApi.Schema.blank with type := some (.single "string") }
    let json : Table OpenApi.MediaType := .ofList
      [("text/plain", ⟨none⟩), ("Application/Problem+JSON; v=1", ⟨some schema⟩)]
    let created : String × RefOr Response := ("201", .item ⟨none, json⟩)
    let failed : String × RefOr Response := ("Default", .ref "#/components/responses/Failed")
    let declared : OpenApi.Operation :=
      { OpenApi.Operation.blank with responses := .ofList [failed, created] }
    let other : OpenApi.Operation :=
      { OpenApi.Operation.blank with
        responses := .ofList [created, ("2xx", .item ⟨none, .empty⟩), ("404", failed.2)] }
    let answer (declared : OpenApi.Operation) : TypeRef :=
      (ofDeclared .empty "/pets" .post [] declared).responseType
    IsPreferredResponse declared.responses created ∧ answer declared = .primitive .string ∧
      answer other = answer declared := by
  intro schema json created failed declared other answer
  have hpreferred : IsPreferredResponse declared.responses created :=
    isPreferredResponse_of_key (by decide +kernel) rfl
  have hkept : IsPreferredResponse other.responses created :=
    isPreferredResponse_of_key (by decide +kernel) rfl
  obtain ⟨-, -, hanswer⟩ := answer_ofDeclared .empty "/pets" .post [] declared
  obtain ⟨-, hsame⟩ := hanswer created hpreferred
  exact ⟨hpreferred, by decide +kernel,
    hsame other (Table.get?_eq_some_iff.mp rfl) hkept.not_precedes⟩

end ApiOutline
