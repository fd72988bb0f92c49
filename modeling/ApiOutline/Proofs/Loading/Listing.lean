import ApiOutline.Json.Basic
import Mathlib.Data.List.TakeWhile

/-!
The entries of a JSON value in their order, each with its address: the keys of the members that lead
to it. A listing leaves nothing out, as there is one value with it (`listing_injective`). So what a
change does to a value can be said by what it does to the listing.

The entries below a member come right after it and lie deeper, so a listing falls into one part for
each member (`listingMembers_cons_inj`).
-/

set_option autoImplicit false
set_option relaxedAutoImplicit false

namespace ApiOutline.Json

/-- The keys of the members that lead to an entry, the outermost first. -/
abbrev Address := List String

/-- An entry and its content. The content of an object are entries of their own; any other value is
listed whole, arrays too. -/
abbrev Listed := Address × Option Json

/-- An entry as it is listed one member further out. -/
def Listed.under (key : String) (entry : Listed) : Listed := (key :: entry.1, entry.2)

mutual

/-- The value itself, and then the entries below it. -/
def listing : Json → List Listed
  | .object members => ([], none) :: listingMembers members
  | json => [([], some json)]

def listingMembers : List (String × Json) → List Listed
  | [] => []
  | (key, value) :: rest => value.listing.map (·.under key) ++ listingMembers rest

end

theorem Listed.under_injective (key : String) : Function.Injective (Listed.under key) := by
  rintro ⟨address, content⟩ ⟨other, otherContent⟩ h
  simpa [Listed.under] using h

/-! ### The parts of a listing -/

/-- What is listed of a value itself. -/
def content? : Json → Option Json
  | .object _ => none
  | json => some json

/-- The entries below a value. -/
def inner : Json → List Listed
  | .object members => listingMembers members
  | _ => []

theorem listing_eq_cons (json : Json) : json.listing = ([], json.content?) :: json.inner := by
  cases json <;> rfl

theorem eq_of_content? {json value : Json} (h : json.content? = some value) : json = value := by
  cases json <;> simp_all [content?]

theorem content?_eq_of_listing_eq {first second : Json} (h : first.listing = second.listing) :
    first.content? = second.content? := by
  rw [listing_eq_cons, listing_eq_cons second, List.cons.injEq, Prod.mk.injEq] at h
  exact h.1.2

/-- Whether an entry lies below a member of the outermost object. -/
def Listed.isInner (entry : Listed) : Bool := 2 ≤ entry.1.length

theorem address_ne_nil_of_mem_inner {json : Json} {entry : Listed} (h : entry ∈ json.inner) :
    entry.1 ≠ [] := by
  have hmembers : ∀ members : List (String × Json), ∀ entry ∈ listingMembers members,
      entry.1 ≠ [] := by
    intro members
    induction members with
    | nil => simp [listingMembers]
    | cons member rest ih =>
      intro entry hentry
      rw [listingMembers, List.mem_append, List.mem_map] at hentry
      rcases hentry with ⟨inside, -, rfl⟩ | hentry
      · exact List.cons_ne_nil _ _
      · exact ih entry hentry
  cases json with
  | object members => exact hmembers members entry h
  | _ => simp [inner] at h

theorem isInner_under {json : Json} {key : String} {entry : Listed}
    (h : entry ∈ json.inner.map (·.under key)) : entry.isInner = true := by
  obtain ⟨inside, hinside, rfl⟩ := List.mem_map.mp h
  have hlength := List.length_pos_iff.mpr (address_ne_nil_of_mem_inner hinside)
  simpa [Listed.isInner, Listed.under, Nat.one_le_iff_ne_zero, Nat.pos_iff_ne_zero] using hlength

/-- The first entry of the members lies in no member but its own. -/
theorem takeWhile_isInner_listingMembers (members : List (String × Json)) :
    (listingMembers members).takeWhile Listed.isInner = [] := by
  cases members with
  | nil => rfl
  | cons member rest =>
    rw [listingMembers, listing_eq_cons, List.map_cons, List.cons_append]
    exact List.takeWhile_cons_of_neg (by simp [Listed.isInner, Listed.under])

/-- The part of the first member is the first entry with all that lies below it. -/
theorem listingMembers_cons_inj {key other : String} {value otherValue : Json}
    {rest otherRest : List (String × Json)}
    (h : listingMembers ((key, value) :: rest) =
      listingMembers ((other, otherValue) :: otherRest)) :
    key = other ∧ value.listing = otherValue.listing ∧
      listingMembers rest = listingMembers otherRest := by
  rw [listingMembers, listingMembers, listing_eq_cons, listing_eq_cons otherValue, List.map_cons,
    List.map_cons, List.cons_append, List.cons_append, List.cons.injEq] at h
  obtain ⟨hfirst, hafter⟩ := h
  simp only [Listed.under, Prod.mk.injEq, List.cons.injEq, and_true] at hfirst
  obtain ⟨rfl, hcontent⟩ := hfirst
  have htake := congrArg (List.takeWhile Listed.isInner) hafter
  rw [List.takeWhile_append_of_pos fun _ ↦ isInner_under,
    List.takeWhile_append_of_pos fun _ ↦ isInner_under, takeWhile_isInner_listingMembers,
    takeWhile_isInner_listingMembers, List.append_nil, List.append_nil] at htake
  have hinner := (List.map_inj_right fun _ _ h ↦ Listed.under_injective key h).mp htake
  have hrest := List.append_cancel_left (htake ▸ hafter)
  exact ⟨rfl, by rw [listing_eq_cons, listing_eq_cons, hcontent, hinner], hrest⟩

mutual

private theorem eq_of_listing_eq : (first second : Json) → first.listing = second.listing →
    first = second
  | .object members, second, h => by
    cases second with
    | object others =>
      exact congrArg object (eq_of_listingMembers_eq members others (List.cons.inj h).2)
    | _ => exact absurd (content?_eq_of_listing_eq h) (by simp [content?])
  | .null, _, h | .bool _, _, h | .number _, _, h | .string _, _, h | .array _, _, h =>
    (eq_of_content? (content?_eq_of_listing_eq h).symm).symm

private theorem eq_of_listingMembers_eq : (members others : List (String × Json)) →
    listingMembers members = listingMembers others → members = others
  | [], [], _ => rfl
  | (key, value) :: rest, (other, otherValue) :: otherRest, h => by
    obtain ⟨rfl, hvalue, hrest⟩ := listingMembers_cons_inj h
    rw [eq_of_listing_eq value otherValue hvalue, eq_of_listingMembers_eq rest otherRest hrest]
  | [], (_, other) :: _, h => by simp [listingMembers, listing_eq_cons other] at h
  | (_, value) :: _, [], h => by simp [listingMembers, listing_eq_cons value] at h

end

theorem listing_injective : Function.Injective listing := fun _ _ h ↦ eq_of_listing_eq _ _ h

end ApiOutline.Json
