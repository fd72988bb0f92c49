import ApiOutline.Extraction
import ApiOutline.Proofs.Loading.Checks
import ApiOutline.Proofs.Loading.Listing
import ApiOutline.Proofs.Text.Blank

/-!
Extensions are transparent. Dropping them takes out of a document exactly the entries that are
extensions among the paths or among the responses of an operation, or that lie within one
(`listing_dropExtensions`), and leaves all others in their order.

Nothing else looks at them either: the fields that every document has are checked to the same result
with and without extensions (`checkStructure_dropExtensions`). So a document is read as if it had
none (`Document.ofTree_dropExtensions`).
-/

set_option autoImplicit false
set_option relaxedAutoImplicit false

namespace ApiOutline.OpenApi

open Json (Address listing listingMembers)

/-! ### What is dropped from a listing -/

/-- Whether a key starts with an `x` and a dash. -/
def isMarked (key : String) : Bool := decide (['x', '-'] <+: key.toList)

theorem isExtension_eq_isMarked (key : String) : isExtension key = isMarked key := by
  rw [Bool.eq_iff_iff, isExtension, Text.startsWith_iff, isMarked, decide_eq_true_iff]

/-- Whether an entry is an extension among the paths or among the responses of an operation, or lies
within one. -/
def liesInExtension : Address → Bool
  | "paths" :: path :: _ :: "responses" :: status :: _ => isMarked path || isMarked status
  | "paths" :: path :: _ => isMarked path
  | _ => false

/-- A test of an address by its first key and what comes after it. -/
def atMember (test : String → Address → Bool) : Address → Bool
  | key :: rest => test key rest
  | [] => false

/-- A change of the members of an object takes out the entries whose addresses pass a test, and does
nothing else. -/
def Drops (change : Members → Members) (test : Address → Bool) : Prop :=
  ∀ members, listingMembers (change members) =
    (listingMembers members).filter fun entry ↦ !test entry.1

theorem Drops.listing_onObject {change : Members → Members} {test : Address → Bool}
    (h : Drops change test) (hroot : test [] = false) (json : Json) :
    (onObject change json).listing = json.listing.filter fun entry ↦ !test entry.1 := by
  cases json with
  | object members =>
    rw [onObject, Json.listing, Json.listing, h, List.filter_cons_of_pos (by simp [hroot])]
  | _ => simp [onObject, Json.listing, hroot]

/-- A change to the value of each member, by its key. -/
theorem drops_map {change : String → Json → Json} {test : String → Address → Bool}
    (h : ∀ key value, (change key value).listing =
      value.listing.filter fun entry ↦ !test key entry.1) :
    Drops (fun members ↦ members.map fun entry ↦ (entry.1, change entry.1 entry.2))
      (atMember test) := by
  intro members
  dsimp only
  induction members with
  | nil => rfl
  | cons member rest ih =>
    rw [List.map_cons, listingMembers, listingMembers, List.filter_append, ih, h, List.filter_map]
    rfl

theorem Drops.mapMember {change : Members → Members} {test : Address → Bool}
    (h : Drops change test) (hroot : test [] = false) (key : String) :
    Drops (mapMember key (onObject change)) (atMember fun name rest ↦ name = key && test rest) := by
  refine @drops_map (fun name value ↦ if name = key then onObject change value else value) _
    fun name value ↦ ?_
  by_cases hname : name = key
  · simp [hname, h.listing_onObject hroot]
  · rw [if_neg hname, List.filter_eq_self.mpr (by simp [hname])]

theorem Drops.comp {first second : Members → Members} {test other : Address → Bool}
    (h : Drops first test) (hother : Drops second other) :
    Drops (second ∘ first) fun address ↦ test address || other address := by
  intro members
  rw [Function.comp_apply, hother, h, List.filter_filter]
  refine List.filter_congr fun entry _ ↦ ?_
  rw [Bool.not_or, Bool.and_comm]

theorem dropExtensionEntries_cons (key : String) (value : Json) (rest : Members) :
    dropExtensionEntries ((key, value) :: rest) =
      if isExtension key then dropExtensionEntries rest
      else (key, value) :: dropExtensionEntries rest := by
  by_cases hkey : isExtension key <;> simp [dropExtensionEntries, hkey]

theorem drops_dropExtensionEntries :
    Drops dropExtensionEntries (atMember fun key _ ↦ isExtension key) := by
  intro members
  induction members with
  | nil => rfl
  | cons member rest ih =>
    obtain ⟨key, value⟩ := member
    -- All that is listed of a member starts with its key.
    have hvalue : (value.listing.map (·.under key)).filter
        (fun entry ↦ !atMember (fun key _ ↦ isExtension key) entry.1) =
          (value.listing.filter fun _ ↦ !isExtension key).map (·.under key) := List.filter_map
    rw [listingMembers, List.filter_append, ← ih, hvalue, dropExtensionEntries_cons]
    by_cases hkey : isExtension key
    · simp [hkey]
    · rw [if_neg hkey, listingMembers, List.filter_eq_self.mpr (by simp [hkey])]

theorem drops_dropItemExtensions : Drops dropItemExtensions
    (atMember fun _ ↦ atMember fun key rest ↦
      key = "responses" && atMember (fun status _ ↦ isExtension status) rest) :=
  drops_map fun _ operation ↦
    (drops_dropExtensionEntries.mapMember rfl "responses").listing_onObject rfl operation

theorem drops_dropPathExtensions : Drops dropPathExtensions fun address ↦
    atMember (fun path _ ↦ isExtension path) address ||
      atMember (fun _ ↦ atMember fun _ ↦ atMember fun key rest ↦
        key = "responses" && atMember (fun status _ ↦ isExtension status) rest) address :=
  drops_dropExtensionEntries.comp
    (drops_map fun _ item ↦ drops_dropItemExtensions.listing_onObject rfl item)

theorem liesInExtension_eq (address : Address) : liesInExtension address =
    atMember (fun root rest ↦ root = "paths" &&
      (atMember (fun path _ ↦ isExtension path) rest ||
        atMember (fun _ ↦ atMember fun _ ↦ atMember fun key rest ↦
          key = "responses" && atMember (fun status _ ↦ isExtension status) rest) rest))
      address := by
  rcases address with _ | ⟨root, _ | ⟨path, _ | ⟨member, _ | ⟨key, _ | ⟨status, rest⟩⟩⟩⟩⟩
  · rfl
  all_goals by_cases hroot : root = "paths" <;>
    simp [liesInExtension, atMember, hroot, isExtension_eq_isMarked]
  by_cases hkey : key = "responses" <;> simp [hkey]

theorem listing_dropExtensions (tree : Json) :
    (dropExtensions tree).listing = tree.listing.filter fun entry ↦ !liesInExtension entry.1 := by
  rw [dropExtensions, (drops_dropPathExtensions.mapMember rfl "paths").listing_onObject rfl]
  refine List.filter_congr fun entry _ ↦ congrArg (!·) ?_
  exact (liesInExtension_eq entry.1).symm

/-! ### Reading without extensions -/

theorem dropExtensions_dropExtensions (tree : Json) :
    dropExtensions (dropExtensions tree) = dropExtensions tree := by
  apply Json.listing_injective
  rw [listing_dropExtensions, listing_dropExtensions, List.filter_filter]
  simp only [Bool.and_self]

theorem pathsFaults_mapMember_paths (change : Members → Members) (root : Members) :
    pathsFaults (mapMember "paths" (onObject change) root) = pathsFaults root := by
  rw [pathsFaults, pathsFaults, lookup_mapMember, if_pos rfl]
  rcases root.lookup "paths" with _ | _ | _ | _ | _ | _ | _ <;> rfl

/-- The checks find the same with and without extensions. -/
theorem checkStructure_dropExtensions (tree : Json) :
    checkStructure (dropExtensions tree) = (checkStructure tree).map dropExtensions := by
  cases tree with
  | object root =>
    have hfaults : faults (mapMember "paths" (onObject dropPathExtensions) root) = faults root := by
      refine faults_congr (fun key hkey ↦ ?_) (pathsFaults_mapMember_paths _ root)
      rw [lookup_mapMember, if_neg]
      rintro rfl
      simp at hkey
    have htexts : withTextVersions (mapMember "paths" (onObject dropPathExtensions) root) =
        mapMember "paths" (onObject dropPathExtensions) (withTextVersions root) := by
      rw [withTextVersions, withTextVersions, mapMember_comm (show "openapi" ≠ "paths" by decide),
        mapMember_comm (show "info" ≠ "paths" by decide)]
    rw [dropExtensions, onObject, checkStructure_object, checkStructure_object, hfaults, htexts]
    cases faults root <;> rfl
  | _ => rfl

theorem Document.ofTree_dropExtensions (tree : Json) :
    Document.ofTree (dropExtensions tree) = Document.ofTree tree := by
  rw [Document.ofTree, Document.ofTree, checkStructure_dropExtensions]
  cases checkStructure tree with
  | error found => rfl
  | ok checked =>
    change (Document.read (dropExtensions (dropExtensions checked))).mapError _ = _
    rw [dropExtensions_dropExtensions]
    rfl

/-- Two values that differ by extensions alone: without these they have the same listing. -/
def SameButExtensions (tree other : Json) : Prop :=
  (tree.listing.filter fun entry ↦ !liesInExtension entry.1) =
    other.listing.filter fun entry ↦ !liesInExtension entry.1

/-- Dropping extensions takes out exactly these, and a document with others, or with none, has the
same outline or is rejected for the same faults. -/
theorem dropExtensions_transparent :
    (∀ tree, (dropExtensions tree).listing =
      tree.listing.filter fun entry ↦ !liesInExtension entry.1) ∧
    ∀ tree other, SameButExtensions tree other →
      (Document.ofTree tree).map Outline.ofDocument =
        (Document.ofTree other).map Outline.ofDocument := by
  refine ⟨listing_dropExtensions, fun tree other hsame ↦ ?_⟩
  have hdropped : dropExtensions tree = dropExtensions other := by
    apply Json.listing_injective
    rw [listing_dropExtensions, listing_dropExtensions, hsame]
  rw [← Document.ofTree_dropExtensions tree, hdropped, Document.ofTree_dropExtensions]

/-- Extensions among the paths and among the responses of an operation, of any content. -/
theorem dropExtensions_transparent_ping :
    let document (paths responses : Members) : Json := .object
      [("openapi", .string "3.0.0"),
        ("info", .object [("title", .string "Ping"), ("version", .string "1")]),
        ("paths", .object (paths ++ [("/ping", .object
          [("get", .object [("responses", .object (responses ++ [("200", .object [])]))])])]))]
    let plain := document [] []
    let extended := document [("x-owner", .array [.null])] [("x-note", .bool true)]
    SameButExtensions plain extended ∧ (Document.ofTree plain).toBool ∧
      (Document.ofTree plain).map Outline.ofDocument =
        (Document.ofTree extended).map Outline.ofDocument := by
  intro document plain extended
  have hsame : SameButExtensions plain extended := rfl
  exact ⟨hsame, rfl, dropExtensions_transparent.2 plain extended hsame⟩

end ApiOutline.OpenApi
