import ApiOutline.Json.Printer
import ApiOutline.Json.Reader
import Mathlib.Data.List.Basic

/-!
JSON text with blanks between its marks. A spacing says which blanks stand before an item or member
of each depth and before the end of its container, and which after a colon. The compact text has
none (`Regular.compactText_eq`), and the indented text breaks the line (`Regular.indentedText_eq`),
so what is true of every spacing is true of both.

The values are regular ones: no key occurs twice in an object, and numbers, whose texts need a law
of their own, do not occur.
-/

set_option autoImplicit false
set_option relaxedAutoImplicit false

namespace ApiOutline.Json

/-! ### Regular values -/

/-- A value without numbers in which the keys of every object are distinct. -/
inductive Regular : Json → Prop
  | null : Regular .null
  | bool (value : Bool) : Regular (.bool value)
  | string (value : String) : Regular (.string value)
  | array {items : List Json} (hitems : ∀ item ∈ items, Regular item) : Regular (.array items)
  | object {members : List (String × Json)} (hkeys : (members.map Prod.fst).Nodup)
      (hmembers : ∀ entry ∈ members, Regular entry.2) : Regular (.object members)

mutual

/-- How many containers are open at a time, at the most. -/
def nesting : Json → ℕ
  | .array items => nestingItems items + 1
  | .object members => nestingMembers members + 1
  | _ => 0

def nestingItems : List Json → ℕ
  | [] => 0
  | item :: rest => max item.nesting (nestingItems rest)

def nestingMembers : List (String × Json) → ℕ
  | [] => 0
  | (_, value) :: rest => max value.nesting (nestingMembers rest)

end

theorem nesting_le_nestingItems {items : List Json} {item : Json} (hitem : item ∈ items) :
    item.nesting ≤ nestingItems items := by
  induction items with
  | nil => cases hitem
  | cons first rest ih =>
    rw [nestingItems]
    rcases List.mem_cons.mp hitem with rfl | hitem
    · exact Nat.le_max_left _ _
    · exact Nat.le_trans (ih hitem) (Nat.le_max_right _ _)

theorem nesting_le_nestingMembers {members : List (String × Json)} {entry : String × Json}
    (hentry : entry ∈ members) : entry.2.nesting ≤ nestingMembers members := by
  induction members with
  | nil => cases hentry
  | cons first rest ih =>
    rw [nestingMembers]
    rcases List.mem_cons.mp hentry with rfl | hentry
    · exact Nat.le_max_left _ _
    · exact Nat.le_trans (ih hentry) (Nat.le_max_right _ _)

theorem exists_lt_nesting_items {items : List Json} {n : ℕ} (h : n < nestingItems items) :
    ∃ item ∈ items, n < item.nesting := by
  induction items with
  | nil => cases h
  | cons first rest ih =>
    rw [nestingItems] at h
    by_cases hfirst : n < first.nesting
    · exact ⟨first, List.mem_cons_self, hfirst⟩
    · obtain ⟨item, hitem, hless⟩ := ih (by omega)
      exact ⟨item, List.mem_cons_of_mem first hitem, hless⟩

theorem exists_lt_nesting_members {members : List (String × Json)} {n : ℕ}
    (h : n < nestingMembers members) : ∃ entry ∈ members, n < entry.2.nesting := by
  induction members with
  | nil => cases h
  | cons first rest ih =>
    rw [nestingMembers] at h
    by_cases hfirst : n < first.2.nesting
    · exact ⟨first, List.mem_cons_self, hfirst⟩
    · obtain ⟨entry, hentry, hless⟩ := ih (by omega)
      exact ⟨entry, List.mem_cons_of_mem first hentry, hless⟩

/-! ### Spaced text -/

/-- The blanks of a text: before what stands inside so many containers, and after a colon. -/
structure Spacing where
  gap : ℕ → List Char
  afterColon : List Char
  isBlank_gap : ∀ depth, ∀ c ∈ gap depth, isBlank c = true
  isBlank_afterColon : ∀ c ∈ afterColon, isBlank c = true

namespace Spacing

def closed : Spacing where
  gap _ := []
  afterColon := []
  isBlank_gap := by simp
  isBlank_afterColon := by simp

def lines : Spacing where
  gap := newline
  afterColon := [' ']
  isBlank_gap := by
    intro depth c hc
    rcases List.mem_cons.mp hc with rfl | hc
    · rfl
    · rw [List.eq_of_mem_replicate hc]
      rfl
  isBlank_afterColon := by
    intro c hc
    rw [List.mem_singleton.mp hc]
    rfl

end Spacing

variable (spacing : Spacing)

/-- What stands before the value of a member. -/
def keyText (depth : ℕ) (key : String) : List Char :=
  spacing.gap depth ++ (stringText key ++ ':' :: spacing.afterColon)

mutual

/-- The text of a value inside `depth` containers. -/
def spacedText (depth : ℕ) : Json → List Char
  | .null => "null".toList
  | .bool value => boolText value
  | .number value => value.text.toList
  | .string value => stringText value
  | .array [] => ['[', ']']
  | .array (item :: rest) =>
    '[' :: (spacing.gap (depth + 1) ++ (spacedText (depth + 1) item ++
      (furtherItems (depth + 1) rest ++ (spacing.gap depth ++ [']']))))
  | .object [] => ['\x7b', '\x7d']
  | .object ((key, value) :: rest) =>
    '\x7b' :: (keyText spacing (depth + 1) key ++ (spacedText (depth + 1) value ++
      (furtherMembers (depth + 1) rest ++ (spacing.gap depth ++ ['\x7d']))))

/-- The text of the items after the first. -/
def furtherItems (depth : ℕ) : List Json → List Char
  | [] => []
  | item :: rest =>
    ',' :: (spacing.gap depth ++ (spacedText depth item ++ furtherItems depth rest))

/-- The text of the members after the first. -/
def furtherMembers (depth : ℕ) : List (String × Json) → List Char
  | [] => []
  | (key, value) :: rest =>
    ',' :: (keyText spacing depth key ++ (spacedText depth value ++ furtherMembers depth rest))

end

section Equations

variable (depth : ℕ)

theorem spacedText_array_nil : spacedText spacing depth (.array []) = ['[', ']'] := rfl

theorem spacedText_array_cons (item : Json) (rest : List Json) :
    spacedText spacing depth (.array (item :: rest)) =
      '[' :: (spacing.gap (depth + 1) ++ (spacedText spacing (depth + 1) item ++
        (furtherItems spacing (depth + 1) rest ++ (spacing.gap depth ++ [']'])))) :=
  rfl

theorem spacedText_object_nil : spacedText spacing depth (.object []) = ['\x7b', '\x7d'] := rfl

theorem spacedText_object_cons (key : String) (value : Json) (rest : List (String × Json)) :
    spacedText spacing depth (.object ((key, value) :: rest)) =
      '\x7b' :: (keyText spacing (depth + 1) key ++ (spacedText spacing (depth + 1) value ++
        (furtherMembers spacing (depth + 1) rest ++ (spacing.gap depth ++ ['\x7d'])))) :=
  rfl

theorem furtherItems_nil : furtherItems spacing depth [] = [] := rfl

theorem furtherItems_cons (item : Json) (rest : List Json) :
    furtherItems spacing depth (item :: rest) =
      ',' :: (spacing.gap depth ++
        (spacedText spacing depth item ++ furtherItems spacing depth rest)) :=
  rfl

theorem furtherMembers_nil : furtherMembers spacing depth [] = [] := rfl

theorem furtherMembers_cons (key : String) (value : Json) (rest : List (String × Json)) :
    furtherMembers spacing depth ((key, value) :: rest) =
      ',' :: (keyText spacing depth key ++
        (spacedText spacing depth value ++ furtherMembers spacing depth rest)) :=
  rfl

end Equations

/-! ### The compact text -/

theorem compactItems_eq {depth : ℕ} {item : Json} {rest : List Json}
    (h : ∀ other ∈ item :: rest, other.compactText = spacedText .closed depth other) :
    compactItems (item :: rest) =
      spacedText .closed depth item ++ furtherItems .closed depth rest := by
  induction rest generalizing item with
  | nil => rw [compactItems, furtherItems_nil, List.append_nil, h item List.mem_cons_self]
  | cons next rest ih =>
    have hnext := ih fun other hother ↦ h other (List.mem_cons_of_mem item hother)
    rw [compactItems, furtherItems_cons, hnext, h item List.mem_cons_self]
    · rfl
    · simp

theorem keyText_closed_append (depth : ℕ) (key : String) (text : List Char) :
    keyText .closed depth key ++ text = stringText key ++ ':' :: text := by
  have hkey : keyText .closed depth key = stringText key ++ [':'] := List.nil_append _
  rw [hkey, List.append_assoc, List.singleton_append]

theorem compactMembers_eq {depth : ℕ} {key : String} {value : Json} {rest : List (String × Json)}
    (h : ∀ entry ∈ (key, value) :: rest, entry.2.compactText = spacedText .closed depth entry.2) :
    compactMembers ((key, value) :: rest) =
      keyText .closed depth key ++
        (spacedText .closed depth value ++ furtherMembers .closed depth rest) := by
  have hvalue := h (key, value) List.mem_cons_self
  induction rest generalizing key value with
  | nil =>
    rw [compactMembers, furtherMembers_nil, List.append_nil, hvalue, keyText_closed_append]
  | cons next rest ih =>
    obtain ⟨nextKey, nextValue⟩ := next
    have hnext := ih (fun entry hentry ↦ h entry (List.mem_cons_of_mem _ hentry))
      (h _ (List.mem_cons_of_mem _ List.mem_cons_self))
    rw [compactMembers, furtherMembers_cons, hnext, hvalue, keyText_closed_append _ key,
      List.append_assoc, List.cons_append]
    simp

theorem Regular.compactText_eq {json : Json} (h : json.Regular) (depth : ℕ) :
    json.compactText = spacedText .closed depth json := by
  induction h generalizing depth with
  | null => rfl
  | bool value => rfl
  | string value => rfl
  | @array items hitems ih =>
    cases items with
    | nil => rfl
    | cons item rest =>
      rw [compactText, compactItems_eq fun other hother ↦ ih other hother (depth + 1),
        spacedText_array_cons]
      exact congrArg (List.cons '[') (List.append_assoc _ _ _)
  | @object members hkeys hmembers ih =>
    cases members with
    | nil => rfl
    | cons entry rest =>
      obtain ⟨key, value⟩ := entry
      rw [compactText, compactMembers_eq fun other hother ↦ ih other hother (depth + 1),
        spacedText_object_cons]
      simp only [List.append_assoc, List.cons_append]
      rfl

/-! ### The indented text -/

theorem indentedItems_eq {depth : ℕ} {item : Json} {rest : List Json}
    (h : ∀ other ∈ item :: rest, other.indentedText depth = spacedText .lines depth other) :
    indentedItems depth (item :: rest) =
      newline depth ++ (spacedText .lines depth item ++ furtherItems .lines depth rest) := by
  induction rest generalizing item with
  | nil => rw [indentedItems, furtherItems_nil, List.append_nil, h item List.mem_cons_self]
  | cons next rest ih =>
    have hnext := ih fun other hother ↦ h other (List.mem_cons_of_mem item hother)
    rw [indentedItems, furtherItems_cons, hnext, h item List.mem_cons_self, List.append_assoc]
    · rfl
    · simp

theorem keyText_lines_append (depth : ℕ) (key : String) (text : List Char) :
    keyText .lines depth key ++ text = newline depth ++ stringText key ++ ':' :: ' ' :: text := by
  have hkey : keyText .lines depth key = newline depth ++ (stringText key ++ [':', ' ']) := rfl
  rw [hkey, List.append_assoc, List.append_assoc, List.append_assoc]
  rfl

theorem indentedMembers_eq {depth : ℕ} {key : String} {value : Json} {rest : List (String × Json)}
    (h : ∀ entry ∈ (key, value) :: rest,
      entry.2.indentedText depth = spacedText .lines depth entry.2) :
    indentedMembers depth ((key, value) :: rest) =
      keyText .lines depth key ++
        (spacedText .lines depth value ++ furtherMembers .lines depth rest) := by
  have hvalue := h (key, value) List.mem_cons_self
  induction rest generalizing key value with
  | nil =>
    rw [indentedMembers, furtherMembers_nil, List.append_nil, hvalue, keyText_lines_append]
  | cons next rest ih =>
    obtain ⟨nextKey, nextValue⟩ := next
    have hnext := ih (fun entry hentry ↦ h entry (List.mem_cons_of_mem _ hentry))
      (h _ (List.mem_cons_of_mem _ List.mem_cons_self))
    rw [indentedMembers, furtherMembers_cons, hnext, hvalue, keyText_lines_append _ key,
      List.append_assoc, List.cons_append, List.cons_append]
    simp

theorem Regular.indentedText_eq {json : Json} (h : json.Regular) (depth : ℕ) :
    json.indentedText depth = spacedText .lines depth json := by
  induction h generalizing depth with
  | null => rfl
  | bool value => rfl
  | string value => rfl
  | @array items hitems ih =>
    cases items with
    | nil => rfl
    | cons item rest =>
      rw [indentedText, indentedItems_eq fun other hother ↦ ih other hother (depth + 1),
        spacedText_array_cons]
      simp only [List.append_assoc, List.cons_append]
      rfl
  | @object members hkeys hmembers ih =>
    cases members with
    | nil => rfl
    | cons entry rest =>
      obtain ⟨key, value⟩ := entry
      rw [indentedText, indentedMembers_eq fun other hother ↦ ih other hother (depth + 1),
        spacedText_object_cons]
      simp only [List.append_assoc, List.cons_append]
      rfl

/-! ### Characters of the compact text -/

/-- A text without control characters, so without line breaks. -/
def Printable (text : List Char) : Prop := ∀ c ∈ text, 0x20 ≤ c.toNat

theorem Printable.nil : Printable [] := by simp [Printable]

theorem Printable.append {text more : List Char} (h : Printable text) (hmore : Printable more) :
    Printable (text ++ more) :=
  List.forall_mem_append.mpr ⟨h, hmore⟩

theorem Printable.cons {c : Char} {text : List Char} (hc : 0x20 ≤ c.toNat) (h : Printable text) :
    Printable (c :: text) :=
  List.forall_mem_cons.mpr ⟨hc, h⟩

theorem printable_of_all {text : List Char} (h : text.all (fun c ↦ 0x20 ≤ c.toNat) = true) :
    Printable text := by
  intro c hc
  exact of_decide_eq_true (List.all_eq_true.mp h c hc)

theorem printable_hexDigit (n : ℕ) : 0x20 ≤ (hexDigit n).toNat := by
  have hdigit : ∀ n < 16, 0x20 ≤ (Nat.digitChar n).toNat := by decide
  exact hdigit (n % 16) (Nat.mod_lt n (by decide))

theorem printable_escapedChar (c : Char) : Printable (escapedChar c) := by
  unfold escapedChar
  split
  case h_8 =>
    split
    · intro d hd
      simp only [List.mem_cons, List.not_mem_nil, or_false] at hd
      rcases hd with rfl | rfl | rfl | rfl | rfl | rfl
      all_goals first | decide | exact printable_hexDigit _
    · next hc => exact Printable.cons (Nat.le_of_not_lt hc) .nil
  all_goals
    intro d hd
    simp only [List.mem_cons, List.not_mem_nil, or_false] at hd
    rcases hd with rfl | rfl <;> decide

theorem printable_stringText (s : String) : Printable (stringText s) := by
  have hbody : Printable (s.toList.flatMap escapedChar) := by
    intro d hd
    obtain ⟨c, -, hc⟩ := List.mem_flatMap.mp hd
    exact printable_escapedChar c d hc
  rw [stringText, List.cons_append]
  exact .cons (by decide) (hbody.append (.cons (by decide) .nil))

theorem printable_keyText (depth : ℕ) (key : String) : Printable (keyText .closed depth key) := by
  have hend : Printable [':'] := .cons (by decide) .nil
  exact (printable_stringText key).append hend

theorem printable_furtherItems {depth : ℕ} {items : List Json}
    (h : ∀ item ∈ items, Printable (spacedText .closed depth item)) :
    Printable (furtherItems .closed depth items) := by
  induction items with
  | nil =>
    rw [furtherItems_nil]
    exact .nil
  | cons item rest ih =>
    obtain ⟨hitem, hrest⟩ := List.forall_mem_cons.mp h
    rw [furtherItems_cons]
    exact .cons (by decide) (hitem.append (ih hrest))

theorem printable_furtherMembers {depth : ℕ} {members : List (String × Json)}
    (h : ∀ entry ∈ members, Printable (spacedText .closed depth entry.2)) :
    Printable (furtherMembers .closed depth members) := by
  induction members with
  | nil =>
    rw [furtherMembers_nil]
    exact .nil
  | cons entry rest ih =>
    obtain ⟨key, value⟩ := entry
    obtain ⟨hvalue, hrest⟩ := List.forall_mem_cons.mp h
    rw [furtherMembers_cons]
    exact .cons (by decide) ((printable_keyText depth key).append (hvalue.append (ih hrest)))

theorem Regular.printable_spacedText {json : Json} (h : json.Regular) (depth : ℕ) :
    Printable (spacedText .closed depth json) := by
  have hend (c : Char) (hc : 0x20 ≤ c.toNat) : Printable [c] := .cons hc .nil
  induction h generalizing depth with
  | null => exact printable_of_all rfl
  | bool value => cases value <;> exact printable_of_all rfl
  | string value => exact printable_stringText value
  | @array items hitems ih =>
    cases items with
    | nil => exact .cons (by decide) (hend ']' (by decide))
    | cons item rest =>
      obtain ⟨hitem, hrest⟩ := List.forall_mem_cons.mp ih
      rw [spacedText_array_cons]
      exact .cons (by decide) ((hitem (depth + 1)).append
        ((printable_furtherItems fun other hother ↦ hrest other hother (depth + 1)).append
          (hend ']' (by decide))))
  | @object members hkeys hmembers ih =>
    cases members with
    | nil => exact .cons (by decide) (hend '\x7d' (by decide))
    | cons entry rest =>
      obtain ⟨key, value⟩ := entry
      obtain ⟨hvalue, hrest⟩ := List.forall_mem_cons.mp ih
      rw [spacedText_object_cons]
      exact .cons (by decide) ((printable_keyText (depth + 1) key).append
        ((hvalue (depth + 1)).append
          ((printable_furtherMembers fun other hother ↦ hrest other hother (depth + 1)).append
            (hend '\x7d' (by decide)))))

theorem Regular.printable_compactText {json : Json} (h : json.Regular) :
    Printable json.compactText := by
  rw [h.compactText_eq 0]
  exact h.printable_spacedText 0

end ApiOutline.Json
