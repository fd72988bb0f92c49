import ApiOutline.Text.Case
import Mathlib.Data.List.Range

/-!
Changing the case of characters. No character is lost (`lowercaseText_eq_nil_iff`), and a text
without a sigma is changed character by character (`lowercaseText_eq_flatMap`).

A name is plain if it has only small letters of ASCII and numbers without case: its letters change
into the capitals of ASCII and back, and nothing else of it changes (`IsPlain`).
-/

set_option autoImplicit false
set_option relaxedAutoImplicit false

namespace ApiOutline.Text

/-! ### Texts in small letters -/

theorem lowercase_ne_nil (c : Char) : lowercase c ≠ [] := by
  unfold lowercase
  split
  · exact List.cons_ne_nil _ _
  · split <;> exact List.cons_ne_nil _ _

theorem lowercaseText_eq_nil_iff {text : List Char} : lowercaseText text = [] ↔ text = [] := by
  cases text with
  | nil => exact iff_of_true rfl rfl
  | cons c text =>
    refine iff_of_false ?_ (List.cons_ne_nil c text)
    rw [lowercaseText, lowercaseAfter]
    refine List.append_ne_nil_of_left_ne_nil ?_ _
    split
    · exact List.cons_ne_nil _ _
    · exact lowercase_ne_nil c

/-- Only a sigma looks at what is around it. -/
theorem lowercaseText_eq_flatMap {text : List Char} (h : 'Σ' ∉ text) :
    lowercaseText text = text.flatMap lowercase := by
  have hafter (before : List Char) : lowercaseAfter before text = text.flatMap lowercase := by
    induction text generalizing before with
    | nil => rfl
    | cons c text ih =>
      obtain ⟨hc, htext⟩ := not_or.mp (List.mem_cons.not.mp h)
      rw [lowercaseAfter, if_neg (Ne.symm hc), ih htext, List.flatMap_cons]
  exact hafter []

/-! ### Characters of ASCII -/

/-- The characters of consecutive codes. -/
def consecutive (first count : ℕ) : List Char :=
  (List.range count).map fun place ↦ Char.ofNat (first + place)

variable {P : Char → Prop} [DecidablePred P] {c : Char}

theorem of_consecutive {first count : ℕ} (hall : (consecutive first count).all (P ·) = true)
    (hfirst : first ≤ c.toNat) (hlast : c.toNat < first + count) : P c := by
  have hmem : c ∈ consecutive first count := by
    refine List.mem_map.mpr ⟨c.toNat - first, List.mem_range.mpr (by omega), ?_⟩
    rw [Nat.add_sub_cancel' hfirst, Char.ofNat_toNat]
  exact of_decide_eq_true (List.all_eq_true.mp hall c hmem)

@[elab_as_elim]
theorem of_isLower (h : c.isLower = true) (hall : (consecutive 97 26).all (P ·) = true) : P c := by
  obtain ⟨hfirst, hlast⟩ := Bool.and_eq_true_iff.mp h
  exact of_consecutive hall (of_decide_eq_true hfirst) (Nat.lt_succ_of_le (of_decide_eq_true hlast))

@[elab_as_elim]
theorem of_isDigit (h : c.isDigit = true) (hall : (consecutive 48 10).all (P ·) = true) : P c := by
  obtain ⟨hfirst, hlast⟩ := Char.isDigit_iff_toNat.mp h
  exact of_consecutive hall hfirst (Nat.lt_succ_of_le hlast)

/-! ### Plain characters -/

/-- A number that has no case: neither small nor a capital, and the same in both. -/
structure IsNumeral (c : Char) : Prop where
  isNumeric_eq : isNumeric c = true
  isLowercase_eq : isLowercase c = false
  isUppercase_eq : isUppercase c = false
  uppercase_eq : uppercase c = [c]
  lowercase_eq : lowercase c = [c]

theorem isNumeral_of_isDigit (h : c.isDigit = true) : IsNumeral c where
  isNumeric_eq := of_isDigit h (by decide)
  isLowercase_eq := of_isDigit h (by decide)
  isUppercase_eq := of_isDigit h (by decide)
  uppercase_eq := of_isDigit h (by decide)
  lowercase_eq := of_isDigit h (by decide)

/-- A small letter of ASCII, or a number without case. -/
inductive IsPlain (c : Char) : Prop
  | letter (h : c.isLower = true)
  | numeral (h : IsNumeral c)

theorem isLowercase_of_isLower (h : c.isLower = true) : isLowercase c = true :=
  of_isLower h (by decide)

theorem isUppercase_toUpper (h : c.isLower = true) : isUppercase c.toUpper = true :=
  of_isLower h (by decide)

theorem isNumeric_toUpper (h : c.isLower = true) : isNumeric c.toUpper = false :=
  of_isLower h (by decide)

theorem IsNumeral.toUpper_eq (h : IsNumeral c) : c.toUpper = c := by
  have hlower : ¬ c.isLower = true := by
    intro hlower
    have hsmall := isLowercase_of_isLower hlower
    rw [h.isLowercase_eq] at hsmall
    exact Bool.false_ne_true hsmall
  refine dif_neg fun hrange ↦ hlower ?_
  exact Bool.and_eq_true_iff.mpr ⟨decide_eq_true hrange.1, decide_eq_true hrange.2⟩

namespace IsPlain

theorem isLowercase_or_isNumeric (h : IsPlain c) : (isLowercase c || isNumeric c) = true := by
  rcases h with h | h
  · rw [isLowercase_of_isLower h, Bool.true_or]
  · rw [h.isNumeric_eq, Bool.or_true]

theorem isUppercase_eq (h : IsPlain c) : isUppercase c = false := by
  rcases h with h | h
  · exact of_isLower h (by decide)
  · exact h.isUppercase_eq

/-- No capital is a small letter, and numbers have none. -/
theorem isLowercase_toUpper (h : IsPlain c) : isLowercase c.toUpper = false := by
  rcases h with h | h
  · exact of_isLower h (by decide)
  · rw [h.toUpper_eq, h.isLowercase_eq]

theorem lowercase_eq (h : IsPlain c) : lowercase c = [c] := by
  rcases h with h | h
  · exact of_isLower h (by decide)
  · exact h.lowercase_eq

theorem lowercase_toUpper (h : IsPlain c) : lowercase c.toUpper = [c] := by
  rcases h with h | h
  · exact of_isLower h (by decide)
  · rw [h.toUpper_eq, h.lowercase_eq]

theorem uppercase_eq (h : IsPlain c) : uppercase c = [c.toUpper] := by
  rcases h with h | h
  · exact of_isLower h (by decide)
  · rw [h.toUpper_eq, h.uppercase_eq]

theorem uppercase_toUpper (h : IsPlain c) : uppercase c.toUpper = [c.toUpper] := by
  rcases h with h | h
  · exact of_isLower h (by decide)
  · rw [h.toUpper_eq, h.uppercase_eq]

theorem isAlphanumeric_eq (h : IsPlain c) : isAlphanumeric c = true := by
  rcases h with h | h
  · exact isAlphanumeric_of_isLowercase (isLowercase_of_isLower h)
  · exact isAlphanumeric_of_isNumeric h.isNumeric_eq

theorem isAlphanumeric_toUpper (h : IsPlain c) : isAlphanumeric c.toUpper = true := by
  rcases h with h | h
  · exact isAlphanumeric_of_isUppercase (isUppercase_toUpper h)
  · rw [h.toUpper_eq, isAlphanumeric_of_isNumeric h.isNumeric_eq]

end IsPlain

end ApiOutline.Text
