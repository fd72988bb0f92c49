import ApiOutline.Text.Blank
import Mathlib.Data.List.Infix
import Mathlib.Data.List.TakeWhile

/-!
White space around a text: a text is trimmed to the part that neither starts nor ends with white
space and has nothing but white space around it, of which there is one (`isTrimmed_iff`). This is
empty if there is nothing but white space (`trim_eq_nil_iff`).
-/

set_option autoImplicit false
set_option relaxedAutoImplicit false

namespace ApiOutline.Text

/-! ### Starts and ends -/

theorem startsWith_iff (start text : List Char) :
    startsWith start text = true ↔ start <+: text := by
  induction start generalizing text with
  | nil => simp [startsWith]
  | cons first start ih =>
    cases text with
    | nil => simp [startsWith]
    | cons letter text => simp [startsWith, ih, List.cons_prefix_cons]

theorem endsWith_iff (ending text : List Char) : endsWith ending text = true ↔ ending <:+ text := by
  rw [endsWith, startsWith_iff, List.reverse_prefix]

/-! ### Trimming -/

/-- A part of a text that has only white space around it, and none at its own ends. -/
structure IsTrimmed (text part : List Char) : Prop where
  around : ∃ before after, text = before ++ part ++ after ∧ (∀ c ∈ before, isBlank c = true) ∧
    ∀ c ∈ after, isBlank c = true
  head : ∀ c ∈ part.head?, isBlank c = false
  last : ∀ c ∈ part.getLast?, isBlank c = false

theorem dropWhile_append_eq {blank : Char → Bool} {before rest : List Char}
    (hbefore : ∀ c ∈ before, blank c = true) (hrest : ∀ c ∈ rest.head?, blank c = false) :
    (before ++ rest).dropWhile blank = rest := by
  rw [List.dropWhile_append_of_pos hbefore]
  cases rest with
  | nil => rfl
  | cons first rest => exact List.dropWhile_cons_of_neg (by simp [hrest first rfl])

theorem head?_dropWhile_eq_false (blank : Char → Bool) (text : List Char) {c : Char}
    (hc : c ∈ (text.dropWhile blank).head?) : blank c = false := by
  have hnot := List.head?_dropWhile_not blank text
  rw [Option.mem_def.mp hc] at hnot
  exact hnot

theorem isTrimmed_trim (text : List Char) : IsTrimmed text (trim text) := by
  have hstart := List.takeWhile_append_dropWhile (p := isBlank) (l := text)
  have hend := List.takeWhile_append_dropWhile (p := isBlank) (l := (trimStart text).reverse)
  have hsplit : trimStart text =
      trim text ++ ((trimStart text).reverse.takeWhile isBlank).reverse := by
    rw [trim, trimEnd, ← List.reverse_append, hend, List.reverse_reverse]
  refine ⟨⟨text.takeWhile isBlank, ((trimStart text).reverse.takeWhile isBlank).reverse, ?_,
    fun c hc ↦ List.mem_takeWhile_imp hc,
    fun c hc ↦ List.mem_takeWhile_imp (List.mem_reverse.mp hc)⟩, ?_, ?_⟩
  · rw [List.append_assoc, ← hsplit]
    exact hstart.symm
  · intro c hc
    -- The first character that is left was the first one before the end was cut off.
    refine head?_dropWhile_eq_false isBlank text ?_
    change c ∈ (trimStart text).head?
    rw [hsplit, List.head?_append, Option.mem_def.mp hc, Option.some_or]
    rfl
  · intro c hc
    rw [trim, trimEnd, List.getLast?_reverse] at hc
    exact head?_dropWhile_eq_false isBlank _ hc

theorem isTrimmed_iff {text part : List Char} : IsTrimmed text part ↔ part = trim text := by
  constructor
  · rintro ⟨⟨before, after, rfl, hbefore, hafter⟩, hhead, hlast⟩
    have hstart : trimStart (before ++ part ++ after) =
        if part = [] then [] else part ++ after := by
      cases part with
      | nil =>
        have hall : ∀ c ∈ before ++ after, isBlank c = true := by
          intro c hc
          exact (List.mem_append.mp hc).elim (hbefore c) (hafter c)
        rw [List.append_nil, trimStart, if_pos rfl, List.dropWhile_eq_nil_iff]
        exact hall
      | cons first part =>
        rw [List.append_assoc, trimStart, if_neg (List.cons_ne_nil first part)]
        exact dropWhile_append_eq hbefore hhead
    rw [trim, hstart, trimEnd]
    split_ifs with hnil
    · exact hnil
    · have hreverse : ∀ c ∈ part.reverse.head?, isBlank c = false := by
        rwa [List.head?_reverse]
      rw [List.reverse_append,
        dropWhile_append_eq (fun c hc ↦ hafter c (List.mem_reverse.mp hc)) hreverse,
        List.reverse_reverse]
  · rintro rfl
    exact isTrimmed_trim text

theorem trim_eq_nil_iff {text : List Char} : trim text = [] ↔ ∀ c ∈ text, isBlank c = true := by
  rw [eq_comm, ← isTrimmed_iff]
  constructor
  · rintro ⟨⟨before, after, rfl, hbefore, hafter⟩, -, -⟩ c hc
    rw [List.append_nil] at hc
    exact (List.mem_append.mp hc).elim (hbefore c) (hafter c)
  · intro hblank
    exact ⟨⟨text, [], by simp, hblank, nofun⟩, nofun, nofun⟩

end ApiOutline.Text
