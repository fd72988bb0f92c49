import ApiOutline.Naming.Words
import Mathlib.Data.List.Basic

/-!
The words of a text. Nothing is lost but what separates them (`flatten_words`), and none is empty.
Both hold of one step (`wordsAfter_step`) and so of the beginning of a text (`wordsAfter_append`).

Two equations cut a text at the end of a word: a separator parts what is before it from what is
after it, as no look at neighbours goes beyond it (`words_append_separator`), and letters of which
none starts a word are one word up to a letter that does (`words_append_of_unbroken`).
-/

set_option autoImplicit false
set_option relaxedAutoImplicit false

namespace ApiOutline.Naming

open Text

/-- A character ends the word in progress, or starts a word after it, or is a part of it. -/
theorem wordsAfter_cons (word : List Char) (c : Char) (text : List Char) :
    wordsAfter word (c :: text) =
      if isAlphanumeric c = false then finishWord word ++ words text
      else if word.head?.any (startsWord · c text.head?) then word.reverse :: wordsAfter [c] text
      else wordsAfter (c :: word) text := by
  cases word <;> simp [wordsAfter, words]

theorem words_cons {c : Char} (h : isAlphanumeric c = true) (text : List Char) :
    words (c :: text) = wordsAfter [c] text := by
  rw [words, wordsAfter_cons, if_neg (by simp [h]), List.head?_nil, Option.any_none,
    if_neg Bool.false_ne_true]

/-! ### What words are made of -/

theorem flatten_finishWord (word : List Char) : (finishWord word).flatten = word.reverse := by
  cases word <;> simp [finishWord]

theorem ne_nil_of_mem_finishWord {word found : List Char} (h : found ∈ finishWord word) :
    found ≠ [] := by
  cases word with
  | nil => exact absurd h List.not_mem_nil
  | cons last before =>
    obtain rfl := List.mem_singleton.mp h
    simp

/-- The words that a character ends and the next word in progress hold the letters of the word in
progress, and the character if it is a letter. The next word in progress then ends in it. -/
theorem wordsAfter_step (word : List Char) (c : Char) (text : List Char) :
    ∃ ended next, wordsAfter word (c :: text) = ended ++ wordsAfter next text ∧
      (∀ found ∈ ended, found ≠ []) ∧
      ended.flatten ++ next.reverse = word.reverse ++ [c].filter isAlphanumeric ∧
      (isAlphanumeric c = true → next.head? = some c) := by
  rw [wordsAfter_cons]
  split_ifs with hseparator hstart
  · refine ⟨finishWord word, [], rfl, fun _ ↦ ne_nil_of_mem_finishWord, ?_, ?_⟩
    · rw [flatten_finishWord, List.reverse_nil, List.filter_singleton, hseparator]
      rfl
    · intro hletter
      rw [hseparator] at hletter
      exact absurd hletter Bool.false_ne_true
  · refine ⟨[word.reverse], [c], rfl, ?_, ?_, fun _ ↦ rfl⟩
    · refine List.forall_mem_singleton.mpr fun hnil ↦ ?_
      rw [List.reverse_eq_nil_iff.mp hnil] at hstart
      exact absurd hstart Bool.false_ne_true
    · simp [hseparator]
  · exact ⟨[], c :: word, rfl, by simp, by simp [hseparator], fun _ ↦ rfl⟩

/-- No letter of the beginning of a text is lost. -/
theorem wordsAfter_append (word before rest : List Char) :
    ∃ ended next, wordsAfter word (before ++ rest) = ended ++ wordsAfter next rest ∧
      (∀ found ∈ ended, found ≠ []) ∧
      ended.flatten ++ next.reverse = word.reverse ++ before.filter isAlphanumeric := by
  induction before generalizing word with
  | nil => exact ⟨[], word, rfl, by simp, by simp⟩
  | cons c before ih =>
    obtain ⟨ended, next, hstep, hended, hletters, -⟩ := wordsAfter_step word c (before ++ rest)
    obtain ⟨later, last, hrun, hlater, hrest⟩ := ih next
    refine ⟨ended ++ later, last, ?_, List.forall_mem_append.mpr ⟨hended, hlater⟩, ?_⟩
    · rw [List.cons_append, hstep, hrun, List.append_assoc]
    · rw [List.flatten_append, List.append_assoc, hrest, ← List.append_assoc, hletters,
        List.append_assoc, ← List.filter_append, List.singleton_append]

/-- The letters of the word in progress come first. -/
theorem flatten_wordsAfter (word text : List Char) :
    (wordsAfter word text).flatten = word.reverse ++ text.filter isAlphanumeric := by
  obtain ⟨ended, last, hwords, -, hletters⟩ := wordsAfter_append word text []
  rw [List.append_nil] at hwords
  rw [hwords, List.flatten_append, wordsAfter, flatten_finishWord, hletters]

theorem flatten_words (text : List Char) : (words text).flatten = text.filter isAlphanumeric :=
  flatten_wordsAfter [] text

theorem ne_nil_of_mem_wordsAfter {word text found : List Char}
    (h : found ∈ wordsAfter word text) : found ≠ [] := by
  obtain ⟨ended, last, hwords, hended, -⟩ := wordsAfter_append word text []
  rw [List.append_nil] at hwords
  rw [hwords, wordsAfter] at h
  exact (List.mem_append.mp h).elim (hended found) ne_nil_of_mem_finishWord

theorem ne_nil_of_mem_words {text word : List Char} (h : word ∈ words text) : word ≠ [] :=
  ne_nil_of_mem_wordsAfter h

/-- A text has words as soon as it has a letter or a number. -/
theorem words_eq_nil_iff {text : List Char} :
    words text = [] ↔ ∀ c ∈ text, isAlphanumeric c = false := by
  have hfilter : text.filter isAlphanumeric = [] ↔ ∀ c ∈ text, isAlphanumeric c = false := by
    simp
  rw [← hfilter, ← flatten_words]
  constructor
  · intro h
    rw [h, List.flatten_nil]
  · intro h
    refine List.eq_nil_iff_forall_not_mem.mpr fun word hword ↦ ?_
    exact ne_nil_of_mem_words hword (List.flatten_eq_nil_iff.mp h word hword)

/-! ### Words between separators -/

theorem isLowercase_of_separator {c : Char} (h : isAlphanumeric c = false) :
    isLowercase c = false :=
  Bool.eq_false_iff.mpr fun hlower ↦
    Bool.eq_false_iff.mp h (isAlphanumeric_of_isLowercase hlower)

theorem wordsAfter_append_separator {separator : Char} (h : isAlphanumeric separator = false)
    (word text rest : List Char) :
    wordsAfter word (text ++ separator :: rest) = wordsAfter word text ++ words rest := by
  induction text generalizing word with
  | nil => rw [List.nil_append, wordsAfter_cons, if_pos h, wordsAfter]
  | cons c text ih =>
    -- The letter next to the separator sees it, but it is not small: the text may end there.
    have hnext (last : Char) : startsWord last c (text ++ separator :: rest).head? =
        startsWord last c text.head? := by
      cases text with
      | nil => simp [startsWord, isLowercase_of_separator h]
      | cons next text => rfl
    have hrest : words (text ++ separator :: rest) = words text ++ words rest := ih []
    rw [List.cons_append, wordsAfter_cons, wordsAfter_cons, hrest, ih, ih]
    simp only [hnext]
    split_ifs
    · rw [List.append_assoc]
    · rw [List.cons_append]
    · rfl

theorem words_append_separator {separator : Char} (h : isAlphanumeric separator = false)
    (text rest : List Char) : words (text ++ separator :: rest) = words text ++ words rest :=
  wordsAfter_append_separator h [] text rest

theorem words_separators_append {gap : List Char} (h : ∀ c ∈ gap, isAlphanumeric c = false)
    (text : List Char) : words (gap ++ text) = words text := by
  induction gap with
  | nil => rfl
  | cons separator gap ih =>
    obtain ⟨hseparator, hgap⟩ := List.forall_mem_cons.mp h
    exact (words_append_separator hseparator [] (gap ++ text)).trans (ih hgap)

theorem words_append_separators {gap : List Char} (h : ∀ c ∈ gap, isAlphanumeric c = false)
    (text : List Char) : words (text ++ gap) = words text := by
  cases gap with
  | nil => rw [List.append_nil]
  | cons separator gap =>
    obtain ⟨hseparator, hgap⟩ := List.forall_mem_cons.mp h
    rw [words_append_separator hseparator, words_eq_nil_iff.mpr hgap, List.append_nil]

/-! ### Words without separators -/

/-- Letters of which none starts a word, after the letter `last` and before `next`. -/
def Unbroken (next : Option Char) : (last : Char) → List Char → Prop
  | _, [] => True
  | last, c :: run =>
    isAlphanumeric c = true ∧ startsWord last c (run.head?.or next) = false ∧ Unbroken next c run

theorem wordsAfter_append_of_unbroken {last : Char} {run rest : List Char}
    (h : Unbroken rest.head? last run) (before : List Char) :
    wordsAfter (last :: before) (run ++ rest) =
      wordsAfter (run.reverse ++ last :: before) rest := by
  induction run generalizing last before with
  | nil => rfl
  | cons c run ih =>
    obtain ⟨hletter, hstart, hrun⟩ := h
    rw [List.cons_append, wordsAfter_cons, if_neg (by simp [hletter]), List.head?_append,
      List.head?_cons, Option.any_some, hstart, if_neg Bool.false_ne_true, ih hrun,
      List.reverse_cons, List.append_assoc, List.singleton_append]

theorem isUppercase_of_startsWord {last c : Char} {next : Option Char}
    (h : startsWord last c next = true) : isUppercase c = true :=
  (Bool.and_eq_true_iff.mp h).1

/-- What follows the last letter of a word: nothing, a separator, or a letter that starts a word. -/
def EndsWord (last : Char) : List Char → Prop
  | [] => True
  | c :: rest => isAlphanumeric c = false ∨ startsWord last c rest.head? = true

theorem wordsAfter_of_endsWord {last : Char} {rest : List Char} (h : EndsWord last rest)
    (before : List Char) :
    wordsAfter (last :: before) rest = (last :: before).reverse :: words rest := by
  cases rest with
  | nil => rfl
  | cons c rest =>
    rw [wordsAfter_cons]
    rcases h with hseparator | hstart
    · have hgap : ∀ letter ∈ [c], isAlphanumeric letter = false := by simpa using hseparator
      have hrest : words (c :: rest) = words rest := words_separators_append hgap rest
      rw [if_pos hseparator, hrest]
      rfl
    · have hletter : isAlphanumeric c = true :=
        isAlphanumeric_of_isUppercase (isUppercase_of_startsWord hstart)
      rw [if_neg (by simp [hletter]), List.head?_cons, Option.any_some, if_pos hstart,
        words_cons hletter]

theorem words_append_of_unbroken {first : Char} {run rest : List Char}
    (hfirst : isAlphanumeric first = true) (hrun : Unbroken rest.head? first run)
    (hend : ∀ last ∈ (first :: run).getLast?, EndsWord last rest) :
    words (first :: run ++ rest) = (first :: run) :: words rest := by
  rw [List.cons_append, words_cons hfirst, wordsAfter_append_of_unbroken hrun]
  have hreverse : run.reverse ++ [first] = (first :: run).reverse := List.reverse_cons.symm
  rw [hreverse]
  cases hword : (first :: run).reverse with
  | nil => simp at hword
  | cons last before =>
    have hlast : last ∈ (first :: run).getLast? := by
      rw [← List.head?_reverse, hword]
      rfl
    rw [wordsAfter_of_endsWord (hend last hlast), ← hword, List.reverse_reverse]

end ApiOutline.Naming
