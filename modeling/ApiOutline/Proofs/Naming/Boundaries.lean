import ApiOutline.Proofs.Naming.Words

/-!
Where the words of a text end. Words are made of the letters of the text, and two letters next to
each other are in two words if a separator is between them, or if the second one is a capital that
starts a word by what is before and after it (`Boundary`). Only one list of words without an empty
one has these letters and ends at these places, so this says what the words of a text are
(`words_split`).

One invariant carries the proof from the first character to the last: after a letter, the word in
progress ends in that letter (`wordsAfter_append_letter`). So the last letter of the word in
progress is the character before, unless a separator has ended that word.
-/

set_option autoImplicit false
set_option relaxedAutoImplicit false

namespace ApiOutline.Naming

open Text

/-! ### Letters of two words -/

/-- The number of the word that the letter at a place of the joined words is in. -/
def wordAt : List (List Char) → ℕ → ℕ
  | [], _ => 0
  | word :: found, place =>
    if place < word.length then 0 else wordAt found (place - word.length) + 1

/-- The letters at a place of the joined words and at the place after it are in two words. -/
def Parted (found : List (List Char)) (place : ℕ) : Prop :=
  wordAt found place ≠ wordAt found (place + 1)

instance (found : List (List Char)) (place : ℕ) : Decidable (Parted found place) :=
  inferInstanceAs (Decidable (_ ≠ _))

section Parted

variable {word : List Char} {found : List (List Char)} {place : ℕ}

theorem wordAt_cons_of_lt (h : place < word.length) : wordAt (word :: found) place = 0 := by
  rw [wordAt, if_pos h]

theorem wordAt_cons_add :
    wordAt (word :: found) (word.length + place) = wordAt found place + 1 := by
  rw [wordAt, if_neg (Nat.not_lt.mpr (Nat.le_add_right _ _)), Nat.add_sub_cancel_left]

theorem not_parted_of_lt_length (h : place + 1 < word.length) : ¬ Parted (word :: found) place := by
  have hplace : place < word.length := by omega
  unfold Parted
  rw [wordAt_cons_of_lt hplace, wordAt_cons_of_lt h]
  exact not_not.mpr rfl

theorem parted_of_eq_length (h : place + 1 = word.length) : Parted (word :: found) place := by
  have hplace : place < word.length := by omega
  have hnext : wordAt (word :: found) (place + 1) = wordAt found 0 + 1 := by
    rw [h, ← Nat.add_zero word.length, wordAt_cons_add]
  unfold Parted
  rw [wordAt_cons_of_lt hplace, hnext]
  exact (Nat.succ_ne_zero _).symm

theorem parted_cons_add : Parted (word :: found) (word.length + place) ↔ Parted found place := by
  unfold Parted
  rw [wordAt_cons_add, Nat.add_assoc, wordAt_cons_add]
  exact Nat.succ_ne_succ_iff

theorem parted_append_add (before : List (List Char)) :
    Parted (before ++ found) (before.flatten.length + place) ↔ Parted found place := by
  induction before with
  | nil => rw [List.nil_append, List.flatten_nil, List.length_nil, Nat.zero_add]
  | cons word before ih =>
    rw [List.cons_append, List.flatten_cons, List.length_append, Nat.add_assoc, parted_cons_add, ih]

end Parted

/-! ### Words known from where they end -/

theorem length_le_of_parted {word first : List Char} {found other : List (List Char)}
    (hfirst : first ≠ [])
    (h : ∀ place, place + 1 < (word :: found).flatten.length →
      Parted (first :: other) place → Parted (word :: found) place) :
    word.length ≤ first.length := by
  by_contra hlt
  -- Where the shorter word ends, the longer one goes on.
  have hpos : 0 < first.length := List.length_pos_iff.mpr hfirst
  have hlength : (word :: found).flatten.length = word.length + found.flatten.length := by
    rw [List.flatten_cons, List.length_append]
  have hends : Parted (first :: other) (first.length - 1) := parted_of_eq_length (by omega)
  have hwhole : ¬ Parted (word :: found) (first.length - 1) := not_parted_of_lt_length (by omega)
  exact hwhole (h _ (by omega) hends)

/-- Words of which none is empty are known from their letters and from where they are parted. -/
theorem eq_of_parted_iff {found other : List (List Char)} (hfound : ∀ word ∈ found, word ≠ [])
    (hother : ∀ word ∈ other, word ≠ []) (hflatten : found.flatten = other.flatten)
    (h : ∀ place, place + 1 < found.flatten.length → (Parted found place ↔ Parted other place)) :
    found = other := by
  induction found generalizing other with
  | nil =>
    cases other with
    | nil => rfl
    | cons first other =>
      obtain ⟨hfirst, -⟩ := List.append_eq_nil_iff.mp hflatten.symm
      exact absurd hfirst (hother first List.mem_cons_self)
  | cons word found ih =>
    cases other with
    | nil =>
      obtain ⟨hword, -⟩ := List.append_eq_nil_iff.mp hflatten
      exact absurd hword (hfound word List.mem_cons_self)
    | cons first other =>
      obtain ⟨hword, hfoundRest⟩ := List.forall_mem_cons.mp hfound
      obtain ⟨hfirst, hotherRest⟩ := List.forall_mem_cons.mp hother
      have hle : word.length ≤ first.length :=
        length_le_of_parted hfirst fun place hplace ↦ (h place hplace).mpr
      have hge : first.length ≤ word.length :=
        length_le_of_parted hword fun place hplace ↦ (h place (hflatten ▸ hplace)).mp
      obtain ⟨rfl, hrest⟩ := List.append_inj hflatten (Nat.le_antisymm hle hge)
      refine congrArg (word :: ·) (ih hfoundRest hotherRest hrest fun place hplace ↦ ?_)
      have hlater : word.length + place + 1 < (word :: found).flatten.length := by
        rw [List.flatten_cons, List.length_append]
        omega
      exact parted_cons_add.symm.trans ((h _ hlater).trans parted_cons_add)

/-! ### Letters next to each other -/

/-- Two letters of a text with nothing or only separators between them. -/
structure Neighbours (text before : List Char) (last : Char) (gap : List Char) (c : Char)
    (after : List Char) : Prop where
  text_eq : text = before ++ last :: (gap ++ c :: after)
  isAlphanumeric_last : isAlphanumeric last = true
  isAlphanumeric_next : isAlphanumeric c = true
  isAlphanumeric_gap : ∀ separator ∈ gap, isAlphanumeric separator = false

/-- A word ends after `last` and the next one starts with `c`: at a separator, at a capital after a
small letter or a number, and at a capital after another one if a small letter is right after it. -/
def Boundary (last : Char) (gap : List Char) (c : Char) (after : List Char) : Prop :=
  gap ≠ [] ∨ isUppercase c = true ∧ (isLowercase last = true ∨ isNumeric last = true ∨
    isUppercase last = true ∧ ∃ next ∈ after.head?, isLowercase next = true)

/-- Words made of the letters of a text that end at its boundaries. The place of the letter `last`
is the number of letters before it. -/
structure SplitsInto (text : List Char) (found : List (List Char)) : Prop where
  ne_nil : ∀ word ∈ found, word ≠ []
  flatten_eq : found.flatten = text.filter isAlphanumeric
  parted_iff : ∀ {before : List Char} {last : Char} {gap : List Char} {c : Char}
    {after : List Char}, Neighbours text before last gap c after →
      (Parted found (before.filter isAlphanumeric).length ↔ Boundary last gap c after)

/-- Every letter of a text but the last has a neighbour after it. -/
theorem exists_neighbours {text : List Char} {place : ℕ}
    (h : place + 1 < (text.filter isAlphanumeric).length) :
    ∃ before last gap c after, Neighbours text before last gap c after ∧
      (before.filter isAlphanumeric).length = place := by
  obtain ⟨front, last, c, back, hletters, hplace⟩ : ∃ front last c back,
      text.filter isAlphanumeric = front ++ last :: c :: back ∧ front.length = place := by
    generalize text.filter isAlphanumeric = letters at h
    refine ⟨letters.take place, letters[place], letters[place + 1], letters.drop (place + 2), ?_,
      List.length_take_of_le (by omega)⟩
    rw [List.getElem_cons_drop h, List.getElem_cons_drop (by omega), List.take_append_drop]
  obtain ⟨before, rest, rfl, rfl, hrest⟩ := List.filter_eq_append_iff.mp hletters
  obtain ⟨skipped, rest, rfl, hskipped, hlast, hrest⟩ := List.filter_eq_cons_iff.mp hrest
  obtain ⟨gap, after, rfl, hgap, hnext, -⟩ := List.filter_eq_cons_iff.mp hrest
  have hnone : skipped.filter isAlphanumeric = [] := List.filter_eq_nil_iff.mpr hskipped
  refine ⟨before ++ skipped, last, gap, c, after, ⟨?_, hlast, hnext, by simpa using hgap⟩, ?_⟩
  · rw [List.append_assoc]
  · rw [List.filter_append, hnone, List.append_nil, hplace]

/-! ### Where the words of a text end -/

theorem endsWord_iff_boundary {text before gap after : List Char} {last c : Char}
    (h : Neighbours text before last gap c after) :
    EndsWord last (gap ++ c :: after) ↔ Boundary last gap c after := by
  cases gap with
  | nil =>
    have hletter : isAlphanumeric c ≠ false := by simp [h.isAlphanumeric_next]
    simp [EndsWord, Boundary, startsWord, hletter, or_assoc, Option.any_eq_true]
  | cons separator gap =>
    refine iff_of_true (.inl ?_) (.inl (List.cons_ne_nil separator gap))
    exact h.isAlphanumeric_gap separator List.mem_cons_self

/-- After a letter, the word in progress ends in that letter. -/
theorem wordsAfter_append_letter {last : Char} (h : isAlphanumeric last = true)
    (word before rest : List Char) :
    ∃ ended start, wordsAfter word (before ++ last :: rest) =
        ended ++ wordsAfter (last :: start) rest ∧
      ended.flatten ++ start.reverse = word.reverse ++ before.filter isAlphanumeric := by
  obtain ⟨ended, next, hrun, -, hbefore⟩ := wordsAfter_append word before (last :: rest)
  obtain ⟨later, following, hstep, -, hletter, hlast⟩ := wordsAfter_step next last rest
  obtain ⟨start, rfl⟩ := List.head?_eq_some_iff.mp (hlast h)
  refine ⟨ended ++ later, start, by rw [hrun, hstep, List.append_assoc], ?_⟩
  have hkept : [last].filter isAlphanumeric = [last] := by simp [h]
  have hstart : later.flatten ++ start.reverse = next.reverse := by
    rw [hkept, List.reverse_cons, ← List.append_assoc] at hletter
    exact List.append_cancel_right hletter
  rw [List.flatten_append, List.append_assoc, hstart, hbefore]

/-- The word in progress is the beginning of the first word. -/
theorem exists_wordsAfter_eq_cons (last : Char) (start rest : List Char) :
    ∃ more right, wordsAfter (last :: start) rest = (start.reverse ++ last :: more) :: right := by
  induction rest generalizing last start with
  | nil => exact ⟨[], [], by simp [wordsAfter, finishWord]⟩
  | cons c rest ih =>
    rw [wordsAfter_cons]
    split_ifs
    · exact ⟨[], words rest, by simp [finishWord]⟩
    · exact ⟨[], wordsAfter [c] rest, by simp⟩
    · obtain ⟨more, right, hwords⟩ := ih c (last :: start)
      refine ⟨c :: more, right, ?_⟩
      rw [hwords, List.reverse_cons, List.append_assoc, List.singleton_append]

theorem parted_words_iff {text before gap after : List Char} {last c : Char}
    (h : Neighbours text before last gap c after) :
    Parted (words text) (before.filter isAlphanumeric).length ↔ Boundary last gap c after := by
  obtain ⟨left, start, hwords, hletters⟩ :=
    wordsAfter_append_letter h.isAlphanumeric_last [] before (gap ++ c :: after)
  have hbefore : before.filter isAlphanumeric = left.flatten ++ start.reverse := hletters.symm
  rw [h.text_eq, words, hwords, hbefore, List.length_append, parted_append_add,
    ← endsWord_iff_boundary h]
  by_cases hends : EndsWord last (gap ++ c :: after)
  · rw [wordsAfter_of_endsWord hends]
    exact iff_of_true (parted_of_eq_length (by simp)) hends
  · -- There is nothing between the two letters, and the second one is added to the word.
    obtain rfl : gap = [] := by
      by_contra hgap
      exact hends ((endsWord_iff_boundary h).mpr (.inl hgap))
    have hnext : isAlphanumeric c ≠ false := by simp [h.isAlphanumeric_next]
    have hstart : startsWord last c after.head? ≠ true := fun hstart ↦ hends (.inr hstart)
    rw [List.nil_append, wordsAfter_cons, if_neg hnext, List.head?_cons, Option.any_some,
      if_neg hstart]
    obtain ⟨more, right, hwhole⟩ := exists_wordsAfter_eq_cons c (last :: start) after
    rw [hwhole]
    exact iff_of_false (not_parted_of_lt_length (by simp)) hends

example : Parted (words "userID".toList) 3 ∧ ¬ Parted (words "userID".toList) 4 := by decide

theorem splitsInto_words (text : List Char) : SplitsInto text (words text) where
  ne_nil := fun _ ↦ ne_nil_of_mem_words
  flatten_eq := flatten_words text
  parted_iff := parted_words_iff

theorem SplitsInto.unique {text : List Char} {found other : List (List Char)}
    (h : SplitsInto text found) (hother : SplitsInto text other) : found = other := by
  refine eq_of_parted_iff h.ne_nil hother.ne_nil (h.flatten_eq.trans hother.flatten_eq.symm)
    fun place hplace ↦ ?_
  rw [h.flatten_eq] at hplace
  obtain ⟨before, last, gap, c, after, hneighbours, rfl⟩ := exists_neighbours hplace
  exact (h.parted_iff hneighbours).trans (hother.parted_iff hneighbours).symm

/-- The words of a text are its letters, cut at its boundaries. No separator is a small letter, so a
separator parts the words of what is before it from the words of what is after it. -/
theorem words_split :
    (∀ (text : List Char) (found : List (List Char)), SplitsInto text found ↔ found = words text) ∧
      ∀ separator : Char, isAlphanumeric separator = false →
        isLowercase separator = false ∧ ∀ text rest : List Char,
          words (text ++ separator :: rest) = words text ++ words rest := by
  refine ⟨fun text found ↦ ⟨fun h ↦ h.unique (splitsInto_words text), ?_⟩,
    fun separator hseparator ↦ ⟨isLowercase_of_separator hseparator,
      words_append_separator hseparator⟩⟩
  rintro rfl
  exact splitsInto_words text

/-- A letter without case, capitals in a row, a separator next to them, and a number. -/
theorem words_split_httpServer :
    let text := "日HTTPServer ID_v2Api".toList
    SplitsInto text
        ["日HTTP".toList, "Server".toList, "ID".toList, "v2".toList, "Api".toList] ∧
      Neighbours text "日HTT".toList 'P' [] 'S' "erver ID_v2Api".toList ∧
      Boundary 'P' [] 'S' "erver ID_v2Api".toList ∧ Parted (words text) 4 ∧
      Neighbours text [] '日' [] 'H' "TTPServer ID_v2Api".toList ∧
      ¬ Boundary '日' [] 'H' "TTPServer ID_v2Api".toList ∧ ¬ Parted (words text) 0 ∧
      isAlphanumeric '_' = false ∧
      words text = words "日HTTPServer ID".toList ++ words "v2Api".toList := by
  intro text
  obtain ⟨hsplits, happend⟩ := words_split
  have hrun : Neighbours text "日HTT".toList 'P' [] 'S' "erver ID_v2Api".toList :=
    ⟨by decide, by decide, by decide, by simp⟩
  have hcaseless : Neighbours text [] '日' [] 'H' "TTPServer ID_v2Api".toList :=
    ⟨by decide, by decide +kernel, by decide, by simp⟩
  have hboundary : Boundary 'P' [] 'S' "erver ID_v2Api".toList :=
    .inr ⟨by decide, .inr (.inr ⟨by decide, 'e', by decide, by decide⟩)⟩
  have hnone : ¬ Boundary '日' [] 'H' "TTPServer ID_v2Api".toList := by
    rintro (hgap | ⟨-, hlower | hnumber | ⟨hupper, -⟩⟩)
    · exact hgap rfl
    · exact absurd hlower (by decide +kernel)
    · exact absurd hnumber (by decide +kernel)
    · exact absurd hupper (by decide +kernel)
  have hfound : ["日HTTP".toList, "Server".toList, "ID".toList, "v2".toList, "Api".toList] =
      words text := by
    decide +kernel
  have hwords : SplitsInto text (words text) := (hsplits text (words text)).mpr rfl
  have hseparator : isAlphanumeric '_' = false := by decide +kernel
  have hplace : ("日HTT".toList.filter isAlphanumeric).length = 4 := by decide +kernel
  have htext : text = "日HTTPServer ID".toList ++ '_' :: "v2Api".toList := by decide
  refine ⟨(hsplits text _).mpr hfound, hrun, hboundary, ?_, hcaseless, hnone, ?_, hseparator, ?_⟩
  · rw [← hplace]
    exact (hwords.parted_iff hrun).mpr hboundary
  · exact fun hparted ↦ hnone ((hwords.parted_iff hcaseless).mp hparted)
  · rw [htext]
    exact (happend '_' hseparator).2 _ _

end ApiOutline.Naming
