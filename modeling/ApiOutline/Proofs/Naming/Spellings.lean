import ApiOutline.Naming.Style
import ApiOutline.Proofs.Naming.Words
import ApiOutline.Proofs.Text.Case
import Mathlib.Data.List.Forall2

/-!
Spellings of a name. The words of a name may be set apart by separators, in small letters or in
capitals, or by capitals at their beginnings. Whichever it is, the same words are found, up to the
case of their letters (`words_of_spells`), and both styles of writing a name settle the case. So a
name has one form in each style, from whatever spelling it is made.
-/

set_option autoImplicit false
set_option relaxedAutoImplicit false

namespace ApiOutline.Naming

open Text

/-! ### Spellings -/

/-- Small letters of ASCII and then digits, at least two characters together. -/
structure IsPlainWord (word : List Char) : Prop where
  letters_then_digits : ∃ letters digits, word = letters ++ digits ∧ letters ≠ [] ∧
    (∀ c ∈ letters, c.isLower = true) ∧ ∀ c ∈ digits, IsNumeral c
  two_le_length : 2 ≤ word.length

def IsGap (gap : List Char) : Prop := ∀ c ∈ gap, isAlphanumeric c = false

/-- Words with separators between them, and maybe after the last. -/
inductive Joined : List (List Char) → List Char → Prop
  | last (word : List Char) {after : List Char} (hafter : IsGap after) :
      Joined [word] (word ++ after)
  | cons (word : List Char) {gap text : List Char} {words : List (List Char)} (hgap : IsGap gap)
      (hne : gap ≠ []) (h : Joined words text) : Joined (word :: words) (word ++ (gap ++ text))

def capitalFirst : List Char → List Char
  | [] => []
  | c :: cs => c.toUpper :: cs

def pascalSpelling (words : List (List Char)) : List Char := words.flatMap capitalFirst

def camelSpelling : List (List Char) → List Char
  | [] => []
  | word :: rest => word ++ pascalSpelling rest

/-- The ways to write a name of some words in small letters. -/
inductive Spells (words : List (List Char)) : List Char → Prop
  | separated {before text : List Char} (hbefore : IsGap before) (h : Joined words text) :
      Spells words (before ++ text)
  | capitals {before text : List Char} (hbefore : IsGap before)
      (h : Joined (words.map (·.map Char.toUpper)) text) : Spells words (before ++ text)
  | camel : Spells words (camelSpelling words)
  | pascal : Spells words (pascalSpelling words)

/-! ### Words that stay whole -/

theorem isPlain_of_mem_append {letters digits : List Char}
    (hletters : ∀ c ∈ letters, c.isLower = true) (hdigits : ∀ c ∈ digits, IsNumeral c) :
    ∀ c ∈ letters ++ digits, IsPlain c :=
  List.forall_mem_append.mpr ⟨(.letter <| hletters · ·), (.numeral <| hdigits · ·)⟩

theorem IsPlainWord.eq_cons {word : List Char} (h : IsPlainWord word) :
    ∃ first run, word = first :: run ∧ first.isLower = true ∧ run ≠ [] ∧ ∀ c ∈ run, IsPlain c := by
  obtain ⟨⟨letters, digits, rfl, hne, hletters, hdigits⟩, hlength⟩ := h
  obtain ⟨first, letters, rfl⟩ := List.exists_cons_of_ne_nil hne
  obtain ⟨hfirst, hrest⟩ := List.forall_mem_cons.mp hletters
  refine ⟨first, letters ++ digits, rfl, hfirst, ?_, isPlain_of_mem_append hrest hdigits⟩
  intro hnil
  rw [List.cons_append, hnil, List.length_singleton] at hlength
  exact absurd hlength (by decide)

theorem IsPlainWord.isPlain {word : List Char} (h : IsPlainWord word) : ∀ c ∈ word, IsPlain c := by
  obtain ⟨first, run, rfl, hfirst, -, hrun⟩ := h.eq_cons
  exact List.forall_mem_cons.mpr ⟨.letter hfirst, hrun⟩

/-- A word that nothing in it breaks, unless a small letter comes next. -/
def StaysWhole (word : List Char) : Prop :=
  ∃ first run, word = first :: run ∧ isAlphanumeric first = true ∧
    ∀ next : Option Char, (∀ c ∈ next, isLowercase c = false) → Unbroken next first run

theorem unbroken_of_isPlain {run : List Char} (h : ∀ c ∈ run, IsPlain c) (next : Option Char)
    (last : Char) : Unbroken next last run := by
  induction run generalizing last with
  | nil => trivial
  | cons c run ih =>
    obtain ⟨hc, hrun⟩ := List.forall_mem_cons.mp h
    refine ⟨hc.isAlphanumeric_eq, ?_, ih hrun c⟩
    rw [startsWord, hc.isUppercase_eq, Bool.false_and]

/-- A capital after a capital starts a word only if a small letter follows it. -/
theorem startsWord_capital_eq_false {last : Char} (hlast : last.isLower = true)
    {next : Option Char} (hnext : ∀ c ∈ next, isLowercase c = false) (c : Char) :
    startsWord last.toUpper c next = false := by
  have hany : next.any isLowercase = false := by
    cases next with
    | none => rfl
    | some c => exact hnext c rfl
  rw [startsWord, (IsPlain.letter hlast).isLowercase_toUpper, isNumeric_toUpper hlast, hany,
    Bool.and_false, Bool.or_false, Bool.or_false, Bool.and_false]

theorem unbroken_capitals {letters digits : List Char} (hletters : ∀ c ∈ letters, c.isLower = true)
    (hdigits : ∀ c ∈ digits, IsNumeral c) {next : Option Char}
    (hnext : ∀ c ∈ next, isLowercase c = false) {last : Char} (hlast : last.isLower = true) :
    Unbroken next last.toUpper ((letters ++ digits).map Char.toUpper) := by
  induction letters generalizing last with
  | nil =>
    refine unbroken_of_isPlain (fun c hc ↦ ?_) next _
    obtain ⟨digit, hdigit, rfl⟩ := List.mem_map.mp hc
    rw [(hdigits digit hdigit).toUpper_eq]
    exact .numeral (hdigits digit hdigit)
  | cons c letters ih =>
    obtain ⟨hc, hrest⟩ := List.forall_mem_cons.mp hletters
    have hplain := isPlain_of_mem_append hrest hdigits
    have hafter : ∀ d ∈ ((letters ++ digits).map Char.toUpper).head?.or next,
        isLowercase d = false := by
      cases hrun : letters ++ digits with
      | nil => exact hnext
      | cons first run =>
        rintro _ ⟨⟩
        exact (hplain first (hrun ▸ List.mem_cons_self)).isLowercase_toUpper
    exact ⟨(IsPlain.letter hc).isAlphanumeric_toUpper, startsWord_capital_eq_false hlast hafter _,
      ih hrest hc⟩

theorem IsPlainWord.staysWhole {word : List Char} (h : IsPlainWord word) : StaysWhole word := by
  obtain ⟨first, run, rfl, hfirst, -, hrun⟩ := h.eq_cons
  exact ⟨first, run, rfl, (IsPlain.letter hfirst).isAlphanumeric_eq,
    fun next _ ↦ unbroken_of_isPlain hrun next first⟩

theorem IsPlainWord.staysWhole_capitals {word : List Char} (h : IsPlainWord word) :
    StaysWhole (word.map Char.toUpper) := by
  obtain ⟨⟨letters, digits, rfl, hne, hletters, hdigits⟩, -⟩ := h
  obtain ⟨first, letters, rfl⟩ := List.exists_cons_of_ne_nil hne
  obtain ⟨hfirst, hrest⟩ := List.forall_mem_cons.mp hletters
  exact ⟨first.toUpper, (letters ++ digits).map Char.toUpper, rfl,
    (IsPlain.letter hfirst).isAlphanumeric_toUpper,
    fun next hnext ↦ unbroken_capitals hrest hdigits hnext hfirst⟩

/-! ### Words between gaps -/

theorem words_append_gap {word rest : List Char} (h : StaysWhole word)
    (hrest : ∀ c ∈ rest.head?, isAlphanumeric c = false) :
    words (word ++ rest) = word :: words rest := by
  obtain ⟨first, run, rfl, hfirst, hrun⟩ := h
  refine words_append_of_unbroken hfirst ?_ fun last _ ↦ ?_
  · exact hrun _ fun c hc ↦ isLowercase_of_separator (hrest c hc)
  · cases rest with
    | nil => trivial
    | cons c rest => exact .inl (hrest c rfl)

theorem IsGap.head? {gap : List Char} (h : IsGap gap) :
    ∀ c ∈ gap.head?, isAlphanumeric c = false :=
  fun c hc ↦ h c (List.mem_of_head? hc)

theorem words_joined {names : List (List Char)} {text : List Char} (h : Joined names text)
    (hnames : ∀ word ∈ names, StaysWhole word) : words text = names := by
  induction h with
  | last word hafter =>
    rw [words_append_gap (hnames word List.mem_cons_self) hafter.head?, words_eq_nil_iff.mpr hafter]
  | @cons word gap text names hgap hne _ ih =>
    obtain ⟨hword, hrest⟩ := List.forall_mem_cons.mp hnames
    have hhead : ∀ c ∈ (gap ++ text).head?, isAlphanumeric c = false := by
      rw [List.head?_append_of_ne_nil gap hne]
      exact hgap.head?
    rw [words_append_gap hword hhead, words_separators_append hgap, ih hrest]

/-! ### Words that start with capitals -/

/-- The first letter of the next word is a capital after a small letter or a number. -/
theorem endsWord_pascalSpelling {names : List (List Char)}
    (hnames : ∀ word ∈ names, IsPlainWord word) {last : Char} (hlast : IsPlain last) :
    EndsWord last (pascalSpelling names) := by
  cases names with
  | nil => trivial
  | cons word names =>
    obtain ⟨first, run, rfl, hfirst, -, -⟩ := (hnames word List.mem_cons_self).eq_cons
    right
    rw [startsWord, isUppercase_toUpper hfirst, Bool.true_and, hlast.isLowercase_or_isNumeric,
      Bool.true_or]

theorem words_append_pascalSpelling {names : List (List Char)}
    (hnames : ∀ word ∈ names, IsPlainWord word) {first : Char} {run : List Char}
    (hfirst : isAlphanumeric first = true) (hne : run ≠ []) (hrun : ∀ c ∈ run, IsPlain c) :
    words (first :: run ++ pascalSpelling names) =
      (first :: run) :: words (pascalSpelling names) := by
  refine words_append_of_unbroken hfirst (unbroken_of_isPlain hrun _ first) fun last hlast ↦ ?_
  rw [List.getLast?_cons_of_ne_nil hne] at hlast
  exact endsWord_pascalSpelling hnames (hrun last (List.mem_of_getLast? hlast))

theorem words_pascalSpelling {names : List (List Char)}
    (hnames : ∀ word ∈ names, IsPlainWord word) :
    words (pascalSpelling names) = names.map capitalFirst := by
  induction names with
  | nil => rfl
  | cons word names ih =>
    obtain ⟨hword, hrest⟩ := List.forall_mem_cons.mp hnames
    obtain ⟨first, run, rfl, hfirst, hne, hrun⟩ := hword.eq_cons
    have hcapital := (IsPlain.letter hfirst).isAlphanumeric_toUpper
    exact (words_append_pascalSpelling hrest hcapital hne hrun).trans
      (congrArg (List.cons _) (ih hrest))

theorem words_camelSpelling {word : List Char} {names : List (List Char)}
    (hnames : ∀ other ∈ word :: names, IsPlainWord other) :
    words (camelSpelling (word :: names)) = word :: names.map capitalFirst := by
  obtain ⟨hword, hrest⟩ := List.forall_mem_cons.mp hnames
  obtain ⟨first, run, rfl, hfirst, hne, hrun⟩ := hword.eq_cons
  have hsmall := (IsPlain.letter hfirst).isAlphanumeric_eq
  rw [camelSpelling, words_append_pascalSpelling hrest hsmall hne hrun, words_pascalSpelling hrest]

/-! ### Settling the case -/

/-- A word with some of its letters in capitals. -/
def CaseOf (word written : List Char) : Prop :=
  List.Forall₂ (fun c d ↦ d = c ∨ d = c.toUpper) word written

theorem CaseOf.refl (word : List Char) : CaseOf word word :=
  List.forall₂_same.mpr fun _ _ ↦ .inl rfl

theorem caseOf_capitals (word : List Char) : CaseOf word (word.map Char.toUpper) :=
  List.forall₂_map_right_iff.mpr (List.forall₂_same.mpr fun _ _ ↦ .inr rfl)

theorem caseOf_capitalFirst (word : List Char) : CaseOf word (capitalFirst word) := by
  cases word with
  | nil => exact .nil
  | cons c word => exact .cons (.inr rfl) (CaseOf.refl word)

theorem lowercase_of_case {c d : Char} (hc : IsPlain c) (h : d = c ∨ d = c.toUpper) :
    lowercase d = [c] := by
  rcases h with rfl | rfl
  · exact hc.lowercase_eq
  · exact hc.lowercase_toUpper

theorem uppercase_of_case {c d : Char} (hc : IsPlain c) (h : d = c ∨ d = c.toUpper) :
    uppercase d = [c.toUpper] := by
  rcases h with rfl | rfl
  · exact hc.uppercase_eq
  · exact hc.uppercase_toUpper

theorem flatMap_lowercase_of_caseOf {word written : List Char} (hword : ∀ c ∈ word, IsPlain c)
    (h : CaseOf word written) : written.flatMap lowercase = word := by
  induction h with
  | nil => rfl
  | cons hcase _ ih =>
    obtain ⟨hc, hrest⟩ := List.forall_mem_cons.mp hword
    rw [List.flatMap_cons, lowercase_of_case hc hcase, ih hrest, List.singleton_append]

theorem lowercaseText_of_caseOf {word written : List Char} (hword : ∀ c ∈ word, IsPlain c)
    (h : CaseOf word written) : lowercaseText written = word := by
  have hsmall := flatMap_lowercase_of_caseOf hword h
  rw [lowercaseText_eq_flatMap, hsmall]
  intro hsigma
  -- A sigma would be left in the word, where it is not plain.
  have hmem : 'σ' ∈ word := hsmall ▸ List.mem_flatMap.mpr ⟨'Σ', hsigma, by decide⟩
  rcases hword 'σ' hmem with hletter | hnumeral
  · exact absurd hletter (by decide)
  · exact absurd hnumeral.isLowercase_eq (by decide)

theorem capitalize_of_caseOf {word written : List Char} (hword : ∀ c ∈ word, IsPlain c)
    (h : CaseOf word written) : capitalize written = capitalFirst word := by
  cases h with
  | nil => rfl
  | cons hcase hrest =>
    obtain ⟨hc, hplain⟩ := List.forall_mem_cons.mp hword
    rw [capitalize, uppercase_of_case hc hcase, flatMap_lowercase_of_caseOf hplain hrest]
    rfl

/-! ### One form in each style -/

/-- However a name is written, its words are found, up to the case of their letters. -/
theorem words_of_spells {names : List (List Char)} (hnames : ∀ word ∈ names, IsPlainWord word)
    {text : List Char} (h : Spells names text) : List.Forall₂ CaseOf names (words text) := by
  cases h with
  | separated hbefore h =>
    rw [words_separators_append hbefore, words_joined h fun word hword ↦
      (hnames word hword).staysWhole]
    exact List.forall₂_same.mpr fun word _ ↦ CaseOf.refl word
  | capitals hbefore h =>
    have hwhole : ∀ word ∈ names.map (·.map Char.toUpper), StaysWhole word :=
      List.forall_mem_map.mpr fun word hword ↦ (hnames word hword).staysWhole_capitals
    rw [words_separators_append hbefore, words_joined h hwhole]
    exact List.forall₂_map_right_iff.mpr (List.forall₂_same.mpr fun word _ ↦ caseOf_capitals word)
  | camel =>
    cases names with
    | nil => exact .nil
    | cons word names =>
      rw [words_camelSpelling hnames]
      exact .cons (CaseOf.refl word) (List.forall₂_map_right_iff.mpr
        (List.forall₂_same.mpr fun word _ ↦ caseOf_capitalFirst word))
  | pascal =>
    rw [words_pascalSpelling hnames]
    exact List.forall₂_map_right_iff.mpr
      (List.forall₂_same.mpr fun word _ ↦ caseOf_capitalFirst word)

theorem flatMap_capitalize_of_forall₂ {names written : List (List Char)}
    (hnames : ∀ word ∈ names, IsPlainWord word) (h : List.Forall₂ CaseOf names written) :
    written.flatMap capitalize = pascalSpelling names := by
  induction h with
  | nil => rfl
  | cons hword _ ih =>
    obtain ⟨hplain, hrest⟩ := List.forall_mem_cons.mp hnames
    rw [List.flatMap_cons, capitalize_of_caseOf hplain.isPlain hword, ih hrest]
    rfl

theorem camelWords_of_forall₂ {names written : List (List Char)}
    (hnames : ∀ word ∈ names, IsPlainWord word) (h : List.Forall₂ CaseOf names written) :
    camelWords written = camelSpelling names := by
  cases h with
  | nil => rfl
  | cons hword hothers =>
    obtain ⟨hplain, hrest⟩ := List.forall_mem_cons.mp hnames
    rw [camelWords, lowercaseText_of_caseOf hplain.isPlain hword,
      flatMap_capitalize_of_forall₂ hrest hothers, camelSpelling]

theorem camelCase_of_spells {names : List (List Char)} (hnames : ∀ word ∈ names, IsPlainWord word)
    {text : String} (h : Spells names text.toList) :
    camelCase text = String.ofList (camelSpelling names) :=
  congrArg String.ofList (camelWords_of_forall₂ hnames (words_of_spells hnames h))

theorem pascalCase_of_spells {names : List (List Char)} (hnames : ∀ word ∈ names, IsPlainWord word)
    {text : String} (h : Spells names text.toList) :
    pascalCase text = String.ofList (pascalSpelling names) :=
  congrArg String.ofList (flatMap_capitalize_of_forall₂ hnames (words_of_spells hnames h))

/-- All spellings of a name have one form in camel case and one in Pascal case, which are spellings
of it too and stay as they are. -/
theorem spellings_agree {names : List (List Char)} (hnames : ∀ word ∈ names, IsPlainWord word)
    {text : String} (h : Spells names text.toList) :
    camelCase text = String.ofList (camelSpelling names) ∧
      pascalCase text = String.ofList (pascalSpelling names) ∧
      camelCase (camelCase text) = camelCase text ∧
      pascalCase (pascalCase text) = pascalCase text := by
  have hcamel := camelCase_of_spells hnames h
  have hpascal := pascalCase_of_spells hnames h
  refine ⟨hcamel, hpascal, ?_, ?_⟩
  · rw [hcamel, camelCase_of_spells hnames]
    rw [String.toList_ofList]
    exact .camel
  · rw [hpascal, pascalCase_of_spells hnames]
    rw [String.toList_ofList]
    exact .pascal

/-- Capitals and a digit, set apart by one separator or several. -/
theorem spellings_agree_user :
    let names := [['g', 'e', 't'], ['u', 's', 'e', 'r', '2'], ['i', 'd']]
    let text := "_GET.USER2--ID"
    (∀ word ∈ names, IsPlainWord word) ∧ Spells names text.toList ∧
      camelCase text = "getUser2Id" ∧ pascalCase text = "GetUser2Id" ∧
      camelCase "getUser2Id" = "getUser2Id" ∧ pascalCase "GetUser2Id" = "GetUser2Id" := by
  intro names text
  have hletters (letters : List Char) (h : letters.all Char.isLower = true) :
      ∀ c ∈ letters, c.isLower = true := List.all_eq_true.mp h
  have hdigit : ∀ c ∈ ['2'], IsNumeral c := by
    intro c hc
    obtain rfl := List.mem_singleton.mp hc
    exact isNumeral_of_isDigit (by decide)
  have hnames : ∀ word ∈ names, IsPlainWord word := by
    simp only [names, List.forall_mem_cons, List.not_mem_nil, false_implies, implies_true, and_true]
    refine ⟨⟨⟨['g', 'e', 't'], [], rfl, by simp, hletters _ (by decide), by simp⟩, by decide⟩,
      ⟨⟨['u', 's', 'e', 'r'], ['2'], rfl, by simp, hletters _ (by decide), hdigit⟩, by decide⟩,
      ⟨⟨['i', 'd'], [], rfl, by simp, hletters _ (by decide), by simp⟩, by decide⟩⟩
  have hgap (gap : List Char) (h : gap.all (!isAlphanumeric ·) = true) : IsGap gap := by
    simpa [IsGap] using h
  have htext : text.toList =
      ['_'] ++ (['G', 'E', 'T'] ++ (['.'] ++ (['U', 'S', 'E', 'R', '2'] ++ (['-', '-'] ++
        (['I', 'D'] ++ []))))) := by
    decide
  have hspells : Spells names text.toList := by
    rw [htext]
    exact .capitals (hgap _ (by decide)) (.cons _ (hgap _ (by decide)) (by simp)
      (.cons _ (hgap _ (by decide)) (by simp) (.last _ (hgap _ (by decide)))))
  obtain ⟨hcamel, hpascal, hcamel', hpascal'⟩ := spellings_agree hnames hspells
  have hcamelText : String.ofList (camelSpelling names) = "getUser2Id" := by decide
  have hpascalText : String.ofList (pascalSpelling names) = "GetUser2Id" := by decide
  rw [hcamel, hcamelText] at hcamel'
  rw [hpascal, hpascalText] at hpascal'
  exact ⟨hnames, hspells, hcamel.trans hcamelText, hpascal.trans hpascalText, hcamel', hpascal'⟩

end ApiOutline.Naming
