import ApiOutline.Extraction.Interface
import Mathlib.Data.List.Nodup
import Mathlib.Data.List.Perm.Subperm
import Mathlib.Order.Bounds.Defs

/-!
Free names. The search for a number that makes a taken name free ends within as many numbers as
there are taken names: the numbered names are distinct, and none of them is the name itself, which
is taken too. So `freeName` never gives a taken name (`freeName_not_mem`).

`Tries` is the search without a bound: it goes on as long as the name is taken. `freeName_search`
says that it ends, where it ends, and that `freeName` gives the name it ends with.
-/

set_option autoImplicit false
set_option relaxedAutoImplicit false

namespace ApiOutline

theorem numbered_injective (name : String) : Function.Injective (numbered name) := by
  intro first second h
  have hrepr : Nat.repr first = Nat.repr second := (String.append_right_inj name).mp h
  have hdigits := congrArg (fun text ↦ Nat.ofDigitChars 10 text.toList 0) hrepr
  simpa only [Nat.toList_repr, Nat.ofDigitChars_ten_toDigits] using hdigits

theorem numbered_ne_self (name : String) (number : ℕ) : numbered name number ≠ name := by
  intro h
  have hempty : name ++ Nat.repr number = name ++ "" := h.trans (String.append_empty).symm
  exact Nat.repr_ne_empty ((String.append_right_inj name).mp hempty)

/-- Among as many numbers as there are taken names, one makes a taken name free. -/
theorem exists_numbered_not_mem {taken : List String} {name : String} (htaken : name ∈ taken) :
    ∃ number ∈ List.range' 2 taken.length, numbered name number ∉ taken := by
  by_contra hnone
  simp only [not_exists, not_and, not_not] at hnone
  have hnodup : (name :: (List.range' 2 taken.length).map (numbered name)).Nodup := by
    rw [List.nodup_cons]
    refine ⟨fun hself ↦ ?_, List.Nodup.map (numbered_injective name) List.nodup_range'⟩
    obtain ⟨number, -, hnumber⟩ := List.mem_map.mp hself
    exact numbered_ne_self name number hnumber
  have hsubset : name :: (List.range' 2 taken.length).map (numbered name) ⊆ taken := by
    rw [List.cons_subset]
    refine ⟨htaken, fun candidate hcandidate ↦ ?_⟩
    obtain ⟨number, hnumber, rfl⟩ := List.mem_map.mp hcandidate
    exact hnone number hnumber
  have hlength := (List.subperm_of_subset hnodup hsubset).length_le
  simp only [List.length_cons, List.length_map, List.length_range'] at hlength
  omega

/-- A taken name gets the first number that makes it free. -/
theorem exists_freeName_eq {taken : List String} {name : String} (htaken : name ∈ taken) :
    ∃ number, 2 ≤ number ∧ number ≤ taken.length + 1 ∧ freeName taken name = numbered name number ∧
      numbered name number ∉ taken ∧
        ∀ smaller, 2 ≤ smaller → smaller < number → numbered name smaller ∈ taken := by
  obtain ⟨free, hrange, hfree⟩ := exists_numbered_not_mem htaken
  have hsome : ((List.range' 2 taken.length).find? ((· ∉ taken) ∘ numbered name)).isSome := by
    rw [List.find?_isSome]
    exact ⟨free, hrange, by simpa using hfree⟩
  obtain ⟨number, hfound⟩ := Option.isSome_iff_exists.mp hsome
  have hname : freeName taken name = numbered name number := by
    rw [freeName, if_pos htaken, List.find?_map, hfound, Option.map_some, Option.getD_some]
  obtain ⟨hnumber, hmem, hsmaller⟩ := List.find?_range'_eq_some.mp hfound
  obtain ⟨hfirst, hlast⟩ := List.mem_range'_1.mp hmem
  refine ⟨number, hfirst, by omega, hname, by simpa using hnumber, fun smaller htwo hless ↦ ?_⟩
  simpa using hsmaller smaller htwo hless

theorem freeName_of_not_mem {taken : List String} {name : String} (hfree : name ∉ taken) :
    freeName taken name = name :=
  if_neg hfree

theorem freeName_not_mem (taken : List String) (name : String) : freeName taken name ∉ taken := by
  by_cases htaken : name ∈ taken
  · obtain ⟨number, -, -, hname, hfree, -⟩ := exists_freeName_eq htaken
    rwa [hname]
  · rwa [freeName_of_not_mem htaken]

/-! ### The search without a bound -/

/-- The numbers that the search for a free name tries, if the name is taken: two, and after a number
with which it is taken as well the next one. -/
inductive Tries (taken : List String) (name : String) : ℕ → Prop
  | first (htaken : name ∈ taken) : Tries taken name 2
  | next {number : ℕ} (htried : Tries taken name number)
      (htaken : numbered name number ∈ taken) : Tries taken name (number + 1)

theorem tries_iff {taken : List String} {name : String} {number : ℕ} :
    Tries taken name number ↔ name ∈ taken ∧ 2 ≤ number ∧
      ∀ smaller, 2 ≤ smaller → smaller < number → numbered name smaller ∈ taken := by
  constructor
  · intro h
    induction h with
    | first htaken => exact ⟨htaken, Nat.le_refl 2, fun smaller htwo hless ↦ by omega⟩
    | @next number _ hlast ih =>
      obtain ⟨htaken, htwo, hbefore⟩ := ih
      refine ⟨htaken, by omega, fun smaller hfirst hless ↦ ?_⟩
      rcases Nat.lt_succ_iff_lt_or_eq.mp hless with hless | rfl
      · exact hbefore smaller hfirst hless
      · exact hlast
  · rintro ⟨htaken, htwo, hbefore⟩
    induction htwo with
    | refl => exact .first htaken
    | @step number htwo ih =>
      have htried := ih fun smaller hfirst hless ↦ hbefore smaller hfirst (by omega)
      exact .next htried (hbefore number htwo (by omega))

theorem Tries.le_length {taken : List String} {name : String} {number : ℕ}
    (h : Tries taken name number) : number ≤ taken.length + 1 := by
  obtain ⟨htaken, -, hbefore⟩ := tries_iff.mp h
  obtain ⟨free, hrange, hfree⟩ := exists_numbered_not_mem htaken
  obtain ⟨hfirst, hlast⟩ := List.mem_range'_1.mp hrange
  by_contra hlong
  exact hfree (hbefore free hfirst (by omega))

/-- The numbers that are tried go up to the least one that makes the name free. -/
theorem tries_iff_le {taken : List String} {name : String} {number tried : ℕ}
    (htaken : name ∈ taken)
    (hnumber : IsLeast {number | 2 ≤ number ∧ numbered name number ∉ taken} number) :
    Tries taken name tried ↔ 2 ≤ tried ∧ tried ≤ number := by
  obtain ⟨⟨htwo, hfree⟩, hleast⟩ := hnumber
  rw [tries_iff]
  constructor
  · rintro ⟨-, hfirst, hall⟩
    refine ⟨hfirst, ?_⟩
    by_contra hless
    exact hfree (hall number htwo (Nat.lt_of_not_le hless))
  · rintro ⟨hfirst, hlast⟩
    refine ⟨htaken, hfirst, fun smaller hsmaller hless ↦ ?_⟩
    by_contra hnot
    have hle : number ≤ smaller := hleast ⟨hsmaller, hnot⟩
    omega

/-- A name that no operation has is kept. A name that is taken gets the least number from two on
that makes it free: the search tries the numbers up to that one and no others, so it ends, with at
most one more than there are operations. A counter of 32 bits does not reach its greatest value. -/
theorem freeName_search (existing : List Operation) (name : String) :
    let taken := existing.map (·.functionName)
    (name ∉ taken → freeName taken name = name) ∧
      (name ∈ taken → ∃ number, freeName taken name = name ++ toString number ∧
        IsLeast {number | 2 ≤ number ∧ name ++ toString number ∉ taken} number ∧
        number ≤ existing.length + 1 ∧
        ∀ tried, Tries taken name tried ↔ 2 ≤ tried ∧ tried ≤ number) ∧
      (existing.length < Nat.pow 2 31 - 2 → ∀ tried, Tries taken name tried →
        (tried : Int) < Int32.maxValue.toInt) ∧
      freeName taken name ∉ taken := by
  intro taken
  have hlength : taken.length = existing.length := List.length_map _
  refine ⟨freeName_of_not_mem, fun htaken ↦ ?_, fun hroom tried htried ↦ ?_, freeName_not_mem _ _⟩
  · obtain ⟨number, htwo, hle, hname, hfree, hbefore⟩ := exists_freeName_eq htaken
    have hleast : IsLeast {number | 2 ≤ number ∧ numbered name number ∉ taken} number := by
      refine ⟨⟨htwo, hfree⟩, fun other ⟨hother, hotherFree⟩ ↦ ?_⟩
      by_contra hless
      exact hotherFree (hbefore other hother (Nat.lt_of_not_le hless))
    exact ⟨number, hname, hleast, hlength ▸ hle, fun tried ↦ tries_iff_le htaken hleast⟩
  · have htriedLe := htried.le_length
    have hmax : Int32.maxValue.toInt = 2147483647 := rfl
    have hpow : Nat.pow 2 31 = 2147483648 := rfl
    omega

private def operationNamed (name : String) : Operation :=
  { functionName := name
    method := .get
    path := "/"
    summary := none
    description := none
    deprecated := false
    parameters := []
    requestBody := none
    responseType := .unit }

/-- A numbered name may be taken as well: the search goes on to three. -/
theorem freeName_search_list :
    let existing := ["list", "list2", "get"].map operationNamed
    let taken := existing.map (·.functionName)
    "list" ∈ taken ∧ "add" ∉ taken ∧ existing.length < Nat.pow 2 31 - 2 ∧
      freeName taken "add" = "add" ∧ freeName taken "list" = "list" ++ toString 3 ∧
      Tries taken "list" 3 ∧ (3 : Int) < Int32.maxValue.toInt := by
  intro existing taken
  have hlist : "list" ∈ taken := by decide
  have hadd : "add" ∉ taken := by decide
  have hroom : existing.length < Nat.pow 2 31 - 2 := by decide
  obtain ⟨-, hsearch, hcounter, -⟩ := freeName_search existing "list"
  obtain ⟨number, hname, ⟨⟨htwo, hfree⟩, hleast⟩, -, htries⟩ := hsearch hlist
  have hle : number ≤ 3 := hleast ⟨by decide, by decide⟩
  have hne : number ≠ 2 := fun h ↦ hfree (h ▸ by decide)
  obtain rfl : number = 3 := by omega
  have htried : Tries taken "list" 3 := (htries 3).mpr ⟨by decide, by decide⟩
  exact ⟨hlist, hadd, hroom, (freeName_search existing "add").1 hadd, hname, htried,
    hcounter hroom 3 htried⟩

end ApiOutline
