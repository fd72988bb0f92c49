import ApiOutline.OpenApi.Reference
import Mathlib.Data.List.TakeWhile

/-!
The name of a reference is the last segment of its path: it has no slash in it, and the path ends in
it, after a slash if there is anything before. There is one such name for each path.
-/

set_option autoImplicit false
set_option relaxedAutoImplicit false

namespace ApiOutline.OpenApi

/-- A name without slashes that a path consists of or ends in, after a slash. -/
structure IsLastSegment (name path : String) : Prop where
  no_slash : '/' ∉ name.toList
  ends : path = name ∨ ∃ front, path = front ++ "/" ++ name

/-- Either no letter before the name is left, or the one next to it is a slash. -/
theorem toList_eq_or_append_refName (path : String) :
    path.toList = (refName path).toList ∨
      ∃ front, path.toList = front ++ '/' :: (refName path).toList := by
  have hname : (refName path).toList.reverse = path.toList.reverse.takeWhile (· ≠ '/') := by
    rw [refName, String.toList_ofList, List.reverse_reverse]
  have hsplit := List.takeWhile_append_dropWhile (p := (· ≠ '/')) (l := path.toList.reverse)
  rw [← hname] at hsplit
  have hpath : path.toList = (path.toList.reverse.dropWhile (· ≠ '/')).reverse ++
      (refName path).toList := by
    rw [← List.reverse_reverse (refName path).toList, ← List.reverse_append, hsplit,
      List.reverse_reverse]
  cases hrest : path.toList.reverse.dropWhile (· ≠ '/') with
  | nil =>
    rw [hrest, List.reverse_nil, List.nil_append] at hpath
    exact .inl hpath
  | cons first rest =>
    have hfirst : first = '/' := by
      have hne : path.toList.reverse.dropWhile (· ≠ '/') ≠ [] := hrest ▸ List.cons_ne_nil first rest
      have hnot := List.head_dropWhile_not (· ≠ '/') hne
      simp only [hrest, List.head_cons, decide_eq_false_iff_not, not_not] at hnot
      exact hnot
    rw [hrest, hfirst, List.reverse_cons, List.append_assoc] at hpath
    exact .inr ⟨rest.reverse, hpath⟩

private theorem toList_slash : "/".toList = ['/'] := by
  decide

theorem isLastSegment_iff {name path : String} : IsLastSegment name path ↔ name = refName path := by
  constructor
  · rintro ⟨hslash, hends⟩
    have hkept : ∀ letter ∈ name.toList.reverse, decide (letter ≠ '/') = true := by
      intro letter hletter
      exact decide_eq_true fun heq ↦ hslash (heq ▸ List.mem_reverse.mp hletter)
    rcases hends with rfl | ⟨front, rfl⟩
    · rw [refName, List.takeWhile_eq_self_iff.mpr hkept, List.reverse_reverse, String.ofList_toList]
    · have hstop : (front ++ "/" ++ name).toList.reverse.takeWhile (· ≠ '/') =
          name.toList.reverse := by
        rw [String.toList_append, List.reverse_append, List.takeWhile_append_of_pos hkept,
          String.toList_append, List.reverse_append, toList_slash]
        exact List.append_nil _
      rw [refName, hstop, List.reverse_reverse, String.ofList_toList]
  · rintro rfl
    constructor
    · intro hslash
      rw [refName, String.toList_ofList, List.mem_reverse] at hslash
      have hkept := List.mem_takeWhile_imp hslash
      simp at hkept
    · rcases toList_eq_or_append_refName path with heq | ⟨front, heq⟩
      · exact .inl (String.toList_injective heq)
      · refine .inr ⟨String.ofList front, String.toList_injective ?_⟩
        rw [heq, String.toList_append, String.toList_append, String.toList_ofList, toList_slash,
          List.append_assoc, List.singleton_append]

end ApiOutline.OpenApi
