import Mathlib.Data.List.Basic
import Mathlib.Data.Prod.Lex
import Mathlib.Order.Bounds.Basic

/-!
What a search of a list finds. One test finds the first item that passes it. Several tests, tried
one after the other, find the item at the least place, where the number of the test that an item
passes counts before its position (`findSome?_find?_eq_some_iff`).
-/

set_option autoImplicit false
set_option relaxedAutoImplicit false

namespace ApiOutline

variable {α β : Type}

theorem index_eq_of_nodup {items : List α} (hnodup : items.Nodup) {first second : ℕ} {item : α}
    (hfirst : items[first]? = some item) (hsecond : items[second]? = some item) :
    first = second :=
  (List.getElem?_inj (List.getElem?_eq_some_iff.mp hfirst).1 hnodup).mp (hfirst.trans hsecond.symm)

theorem find?_eq_some_iff_position {test : α → Bool} {items : List α} {item : α} :
    items.find? test = some item ↔ test item = true ∧ ∃ position : ℕ,
      items[position]? = some item ∧
        ∀ (earlier : ℕ) (other : α), earlier < position → items[earlier]? = some other →
          test other = false := by
  rw [List.find?_eq_some_iff_getElem]
  refine and_congr_right fun _ ↦ exists_congr fun position ↦ ?_
  constructor
  · rintro ⟨hposition, hitem, hbefore⟩
    refine ⟨List.getElem?_eq_some_iff.mpr ⟨hposition, hitem⟩, fun earlier other hless hother ↦ ?_⟩
    obtain ⟨_, rfl⟩ := List.getElem?_eq_some_iff.mp hother
    simpa using hbefore earlier hless
  · rintro ⟨hitem, hbefore⟩
    obtain ⟨hposition, hitem⟩ := List.getElem?_eq_some_iff.mp hitem
    refine ⟨hposition, hitem, fun earlier hless ↦ ?_⟩
    rw [hbefore earlier _ hless (List.getElem?_eq_getElem (hless.trans hposition))]
    rfl

/-- An item at a place: it passes the test of the first number, and its position is the second. -/
structure PassesAt (passes : β → α → Bool) (tests : List β) (items : List α) (place : ℕ × ℕ)
    (item : α) : Prop where
  item_eq : items[place.2]? = some item
  passes : ∃ test, tests[place.1]? = some test ∧ passes test item = true

/-- The item at the least place, by the number of the test and then by the position. -/
def IsPreferred (passes : β → α → Bool) (tests : List β) (items : List α) (item : α) : Prop :=
  ∃ place, PassesAt passes tests items place item ∧
    ∀ other another, PassesAt passes tests items other another → toLex place ≤ toLex other

variable {passes : β → α → Bool} {tests : List β} {items : List α}

theorem IsPreferred.unique {item other : α} (h : IsPreferred passes tests items item)
    (hother : IsPreferred passes tests items other) : item = other := by
  obtain ⟨place, hplace, hleast⟩ := h
  obtain ⟨another, hanother, hleastOther⟩ := hother
  have hsame : place = another := toLex.injective
    (le_antisymm (hleast another other hanother) (hleastOther place item hplace))
  exact Option.some.inj (hplace.item_eq.symm.trans (hsame ▸ hanother.item_eq))

theorem findSome?_find?_eq_none_iff :
    (tests.findSome? fun test ↦ items.find? (passes test)) = none ↔
      ∀ place item, ¬ PassesAt passes tests items place item := by
  simp only [List.findSome?_eq_none_iff, List.find?_eq_none]
  constructor
  · rintro h place item ⟨hitem, test, htest, hpasses⟩
    exact h test (List.mem_of_getElem? htest) item (List.mem_of_getElem? hitem) hpasses
  · intro h test htest item hitem hpasses
    obtain ⟨number, hnumber⟩ := List.getElem?_of_mem htest
    obtain ⟨position, hposition⟩ := List.getElem?_of_mem hitem
    exact h (number, position) item ⟨hposition, test, hnumber, hpasses⟩

theorem isPreferred_of_findSome?_find? {item : α}
    (h : (tests.findSome? fun test ↦ items.find? (passes test)) = some item) :
    IsPreferred passes tests items item := by
  obtain ⟨before, test, after, rfl, hfind, hfailed⟩ := List.findSome?_eq_some_iff.mp h
  obtain ⟨hpasses, position, hitem, hearlier⟩ := find?_eq_some_iff_position.mp hfind
  refine ⟨(before.length, position), ⟨hitem, test, by simp, hpasses⟩, ?_⟩
  rintro ⟨number, later⟩ other ⟨hother, another, hanother, hpassesOther⟩
  rw [Prod.Lex.toLex_le_toLex]
  rcases Nat.lt_trichotomy number before.length with hless | rfl | hless
  · -- No item passes a test that was tried before.
    rw [List.getElem?_append_left hless] at hanother
    have hnone := List.find?_eq_none.mp (hfailed another (List.mem_of_getElem? hanother))
    exact absurd hpassesOther (hnone other (List.mem_of_getElem? hother))
  · obtain rfl : test = another := by simpa using hanother
    refine .inr ⟨rfl, Nat.le_of_not_lt fun hlater ↦ ?_⟩
    simp [hearlier later other hlater hother] at hpassesOther
  · exact .inl hless

theorem findSome?_find?_eq_some_iff {item : α} :
    (tests.findSome? fun test ↦ items.find? (passes test)) = some item ↔
      IsPreferred passes tests items item := by
  refine ⟨isPreferred_of_findSome?_find?, fun h ↦ ?_⟩
  cases hfound : tests.findSome? fun test ↦ items.find? (passes test) with
  | none =>
    obtain ⟨place, hplace, -⟩ := h
    exact absurd hplace (findSome?_find?_eq_none_iff.mp hfound place item)
  | some found => rw [h.unique (isPreferred_of_findSome?_find? hfound)]

end ApiOutline
