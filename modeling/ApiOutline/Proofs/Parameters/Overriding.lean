import ApiOutline.Proofs.Entries

/-!
Items put in the place of others. An item takes the place of the first with its key, or else is put
at the end, so a key keeps its place and its first item is the one that was put last (`Overrides`).
What is repeated in the list at the beginning is reached by no item that is put in.
-/

set_option autoImplicit false
set_option relaxedAutoImplicit false

namespace ApiOutline

variable {α κ : Type} [DecidableEq κ] (key : α → κ)

/-- A list with an item in the place of the first that has its key, or at the end. -/
def overrideBy : List α → α → List α
  | [], item => [item]
  | first :: rest, item =>
    if key first = key item then item :: rest else first :: overrideBy rest item

theorem map_key_overrideBy (items : List α) (item : α) :
    (overrideBy key items item).map key =
      if key item ∈ items.map key then items.map key else items.map key ++ [key item] := by
  induction items with
  | nil => simp [overrideBy]
  | cons first rest ih =>
    rw [overrideBy]
    by_cases hfirst : key first = key item
    · simp [hfirst]
    · have hne : ¬ key item = key first := fun h ↦ hfirst h.symm
      by_cases hrest : key item ∈ rest.map key
      · simp [hfirst, ih, hrest]
      · simp [hfirst, ih, hrest, hne]

theorem find?_overrideBy (items : List α) (item : α) (wanted : κ) :
    (overrideBy key items item).find? (key · = wanted) =
      if key item = wanted then some item else items.find? (key · = wanted) := by
  induction items with
  | nil => by_cases hitem : key item = wanted <;> simp [overrideBy, hitem]
  | cons first rest ih =>
    rw [overrideBy]
    split_ifs with hfirst hitem hitem
    · simp [hitem]
    · simp [hfirst, hitem]
    · simp [hitem ▸ hfirst, ih, hitem]
    · by_cases hwanted : key first = wanted
      · simp [hwanted]
      · simp [hwanted, ih, hitem]

theorem getElem?_overrideBy_of_ne {items : List α} {index : ℕ} {item other : α}
    (hother : items[index]? = some other) (hne : key other ≠ key item) :
    (overrideBy key items item)[index]? = some other := by
  induction items generalizing index with
  | nil => simp at hother
  | cons first rest ih =>
    rw [overrideBy]
    cases index with
    | zero =>
      obtain rfl : first = other := by simpa using hother
      simp [hne]
    | succ index =>
      rw [List.getElem?_cons_succ] at hother
      split_ifs with hfirst
      · exact hother
      · exact ih hother

/-- An item of which the key occurs before stays where it is. -/
theorem getElem?_overrideBy_of_repeated {items : List α} {first later : ℕ} {earlier other : α}
    (hless : first < later) (hearlier : items[first]? = some earlier)
    (hother : items[later]? = some other) (hkey : key earlier = key other) (item : α) :
    (overrideBy key items item)[later]? = some other := by
  by_cases hitem : key other = key item
  · induction items generalizing first later with
    | nil => simp at hother
    | cons head rest ih =>
      obtain ⟨later, rfl⟩ := Nat.exists_eq_succ_of_ne_zero (Nat.ne_zero_of_lt hless)
      rw [List.getElem?_cons_succ] at hother
      rw [overrideBy]
      split_ifs with hhead
      · exact hother
      · cases first with
        | zero =>
          obtain rfl : head = earlier := by simpa using hearlier
          exact absurd (hkey.trans hitem) hhead
        | succ first =>
          exact ih (Nat.lt_of_succ_lt_succ hless) hearlier hother
  · exact getElem?_overrideBy_of_ne key hother hitem

/-! ### Many items put in -/

/-- Items of one list put in the place of those of another. The keys of the other list stay where
they are, and the new ones follow in the order in which they appear; of each key the first item is
the last one put in, or as it was if there is none; and a repetition stays as it was. -/
structure Overrides (items own merged : List α) : Prop where
  keys_eq : merged.map key =
    items.map key ++ ((own.map key).filter (· ∉ items.map key)).eraseDups
  find?_eq : ∀ wanted, merged.find? (key · = wanted) =
    (own.reverse.find? (key · = wanted)).or (items.find? (key · = wanted))
  getElem?_eq : ∀ (first later : ℕ) (earlier other : α), first < later →
    items[first]? = some earlier → items[later]? = some other → key earlier = key other →
    merged[later]? = some other

theorem Overrides.refl (items : List α) : Overrides key items [] items where
  keys_eq := by simp
  find?_eq _ := rfl
  getElem?_eq _ _ _ _ _ _ hother _ := hother

/-- In the place of an item there is one with its key. -/
theorem Overrides.exists_getElem?_of_getElem? {items own merged : List α}
    (h : Overrides key items own merged) {index : ℕ} {item : α} (hitem : items[index]? = some item) :
    ∃ replaced, merged[index]? = some replaced ∧ key replaced = key item := by
  have hkeys : (merged.map key)[index]? = some (key item) := by
    have hindex : index < (items.map key).length := by
      rw [List.length_map]
      exact (List.getElem?_eq_some_iff.mp hitem).1
    rw [h.keys_eq, List.getElem?_append_left hindex, List.getElem?_map, hitem, Option.map_some]
  rw [List.getElem?_map] at hkeys
  exact Option.map_eq_some_iff.mp hkeys

/-- One more item put in. -/
theorem Overrides.concat {items own merged : List α} (h : Overrides key items own merged)
    (item : α) : Overrides key items (own ++ [item]) (overrideBy key merged item) where
  keys_eq := by
    rw [map_key_overrideBy, h.keys_eq, List.map_append, List.filter_append, List.map_singleton]
    by_cases hitem : key item ∈ items.map key
    · rw [List.filter_cons_of_neg (by simpa using hitem), List.filter_nil, List.append_nil,
        if_pos (List.mem_append_left _ hitem)]
    · rw [List.filter_cons_of_pos (by simpa using hitem), List.filter_nil, eraseDups_concat]
      simp only [List.mem_append, List.mem_eraseDups, hitem, false_or]
      split_ifs
      · rfl
      · rw [List.append_assoc]
  find?_eq wanted := by
    rw [find?_overrideBy, h.find?_eq, List.reverse_append, List.reverse_singleton,
      List.singleton_append]
    by_cases hitem : key item = wanted <;> simp [hitem]
  getElem?_eq first later earlier other hless hearlier hother hkey := by
    have hmerged := h.getElem?_eq first later earlier other hless hearlier hother hkey
    obtain ⟨replaced, hreplaced, hsame⟩ := h.exists_getElem?_of_getElem? key hearlier
    exact getElem?_overrideBy_of_repeated key hless hreplaced hmerged (hsame.trans hkey) item

theorem overrides_foldl (items own : List α) :
    Overrides key items own (own.foldl (overrideBy key) items) := by
  induction own using List.reverseRecOn with
  | nil => exact .refl key items
  | append_singleton own item ih =>
    rw [List.foldl_concat]
    exact ih.concat key item

end ApiOutline
