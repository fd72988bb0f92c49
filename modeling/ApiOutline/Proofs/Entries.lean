import ApiOutline.Table
import Mathlib.Data.List.Induction
import Mathlib.Data.List.Nodup

/-!
Entries put one after the other. Each key then has one entry, in the place where the key appears
first (`keys_putAll_nil`), with the value that it is given last (`mem_putAll_nil_iff`). Entries that
were put together before count as those they were made from (`putAll_putAll`).
-/

set_option autoImplicit false
set_option relaxedAutoImplicit false

namespace ApiOutline

/-! ### Distinct keys in the order of appearance -/

section

variable {α : Type} [DecidableEq α]

theorem eraseDups_concat (keys : List α) (key : α) :
    (keys ++ [key]).eraseDups =
      if key ∈ keys then keys.eraseDups else keys.eraseDups ++ [key] := by
  rw [List.eraseDups_append, List.cons_removeAll, List.nil_removeAll]
  by_cases hkey : key ∈ keys
  · simp [hkey]
  · simp [hkey, List.eraseDups_cons]

theorem nodup_eraseDups (keys : List α) : keys.eraseDups.Nodup := by
  induction keys using List.reverseRecOn with
  | nil => exact List.nodup_nil
  | append_singleton keys key ih =>
    rw [eraseDups_concat]
    split
    · exact ih
    · next hkey =>
      rw [← List.concat_eq_append, List.nodup_concat]
      exact ⟨fun hmem ↦ hkey (List.mem_eraseDups.mp hmem), ih⟩

end

namespace Entries

variable {α : Type}

/-! ### Entries without a key -/

section Filter

variable {κ : Type} [BEq κ] [LawfulBEq κ] [DecidableEq κ] {key wanted : κ}

theorem lookup_filter_ne (entries : List (κ × α)) (hne : wanted ≠ key) :
    (entries.filter (·.1 ≠ key)).lookup wanted = entries.lookup wanted := by
  induction entries with
  | nil => rfl
  | cons entry entries ih =>
    obtain ⟨name, content⟩ := entry
    by_cases hname : name = key
    · subst hname
      have hkept : ((name, content) :: entries).filter (·.1 ≠ name) = entries.filter (·.1 ≠ name) :=
        List.filter_cons_of_neg (by simp)
      rw [hkept, ih, List.lookup_cons, beq_eq_false_iff_ne.mpr hne]
    · rw [List.filter_cons_of_pos (by simpa using hname), List.lookup_cons, List.lookup_cons, ih]

theorem lookup_filter_self (entries : List (κ × α)) (key : κ) :
    (entries.filter (·.1 ≠ key)).lookup key = none := by
  rw [List.lookup_eq_none_iff]
  intro entry hentry
  have hne : entry.1 ≠ key := of_decide_eq_true (List.mem_filter.mp hentry).2
  exact bne_iff_ne.mpr hne.symm

end Filter

/-! ### Entries made from their keys -/

theorem lookup_map_key {keys : List String} {key : String} (hkey : key ∈ keys)
    (value : String → α) :
    (keys.map fun name ↦ (name, value name)).lookup key = some (value key) := by
  induction keys with
  | nil => simp at hkey
  | cons first rest ih =>
    rw [List.map_cons, List.lookup_cons]
    by_cases hfirst : key = first
    · simp [hfirst]
    · have hrest := ih ((List.mem_cons.mp hkey).resolve_left hfirst)
      simp [beq_eq_false_iff_ne.mpr hfirst, hrest]

theorem put_map_key {keys : List String} (hnodup : keys.Nodup) (key : String)
    (value : String → α) (new : α) :
    put (keys.map fun name ↦ (name, value name)) key new =
      (if key ∈ keys then keys else keys ++ [key]).map fun name ↦
        (name, if name = key then new else value name) := by
  induction keys with
  | nil => simp [put]
  | cons first rest ih =>
    obtain ⟨hfirst, hrest⟩ := List.nodup_cons.mp hnodup
    rw [List.map_cons, put]
    by_cases hkey : first = key
    · subst hkey
      have hsame : ∀ name ∈ rest, (name, value name) =
          (name, if name = first then new else value name) := by
        intro name hname
        have hne : name ≠ first := fun h ↦ hfirst (h ▸ hname)
        simp [hne]
      simp [List.map_congr_left hsame]
    · have hne : ¬ key = first := fun h ↦ hkey h.symm
      by_cases hmem : key ∈ rest
      · simp [hkey, hmem, ih hrest]
      · simp [hkey, hne, hmem, ih hrest]

/-! ### Keys that are put again -/

/-- An entry under a new key goes last. -/
theorem put_of_not_mem {entries : List (String × α)} {key : String} (value : α)
    (hkey : key ∉ entries.map Prod.fst) : put entries key value = entries ++ [(key, value)] := by
  induction entries with
  | nil => rfl
  | cons entry rest ih =>
    obtain ⟨hentry, hrest⟩ := not_or.mp (mt List.mem_cons.mpr hkey)
    rw [put, if_neg (Ne.symm hentry), ih hrest, List.cons_append]

theorem put_put_self (entries : List (String × α)) (key : String) (first last : α) :
    put (put entries key first) key last = put entries key last := by
  induction entries with
  | nil => simp [put]
  | cons entry rest ih => by_cases hkey : entry.1 = key <;> simp [put, hkey, ih]

/-- A key that has its place can be put before or after another one. -/
theorem put_put_of_mem {entries : List (String × α)} {key other : String} (hne : other ≠ key)
    (hkey : key ∈ entries.map Prod.fst) (value otherValue : α) :
    put (put entries other otherValue) key value = put (put entries key value) other otherValue := by
  induction entries with
  | nil => simp at hkey
  | cons entry rest ih =>
    by_cases hentry : entry.1 = key
    · have hother : ¬ key = other := fun h ↦ hne h.symm
      simp [put, hentry, hother]
    · have hrest : key ∈ rest.map Prod.fst :=
        (List.mem_cons.mp hkey).resolve_left fun h ↦ hentry h.symm
      by_cases hother : entry.1 = other
      · simp [put, hother, hne]
      · simp [put, hother, hentry, ih hrest]

theorem put_putAll_of_mem {entries others : List (String × α)} {key : String}
    (hothers : key ∉ others.map Prod.fst) (hkey : key ∈ entries.map Prod.fst) (value : α) :
    put (putAll entries others) key value = putAll (put entries key value) others := by
  induction others generalizing entries with
  | nil => rfl
  | cons other rest ih =>
    obtain ⟨hother, hrest⟩ := not_or.mp (List.mem_cons.not.mp hothers)
    have hplace : key ∈ (put entries other.1 other.2).map Prod.fst := mem_keys_put.mpr (.inl hkey)
    have hstep := ih hrest hplace
    rw [put_put_of_mem (fun h ↦ hother h.symm) hkey] at hstep
    exact hstep

/-- To put entries with one more is to put the entries and then that one, even if its key is among
theirs. -/
theorem putAll_put {others : List (String × α)} (hnodup : (others.map Prod.fst).Nodup)
    (entries : List (String × α)) (key : String) (value : α) :
    putAll entries (put others key value) = put (putAll entries others) key value := by
  induction others generalizing entries with
  | nil => rfl
  | cons other rest ih =>
    obtain ⟨hother, hrest⟩ := List.nodup_cons.mp hnodup
    by_cases hkey : other.1 = key
    · subst hkey
      have hmem : other.1 ∈ (put entries other.1 other.2).map Prod.fst :=
        mem_keys_put.mpr (.inr rfl)
      have hput := put_putAll_of_mem hother hmem value
      rw [put_put_self] at hput
      rw [put, if_pos rfl]
      exact hput.symm
    · rw [put, if_neg hkey]
      exact ih hrest (put entries other.1 other.2)

theorem putAll_putAll {others : List (String × α)} (hnodup : (others.map Prod.fst).Nodup)
    (entries further : List (String × α)) :
    putAll entries (putAll others further) = putAll (putAll entries others) further := by
  induction further generalizing others with
  | nil => rfl
  | cons entry rest ih =>
    have hrest := ih (nodup_put hnodup entry.1 entry.2)
    rw [putAll_put hnodup] at hrest
    exact hrest

/-! ### What is left of entries put one after the other -/

/-- The value that the last entry of a key has. -/
def IsLast (entries : List (String × α)) (key : String) (value : α) : Prop :=
  ∃ earlier later, entries = earlier ++ (key, value) :: later ∧ key ∉ later.map Prod.fst

theorem isLast_concat_iff {entries : List (String × α)} {entry : String × α} {key : String}
    {value : α} : IsLast (entries ++ [entry]) key value ↔
      if key = entry.1 then value = entry.2 else IsLast entries key value := by
  constructor
  · rintro ⟨earlier, later, hentries, hlater⟩
    rcases List.eq_nil_or_concat' later with rfl | ⟨between, last, rfl⟩
    · obtain ⟨-, hentry⟩ := List.append_inj' hentries rfl
      obtain rfl := List.singleton_inj.mp hentry
      simp
    · rw [← List.cons_append, ← List.append_assoc] at hentries
      obtain ⟨rfl, hentry⟩ := List.append_inj' hentries rfl
      obtain rfl := List.singleton_inj.mp hentry
      obtain ⟨hbetween, hkey⟩ : key ∉ between.map Prod.fst ∧ key ≠ entry.1 := by
        simpa [not_or] using hlater
      rw [if_neg hkey]
      exact ⟨earlier, between, rfl, hbetween⟩
  · intro h
    split_ifs at h with hkey
    · subst hkey h
      exact ⟨entries, [], rfl, List.not_mem_nil⟩
    · obtain ⟨earlier, later, rfl, hlater⟩ := h
      refine ⟨earlier, later ++ [entry], by simp, ?_⟩
      simpa [not_or, hkey] using hlater

theorem mem_put_iff {entries : List (String × α)} (hnodup : (entries.map Prod.fst).Nodup)
    {key name : String} {value new : α} :
    (name, value) ∈ put entries key new ↔
      if name = key then value = new else (name, value) ∈ entries := by
  induction entries with
  | nil => split_ifs with hname <;> simp [put, hname]
  | cons entry rest ih =>
    obtain ⟨hentry, hrest⟩ := List.nodup_cons.mp hnodup
    rw [put]
    split_ifs with hkey hname hname
    · subst hkey hname
      have habsent : (entry.1, value) ∉ rest := fun h ↦ hentry (List.mem_map.mpr ⟨_, h, rfl⟩)
      simp [habsent]
    · simp [hname, Prod.ext_iff, hkey]
    · have hne : ¬ key = entry.1 := fun h ↦ hkey h.symm
      subst hname
      simp [ih hrest, Prod.ext_iff, hne]
    · simp [ih hrest, hname]

theorem putAll_concat (entries others : List (String × α)) (entry : String × α) :
    putAll entries (others ++ [entry]) = put (putAll entries others) entry.1 entry.2 :=
  List.foldl_append

theorem keys_putAll_nil (entries : List (String × α)) :
    (putAll [] entries).map Prod.fst = (entries.map Prod.fst).eraseDups := by
  induction entries using List.reverseRecOn with
  | nil => rfl
  | append_singleton entries entry ih =>
    rw [putAll_concat, keys_put, ih, List.map_append, List.map_singleton, eraseDups_concat]
    simp only [List.mem_eraseDups]

theorem mem_putAll_nil_iff {entries : List (String × α)} {key : String} {value : α} :
    (key, value) ∈ putAll [] entries ↔ IsLast entries key value := by
  induction entries using List.reverseRecOn with
  | nil => simp [putAll, IsLast]
  | append_singleton entries entry ih =>
    have hnodup : ((putAll [] entries).map Prod.fst).Nodup :=
      nodup_putAll (by simp) entries
    rw [putAll_concat, mem_put_iff hnodup, isLast_concat_iff, ih]

/-- Entries as they are left: one for each key, in the place where the key appears first, with the
value that the key is given last. -/
structure LeftBy (entries left : List (String × α)) : Prop where
  keys_eq : left.map Prod.fst = (entries.map Prod.fst).eraseDups
  isLast : ∀ entry ∈ left, IsLast entries entry.1 entry.2

theorem eq_of_keys_eq {entries others : List (String × α)} (hnodup : (others.map Prod.fst).Nodup)
    (hkeys : entries.map Prod.fst = others.map Prod.fst) (hsubset : entries ⊆ others) :
    entries = others := by
  have hlength : entries.length = others.length := by
    rw [← List.length_map Prod.fst, hkeys, List.length_map]
  refine List.ext_getElem hlength fun place hentry hother ↦ ?_
  have hkeyAt : (entries.map Prod.fst)[place]? = (others.map Prod.fst)[place]? := by rw [hkeys]
  have hkey : entries[place].1 = others[place].1 := by simpa [hentry, hother] using hkeyAt
  exact List.inj_on_of_nodup_map hnodup (hsubset (List.getElem_mem hentry))
    (List.getElem_mem hother) hkey

/-- Putting entries one after the other leaves what they are left as, and nothing else is left. -/
theorem leftBy_iff {entries left : List (String × α)} :
    LeftBy entries left ↔ putAll [] entries = left := by
  have hputAll : LeftBy entries (putAll [] entries) :=
    ⟨keys_putAll_nil entries, fun _ hentry ↦ mem_putAll_nil_iff.mp hentry⟩
  constructor
  · intro h
    have hnodup : ((putAll [] entries).map Prod.fst).Nodup := nodup_putAll (by simp) entries
    have hkeys : left.map Prod.fst = (putAll [] entries).map Prod.fst :=
      h.keys_eq.trans hputAll.keys_eq.symm
    exact (eq_of_keys_eq hnodup hkeys fun entry hentry ↦
      mem_putAll_nil_iff.mpr (h.isLast entry hentry)).symm
  · rintro rfl
    exact hputAll

theorem putAll_nil_of_nodup {entries : List (String × α)} (hnodup : (entries.map Prod.fst).Nodup) :
    putAll [] entries = entries := by
  induction entries using List.reverseRecOn with
  | nil => rfl
  | append_singleton entries entry ih =>
    rw [List.map_append, List.map_singleton, ← List.concat_eq_append, List.nodup_concat] at hnodup
    rw [putAll_concat, ih hnodup.2, put_of_not_mem entry.2 hnodup.1]

end Entries

end ApiOutline
