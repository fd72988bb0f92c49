import ApiOutline.Json.Basic
import ApiOutline.Proofs.Decimal.Shortest
import Mathlib.Data.List.TakeWhile

/-!
How the text of a number reads. The text of a double has digits with a point inside, or digits with
an exponent if the number is small or large, and no zero that the notation does not ask for. Read as
a decimal number it is the shortest one that reads back as the double (`Layout.text_writes`).
-/

set_option autoImplicit false
set_option relaxedAutoImplicit false

namespace ApiOutline.Decimal

/-! ### Decimal notation -/

/-- What digits say when the last of them are those of a fraction. -/
def pointValue (digits : List Char) (fraction : ℕ) : ℚ :=
  Nat.ofDigitChars 10 digits 0 * 10 ^ (-(fraction : ℤ))

/-- The exponents of a format have a minus, or the plus of the format. -/
inductive Layout.SpellsExponent (layout : Layout) : List Char → ℤ → Prop
  | negative {n : ℕ} (hpos : 0 < n) : layout.SpellsExponent ('-' :: Nat.toDigits 10 n) (-n)
  | signed (hsigned : layout.signedExponent = true) (n : ℕ) :
      layout.SpellsExponent ('+' :: Nat.toDigits 10 n) n
  | unsigned (hunsigned : layout.signedExponent = false) (n : ℕ) :
      layout.SpellsExponent (Nat.toDigits 10 n) n

/-- A text of a format and the number it stands for. There are no zeros before the digits or after
them, unless a point has no other digit on its side. -/
inductive Layout.Spells (layout : Layout) : List Char → ℚ → Prop
  | point {whole fraction : List Char} (hdigits : ∀ c ∈ whole ++ fraction, c.isDigit = true)
      (hwhole : whole = ['0'] ∨ whole ≠ [] ∧ whole.head? ≠ some '0')
      (hfraction : fraction = ['0'] ∨ fraction ≠ [] ∧ fraction.getLast? ≠ some '0')
      (hsmall : 10 ^ (-5 : ℤ) ≤ pointValue (whole ++ fraction) fraction.length)
      (hlarge : pointValue (whole ++ fraction) fraction.length < 10 ^ (16 : ℤ)) :
      layout.Spells (whole ++ '.' :: fraction) (pointValue (whole ++ fraction) fraction.length)
  | exponent {first : Char} {fraction mark : List Char} {exponent : ℤ}
      (hdigits : ∀ c ∈ first :: fraction, c.isDigit = true) (hfirst : first ≠ '0')
      (hfraction : fraction ≠ [] ∧ fraction.getLast? ≠ some '0')
      (hmark : layout.SpellsExponent mark exponent) (hrange : exponent < -5 ∨ 16 ≤ exponent) :
      layout.Spells (first :: '.' :: fraction ++ 'e' :: mark)
        (pointValue (first :: fraction) fraction.length * 10 ^ exponent)
  | digit {first : Char} {mark : List Char} {exponent : ℤ} (hdigit : first.isDigit = true)
      (hfirst : first ≠ '0') (hmark : layout.SpellsExponent mark exponent)
      (hrange : exponent < -5 ∨ 16 ≤ exponent) :
      layout.Spells (first :: 'e' :: mark) (pointValue [first] 0 * 10 ^ exponent)

/-- The text of a double of a format: the shortest digits, after the sign. -/
inductive Layout.Writes (layout : Layout) (b : Binary) : List Char → Prop
  | zero (hzero : b.mantissa = 0) : layout.Writes b ['0', '.', '0']
  | shortest {cs : List Char} {q : ℚ} (hpos : b.IsPositive) (hspells : layout.Spells cs q)
      (hshortest : b.IsShortest q) : layout.Writes b cs

variable {layout : Layout} {d : Numeral} {ds : List Char} {place : ℤ}

/-! ### The digits of a numeral -/

/-- Digits that show a numeral, the first one at the place of `10 ^ (place - 1)`. -/
structure Numeral.Shows (d : Numeral) (ds : List Char) (place : ℤ) : Prop where
  digits : ∀ c ∈ ds, c.isDigit = true
  ne_nil : ds ≠ []
  head?_ne : ds.head? ≠ some '0'
  getLast?_ne : ds.getLast? ≠ some '0'
  value_eq : d.value = Nat.ofDigitChars 10 ds 0 * 10 ^ (place - ds.length)
  pow_le : 10 ^ (place - 1) ≤ d.value
  lt_pow : d.value < 10 ^ place

theorem eq_trimZeros_append (ds : List Char) :
    ∃ k, ds = trimZeros ds ++ List.replicate k '0' := by
  let zeros := ds.reverse.takeWhile (· = '0')
  have hzeros : zeros = List.replicate zeros.length '0' :=
    List.eq_replicate_of_mem fun _ hc ↦ of_decide_eq_true (List.mem_takeWhile_imp hc :)
  refine ⟨zeros.length, ?_⟩
  rw [← List.reverse_inj, List.reverse_append, List.reverse_replicate, ← hzeros, trimZeros,
    List.reverse_reverse]
  exact List.takeWhile_append_dropWhile.symm

theorem getLast?_trimZeros (ds : List Char) : (trimZeros ds).getLast? ≠ some '0' := by
  rw [trimZeros, List.getLast?_reverse]
  intro hzero
  have hhead := List.head?_dropWhile_not (fun c ↦ decide (c = '0')) ds.reverse
  rw [hzero] at hhead
  exact absurd hhead (by decide)

/-- A number other than zero does not start with one. -/
theorem head?_toDigits {n : ℕ} (hn : n ≠ 0) : (Nat.toDigits 10 n).head? ≠ some '0' := by
  induction n using Nat.strong_induction_on with
  | _ n ih =>
    rw [Nat.toDigits_eq_if (by norm_num)]
    split_ifs with hlt
    · rw [List.head?_cons]
      exact fun hzero ↦ hn (Nat.digitChar_eq_zero.mp (Option.some.inj hzero))
    · rw [List.head?_append_of_ne_nil _ Nat.toDigits_ne_nil]
      exact ih (n / 10) (by omega) (by omega)

theorem Numeral.pow_length_le (hd : d.digits ≠ 0) :
    (10 : ℚ) ^ ((Nat.toDigits 10 d.digits).length + d.exponent - 1) ≤ d.value := by
  rw [add_sub_right_comm, zpow_add₀ (by norm_num)]
  exact mul_le_mul_of_nonneg_right (pow_length_toDigits_le hd) (zpow_nonneg (by norm_num) _)

theorem Numeral.value_lt_pow_length (d : Numeral) :
    d.value < (10 : ℚ) ^ ((Nat.toDigits 10 d.digits).length + d.exponent) := by
  have hlt : (d.digits : ℚ) < 10 ^ (Nat.toDigits 10 d.digits).length := by
    exact_mod_cast lt_pow_length_toDigits d.digits
  rw [zpow_add₀ (by norm_num), zpow_natCast]
  exact mul_lt_mul_of_pos_right hlt (zpow_pos (by norm_num) _)

theorem shows_trimZeros (hd : d.digits ≠ 0) :
    d.Shows (trimZeros (Nat.toDigits 10 d.digits))
      ((Nat.toDigits 10 d.digits).length + d.exponent) := by
  have hhead := head?_toDigits hd
  have hne : Nat.toDigits 10 d.digits ≠ [] := Nat.toDigits_ne_nil
  have hread := Nat.ofDigitChars_ten_toDigits (n := d.digits)
  have hdigit (c : Char) (hc : c ∈ Nat.toDigits 10 d.digits) : c.isDigit = true :=
    Nat.isDigit_of_mem_toDigits (by norm_num) le_rfl hc
  have hlt := d.value_lt_pow_length
  have hle := Numeral.pow_length_le hd
  have hlast := getLast?_trimZeros (Nat.toDigits 10 d.digits)
  obtain ⟨k, hsplit⟩ := eq_trimZeros_append (Nat.toDigits 10 d.digits)
  generalize trimZeros (Nat.toDigits 10 d.digits) = ds at hsplit hlast ⊢
  generalize Nat.toDigits 10 d.digits = all at *
  subst hsplit
  have hnil : ds ≠ [] := by
    rintro rfl
    obtain _ | k := k
    · exact hne rfl
    · exact hhead rfl
  refine ⟨fun c hc ↦ hdigit c (List.mem_append_left _ hc), hnil, ?_, hlast, ?_, hle, hlt⟩
  · rwa [List.head?_append_of_ne_nil _ hnil] at hhead
  · rw [Nat.ofDigitChars_append, Nat.ofDigitChars_replicate_zero] at hread
    rw [Numeral.value, ← hread]
    push_cast
    rw [mul_right_comm, ← zpow_natCast, ← zpow_add₀ (by norm_num), mul_comm]
    congr 2
    rw [List.length_append, List.length_replicate]
    push_cast
    ring

/-! ### The notations -/

theorem Layout.exists_spellsExponent (layout : Layout) (place : ℤ) :
    ∃ mark, layout.SpellsExponent mark (place - 1) ∧ ∀ ds, layout.scientific ds place =
      ds.take 1 ++ (if ds.length > 1 then '.' :: ds.drop 1 else []) ++ 'e' :: mark := by
  refine ⟨(if place - 1 < 0 then ['-'] else if layout.signedExponent then ['+'] else []) ++
    Nat.toDigits 10 (place - 1).natAbs, ?_, fun ds ↦ ?_⟩
  · split_ifs with hnegative hsigned
    · have hmark : layout.SpellsExponent _ _ := .negative (Int.natAbs_pos.mpr hnegative.ne)
      rwa [Int.natCast_natAbs, abs_of_neg hnegative, neg_neg] at hmark
    · have hmark : layout.SpellsExponent _ _ := .signed hsigned (place - 1).natAbs
      rwa [Int.natCast_natAbs, abs_of_nonneg (not_lt.mp hnegative)] at hmark
    · have hmark : layout.SpellsExponent _ _ :=
        .unsigned (Bool.eq_false_iff.mpr hsigned) (place - 1).natAbs
      rwa [Int.natCast_natAbs, abs_of_nonneg (not_lt.mp hnegative)] at hmark
  · simp only [Layout.scientific, List.append_assoc, List.cons_append, List.nil_append]

theorem isDigit_of_mem_zeros {k : ℕ} {c : Char} (hc : c ∈ List.replicate k '0') :
    c.isDigit = true := by
  rw [List.eq_of_mem_replicate hc]
  rfl

namespace Numeral.Shows

/-- A point stands where it belongs if the digits are shown with zeros after them or before. -/
theorem spells_point (h : d.Shows ds place) (hsmall : -5 < place) (hlarge : place ≤ 16)
    {whole fraction : List Char} (zeros : ℕ) (hdigits : ∀ c ∈ whole ++ fraction, c.isDigit = true)
    (hwhole : whole = ['0'] ∨ whole ≠ [] ∧ whole.head? ≠ some '0')
    (hfraction : fraction = ['0'] ∨ fraction ≠ [] ∧ fraction.getLast? ≠ some '0')
    (hread : Nat.ofDigitChars 10 (whole ++ fraction) 0 = 10 ^ zeros * Nat.ofDigitChars 10 ds 0)
    (hplace : (zeros : ℤ) - fraction.length = place - ds.length) :
    layout.Spells (whole ++ '.' :: fraction) d.value := by
  have hvalue : d.value = pointValue (whole ++ fraction) fraction.length := by
    rw [h.value_eq, pointValue, hread, ← hplace, sub_eq_add_neg, zpow_add₀ (by norm_num),
      zpow_natCast]
    push_cast
    ring
  have hlow := (zpow_le_zpow_right₀ (by norm_num) (by omega : -5 ≤ place - 1)).trans h.pow_le
  have hhigh := h.lt_pow.trans_le (zpow_le_zpow_right₀ (by norm_num) hlarge)
  rw [hvalue] at hlow hhigh ⊢
  exact .point hdigits hwhole hfraction hlow hhigh

theorem spells_after (h : d.Shows ds place) (hsmall : -5 < place) (hlarge : place ≤ 16)
    (hafter : ds.length ≤ place) :
    layout.Spells (ds ++ List.replicate (place - ds.length).toNat '0' ++ ['.', '0']) d.value := by
  have hread : ds ++ List.replicate (place - ds.length).toNat '0' ++ ['0'] =
      ds ++ List.replicate ((place - ds.length).toNat + 1) '0' := by
    rw [List.append_assoc, ← List.replicate_succ']
  refine h.spells_point hsmall hlarge ((place - ds.length).toNat + 1) ?_
    (.inr ⟨List.append_ne_nil_of_left_ne_nil h.ne_nil _, ?_⟩) (.inl rfl) ?_ ?_
  · intro c hc
    rw [hread, List.mem_append] at hc
    exact hc.elim (h.digits c) isDigit_of_mem_zeros
  · rw [List.head?_append_of_ne_nil _ h.ne_nil]
    exact h.head?_ne
  · rw [hread, Nat.ofDigitChars_append, Nat.ofDigitChars_replicate_zero]
  · rw [List.length_singleton]
    omega

theorem spells_among (h : d.Shows ds place) (hlarge : place ≤ 16) (hpos : 0 < place)
    (hlt : place < ds.length) :
    layout.Spells (ds.take place.toNat ++ ['.'] ++ ds.drop place.toNat) d.value := by
  rw [List.append_assoc, List.singleton_append]
  refine h.spells_point (by omega) hlarge 0 ?_ (.inr ⟨?_, ?_⟩) (.inr ⟨?_, ?_⟩) ?_ ?_
  · rw [List.take_append_drop]
    exact h.digits
  · rw [Ne, List.take_eq_nil_iff, not_or]
    exact ⟨by omega, h.ne_nil⟩
  · rw [List.head?_take, if_neg (by omega)]
    exact h.head?_ne
  · rw [Ne, List.drop_eq_nil_iff]
    omega
  · rw [List.getLast?_drop, if_neg (by omega)]
    exact h.getLast?_ne
  · rw [List.take_append_drop, pow_zero, one_mul]
  · rw [List.length_drop]
    omega

theorem spells_before (h : d.Shows ds place) (hsmall : -5 < place) (hle : place ≤ 0) :
    layout.Spells (['0', '.'] ++ List.replicate (-place).toNat '0' ++ ds) d.value := by
  have hread : ['0'] ++ (List.replicate (-place).toNat '0' ++ ds) =
      List.replicate ((-place).toNat + 1) '0' ++ ds := by
    rw [← List.append_assoc, List.singleton_append, ← List.replicate_succ]
  rw [List.append_assoc]
  change layout.Spells (['0'] ++ '.' :: (List.replicate (-place).toNat '0' ++ ds)) _
  refine h.spells_point hsmall (by omega) 0 ?_ (.inl rfl)
    (.inr ⟨List.append_ne_nil_of_right_ne_nil _ h.ne_nil, ?_⟩) ?_ ?_
  · intro c hc
    rw [hread, List.mem_append] at hc
    exact hc.elim isDigit_of_mem_zeros (h.digits c)
  · rw [List.getLast?_append_of_ne_nil _ h.ne_nil]
    exact h.getLast?_ne
  · rw [hread, Nat.ofDigitChars_append, Nat.ofDigitChars_replicate_zero, mul_zero, pow_zero,
      one_mul]
  · rw [List.length_append, List.length_replicate]
    omega

theorem spells_positional (h : d.Shows ds place) (hsmall : -5 < place) (hlarge : place ≤ 16) :
    layout.Spells (Layout.positional ds place) d.value := by
  unfold Layout.positional
  split_ifs with hafter hinside
  · exact h.spells_after hsmall hlarge hafter
  · exact h.spells_among hlarge hinside (not_le.mp hafter)
  · exact h.spells_before hsmall (not_lt.mp hinside)

theorem spells_scientific (h : d.Shows ds place) (hrange : place ≤ -5 ∨ 16 < place) :
    layout.Spells (layout.scientific ds place) d.value := by
  obtain ⟨mark, hmark, htext⟩ := layout.exists_spellsExponent place
  have hexponent : place - 1 < -5 ∨ 16 ≤ place - 1 := by omega
  have hvalue := h.value_eq
  have hdigits := h.digits
  have hhead := h.head?_ne
  have hlast := h.getLast?_ne
  rw [htext]
  match ds, h.ne_nil with
  | [first], _ =>
    have hone : d.value = pointValue [first] 0 * 10 ^ (place - 1) := by
      rw [hvalue, pointValue, Nat.cast_zero, neg_zero, zpow_zero, mul_one, List.length_singleton,
        Nat.cast_one]
    rw [hone]
    exact .digit (hdigits first List.mem_cons_self) (by simpa using hhead) hmark hexponent
  | first :: second :: rest, _ =>
    have hmore : d.value =
        pointValue (first :: second :: rest) (second :: rest).length * 10 ^ (place - 1) := by
      rw [hvalue, pointValue, mul_assoc, ← zpow_add₀ (by norm_num)]
      congr 2
      rw [List.length_cons, List.length_cons]
      push_cast
      ring
    rw [hmore]
    exact .exponent hdigits (by simpa using hhead) ⟨List.cons_ne_nil _ _, hlast⟩ hmark hexponent

end Numeral.Shows

theorem Layout.spells_magnitude (layout : Layout) (hd : d.digits ≠ 0) :
    layout.Spells (layout.magnitude d) d.value := by
  have hshows := shows_trimZeros hd
  unfold Layout.magnitude
  dsimp only
  split_ifs with hrange
  · exact hshows.spells_positional hrange.1 hrange.2
  · exact hshows.spells_scientific (by omega)

/-- The text of a finite double has its sign and its shortest digits. -/
theorem Layout.text_writes (layout : Layout) {x : Float} {b : Binary} (hx : decode? x = some b) :
    ∃ cs, layout.Writes b cs ∧
      layout.text x = String.ofList (if b.negative then '-' :: cs else cs) := by
  unfold Layout.text
  rw [hx]
  refine ⟨_, ?_, rfl⟩
  split_ifs with hzero
  · exact .zero hzero
  · have hpos := Binary.isPositive_of_decode? hx hzero
    have hshortest := Binary.isShortest_shortest hpos
    refine .shortest hpos (layout.spells_magnitude fun hdigits ↦ ?_) hshortest
    have hvalue := (Binary.low_pos hpos).trans_le hshortest.nearest.low_le
    rw [Numeral.value, hdigits, Nat.cast_zero, zero_mul] at hvalue
    exact hvalue.false

end ApiOutline.Decimal

namespace ApiOutline

/-- A whole number is written in its decimal digits, and a double in its shortest ones. -/
theorem Number.text_integer (value : ℤ) :
    (Number.integer value).text = String.ofList
      (if value < 0 then '-' :: Nat.toDigits 10 value.natAbs
        else Nat.toDigits 10 value.natAbs) := by
  cases value with
  | ofNat n => exact Nat.repr_eq_ofList_toDigits
  | negSucc n =>
    rw [if_pos (Int.negSucc_lt_zero n), String.ofList_cons, Int.natAbs_negSucc,
      ← Nat.repr_eq_ofList_toDigits]
    rfl

theorem Number.text_float_writes {x : Float} {b : Decimal.Binary}
    (hx : Decimal.decode? x = some b) :
    ∃ cs, layout.Writes b cs ∧
      (Number.float x).text = String.ofList (if b.negative then '-' :: cs else cs) :=
  layout.text_writes hx

end ApiOutline
