import ApiOutline.Decimal.Shortest
import Mathlib.Algebra.Order.Field.Power
import Mathlib.Algebra.Order.Ring.Rat
import Mathlib.Data.Nat.Cast.Order.Field
import Mathlib.Tactic.FieldSimp
import Mathlib.Tactic.Linarith
import Mathlib.Tactic.NormNum
import Mathlib.Tactic.Positivity
import Mathlib.Tactic.Ring

/-!
The shortest digits of a double. A fraction reads back as a double if it lies no farther than
halfway to the two doubles beside it. Every grid of powers of ten has its points at whole steps, so
of each the points next to the double are the ones to look at, and the first grid with a point that
reads back leaves out no shorter digits (`Binary.isShortest_shortest`): a coarser grid has all its
points on the finer ones. Seventeen digits lie within half a step of every double.
-/

set_option autoImplicit false
set_option relaxedAutoImplicit false

namespace ApiOutline.Decimal

/-! ### Doubles and their neighbours -/

/-- The number that a numeral stands for. -/
def Numeral.value (n : Numeral) : ℚ := n.digits * 10 ^ n.exponent

/-- A number has at most so many digits, apart from zeros before and after them. -/
def HasDigits (q : ℚ) (places : ℕ) : Prop := ∃ n : Numeral, n.value = q ∧ n.digits < 10 ^ places

theorem HasDigits.mono {q : ℚ} {places more : ℕ} (h : HasDigits q places) (hle : places ≤ more) :
    HasDigits q more := by
  obtain ⟨n, hvalue, hlt⟩ := h
  exact ⟨n, hvalue, hlt.trans_le (Nat.pow_le_pow_right (by norm_num) hle)⟩

theorem HasDigits.pos {q : ℚ} {places : ℕ} (h : HasDigits q places) (hne : q ≠ 0) : 0 < places := by
  obtain ⟨n, rfl, hlt⟩ := h
  refine Nat.pos_of_ne_zero fun hzero ↦ hne ?_
  rw [hzero, pow_zero, Nat.lt_one_iff] at hlt
  rw [Numeral.value, hlt, Nat.cast_zero, zero_mul]

namespace Binary

/-- The magnitude of a double. -/
def value (b : Binary) : ℚ := b.mantissa * 2 ^ b.exponent

/-- The magnitude of a double other than zero: its mantissa has 53 bits, or fewer if its exponent is
the least. -/
structure IsPositive (b : Binary) : Prop where
  pos : 0 < b.mantissa
  lt : b.mantissa < 2 ^ 53
  least_le : leastExponent ≤ b.exponent
  full_or_least : 2 ^ 52 ≤ b.mantissa ∨ b.exponent = leastExponent

/-- The double before, which has the next lower exponent if the mantissa is the least of 53 bits. -/
def previous (b : Binary) : ℚ :=
  if b.mantissa = 2 ^ 52 ∧ leastExponent < b.exponent then (2 ^ 53 - 1) * 2 ^ (b.exponent - 1)
  else (b.mantissa - 1) * 2 ^ b.exponent

/-- The double after, or what it would be if the exponents were not bounded. -/
def next (b : Binary) : ℚ := (b.mantissa + 1) * 2 ^ b.exponent

/-- Halfway to the double before. -/
def low (b : Binary) : ℚ := (b.previous + b.value) / 2

/-- Halfway to the double after. -/
def high (b : Binary) : ℚ := (b.value + b.next) / 2

/-- A fraction rounds to a double: neither the double before nor the one after is nearer, nor as
near if the mantissa is odd. -/
structure IsNearest (b : Binary) (q : ℚ) : Prop where
  low_le : b.low ≤ q
  le_high : q ≤ b.high
  ne_ends : b.mantissa % 2 = 1 → b.low ≠ q ∧ q ≠ b.high

/-- Of the numbers that read back as the double, this one has the fewest digits, and of those with
as many digits it lies the closest. -/
structure IsShortest (b : Binary) (q : ℚ) : Prop where
  nearest : b.IsNearest q
  fewest : ∃ places, HasDigits q places ∧ ∀ r, b.IsNearest r →
    (∀ other, HasDigits r other → places ≤ other) ∧
      (HasDigits r places → |q - b.value| ≤ |r - b.value|)

variable {b : Binary}

theorem isPositive_of_decode? {x : Float} (h : decode? x = some b) (hne : b.mantissa ≠ 0) :
    b.IsPositive := by
  unfold decode? at h
  dsimp only at h
  split_ifs at h with hinfinite hleast
  · obtain rfl := Option.some.inj h
    refine ⟨Nat.pos_of_ne_zero hne, ?_, le_rfl, .inr rfl⟩
    exact (Nat.mod_lt _ (by decide)).trans (by decide)
  · obtain rfl := Option.some.inj h
    have hfraction : x.toBits.toNat % Nat.pow 2 52 < 2 ^ 52 := Nat.mod_lt _ (by decide)
    refine ⟨Nat.pos_of_ne_zero hne, ?_, ?_, .inl ?_⟩
    · change _ + 2 ^ 52 < 2 ^ 53
      omega
    · exact le_add_of_nonneg_right (Int.natCast_nonneg _)
    · exact Nat.le_add_left _ _

theorem two_zpow_sub_one (e : ℤ) : (2 : ℚ) ^ (e - 1) = 2 ^ e / 2 := by
  rw [zpow_sub_one₀ (by norm_num), div_eq_mul_inv]

/-- The gap to the double before is a unit, or half of one below a power of two. -/
theorem value_sub_previous (b : Binary) :
    b.value - b.previous =
      if b.mantissa = 2 ^ 52 ∧ leastExponent < b.exponent then 2 ^ b.exponent / 2
      else 2 ^ b.exponent := by
  unfold value previous
  split_ifs with hedge
  · rw [hedge.1, two_zpow_sub_one]
    push_cast
    ring
  · ring

theorem next_sub_value (b : Binary) : b.next - b.value = 2 ^ b.exponent := by
  unfold value next
  ring

theorem two_zpow_pos (e : ℤ) : (0 : ℚ) < 2 ^ e := zpow_pos (by norm_num) e

theorem low_lt_value (b : Binary) : b.low < b.value := by
  have hunit := two_zpow_pos b.exponent
  have hgap := b.value_sub_previous
  unfold low
  split_ifs at hgap <;> linarith

theorem value_lt_high (b : Binary) : b.value < b.high := by
  have hgap := b.next_sub_value
  unfold high
  linarith [two_zpow_pos b.exponent]

/-- The gap after a double is no smaller than the gap before it. -/
theorem value_sub_low_le (b : Binary) : b.value - b.low ≤ b.high - b.value := by
  have hunit := two_zpow_pos b.exponent
  have hbefore := b.value_sub_previous
  have hafter := b.next_sub_value
  unfold low high
  split_ifs at hbefore <;> linarith

/-- The gap before a double is more than what the seventeenth digit tells. -/
theorem value_lt_mul_gap (hb : b.IsPositive) : b.value < 2 * 10 ^ 16 * (b.value - b.low) := by
  have hunit := two_zpow_pos b.exponent
  have hbefore := b.value_sub_previous
  have hlow : b.value - b.low = (b.value - b.previous) / 2 := by
    unfold low
    ring
  rw [hlow, hbefore]
  unfold value
  split_ifs with hedge
  · rw [hedge.1]
    push_cast
    linarith
  · have hlt : (b.mantissa : ℚ) < 2 ^ 53 := by exact_mod_cast hb.lt
    linarith [mul_lt_mul_of_pos_right hlt hunit]

theorem low_pos (hb : b.IsPositive) : 0 < b.low := by
  have hunit := two_zpow_pos b.exponent
  have hone : (1 : ℚ) ≤ b.mantissa := by exact_mod_cast hb.pos
  have hvalue : (2 : ℚ) ^ b.exponent ≤ b.value := le_mul_of_one_le_left hunit.le hone
  have hgap := b.value_sub_previous
  unfold low
  split_ifs at hgap <;> linarith

namespace IsNearest

/-- What lies between a double and a fraction that rounds to it rounds to it, here from below. -/
theorem of_le {p q : ℚ} (h : b.IsNearest p) (hpq : p ≤ q) (hq : q ≤ b.value) : b.IsNearest q where
  low_le := h.low_le.trans hpq
  le_high := hq.trans b.value_lt_high.le
  ne_ends hodd :=
    ⟨((lt_of_le_of_ne h.low_le (h.ne_ends hodd).1).trans_le hpq).ne,
      (hq.trans_lt b.value_lt_high).ne⟩

theorem of_ge {p q : ℚ} (h : b.IsNearest p) (hq : b.value ≤ q) (hqp : q ≤ p) : b.IsNearest q where
  low_le := b.low_lt_value.le.trans hq
  le_high := hqp.trans h.le_high
  ne_ends hodd :=
    ⟨(b.low_lt_value.trans_le hq).ne,
      (hqp.trans_lt (lt_of_le_of_ne h.le_high (h.ne_ends hodd).2)).ne⟩

theorem of_abs_lt {q : ℚ} (h : |q - b.value| < b.value - b.low) : b.IsNearest q := by
  have hgap := b.value_sub_low_le
  obtain ⟨hlow, hhigh⟩ := abs_lt.mp h
  have hlow : b.low < q := by linarith
  have hhigh : q < b.high := by linarith
  exact ⟨hlow.le, hhigh.le, fun _ ↦ ⟨hlow.ne, hhigh.ne⟩⟩

end IsNearest

end Binary

/-! ### Whole steps -/

theorem roundQuotient_eq_or (num den : ℕ) :
    roundQuotient num den = num / den ∨ roundQuotient num den = num / den + 1 := by
  unfold roundQuotient
  dsimp only
  split_ifs <;> simp only [true_or, or_true]

theorem two_mul_abs_roundQuotient_sub_le (num : ℕ) {den : ℕ} (hden : 0 < den) :
    2 * |(roundQuotient num den : ℚ) * den - num| ≤ den := by
  have hsplit : ((num / den : ℕ) : ℚ) * den = num - (num % den : ℕ) := by
    rw [eq_sub_iff_add_eq]
    exact_mod_cast Nat.div_add_mod' num den
  have hrest : (0 : ℚ) ≤ (num % den : ℕ) := Nat.cast_nonneg _
  have hfloor (h : 2 * (num % den) ≤ den) : 2 * |((num / den : ℕ) : ℚ) * den - num| ≤ den := by
    have hle : 2 * ((num % den : ℕ) : ℚ) ≤ den := by exact_mod_cast h
    rw [hsplit, abs_of_nonpos (by linarith)]
    linarith
  have hceil (h : den ≤ 2 * (num % den)) (hlt : num % den ≤ den) :
      2 * |((num / den + 1 : ℕ) : ℚ) * den - num| ≤ den := by
    have hle : (den : ℚ) ≤ 2 * (num % den : ℕ) := by exact_mod_cast h
    have hlast : ((num % den : ℕ) : ℚ) ≤ den := by exact_mod_cast hlt
    push_cast
    rw [add_mul, one_mul, hsplit, abs_of_nonneg (by linarith)]
    linarith
  have hmod := (Nat.mod_lt num hden).le
  unfold roundQuotient
  dsimp only
  split_ifs
  · exact hfloor (by omega)
  · exact hceil (by omega) hmod
  · exact hfloor (by omega)
  · exact hceil (by omega) hmod

/-- Half a step settles which whole number of steps is the closest. -/
theorem abs_sub_le_of_two_mul_le {step target : ℚ} {k : ℕ} (h : 2 * |k * step - target| ≤ step)
    (other : ℕ) : |k * step - target| ≤ |other * step - target| := by
  obtain rfl | hne := eq_or_ne other k
  · exact le_rfl
  have hstep : 0 ≤ step := (by positivity : (0 : ℚ) ≤ 2 * |k * step - target|).trans h
  have hapart : (1 : ℚ) ≤ |(other : ℚ) - k| := by
    have hint : (1 : ℤ) ≤ |(other : ℤ) - k| := Int.one_le_abs (by omega)
    exact_mod_cast hint
  have hdist : step ≤ |other * step - target| + |k * step - target| := by
    calc step ≤ |(other : ℚ) - k| * step := le_mul_of_one_le_left hstep hapart
      _ = |(other * step - target) - (k * step - target)| := by
        rw [← abs_of_nonneg hstep, ← abs_mul, abs_of_nonneg hstep]
        ring_nf
      _ ≤ _ := abs_sub _ _
  linarith

/-! ### How long a number is -/

theorem lt_pow_length_toDigits (n : ℕ) : n < 10 ^ (Nat.toDigits 10 n).length :=
  (Nat.length_toDigits_le_iff (by norm_num) Nat.length_toDigits_pos).mp le_rfl

theorem pow_length_toDigits_le {n : ℕ} (hn : n ≠ 0) :
    (10 : ℚ) ^ (((Nat.toDigits 10 n).length : ℤ) - 1) ≤ n := by
  obtain ⟨rest, hrest⟩ := Nat.exists_eq_add_one.mpr
    (Nat.length_toDigits_pos : 0 < (Nat.toDigits 10 n).length)
  have hle : 10 ^ rest ≤ n := by
    obtain rfl | hmore := Nat.eq_zero_or_pos rest
    · exact Nat.one_le_iff_ne_zero.mpr hn
    · have hlong := Nat.length_toDigits_le_iff (n := n) (by norm_num : 1 < 10) hmore
      rw [hrest] at hlong
      exact not_lt.mp (hlong.not.mp (Nat.not_succ_le_self rest))
  rw [hrest, Nat.cast_add_one, add_sub_cancel_right, zpow_natCast]
  exact_mod_cast hle

namespace Binary

variable {b : Binary} {exponent : ℤ} {i : Interval} {step : ℕ} {unit : ℚ}

/-! ### The grids of powers of ten -/

/-- An interval and a step are those of a double and a grid, counted in one unit. -/
structure IsScaled (b : Binary) (exponent : ℤ) (i : Interval) (step : ℕ) (unit : ℚ) : Prop where
  pos : 0 < unit
  low : i.low * unit = b.low
  centre : i.centre * unit = b.value
  high : i.high * unit = b.high
  closed : i.closed = true ↔ b.mantissa % 2 = 0
  step : step * unit = 10 ^ exponent

theorem zpow_mul_pow_toNat (base : ℚ) (hbase : base ≠ 0) (n : ℤ) :
    base ^ n * base ^ (-n).toNat = base ^ n.toNat := by
  rw [← zpow_natCast, ← zpow_natCast, ← zpow_add₀ hbase]
  congr 1
  omega

theorem interval_low_mul (hb : b.IsPositive) :
    (b.interval.low : ℚ) * 2 ^ (b.exponent - 2) = b.low := by
  have hpos := hb.pos
  have hquarter : (2 : ℚ) ^ (b.exponent - 2) = 2 ^ b.exponent / 4 := by
    rw [zpow_sub₀ (by norm_num)]
    norm_num
  have hgap := b.value_sub_previous
  have hvalue : b.low = b.value - (b.value - b.previous) / 2 := by
    unfold low
    ring
  rw [hvalue, hgap, hquarter, value, interval]
  by_cases hedge : b.mantissa = 2 ^ 52 ∧ leastExponent < b.exponent
  · rw [if_pos hedge, if_pos (by simpa using hedge), hedge.1]
    norm_num
    ring
  · rw [if_neg hedge, if_neg (by simpa using hedge), Nat.cast_sub (by omega)]
    push_cast
    ring

theorem interval_high_mul (b : Binary) :
    (b.interval.high : ℚ) * 2 ^ (b.exponent - 2) = b.high := by
  rw [zpow_sub₀ (by norm_num), high, value, next, interval]
  push_cast
  ring

theorem interval_centre_mul (b : Binary) :
    (b.interval.centre : ℚ) * 2 ^ (b.exponent - 2) = b.value := by
  rw [zpow_sub₀ (by norm_num), value, interval]
  push_cast
  ring

theorem exists_isScaled_onGrid (hb : b.IsPositive) (exponent : ℤ) :
    ∃ unit, b.IsScaled exponent (b.onGrid exponent).1 (b.onGrid exponent).2 unit := by
  let quarter := b.exponent - 2
  let scale : ℕ := 10 ^ (-exponent).toNat * 2 ^ quarter.toNat
  have hscale : (0 : ℚ) < scale := by positivity
  have hquarter : (0 : ℚ) < 2 ^ quarter := two_zpow_pos quarter
  have hcancel (m : ℕ) : ((m * scale : ℕ) : ℚ) * (2 ^ quarter / scale) = m * 2 ^ quarter := by
    push_cast
    field_simp
  refine ⟨2 ^ quarter / scale, div_pos hquarter hscale, ?_, ?_, ?_, ?_, ?_⟩
  · exact (hcancel _).trans (interval_low_mul hb)
  · exact (hcancel _).trans b.interval_centre_mul
  · exact (hcancel _).trans b.interval_high_mul
  · exact decide_eq_true_iff
  · have hten := zpow_mul_pow_toNat 10 (by norm_num) exponent
    have htwo := zpow_mul_pow_toNat 2 (by norm_num) quarter
    change ((10 ^ exponent.toNat * 2 ^ (-quarter).toNat : ℕ) : ℚ) * _ = _
    rw [← mul_div_assoc, div_eq_iff hscale.ne']
    push_cast
    calc (10 : ℚ) ^ exponent.toNat * 2 ^ (-quarter).toNat * 2 ^ quarter
        = 10 ^ exponent.toNat * (2 ^ quarter * 2 ^ (-quarter).toNat) := by ring
      _ = 10 ^ exponent * (10 ^ (-exponent).toNat * 2 ^ quarter.toNat) := by
        rw [htwo, ← hten]
        ring
      _ = 10 ^ exponent * (scale : ℕ) := by
        push_cast [scale]
        rfl

namespace IsScaled

theorem step_pos (h : b.IsScaled exponent i step unit) : 0 < step := by
  refine Nat.pos_of_ne_zero fun hzero ↦ ?_
  have hten : (0 : ℚ) < 10 ^ exponent := zpow_pos (by norm_num) exponent
  rw [← h.step, hzero, Nat.cast_zero, zero_mul] at hten
  exact hten.false

/-- A point of the grid, counted in the unit. -/
theorem point (h : b.IsScaled exponent i step unit) (k : ℕ) :
    ((k * step : ℕ) : ℚ) * unit = k * 10 ^ exponent := by
  rw [← h.step]
  push_cast
  ring

theorem contains_iff (h : b.IsScaled exponent i step unit) {k : ℕ} :
    i.contains (k * step) = true ↔ b.IsNearest (k * 10 ^ exponent) := by
  have hle (m n : ℕ) : m ≤ n ↔ (m : ℚ) * unit ≤ n * unit := by
    rw [mul_le_mul_iff_left₀ h.pos, Nat.cast_le]
  have hlt (m n : ℕ) : m < n ↔ (m : ℚ) * unit < n * unit := by
    rw [mul_lt_mul_iff_left₀ h.pos, Nat.cast_lt]
  unfold Interval.contains
  split_ifs with hclosed
  · rw [Bool.and_eq_true, decide_eq_true_iff, decide_eq_true_iff, hle, hle, h.low, h.high, h.point]
    have heven := h.closed.mp hclosed
    exact ⟨fun hin ↦ ⟨hin.1, hin.2, by omega⟩, fun hin ↦ ⟨hin.low_le, hin.le_high⟩⟩
  · rw [Bool.and_eq_true, decide_eq_true_iff, decide_eq_true_iff, hlt, hlt, h.low, h.high, h.point]
    have hodd : b.mantissa % 2 = 1 := by
      have := h.closed.not.mp hclosed
      omega
    exact ⟨fun hin ↦ ⟨hin.1.le, hin.2.le, fun _ ↦ ⟨hin.1.ne, hin.2.ne⟩⟩, fun hin ↦
      ⟨lt_of_le_of_ne hin.low_le (hin.ne_ends hodd).1,
        lt_of_le_of_ne hin.le_high (hin.ne_ends hodd).2⟩⟩

/-- The points next to the double on both sides. -/
theorem floor_le (h : b.IsScaled exponent i step unit) :
    ((i.centre / step : ℕ) : ℚ) * 10 ^ exponent ≤ b.value := by
  rw [← h.point, ← h.centre, mul_le_mul_iff_left₀ h.pos, Nat.cast_le]
  exact Nat.div_mul_le_self _ _

theorem lt_ceil (h : b.IsScaled exponent i step unit) :
    b.value < ((i.centre / step + 1 : ℕ) : ℚ) * 10 ^ exponent := by
  rw [← h.point, ← h.centre, mul_lt_mul_iff_left₀ h.pos, Nat.cast_lt, mul_comm]
  exact Nat.lt_mul_div_succ _ h.step_pos

theorem two_mul_abs_round_sub_le (h : b.IsScaled exponent i step unit) :
    2 * |(roundQuotient i.centre step : ℚ) * 10 ^ exponent - b.value| ≤ 10 ^ exponent := by
  have hround := two_mul_abs_roundQuotient_sub_le i.centre h.step_pos
  have hscaled := mul_le_mul_of_nonneg_right hround h.pos.le
  rw [mul_assoc, ← abs_of_pos h.pos, ← abs_mul, abs_of_pos h.pos, sub_mul, h.centre, mul_assoc,
    h.step] at hscaled
  exact hscaled

end IsScaled

/-- A point of a grid that reads back as the double, the closest of them. -/
structure IsClosestPoint (b : Binary) (exponent : ℤ) (k : ℕ) : Prop where
  nearest : b.IsNearest (k * 10 ^ exponent)
  closest : ∀ other : ℕ, b.IsNearest (other * 10 ^ exponent) →
    |k * 10 ^ exponent - b.value| ≤ |other * 10 ^ exponent - b.value|

theorem point_le {k other : ℕ} (h : k ≤ other) (exponent : ℤ) :
    (k : ℚ) * 10 ^ exponent ≤ other * 10 ^ exponent :=
  mul_le_mul_of_nonneg_right (Nat.cast_le.mpr h) (zpow_nonneg (by norm_num) exponent)

namespace IsScaled

/-- If a point of the grid reads back, then so does one of the two next to the double. -/
theorem contains_floor (h : b.IsScaled exponent i step unit) {k : ℕ}
    (hk : b.IsNearest (k * 10 ^ exponent)) (hle : k ≤ i.centre / step) :
    i.contains (i.centre / step * step) = true :=
  h.contains_iff.mpr (hk.of_le (point_le hle exponent) h.floor_le)

theorem contains_ceil (h : b.IsScaled exponent i step unit) {k : ℕ}
    (hk : b.IsNearest (k * 10 ^ exponent)) (hlt : i.centre / step < k) :
    i.contains ((i.centre / step + 1) * step) = true :=
  h.contains_iff.mpr (hk.of_ge h.lt_ceil.le (point_le hlt exponent))

theorem closest_of_gridPoint? (h : b.IsScaled exponent i step unit) {k : ℕ}
    (hpoint : i.gridPoint? step = some k) : b.IsClosestPoint exponent k := by
  have hfloor := h.floor_le
  have hceil := h.lt_ceil
  unfold Interval.gridPoint? at hpoint
  dsimp only at hpoint
  split at hpoint
  next hlower hupper =>
    obtain rfl := Option.some.inj hpoint
    refine ⟨?_, fun other _ ↦ abs_sub_le_of_two_mul_le h.two_mul_abs_round_sub_le other⟩
    obtain heq | heq := roundQuotient_eq_or i.centre step
    · rw [heq]
      exact h.contains_iff.mp hlower
    · rw [heq]
      exact h.contains_iff.mp hupper
  next hlower hupper =>
    obtain rfl := Option.some.inj hpoint
    refine ⟨h.contains_iff.mp hlower, fun other hother ↦ ?_⟩
    have hle : other ≤ i.centre / step := by
      by_contra hlt
      exact absurd (h.contains_ceil hother (not_le.mp hlt)) (Bool.not_eq_true _ ▸ hupper)
    have hpoint := point_le hle exponent
    rw [abs_of_nonpos (by linarith), abs_of_nonpos (by linarith)]
    linarith
  next hlower hupper =>
    obtain rfl := Option.some.inj hpoint
    refine ⟨h.contains_iff.mp hupper, fun other hother ↦ ?_⟩
    have hlt : i.centre / step < other := by
      by_contra hle
      exact absurd (h.contains_floor hother (not_lt.mp hle)) (Bool.not_eq_true _ ▸ hlower)
    have hpoint := point_le hlt exponent
    rw [abs_of_nonneg (by linarith), abs_of_nonneg (by linarith)]
    linarith
  next => exact absurd hpoint nofun

theorem not_isNearest_of_gridPoint? (h : b.IsScaled exponent i step unit)
    (hpoint : i.gridPoint? step = none) (k : ℕ) : ¬ b.IsNearest (k * 10 ^ exponent) := by
  intro hk
  unfold Interval.gridPoint? at hpoint
  dsimp only at hpoint
  split at hpoint
  case h_4 hlower hupper =>
    obtain hle | hlt := le_or_gt k (i.centre / step)
    · exact absurd (h.contains_floor hk hle) (Bool.not_eq_true _ ▸ hlower)
    · exact absurd (h.contains_ceil hk hlt) (Bool.not_eq_true _ ▸ hupper)
  all_goals exact absurd hpoint nofun

end IsScaled

/-! ### The place of the leading digit -/

/-- The whole part of a multiple of a double. -/
def wholePart (b : Binary) (scale : ℕ) : ℕ :=
  b.mantissa * scale * 2 ^ b.exponent.toNat / 2 ^ (-b.exponent).toNat

theorem value_mul_eq (b : Binary) (scale : ℕ) :
    b.value * scale =
      ((b.mantissa * scale * 2 ^ b.exponent.toNat : ℕ) : ℚ) /
        ((2 ^ (-b.exponent).toNat : ℕ) : ℚ) := by
  have hpos : (0 : ℚ) < ((2 ^ (-b.exponent).toNat : ℕ) : ℚ) := by positivity
  rw [eq_div_iff hpos.ne', value]
  push_cast
  rw [← zpow_mul_pow_toNat 2 (by norm_num) b.exponent]
  ring

theorem wholePart_le (b : Binary) (scale : ℕ) : (b.wholePart scale : ℚ) ≤ b.value * scale := by
  rw [value_mul_eq]
  exact Nat.cast_div_le

theorem lt_wholePart_add_one (b : Binary) (scale : ℕ) :
    b.value * scale < b.wholePart scale + 1 := by
  rw [value_mul_eq, div_lt_iff₀ (by positivity)]
  exact_mod_cast Nat.lt_mul_of_div_lt (Nat.lt_succ_self _) (by positivity)

theorem wholePart_pos (hb : b.IsPositive) {shift : ℕ} (hshift : 1074 ≤ 3 * shift) :
    0 < b.wholePart (Nat.pow 10 shift) := by
  have hleast := hb.least_le
  unfold leastExponent at hleast
  refine Nat.div_pos ?_ (by positivity)
  calc 2 ^ (-b.exponent).toNat ≤ 2 ^ (3 * shift) := Nat.pow_le_pow_right (by norm_num) (by omega)
    _ = 8 ^ shift := pow_mul 2 3 shift
    _ ≤ 10 ^ shift := Nat.pow_le_pow_left (by norm_num) shift
    _ ≤ b.mantissa * 10 ^ shift := Nat.le_mul_of_pos_left _ hb.pos
    _ ≤ _ := Nat.le_mul_of_pos_right _ (by positivity)

theorem value_lt_pow_length (b : Binary) (shift : ℕ) :
    b.value <
      (10 : ℚ) ^ (((Nat.toDigits 10 (b.wholePart (Nat.pow 10 shift))).length : ℤ) - shift) := by
  have hbelow := b.lt_wholePart_add_one (Nat.pow 10 shift)
  generalize b.wholePart (Nat.pow 10 shift) = whole at hbelow ⊢
  have hlt := Nat.succ_le_of_lt (lt_pow_length_toDigits whole)
  rw [zpow_sub₀ (by norm_num), zpow_natCast, zpow_natCast, lt_div_iff₀ (by positivity),
    ← Nat.cast_ofNat, ← Nat.cast_pow]
  exact hbelow.trans_le (by exact_mod_cast hlt)

theorem pow_length_le {shift : ℕ} (hpos : 0 < b.wholePart (Nat.pow 10 shift)) :
    (10 : ℚ) ^ (((Nat.toDigits 10 (b.wholePart (Nat.pow 10 shift))).length : ℤ) - shift - 1) ≤
      b.value := by
  have habove := b.wholePart_le (Nat.pow 10 shift)
  generalize b.wholePart (Nat.pow 10 shift) = whole at habove hpos ⊢
  have hle := pow_length_toDigits_le hpos.ne'
  rw [sub_right_comm, zpow_sub₀ (by norm_num), zpow_natCast, div_le_iff₀ (by positivity)]
  exact hle.trans (habove.trans_eq (congrArg _ (Nat.cast_pow 10 shift)))

theorem magnitude_eq (b : Binary) :
    b.magnitude = ((Nat.toDigits 10 (b.wholePart (Nat.pow 10 400))).length : ℤ) - (400 : ℕ) := rfl

theorem exists_magnitude_eq (b : Binary) : ∃ shift : ℕ, 1074 ≤ 3 * shift ∧
    b.magnitude =
      ((Nat.toDigits 10 (b.wholePart (Nat.pow 10 shift))).length : ℤ) - (shift : ℤ) :=
  ⟨_, by norm_num, b.magnitude_eq⟩

theorem value_lt_pow_magnitude (b : Binary) : b.value < (10 : ℚ) ^ b.magnitude := by
  obtain ⟨shift, -, heq⟩ := b.exists_magnitude_eq
  rw [heq]
  exact b.value_lt_pow_length shift

theorem pow_magnitude_le (hb : b.IsPositive) : (10 : ℚ) ^ (b.magnitude - 1) ≤ b.value := by
  obtain ⟨shift, hshift, heq⟩ := b.exists_magnitude_eq
  rw [heq]
  exact pow_length_le (wholePart_pos hb hshift)

/-- On the grid of seventeen digits every double has a point. -/
theorem isClosestPoint_seventeen (hb : b.IsPositive)
    (h : b.IsScaled (b.magnitude - 17) i step unit) :
    b.IsClosestPoint (b.magnitude - 17) (roundQuotient i.centre step) := by
  have hround := h.two_mul_abs_round_sub_le
  refine ⟨.of_abs_lt ?_, fun other _ ↦ abs_sub_le_of_two_mul_le hround other⟩
  have hstep : (10 : ℚ) ^ (b.magnitude - 17) * 10 ^ 16 ≤ b.value := by
    refine le_trans (le_of_eq ?_) (pow_magnitude_le hb)
    rw [← zpow_natCast, ← zpow_add₀ (by norm_num)]
    congr 1
    norm_num
    ring
  linarith [value_lt_mul_gap hb]

/-- A number of so many digits is a point of the grid that has as many above its first place, or
lies below that place. -/
theorem point_or_lt_of_hasDigits {q : ℚ} {places : ℕ} (h : HasDigits q places) (magnitude : ℤ) :
    (∃ k : ℕ, q = k * 10 ^ (magnitude - places)) ∨ q < 10 ^ (magnitude - 1) := by
  obtain ⟨n, rfl, hlt⟩ := h
  obtain hle | hbelow := le_or_gt (magnitude - places) n.exponent
  · refine .inl ⟨n.digits * 10 ^ (n.exponent - (magnitude - places)).toNat, ?_⟩
    push_cast
    rw [Numeral.value, mul_assoc, ← zpow_natCast, ← zpow_add₀ (by norm_num)]
    congr 2
    omega
  · right
    have hdigits : (n.digits : ℚ) < 10 ^ (places : ℤ) := by exact_mod_cast hlt
    calc n.value < 10 ^ (places : ℤ) * 10 ^ n.exponent :=
          mul_lt_mul_of_pos_right hdigits (zpow_pos (by norm_num) _)
      _ = 10 ^ (places + n.exponent) := (zpow_add₀ (by norm_num) _ _).symm
      _ ≤ 10 ^ (magnitude - 1) := zpow_le_zpow_right₀ (by norm_num) (by omega)

/-! ### The first grid with a point -/

/-- A numeral on the grid of so many digits, next to a double, when no coarser grid has a point that
reads back. -/
structure IsFirstPoint (b : Binary) (places : ℕ) (n : Numeral) : Prop where
  exponent_eq : n.exponent = b.magnitude - places
  places_pos : 0 < places
  closest : b.IsClosestPoint n.exponent n.digits
  coarser : 1 < places → ∀ k : ℕ, ¬ b.IsNearest (k * 10 ^ (n.exponent + 1))

theorem isFirstPoint_firstPoint (hb : b.IsPositive) (more places : ℕ) (hpos : 0 < places)
    (hlast : places + more = 17)
    (hcoarser : 1 < places → ∀ k : ℕ, ¬ b.IsNearest (k * 10 ^ (b.magnitude - places + 1))) :
    ∃ last, b.IsFirstPoint last (b.firstPoint b.magnitude places more) := by
  induction more generalizing places with
  | zero =>
    obtain rfl : places = 17 := by omega
    obtain ⟨unit, hscaled⟩ := exists_isScaled_onGrid hb (b.magnitude - 17)
    exact ⟨17, rfl, hpos, isClosestPoint_seventeen hb hscaled, hcoarser⟩
  | succ more ih =>
    obtain ⟨unit, hscaled⟩ := exists_isScaled_onGrid hb (b.magnitude - places)
    rw [firstPoint]
    dsimp only
    split
    next k hpoint => exact ⟨places, rfl, hpos, hscaled.closest_of_gridPoint? hpoint, hcoarser⟩
    next hpoint =>
      refine ih (places + 1) (Nat.succ_pos places) (by omega) fun _ k ↦ ?_
      have hnone := hscaled.not_isNearest_of_gridPoint? hpoint k
      rwa [show b.magnitude - ((places + 1 : ℕ) : ℤ) + 1 = b.magnitude - places by omega]

theorem pow_mul_zpow_sub (places : ℕ) (magnitude : ℤ) :
    ((10 ^ places : ℕ) : ℚ) * 10 ^ (magnitude - places) = 10 ^ magnitude := by
  push_cast
  rw [← zpow_natCast, ← zpow_add₀ (by norm_num)]
  congr 1
  omega

theorem leading_eq {places : ℕ} (hpos : 0 < places) (magnitude : ℤ) :
    ((10 ^ (places - 1) : ℕ) : ℚ) * 10 ^ (magnitude - places) = 10 ^ (magnitude - 1) := by
  rw [← pow_mul_zpow_sub (places - 1) (magnitude - 1)]
  congr 2
  omega

/-- If a number below the leading place reads back, then so does the one at the leading place. -/
theorem IsNearest.leading (hb : b.IsPositive) {q : ℚ} (h : b.IsNearest q)
    (hlt : q < 10 ^ (b.magnitude - 1)) : b.IsNearest (10 ^ (b.magnitude - 1)) :=
  h.of_le hlt.le (pow_magnitude_le hb)

namespace IsFirstPoint

variable {places : ℕ} {n : Numeral}

/-- The digits are no more than the grid has, or a one with as many zeros. -/
theorem digits_le (h : b.IsFirstPoint places n) : n.digits ≤ 10 ^ places := by
  have hpow := pow_mul_zpow_sub places b.magnitude
  rw [← h.exponent_eq] at hpow
  have hvalue := b.value_lt_pow_magnitude
  by_contra hlt
  have hless : ((10 ^ places : ℕ) : ℚ) * 10 ^ n.exponent < n.digits * 10 ^ n.exponent :=
    mul_lt_mul_of_pos_right (Nat.cast_lt.mpr (not_le.mp hlt)) (zpow_pos (by norm_num) _)
  have hnear : b.IsNearest ((10 ^ places : ℕ) * 10 ^ n.exponent) :=
    h.closest.nearest.of_ge (hpow ▸ hvalue.le) hless.le
  have hclosest := h.closest.closest _ hnear
  rw [hpow] at hclosest hless
  rw [abs_of_nonneg (by linarith), abs_of_nonneg (by linarith)] at hclosest
  linarith

theorem hasDigits (h : b.IsFirstPoint places n) : HasDigits n.value places := by
  obtain hlt | heq := h.digits_le.lt_or_eq
  · exact ⟨n, rfl, hlt⟩
  · refine ⟨⟨1, b.magnitude⟩, ?_, Nat.one_lt_pow h.places_pos.ne' (by norm_num)⟩
    rw [Numeral.value, Numeral.value, Nat.cast_one, one_mul, heq, h.exponent_eq, pow_mul_zpow_sub]

theorem places_le (hb : b.IsPositive) (h : b.IsFirstPoint places n) {q : ℚ} (hq : b.IsNearest q)
    {other : ℕ} (hother : HasDigits q other) : places ≤ other := by
  by_contra hlt
  have hpos : 0 < other := hother.pos ((low_pos hb).trans_le hq.low_le).ne'
  have hnone := h.coarser (by omega)
  rw [h.exponent_eq, show b.magnitude - (places : ℤ) + 1 = b.magnitude - ((places - 1 : ℕ) : ℤ) by
    omega] at hnone
  have hfewer : HasDigits q (places - 1) := hother.mono (by omega)
  obtain ⟨k, rfl⟩ | hbelow := point_or_lt_of_hasDigits hfewer b.magnitude
  · exact hnone k hq
  · have hleading := hq.leading hb hbelow
    rw [← leading_eq (by omega : 0 < places - 1)] at hleading
    exact hnone _ hleading

theorem abs_sub_le (hb : b.IsPositive) (h : b.IsFirstPoint places n) {q : ℚ} (hq : b.IsNearest q)
    (hplaces : HasDigits q places) : |n.value - b.value| ≤ |q - b.value| := by
  have hclosest := h.closest.closest
  rw [Numeral.value, h.exponent_eq]
  rw [h.exponent_eq] at hclosest
  obtain ⟨k, rfl⟩ | hbelow := point_or_lt_of_hasDigits hplaces b.magnitude
  · exact hclosest k hq
  · have hleading := hq.leading hb hbelow
    rw [← leading_eq h.places_pos] at hleading
    refine (hclosest _ hleading).trans ?_
    have hle := pow_magnitude_le hb
    rw [leading_eq h.places_pos, abs_of_nonpos (by linarith), abs_of_nonpos (by linarith)]
    linarith

theorem isShortest (hb : b.IsPositive) (h : b.IsFirstPoint places n) : b.IsShortest n.value :=
  ⟨h.closest.nearest, places, h.hasDigits, fun _ hq ↦
    ⟨fun _ hother ↦ h.places_le hb hq hother, h.abs_sub_le hb hq⟩⟩

end IsFirstPoint

theorem isShortest_shortest (hb : b.IsPositive) : b.IsShortest b.shortest.value := by
  obtain ⟨places, h⟩ := isFirstPoint_firstPoint hb 16 1 one_pos rfl (absurd · (lt_irrefl 1))
  exact h.isShortest hb

end Binary

end ApiOutline.Decimal
