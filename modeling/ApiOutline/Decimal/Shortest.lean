import ApiOutline.Decimal.Binary

/-!
The fewest decimal digits that read back as the same double. A digit string belongs to a double when
it lies in the interval of the fractions that round to it; of the grids with one, two, and more
digits the first with a point in the interval gives the digits, of two points the one nearer to the
number.
-/

set_option autoImplicit false

namespace ApiOutline.Decimal

/-- The number `digits · 10 ^ exponent`. -/
structure Numeral where
  digits : Nat
  exponent : Int
deriving DecidableEq

/-- The fractions that round to a double, in a common unit: the double is `centre`, and `closed`
says whether the two ends belong to it, as they do when its mantissa is even. -/
structure Interval where
  low : Nat
  centre : Nat
  high : Nat
  closed : Bool

def Interval.contains (i : Interval) (x : Nat) : Bool :=
  if i.closed then i.low ≤ x && x ≤ i.high else i.low < x && x < i.high

/-- The interval of a double in quarters of its unit `2 ^ exponent`. Below a power of two the
doubles lie twice as close, so the lower half of the interval is shorter there. -/
def Binary.interval (b : Binary) : Interval :=
  let below := if b.mantissa = Nat.pow 2 52 && b.exponent > leastExponent then 1 else 2
  ⟨4 * b.mantissa - below, 4 * b.mantissa, 4 * b.mantissa + 2, b.mantissa % 2 = 0⟩

def Interval.times (i : Interval) (k : Nat) : Interval :=
  ⟨i.low * k, i.centre * k, i.high * k, i.closed⟩

/-- The interval of `b`, and the step of the grid of multiples of `10 ^ exponent`, in one unit. -/
def Binary.onGrid (b : Binary) (exponent : Int) : Interval × Nat :=
  let quarter := b.exponent - 2
  let scale := Nat.pow 10 (-exponent).toNat * Nat.pow 2 quarter.toNat
  (b.interval.times scale, Nat.pow 10 exponent.toNat * Nat.pow 2 (-quarter).toNat)

/-- The multiple of the step that lies in the interval, the nearer one if two neighbours of the
centre do, and the even one of two equally near. -/
def Interval.gridPoint? (i : Interval) (step : Nat) : Option Nat :=
  let floor := i.centre / step
  match i.contains (floor * step), i.contains ((floor + 1) * step) with
  | true, true => some (roundQuotient i.centre step)
  | true, false => some floor
  | false, true => some (floor + 1)
  | false, false => none

/-- The place of the leading digit: the number lies below `10 ^ magnitude` and not below a tenth of
that. Four hundred places after the point show the leading digit of every double. -/
def Binary.magnitude (b : Binary) : Int :=
  let shifted :=
    b.mantissa * Nat.pow 10 400 * Nat.pow 2 b.exponent.toNat / Nat.pow 2 (-b.exponent).toNat
  ((Nat.toDigits 10 shifted).length : Int) - 400

/-- The first grid point among the grids with `digits`, `digits + 1`, and so on up to `digits +
more` digits; the double's own value on the last of them if there is none. -/
def Binary.firstPoint (b : Binary) (magnitude : Int) (digits : Nat) : (more : Nat) → Numeral
  | 0 =>
    let exponent := magnitude - digits
    let (interval, step) := b.onGrid exponent
    ⟨roundQuotient interval.centre step, exponent⟩
  | more + 1 =>
    let exponent := magnitude - digits
    let (interval, step) := b.onGrid exponent
    match interval.gridPoint? step with
    | some point => ⟨point, exponent⟩
    | none => b.firstPoint magnitude (digits + 1) more

/-- The shortest numeral of a number other than zero; seventeen digits always suffice. -/
def Binary.shortest (b : Binary) : Numeral := b.firstPoint b.magnitude 1 16

end ApiOutline.Decimal
