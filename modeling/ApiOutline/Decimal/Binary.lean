/-!
Double-precision numbers as exact fractions. A finite number is `± mantissa · 2 ^ exponent`, which
`decode` reads off its bits; `nearest` goes back from any fraction to the closest double, a fraction
halfway between two of them to the one with the even mantissa.
-/

set_option autoImplicit false

namespace ApiOutline.Decimal

/-- The number `mantissa · 2 ^ exponent`, negated when `negative`. -/
structure Binary where
  negative : Bool
  mantissa : Nat
  exponent : Int
deriving DecidableEq

/-- The exponent of the subnormal numbers, the least there is. -/
def leastExponent : Int := -1074

/-- The exact value of a double, none for infinities and for what is not a number. -/
def decode? (x : Float) : Option Binary :=
  let bits := x.toBits.toNat
  let negative := bits / Nat.pow 2 63 == 1
  let biased : Nat := bits / Nat.pow 2 52 % Nat.pow 2 11
  let fraction : Nat := bits % Nat.pow 2 52
  if biased = 2047 then none
  else if biased = 0 then some ⟨negative, fraction, leastExponent⟩
  else some ⟨negative, fraction + Nat.pow 2 52, leastExponent + (biased - 1 : Nat)⟩

/-- `num / den` rounded to a whole number, halves to the even one. -/
def roundQuotient (num den : Nat) : Nat :=
  let floor := num / den
  let twice := 2 * (num % den)
  if twice < den then floor
  else if twice > den then floor + 1
  else if floor % 2 = 0 then floor else floor + 1

/-- `num / den` times two to the power of minus `exponent`, as a fraction. -/
def scaled (num den : Nat) (exponent : Int) : Nat × Nat :=
  if exponent ≥ 0 then (num, den * Nat.pow 2 exponent.toNat)
  else (num * Nat.pow 2 (-exponent).toNat, den)

/-- The least exponent from `leastExponent` on that leaves a mantissa of at most 53 bits. -/
def fittingExponent (num den : Nat) : Int :=
  let guess : Int := (num.log2 : Int) - den.log2 - 53
  let (n, d) := scaled num den guess
  max leastExponent (if n / d < Nat.pow 2 53 then guess else guess + 1)

/-- The double of a mantissa below `2 ^ 53`, with an exponent from `leastExponent` on. -/
def encode (negative : Bool) (mantissa : Nat) (exponent : Int) : Float :=
  let magnitude :=
    if mantissa < Nat.pow 2 52 then mantissa
    else (exponent - leastExponent + 1).toNat * Nat.pow 2 52 + (mantissa - Nat.pow 2 52)
  let sign := if negative then Nat.pow 2 63 else 0
  Float.ofBits (UInt64.ofNat (sign + min magnitude (2047 * Nat.pow 2 52)))

/-- The double closest to `num / den`, infinite when the fraction rounds to more than the largest.
-/
def nearest (negative : Bool) (num den : Nat) : Float :=
  if num = 0 then encode negative 0 leastExponent
  else
    let exponent := fittingExponent num den
    let (n, d) := scaled num den exponent
    let mantissa := roundQuotient n d
    if mantissa < Nat.pow 2 53 then encode negative mantissa exponent
    else encode negative (Nat.pow 2 52) (exponent + 1)

/-- The double closest to `digits · 10 ^ exponent`. Beyond four hundred places on either side the
result is infinite or zero whatever the digits, which spares the powers of ten. -/
def ofDecimal (negative : Bool) (digits : Nat) (exponent : Int) : Float :=
  let places := (Nat.toDigits 10 digits).length
  if digits = 0 || (places : Int) + exponent < -400 then nearest negative 0 1
  else if (places : Int) + exponent > 400 then encode negative (Nat.pow 2 52) 972
  else if exponent ≥ 0 then nearest negative (digits * Nat.pow 10 exponent.toNat) 1
  else nearest negative digits (Nat.pow 10 (-exponent).toNat)

end ApiOutline.Decimal
