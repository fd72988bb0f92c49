import ApiOutline.Decimal.Shortest

/-!
How a double is written: its shortest digits, in positional notation for magnitudes from `1e-5` up
to below `1e16`, always with a point, and otherwise with an exponent. The sign of a positive
exponent is the one thing the formats that use this notation disagree on.
-/

set_option autoImplicit false

namespace ApiOutline.Decimal

/-- The choices of a format that writes doubles. -/
structure Layout where
  /-- Whether `1e16` is written with a sign, as `1e+16`. -/
  signedExponent : Bool
  infinity : String
  negativeInfinity : String
  notANumber : String

/-- Digits without the zeros at their end. -/
def trimZeros (digits : List Char) : List Char :=
  (digits.reverse.dropWhile (· = '0')).reverse

/-- The digits `ds`, the first at the place of `10 ^ (point - 1)`. -/
def Layout.positional (ds : List Char) (point : Int) : List Char :=
  if point ≥ ds.length then ds ++ List.replicate (point - ds.length).toNat '0' ++ ['.', '0']
  else if point > 0 then ds.take point.toNat ++ ['.'] ++ ds.drop point.toNat
  else ['0', '.'] ++ List.replicate (-point).toNat '0' ++ ds

def Layout.scientific (layout : Layout) (ds : List Char) (point : Int) : List Char :=
  let fraction := if ds.length > 1 then '.' :: ds.drop 1 else []
  let sign := if point - 1 < 0 then ['-'] else if layout.signedExponent then ['+'] else []
  ds.take 1 ++ fraction ++ ['e'] ++ sign ++ Nat.toDigits 10 (point - 1).natAbs

def Layout.magnitude (layout : Layout) (d : Numeral) : List Char :=
  let all := Nat.toDigits 10 d.digits
  let ds := trimZeros all
  let point : Int := all.length + d.exponent
  if -5 < point ∧ point ≤ 16 then positional ds point else layout.scientific ds point

/-- The text of a double in a format. -/
def Layout.text (layout : Layout) (x : Float) : String :=
  match decode? x with
  | none => if x.isNaN then layout.notANumber
      else if x < 0 then layout.negativeInfinity else layout.infinity
  | some b =>
    let magnitude := if b.mantissa = 0 then ['0', '.', '0'] else layout.magnitude b.shortest
    String.ofList (if b.negative then '-' :: magnitude else magnitude)

end ApiOutline.Decimal
