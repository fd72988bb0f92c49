import ApiOutline.Json.Basic
import ApiOutline.Json.Fault

/-!
Numbers of JSON text. A numeral without fraction and exponent is a whole number as far as 64 bits
reach. Any other is a double made from the digits that fit 64 bits and a power of ten: one rounding
to a double, then one multiplication or division, so the last bit may differ from the closest
double.
-/

set_option autoImplicit false

namespace ApiOutline.Json

def digitValue (c : Char) : Nat := c.toNat - '0'.toNat

/-- Appends digits to a number as long as it stays within 64 bits, and gives the digits left over.
-/
def appendDigits (number : Nat) : List Char → Nat × List Char
  | [] => (number, [])
  | d :: ds =>
    let longer := number * 10 + digitValue d
    if longer < Nat.pow 2 64 then appendDigits longer ds else (number, d :: ds)

/-- A power of ten up to the largest that is a double. -/
def powerOfTen (n : Nat) : Float := Decimal.ofDecimal false 1 n

/-- A double times a power of ten, none if the result is too large. Powers beyond `10 ^ -308` are
divided out in steps of that size. -/
def timesPowerOfTen (x : Float) (exponent : Int) : Option Float :=
  if exponent > 308 then
    if x == 0 then some x else none
  else if exponent ≥ 0 then
    let product := x * powerOfTen exponent.toNat
    if product.isInf then none else some product
  else if exponent ≥ -308 then some (x / powerOfTen (-exponent).toNat)
  else if x == 0 then some x
  else timesPowerOfTen (x / powerOfTen 308) (exponent + 308)
termination_by exponent.natAbs

/-- The double `± significand · 10 ^ exponent`, none if it is too large. -/
def makeFloat (negative : Bool) (significand : Nat) (exponent : Int) : Option Number :=
  (timesPowerOfTen (Float.ofNat significand) exponent).map fun x =>
    .float (if negative then -x else x)

/-- The number of a numeral of digits alone. There is no negative whole nought, and none below
`-2 ^ 63`; these are doubles. -/
def makeWhole (negative : Bool) (significand : Nat) : Number :=
  if !negative then .integer significand
  else if significand = 0 || significand > Nat.pow 2 63 then .float (-(Float.ofNat significand))
  else .integer (-(significand : Int))

/-- The value of the digits of an exponent, or the digits after the one that takes it beyond 31
bits. -/
def exponentValue (value : Nat) : List Char → Except (List Char) Nat
  | [] => .ok value
  | d :: ds =>
    let longer := value * 10 + digitValue d
    if longer < Nat.pow 2 31 then exponentValue longer ds else .error ds

/-- Reads the exponent after its letter; `exponent` is what the digits before it stand for. Gives
the number and how many characters the exponent takes. -/
def readExponent (negative : Bool) (significand : Nat) (exponent : Int) (cs : List Char) :
    Except Fault (Number × Nat) :=
  let (down, signed, cs) := match cs with
    | '+' :: rest => (false, 1, rest)
    | '-' :: rest => (true, 1, rest)
    | _ => (false, 0, cs)
  let ds := cs.takeWhile Char.isDigit
  if cs.isEmpty then .error ⟨.unclosedValue, [], 0⟩
  else if ds.isEmpty then .error ⟨.invalidNumber, cs, 1⟩
  else
    let rest := cs.drop ds.length
    match exponentValue 0 ds with
    | .error left =>
      if significand ≠ 0 && !down then
        .error ⟨.numberOutOfRange, cs.drop (ds.length - left.length), 0⟩
      else .ok (.float (if negative then -0.0 else 0.0), signed + ds.length)
    | .ok value =>
      let exponent := if down then exponent - value else exponent + value
      match makeFloat negative significand exponent with
      | none => .error ⟨.numberOutOfRange, rest, 0⟩
      | some value => .ok (value, signed + ds.length)

/-- Reads what follows the digits of a number: an exponent, if there is one. Gives the number and
how many characters the exponent takes. -/
def readPower (negative : Bool) (significand : Nat) (exponent : Int) (cs : List Char) :
    Except Fault (Number × Nat) :=
  match cs with
  | 'e' :: rest | 'E' :: rest => do
    let (value, n) ← readExponent negative significand exponent rest
    return (value, n + 1)
  | _ =>
    match makeFloat negative significand exponent with
    | some value => .ok (value, 0)
    | none => .error ⟨.numberOutOfRange, cs, 0⟩

/-- Reads what follows the digits before the point, of which `left` did not fit. Gives the number
and how many characters it takes. -/
def readFraction (negative : Bool) (significand left : Nat) (cs : List Char) :
    Except Fault (Number × Nat) :=
  match cs with
  | '.' :: rest =>
    let ds := rest.takeWhile Char.isDigit
    if rest.isEmpty then .error ⟨.unclosedValue, [], 0⟩
    else if ds.isEmpty then .error ⟨.invalidNumber, rest, 1⟩
    else do
      let (significand, unread) := appendDigits significand ds
      let exponent : Int := left - (ds.length - unread.length : Nat)
      let (value, n) ← readPower negative significand exponent (rest.drop ds.length)
      return (value, n + ds.length + 1)
  | 'e' :: _ | 'E' :: _ => readPower negative significand left cs
  | _ =>
    if left = 0 then .ok (makeWhole negative significand, 0)
    else readPower negative significand left cs

/-- Reads a numeral after its sign, and gives the number and how many characters it takes. -/
def readUnsigned (negative : Bool) (cs : List Char) : Except Fault (Number × Nat) :=
  let ds := cs.takeWhile Char.isDigit
  match cs with
  | [] => .error ⟨.unclosedValue, [], 0⟩
  | '0' :: rest =>
    if ds.length > 1 then .error ⟨.invalidNumber, rest, 1⟩
    else do
      let (value, n) ← readFraction negative 0 0 rest
      return (value, n + 1)
  | _ =>
    if ds.isEmpty then .error ⟨.invalidNumber, cs, 1⟩
    else do
      let (significand, unread) := appendDigits 0 ds
      let (value, n) ← readFraction negative significand unread.length (cs.drop ds.length)
      return (value, n + ds.length)

end ApiOutline.Json
