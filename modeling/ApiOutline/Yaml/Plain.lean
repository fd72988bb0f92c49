import ApiOutline.Json.Basic
import ApiOutline.Text.Digit
import ApiOutline.Yaml.Fault

/-!
What the text of a plain scalar stands for: nothing, a truth value, a whole number, a double, or the
text itself. Whole numbers may be written to the bases sixteen, eight and two. A row of digits with
a needless zero in front is no number.
-/

set_option autoImplicit false

namespace ApiOutline.Yaml

def isNull (text : String) : Bool := ["null", "Null", "NULL", "~"].contains text

def bool? (text : String) : Option Bool :=
  if ["true", "True", "TRUE"].contains text then some true
  else if ["false", "False", "FALSE"].contains text then some false
  else none

/-! ### Whole numbers -/

/-- A text without its sign, and whether it has the sign of negative numbers. -/
def splitSign : List Char → Bool × List Char
  | '-' :: cs => (true, cs)
  | '+' :: cs => (false, cs)
  | cs => (false, cs)

/-- Whether a text without sign is a row of digits with a needless zero in front. -/
def isZeroPadded (cs : List Char) : Bool :=
  cs.length > 1 && cs.head? = some '0' && cs.all Char.isDigit

def magnitude? : List Char → Option Nat
  | '0' :: 'x' :: cs => Text.natural? 16 cs
  | '0' :: 'o' :: cs => Text.natural? 8 cs
  | '0' :: 'b' :: cs => Text.natural? 2 cs
  | cs => if isZeroPadded cs then none else Text.natural? 10 cs

def integer? (cs : List Char) : Option Int :=
  let (negative, rest) := splitSign cs
  (magnitude? rest).map fun n => if negative then -(n : Int) else n

/-- A whole number of 64 bits, with or without sign. Those of up to 128 bits are refused, and larger
ones are left to the doubles. -/
def wholeNumber? (cs : List Char) : Option (Except Fault Number) :=
  (integer? cs).bind fun n =>
    if -Int.pow 2 63 ≤ n && n < Int.pow 2 64 then some (.ok (.integer n))
    else if -Int.pow 2 127 ≤ n && n < Int.pow 2 128 then some (.error .integerTooLarge)
    else none

/-! ### Doubles -/

/-- The exponent of a numeral after its letter. -/
def exponent? (cs : List Char) : Option Int :=
  let (negative, rest) := splitSign cs
  (Text.natural? 10 rest).map fun n => if negative then -(n : Int) else n

/-- The double of a numeral without sign, digits with or without a point and an exponent. -/
def decimal? (negative : Bool) (cs : List Char) : Option Float :=
  let whole := cs.takeWhile Char.isDigit
  let rest := cs.drop whole.length
  let (fraction, rest) := match rest with
    | '.' :: more =>
      let fraction := more.takeWhile Char.isDigit
      (fraction, more.drop fraction.length)
    | _ => ([], rest)
  let exponent := match rest with
    | [] => some 0
    | 'e' :: more | 'E' :: more => exponent? more
    | _ => none
  match Text.natural? 10 (whole ++ fraction), exponent with
  | some digits, some exponent =>
    let value := Decimal.ofDecimal negative digits (exponent - fraction.length)
    if value.isFinite then some value else none
  | _, _ => none

/-- The double of a text. Infinity may have a sign. -/
def double? (cs : List Char) : Option Float :=
  let (negative, rest) := splitSign cs
  if [".inf", ".Inf", ".INF"].contains (String.ofList rest) then
    some (if negative then -(1.0 / 0.0) else 1.0 / 0.0)
  else if [".nan", ".NaN", ".NAN"].contains (String.ofList cs) then some (0.0 / 0.0)
  else decimal? negative rest

end ApiOutline.Yaml
