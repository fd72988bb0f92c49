/-!
Sets and maps of code points, written as the spans that properties of characters come in. A span is
an arithmetic progression, so that the alternating letters of the cased alphabets take one entry.
-/

set_option autoImplicit false

namespace ApiOutline.Text

/-- The code points `first`, `first + step`, and so on, up to `last`. -/
structure Span where
  first : Nat
  last : Nat
  step : Nat

def Span.contains (span : Span) (code : Nat) : Bool :=
  span.first ≤ code && code ≤ span.last && (code - span.first) % span.step == 0

/-- Whether one of the spans holds the code point. The spans are in ascending order, so the search
stops at the first one that starts beyond it. -/
def Span.containedIn : List Span → Nat → Bool
  | [], _ => false
  | span :: rest, code => code ≥ span.first && (span.contains code || containedIn rest code)

/-- The code points of a span, each moved by the same distance. -/
structure Shift where
  span : Span
  distance : Int

/-- The image of a code point under the first shift that moves it. -/
def Shift.moved? : List Shift → Nat → Option Nat
  | [], _ => none
  | shift :: rest, code =>
    if code < shift.span.first then none
    else if shift.span.contains code then some (code + shift.distance).toNat
    else moved? rest code

end ApiOutline.Text
