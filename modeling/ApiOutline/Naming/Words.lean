import ApiOutline.Text.Letter

/-!
The words of a name. Characters that are neither letters nor numbers separate words. A capital also
starts a word after a small letter or a number, and after another capital when a small letter
follows it, so that `HTTPServer` is `HTTP` and `Server`.
-/

set_option autoImplicit false

namespace ApiOutline.Naming

open Text

/-- Whether `c` starts a word right after `last`; `next` is the character after it in the text. -/
def startsWord (last c : Char) (next : Option Char) : Bool :=
  isUppercase c &&
    (isLowercase last || isNumeric last || (isUppercase last && next.any isLowercase))

/-- The word in progress, the last letter first, as a list of words. -/
def finishWord : List Char → List (List Char)
  | [] => []
  | last :: before => [(last :: before).reverse]

/-- The words of a text after a word in progress, the last letter first. -/
def wordsAfter (word : List Char) : List Char → List (List Char)
  | [] => finishWord word
  | c :: cs =>
    if !isAlphanumeric c then finishWord word ++ wordsAfter [] cs
    else
      match word with
      | [] => wordsAfter [c] cs
      | last :: before =>
        if startsWord last c cs.head? then (last :: before).reverse :: wordsAfter [c] cs
        else wordsAfter (c :: last :: before) cs

def words (cs : List Char) : List (List Char) := wordsAfter [] cs

end ApiOutline.Naming
