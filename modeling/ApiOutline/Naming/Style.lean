import ApiOutline.Naming.Words
import ApiOutline.Text.Case

/-!
Spellings of a name made from its words: `camelCase`, which starts small, and `PascalCase`, which
starts with a capital. The interface of a tag is its name in Pascal case with `Api` at the end.
-/

set_option autoImplicit false

namespace ApiOutline.Naming

open Text

/-- A word with its first letter in capitals and the others small. -/
def capitalize : List Char → List Char
  | [] => []
  | c :: cs => uppercase c ++ cs.flatMap lowercase

def camelWords : List (List Char) → List Char
  | [] => []
  | word :: rest => lowercaseText word ++ rest.flatMap capitalize

def camelCase (name : String) : String := String.ofList (camelWords (words name.toList))

def pascalCase (name : String) : String :=
  String.ofList ((words name.toList).flatMap capitalize)

/-- The interface of operations whose first tag has no name in it, or that have no tag. -/
def defaultInterface : String := "DefaultApi"

def interfaceName (tag : Option String) : String :=
  match tag.map pascalCase with
  | none | some "" => defaultInterface
  | some name => name ++ "Api"

end ApiOutline.Naming
