import ApiOutline.Yaml.Spot

/-!
YAML text as it is being written. A mark keeps a space between itself and what stands before it; a
new line is begun only where the current one already holds something that the indentation does not
allow.
-/

set_option autoImplicit false

namespace ApiOutline.Yaml

/-- The text so far, the last character first, its column, whether it ends with a blank or at a mark
that needs none after it, and whether its line holds nothing but indentation and marks of entries.
-/
structure Page where
  text : List Char
  column : Nat
  spaced : Bool
  fresh : Bool

namespace Page

def start : Page := ⟨[], 0, true, true⟩

def put (page : Page) (c : Char) : Page :=
  { page with text := c :: page.text, column := page.column + 1 }

def putAll (page : Page) (cs : List Char) : Page := cs.foldl put page

/-- Ends the line with a break. -/
def breakLine (page : Page) (c : Char) : Page := { page with text := c :: page.text, column := 0 }

/-- Puts a space, unless none is needed. -/
def space (page : Page) : Page := if page.spaced then page else page.put ' '

/-- Goes to a column, on a new line unless the current one is fresh and not beyond the column. -/
def indentTo (page : Page) (column : Nat) : Page :=
  let page :=
    if !page.fresh || page.column > column || (page.column = column && !page.spaced) then
      page.breakLine '\n'
    else page
  { page.putAll (List.replicate (column - page.column) ' ') with spaced := true, fresh := true }

/-- Writes something that the line is no longer fresh after. -/
def write (page : Page) (cs : List Char) : Page :=
  { page.putAll cs with spaced := false, fresh := false }

/-- Writes the mark of an entry, after which a collection may start on the same line. -/
def writeEntryMark (page : Page) (c : Char) : Page := { page.space.put c with spaced := false }

/-- Writes lines; each that is not empty starts at the column. `afterBreak` says that a break comes
before them. -/
def writeLines (page : Page) (column : Nat) (afterBreak : Bool) : List Char → Page × Bool
  | [] => (page, afterBreak)
  | c :: cs =>
    if isBreak c then { page.breakLine c with fresh := true }.writeLines column true cs
    else
      let page := if afterBreak then page.indentTo column else page
      { page.put c with fresh := false }.writeLines column false cs

end Page

end ApiOutline.Yaml
