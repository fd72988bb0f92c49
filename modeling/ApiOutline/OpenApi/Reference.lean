import ApiOutline.Table

/-!
References to the shared parts of a document. A reference is a path of which only the last segment
counts; it is looked up in the table of its kind, where it may meet another reference.
-/

set_option autoImplicit false

namespace ApiOutline.OpenApi

variable {α : Type}

/-- The last segment of a path, all of it if it has no slash. -/
def refName (path : String) : String :=
  String.ofList (path.toList.reverse.takeWhile (· ≠ '/')).reverse

/-- A reference to a shared part, or the part itself. -/
inductive RefOr (α : Type) where
  | ref (path : String)
  | item (value : α)

namespace RefOr

/-- How many nodes of a chain of references are looked at before it is given up. -/
def maxNodes : Nat := 16

/-- Follows references through a table, looking at no more than the given number of nodes. -/
def follow (table : Table (RefOr α)) : (nodes : Nat) → RefOr α → Option α
  | 0, _ => none
  | _ + 1, .item value => some value
  | nodes + 1, .ref path =>
    match table.get? (refName path) with
    | none => none
    | some next => follow table nodes next

/-- The part that a reference stands for, none if the chain dangles, is circular or is too long. -/
def resolve (table : Table (RefOr α)) (node : RefOr α) : Option α := node.follow table maxNodes

def refPath? : RefOr α → Option String
  | .ref path => some path
  | .item _ => none

end RefOr

end ApiOutline.OpenApi
