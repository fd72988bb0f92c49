import ApiOutline.OpenApi.Load
import ApiOutline.Outline.Encoding
import ApiOutline.Extraction.Document

/-!
The extraction of an outline from a text. A text either is a document, and then has an outline, or
it is none for reasons of which all that were found are given.
-/

set_option autoImplicit false

namespace ApiOutline

inductive Extraction where
  | success (outline : Outline)
  | failure (faults : List OpenApi.DocumentFault)

def extract (text : String) : Extraction :=
  match OpenApi.Document.load text with
  | .ok document => .success (Outline.ofDocument document)
  | .error faults => .failure faults

namespace Extraction

def isSuccess : Extraction → Bool
  | .success _ => true
  | .failure _ => false

/-- The reasons of a failure as texts. -/
def errors : Extraction → List String
  | .success _ => []
  | .failure faults => faults.map (·.message)

def outline? : Extraction → Option Outline
  | .success outline => some outline
  | .failure _ => none

def toExcept : Extraction → Except (List String) Outline
  | .success outline => .ok outline
  | .failure faults => .error (faults.map (·.message))

end Extraction

end ApiOutline
