import ApiOutline.Json.Reader
import ApiOutline.OpenApi.Extension
import ApiOutline.OpenApi.Reader
import ApiOutline.Yaml.Conversion

/-!
From a text to a document. A text that starts with a brace is JSON, and if it is not, YAML all the
same; any other text is YAML. The fields that every document has are checked before the rest is
read.
-/

set_option autoImplicit false

namespace ApiOutline.OpenApi

def looksLikeJson (text : String) : Bool := Text.startsWith ['\x7b'] (Text.trimStart text.toList)

/-- Reads a text as one value. What looks like JSON is explained as JSON if it is neither. -/
def readTree (text : String) : Except SyntaxFault Json :=
  if looksLikeJson text then
    match Json.read text with
    | .ok json => .ok json
    | .error fault => (Yaml.readJson text).mapError fun _ => .json fault text
  else (Yaml.readJson text).mapError .yaml

/-- Reads the value of a whole document. -/
def Document.ofTree (tree : Json) : Except (List DocumentFault) Document := do
  let tree ← checkStructure tree
  (Document.read (dropExtensions tree)).mapError fun mismatch => [.badForm (.mismatch mismatch)]

def Document.load (text : String) : Except (List DocumentFault) Document := do
  if (Text.trim text.toList).isEmpty then .error [.empty]
  let tree ← (readTree text).mapError fun fault => [.badSyntax fault]
  Document.ofTree tree

end ApiOutline.OpenApi
