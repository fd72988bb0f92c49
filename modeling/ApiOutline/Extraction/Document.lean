import ApiOutline.Extraction.Interface
import ApiOutline.Extraction.Model

/-!
The outline of a document that could be read. There always is one: what cannot be made out of a part
leaves that part empty.
-/

set_option autoImplicit false

namespace ApiOutline

def Outline.ofDocument (document : OpenApi.Document) : Outline :=
  { title := document.info.title
    version := document.info.version
    interfaces := Interface.ofDocument document
    models := Model.ofSchemas document.sharedParts.schemas }

end ApiOutline
