import ApiOutline.Main
import ApiOutline.Extraction
import ApiOutline.Proofs.Flattening.Coverage
import ApiOutline.Proofs.Flattening.Locality
import ApiOutline.Proofs.Addressing
import ApiOutline.Proofs.CommandLine.Outcome
import ApiOutline.Proofs.Interfaces.Appending
import ApiOutline.Proofs.Loading.Extensions
import ApiOutline.Proofs.Outline.Lossless
import ApiOutline.Proofs.Parameters.Repetition
import ApiOutline.Proofs.References.Siblings
import ApiOutline.Proofs.Schemas.Independence
import ApiOutline.Proofs.Flattening.Gathering
import ApiOutline.Proofs.Flattening.Conflicts
import ApiOutline.Proofs.Parameters.Merging
import ApiOutline.Proofs.Flattening.Repeats
import ApiOutline.Proofs.Outline.Types
import ApiOutline.Proofs.References.Chain
import ApiOutline.Proofs.Responses.Success
import ApiOutline.Proofs.Schemas.Typing
import ApiOutline.Proofs.Loading.Reports
import ApiOutline.Proofs.Decimal.Notation
import ApiOutline.Proofs.Naming.Derivation
import ApiOutline.Proofs.Naming.Spellings
import ApiOutline.Proofs.Naming.Boundaries
import ApiOutline.Proofs.Yaml.Conversion
import ApiOutline.Proofs.Flattening.Termination
import ApiOutline.Proofs.Flattening.Kept
