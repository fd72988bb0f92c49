/-!
Why a text is not YAML that can be read.
-/

set_option autoImplicit false

namespace ApiOutline.Yaml

inductive Fault where
  | controlCharacter
  | noToken
  | missingColon
  | misplacedEntry
  | misplacedKey
  | misplacedValue
  | badDirective
  | badVersion
  | unsupportedVersion
  | repeatedDirective
  | badTag
  | unknownTagHandle
  | badAnchor
  | badBlockHeader
  | tabInIndentation
  | unclosedQuote
  | documentMarkInQuotes
  | badEscape
  | ambiguousColon
  | expectedDocumentStart
  | expectedNode
  | expectedEntry
  | expectedKey
  | expectedFlowSeparator
  | severalDocuments
  | unknownAnchor
  | tooManyAliases
  | tooDeep
  | badScalar
  | integerTooLarge
  | repeatedKey
deriving DecidableEq

def Fault.message : Fault → String
  | .controlCharacter => "control characters are not allowed"
  | .noToken => "found character that cannot start any token"
  | .missingColon => "could not find expected ':'"
  | .misplacedEntry => "block sequence entries are not allowed in this context"
  | .misplacedKey => "mapping keys are not allowed in this context"
  | .misplacedValue => "mapping values are not allowed in this context"
  | .badDirective => "found a malformed directive"
  | .badVersion => "found a malformed version number"
  | .unsupportedVersion => "found incompatible YAML document"
  | .repeatedDirective => "found duplicate directive"
  | .badTag => "found a malformed tag"
  | .unknownTagHandle => "found undefined tag handle"
  | .badAnchor => "did not find expected alphabetic or numeric character"
  | .badBlockHeader => "found a malformed block scalar header"
  | .tabInIndentation => "found a tab character where an indentation space is expected"
  | .unclosedQuote => "found unexpected end of stream"
  | .documentMarkInQuotes => "found unexpected document indicator"
  | .badEscape => "found unknown escape character"
  | .ambiguousColon => "found unexpected ':'"
  | .expectedDocumentStart => "did not find expected <document start>"
  | .expectedNode => "did not find expected node content"
  | .expectedEntry => "did not find expected '-' indicator"
  | .expectedKey => "did not find expected key"
  | .expectedFlowSeparator => "did not find expected ',' or the end of the collection"
  | .severalDocuments => "more than one document"
  | .unknownAnchor => "unknown anchor"
  | .tooManyAliases => "repetition limit exceeded"
  | .tooDeep => "recursion limit exceeded"
  | .badScalar => "the scalar does not have the form of its tag"
  | .integerTooLarge => "an integer does not fit 64 bits"
  | .repeatedKey => "duplicate entry"

end ApiOutline.Yaml
