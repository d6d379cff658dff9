/-!
# What is wrong with a YAML text

Every reason for which a text is refused is one of these causes.
-/

set_option autoImplicit false

namespace LunConsole.Yaml

/-- Why a text is not YAML, or denotes no value. -/
inductive Fault where
  | controlCharacter
  | unexpectedCharacter
  | tabInIndentation
  | missingColon
  | misplacedSequence
  | misplacedKey
  | misplacedValue
  | unknownDirective
  | malformedDirective
  | repeatedDirective
  | unsupportedVersion
  | malformedAnchor
  | malformedTag
  | undefinedTagHandle
  | unknownEscape
  | malformedEscape
  | documentMarkInScalar
  | unclosedScalar
  | malformedBlockHeader
  | colonInPlainScalar
  | expectedDocumentStart
  | expectedNode
  | expectedSequenceEntry
  | expectedKey
  | expectedCommaOrBracket
  | expectedCommaOrBrace
  | unknownAnchor
  | severalDocuments
  | repeatedEntry
  | missingEntry
  | tooDeep
  | tooManyAliases
  | unexpectedShape
  deriving DecidableEq, Repr

/-- The fault in words. -/
def Fault.message : Fault → String
  | controlCharacter => "control characters are not allowed"
  | unexpectedCharacter => "found character that cannot start any token"
  | tabInIndentation => "found a tab character that violates indentation"
  | missingColon => "could not find expected ':'"
  | misplacedSequence => "block sequence entries are not allowed in this context"
  | misplacedKey => "mapping keys are not allowed in this context"
  | misplacedValue => "mapping values are not allowed in this context"
  | unknownDirective => "found unknown directive name"
  | malformedDirective => "found malformed directive"
  | repeatedDirective => "found duplicate directive"
  | unsupportedVersion => "found incompatible YAML document"
  | malformedAnchor => "did not find expected alphabetic or numeric character"
  | malformedTag => "did not find expected tag URI"
  | undefinedTagHandle => "found undefined tag handle"
  | unknownEscape => "found unknown escape character"
  | malformedEscape => "did not find expected hexadecimal number"
  | documentMarkInScalar => "found unexpected document indicator"
  | unclosedScalar => "found unexpected end of stream"
  | malformedBlockHeader => "did not find expected comment or line break"
  | colonInPlainScalar => "found unexpected ':'"
  | expectedDocumentStart => "did not find expected <document start>"
  | expectedNode => "did not find expected node content"
  | expectedSequenceEntry => "did not find expected '-' indicator"
  | expectedKey => "did not find expected key"
  | expectedCommaOrBracket => "did not find expected ',' or ']'"
  | expectedCommaOrBrace => "did not find expected ',' or '\x7d'"
  | unknownAnchor => "unknown anchor"
  | severalDocuments => "deserializing from YAML containing more than one document"
  | repeatedEntry => "duplicate field"
  | missingEntry => "missing field"
  | tooDeep => "recursion limit exceeded"
  | tooManyAliases => "repetition limit exceeded"
  | unexpectedShape => "invalid type"

end LunConsole.Yaml
