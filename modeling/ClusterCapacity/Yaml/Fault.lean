/-!
# Broken YAML

The ways in which a text breaks the rules of YAML.
-/

namespace ClusterCapacity.Yaml

/-- The first rule of YAML that a text breaks. -/
inductive Fault where
  | forbiddenCharacter
  | forbiddenStart
  | misplacedEntry
  | misplacedKey
  | misplacedValue
  | missingColon
  | badAnchor
  | badTag
  | badDirective
  | badBlockHeader
  | tabInIndentation
  | unclosedQuote
  | markInQuotes
  | badEscape
  | unexpectedColon
  | unexpectedToken
  | incompatibleVersion
  | repeatedDirective
  | unknownHandle
  | unknownAnchor
  | severalDocuments
  | tooManyAliases
deriving DecidableEq, Repr

/-- What the user is told. -/
def Fault.message : Fault → String
  | forbiddenCharacter => "control characters are not allowed"
  | forbiddenStart => "found character that cannot start any token"
  | misplacedEntry => "block sequence entries are not allowed in this context"
  | misplacedKey => "mapping keys are not allowed in this context"
  | misplacedValue => "mapping values are not allowed in this context"
  | missingColon => "could not find expected ':'"
  | badAnchor => "did not find expected alphabetic or numeric character"
  | badTag => "did not find expected tag"
  | badDirective => "found a malformed directive"
  | badBlockHeader => "did not find expected comment or line break"
  | tabInIndentation => "found a tab character that violates indentation"
  | unclosedQuote => "found unexpected end of stream"
  | markInQuotes => "found unexpected document indicator"
  | badEscape => "found a malformed escape sequence"
  | unexpectedColon => "found unexpected ':'"
  | unexpectedToken => "did not find expected node content"
  | incompatibleVersion => "found incompatible YAML document"
  | repeatedDirective => "found duplicate directive"
  | unknownHandle => "found undefined tag handle"
  | unknownAnchor => "unknown anchor"
  | severalDocuments => "deserializing from YAML containing more than one document is not supported"
  | tooManyAliases => "repetition limit exceeded"

end ClusterCapacity.Yaml
