import TenantAuth.Yaml.Source

/-!
# YAML tokens

The lexical units of a stream. Indentation shows up as tokens of its own: the start and the end of
each block collection.
-/
namespace TenantAuth.Yaml

/-- How a scalar is written. -/
inductive ScalarStyle where
  | plain
  | singleQuoted
  | doubleQuoted
  | literal
  | folded
  deriving DecidableEq

/-- A lexical unit. -/
inductive Token where
  | versionDirective (major minor : Nat)
  | tagDirective (handle leader : String)
  | documentStart
  | documentEnd
  | blockSequenceStart
  | blockMappingStart
  | blockEnd
  | flowSequenceStart
  | flowSequenceEnd
  | flowMappingStart
  | flowMappingEnd
  | blockEntry
  | flowEntry
  | key
  | value
  | alias (name : String)
  | anchor (name : String)
  | tag (handle suffix : String)
  | scalar (style : ScalarStyle) (text : String)
  deriving DecidableEq

/-- Why a stream is refused. -/
inductive Fault where
  | controlCharacter
  | missingColon
  | unknownDirective
  | malformedDirective
  | malformedAnchor
  | malformedTag
  | malformedBlockHeader
  | tabInIndentation
  | unexpectedDocumentMark
  | unexpectedEnd
  | unknownEscape
  | malformedEscape
  | unexpectedColon
  | entryNotAllowed
  | keyNotAllowed
  | valueNotAllowed
  | foreignCharacter
  | duplicateDirective
  | incompatibleVersion
  | missingDocumentStart
  | undefinedTagHandle
  | undefinedAlias
  | missingNode
  | missingEntry
  | missingKey
  | moreThanOneDocument
  deriving DecidableEq

end TenantAuth.Yaml
