/-!
# What can be wrong with a YAML text

Every refusal names its cause, where it was noticed, and what was being read at the time. Positions
are counted from zero; messages count from one and leave the very first position out.
-/

namespace Workflow.Yaml

/-- A position in a text: characters before it, line and column. -/
structure Mark where
  index : Nat
  line : Nat
  column : Nat
  deriving DecidableEq, Inhabited, Repr

def Mark.isOrigin (mark : Mark) : Bool := mark.line = 0 && mark.column = 0

def Mark.text (mark : Mark) : String := s!"line {mark.line + 1} column {mark.column + 1}"

inductive Activity where
  | nextToken
  | simpleKey
  | directive
  | versionDirective
  | tagDirective
  | tagDirectiveHandle
  | tagDirectiveStart
  | tagDirectivePrefix
  | anchor
  | alias
  | tag
  | tagSuffix
  | blockScalar
  | quotedScalar
  | quotedEscape
  | plainScalar
  | node
  | blockNode
  | flowNode
  | blockCollection
  | blockMapping
  | flowSequence
  | flowMapping
  deriving DecidableEq, Repr

def Activity.text : Activity → String
  | nextToken => "while scanning for the next token"
  | simpleKey => "while scanning a simple key"
  | directive => "while scanning a directive"
  | versionDirective => "while scanning a %YAML directive"
  | tagDirective => "while scanning a %TAG directive"
  | tagDirectiveHandle => "while parsing a tag directive"
  | tagDirectiveStart => "while scanning a tag directive"
  | tagDirectivePrefix => "while parsing a %TAG directive"
  | anchor => "while scanning an anchor"
  | .alias => "while scanning an alias"
  | tag => "while scanning a tag"
  | tagSuffix => "while parsing a tag"
  | blockScalar => "while scanning a block scalar"
  | quotedScalar => "while scanning a quoted scalar"
  | quotedEscape => "while parsing a quoted scalar"
  | plainScalar => "while scanning a plain scalar"
  | node => "while parsing a node"
  | blockNode => "while parsing a block node"
  | flowNode => "while parsing a flow node"
  | blockCollection => "while parsing a block collection"
  | blockMapping => "while parsing a block mapping"
  | flowSequence => "while parsing a flow sequence"
  | flowMapping => "while parsing a flow mapping"

inductive Fault where
  | noTokenStart
  | missingColon
  | unknownDirective
  | missingDirectiveName
  | badDirectiveName
  | longVersion
  | missingVersion
  | missingVersionPoint
  | missingCommentOrBreak
  | missingBlank
  | missingBlankOrBreak
  | badAnchor
  | missingTagMark
  | missingTagEnd
  | missingTagText
  | missingUriOctet
  | badLeadingOctet
  | badTrailingOctet
  | zeroIndent
  | tabIndent
  | tabInIndent
  | documentMarker
  | endOfText
  | unknownEscape
  | missingHexDigit
  | badEscapeCode
  | unexpectedColon
  | blockEntryNotAllowed
  | keyNotAllowed
  | valueNotAllowed
  | missingDocumentStart
  | duplicateVersion
  | unsupportedVersion
  | duplicateTag
  | unknownTagHandle
  | missingNode
  | missingDash
  | missingKey
  | missingSequenceEnd
  | missingMappingEnd
  deriving DecidableEq, Repr

def Fault.text : Fault → String
  | noTokenStart => "found character that cannot start any token"
  | missingColon => "could not find expected ':'"
  | unknownDirective => "found unknown directive name"
  | missingDirectiveName => "could not find expected directive name"
  | badDirectiveName => "found unexpected non-alphabetical character"
  | longVersion => "found extremely long version number"
  | missingVersion => "did not find expected version number"
  | missingVersionPoint => "did not find expected digit or '.' character"
  | missingCommentOrBreak => "did not find expected comment or line break"
  | missingBlank => "did not find expected whitespace"
  | missingBlankOrBreak => "did not find expected whitespace or line break"
  | badAnchor => "did not find expected alphabetic or numeric character"
  | missingTagMark => "did not find expected '!'"
  | missingTagEnd => "did not find the expected '>'"
  | missingTagText => "did not find expected tag URI"
  | missingUriOctet => "did not find URI escaped octet"
  | badLeadingOctet => "found an incorrect leading UTF-8 octet"
  | badTrailingOctet => "found an incorrect trailing UTF-8 octet"
  | zeroIndent => "found an indentation indicator equal to 0"
  | tabIndent => "found a tab character where an indentation space is expected"
  | tabInIndent => "found a tab character that violates indentation"
  | documentMarker => "found unexpected document indicator"
  | endOfText => "found unexpected end of stream"
  | unknownEscape => "found unknown escape character"
  | missingHexDigit => "did not find expected hexdecimal number"
  | badEscapeCode => "found invalid Unicode character escape code"
  | unexpectedColon => "found unexpected ':'"
  | blockEntryNotAllowed => "block sequence entries are not allowed in this context"
  | keyNotAllowed => "mapping keys are not allowed in this context"
  | valueNotAllowed => "mapping values are not allowed in this context"
  | missingDocumentStart => "did not find expected <document start>"
  | duplicateVersion => "found duplicate %YAML directive"
  | unsupportedVersion => "found incompatible YAML document"
  | duplicateTag => "found duplicate %TAG directive"
  | unknownTagHandle => "found undefined tag handle"
  | missingNode => "did not find expected node content"
  | missingDash => "did not find expected '-' indicator"
  | missingKey => "did not find expected key"
  | missingSequenceEnd => "did not find expected ',' or ']'"
  | missingMappingEnd => "did not find expected ',' or '\x7d'"

/-- Why a text could not be read as a document. -/
inductive Problem where
  /-- The text is not well-formed: a fault, where it is, and what was being read since when. -/
  | malformed (fault : Fault) (place : Mark) (context : Option (Activity × Mark))
  /-- A character that no text may hold, after so many bytes. -/
  | controlCharacter (offset : Nat)
  /-- An alias whose anchor is not known. -/
  | unknownAnchor (place : Mark)
  /-- A value that has no place in a document: the reason, where it is, and the way to it. -/
  | value (reason : String) (place : Mark) (path : String)
  /-- Collections nested too deeply. -/
  | tooDeep (place : Mark)
  /-- Aliases followed too often. -/
  | tooManyAliases
  /-- The text goes on after its first document. -/
  | moreThanOneDocument
  deriving Repr

namespace Problem

/-- The position a problem is reported at, if it has one. -/
def mark? : Problem → Option Mark
  | malformed _ mark _ => some mark
  | controlCharacter _ => some ⟨0, 0, 0⟩
  | unknownAnchor mark => some mark
  | value _ mark _ => some mark
  | tooDeep mark => some mark
  | tooManyAliases => none
  | moreThanOneDocument => none

/-- A position at the end of a message; the origin is left out. -/
def suffix (mark : Mark) : String := if mark.isOrigin then "" else s!" at {mark.text}"

/-- What was being read, with its start where that tells something new. -/
def contextText (place : Mark) : Option (Activity × Mark) → String
  | none => ""
  | some (activity, start) =>
    if start.line = place.line && start.column = place.column then s!", {activity.text}"
    else s!", {activity.text}{suffix start}"

def message : Problem → String
  | malformed fault mark context => s!"{fault.text}{suffix mark}{contextText mark context}"
  | controlCharacter offset =>
    if offset = 0 then "control characters are not allowed"
    else s!"control characters are not allowed at position {offset}"
  | unknownAnchor mark => s!"unknown anchor{suffix mark}"
  | value reason mark path =>
    if path = "." then s!"{reason}{suffix mark}" else s!"{path}: {reason}{suffix mark}"
  | tooDeep mark => s!"recursion limit exceeded{suffix mark}"
  | tooManyAliases => "repetition limit exceeded"
  | moreThanOneDocument =>
    "deserializing from YAML containing more than one document is not supported"

end Problem

end Workflow.Yaml
