import Workflow.Pattern.Class

/-!
# The written form of patterns

The parts of a pattern with the places where they stand, and what can be wrong with a pattern. A
message repeats the pattern and marks the places at fault.
-/

namespace Workflow.Pattern

structure Position where
  offset : Nat
  line : Nat
  column : Nat
  deriving DecidableEq, Inhabited, Repr

structure Span where
  start : Position
  stop : Position
  deriving DecidableEq, Inhabited, Repr

inductive Flag where
  | caseless
  | multiLine
  | dotAll
  | swapGreed
  | unicode
  | carriage
  | verbose
  deriving DecidableEq, Repr

def Flag.ofChar? : Char → Option Flag
  | 'i' => some .caseless
  | 'm' => some .multiLine
  | 's' => some .dotAll
  | 'U' => some .swapGreed
  | 'u' => some .unicode
  | 'R' => some .carriage
  | 'x' => some .verbose
  | _ => none

/-- An entry of a list of switches: a switch, or the sign that negates those after it. -/
inductive FlagItem where
  | flag (flag : Flag)
  | negation
  deriving DecidableEq, Repr

/-- The state that a list of switches gives to one of them, if it is listed. -/
def flagState? (flag : Flag) : Bool → List FlagItem → Option Bool
  | _, [] => none
  | negated, .negation :: rest => flagState? flag (negated || true) rest
  | negated, .flag f :: rest => if f = flag then some (!negated) else flagState? flag negated rest

inductive UnicodeName where
  | named (name : String)
  | valued (negated : Bool) (name value : String)
  deriving DecidableEq, Repr

inductive ClassOperator where
  | intersection
  | difference
  | symmetricDifference
  deriving DecidableEq, Repr

/-- A character that stands for itself; `byte` marks one written as two hexadecimal digits. -/
structure Literal where
  span : Span
  c : Char
  byte : Bool
  deriving Inhabited, Repr

/-- The content of a bracketed class. -/
inductive ClassSyntax where
  | empty (place : Position)
  | literal (literal : Literal)
  | range (first last : Literal)
  | ascii (span : Span) (negated : Bool) (name : String)
  | shorthand (span : Span) (negated : Bool) (kind : Shorthand)
  | unicode (span : Span) (negated : Bool) (name : UnicodeName)
  | bracketed (span : Span) (negated : Bool) (content : ClassSyntax)
  | union (span : Span) (items : List ClassSyntax)
  | operation (span : Span) (operator : ClassOperator) (left right : ClassSyntax)
  deriving Inhabited, Repr

/-- The stretch of a pattern where the content of a class stands. -/
def ClassSyntax.span : ClassSyntax → Span
  | empty place => ⟨place, place⟩
  | literal l => l.span
  | range first last => ⟨first.span.start, last.span.stop⟩
  | ascii span _ _ | shorthand span _ _ | unicode span _ _ | bracketed span _ _ | union span _
  | operation span _ _ _ => span

/-- Conditions on a place, as they are written. -/
inductive AssertionSyntax where
  | lineStart
  | lineEnd
  | textStart
  | textEnd
  | wordEdge
  | wordInside
  | wordStart
  | wordEnd
  | wordStartHalf
  | wordEndHalf
  deriving DecidableEq, Repr

/-- The parts of a pattern. -/
inductive PatternSyntax where
  | empty
  | flags (items : List FlagItem)
  | literal (literal : Literal)
  | dot (span : Span)
  | assertion (span : Span) (kind : AssertionSyntax)
  | unicode (span : Span) (negated : Bool) (name : UnicodeName)
  | shorthand (span : Span) (negated : Bool) (kind : Shorthand)
  | bracketed (span : Span) (negated : Bool) (content : ClassSyntax)
  | repetition (span : Span) (least : Nat) (most : Option Nat) (greedy : Bool)
    (body : PatternSyntax)
  | group (span : Span) (flags : List FlagItem) (captures : Bool) (body : PatternSyntax)
  | alternation (span : Span) (branches : List PatternSyntax)
  | concat (span : Span) (parts : List PatternSyntax)
  deriving Inhabited, Repr

inductive Fault where
  | classEscapeInvalid
  | classRangeInvalid
  | classRangeLiteral
  | classUnclosed
  | decimalEmpty
  | decimalInvalid
  | escapeHexEmpty
  | escapeHexInvalid
  | escapeHexInvalidDigit
  | escapeUnexpectedEnd
  | escapeUnrecognized
  | flagDanglingNegation
  | flagDuplicate
  | flagRepeatedNegation
  | flagUnexpectedEnd
  | flagUnrecognized
  | groupNameDuplicate
  | groupNameEmpty
  | groupNameInvalid
  | groupNameUnexpectedEnd
  | groupUnclosed
  | groupUnopened
  | nestLimitExceeded
  | repetitionCountInvalid
  | repetitionCountDecimalEmpty
  | repetitionCountUnclosed
  | repetitionMissing
  | wordBoundaryUnclosed
  | wordBoundaryUnrecognized
  | wordBoundaryUnexpectedEnd
  | unicodeClassInvalid
  | backreference
  | lookAround
  | unicodeNotAllowed
  | invalidUtf8
  | unicodePropertyNotFound
  | unicodePropertyValueNotFound
  deriving DecidableEq, Repr

/-- Deepest nesting of the parts of a pattern. -/
def nestLimit : Nat := 250

def Fault.text : Fault → String
  | classEscapeInvalid => "invalid escape sequence found in character class"
  | classRangeInvalid => "invalid character class range, the start must be <= the end"
  | classRangeLiteral => "invalid range boundary, must be a literal"
  | classUnclosed => "unclosed character class"
  | decimalEmpty => "decimal literal empty"
  | decimalInvalid => "decimal literal invalid"
  | escapeHexEmpty => "hexadecimal literal empty"
  | escapeHexInvalid => "hexadecimal literal is not a Unicode scalar value"
  | escapeHexInvalidDigit => "invalid hexadecimal digit"
  | escapeUnexpectedEnd => "incomplete escape sequence, reached end of pattern prematurely"
  | escapeUnrecognized => "unrecognized escape sequence"
  | flagDanglingNegation => "dangling flag negation operator"
  | flagDuplicate => "duplicate flag"
  | flagRepeatedNegation => "flag negation operator repeated"
  | flagUnexpectedEnd => "expected flag but got end of regex"
  | flagUnrecognized => "unrecognized flag"
  | groupNameDuplicate => "duplicate capture group name"
  | groupNameEmpty => "empty capture group name"
  | groupNameInvalid => "invalid capture group character"
  | groupNameUnexpectedEnd => "unclosed capture group name"
  | groupUnclosed => "unclosed group"
  | groupUnopened => "unopened group"
  | nestLimitExceeded => s!"exceed the maximum number of nested parentheses/brackets ({nestLimit})"
  | repetitionCountInvalid => "invalid repetition count range, the start must be <= the end"
  | repetitionCountDecimalEmpty => "repetition quantifier expects a valid decimal"
  | repetitionCountUnclosed => "unclosed counted repetition"
  | repetitionMissing => "repetition operator missing expression"
  | wordBoundaryUnclosed =>
    "special word boundary assertion is either unclosed or contains an invalid character"
  | wordBoundaryUnrecognized => "unrecognized special word boundary assertion, "
      ++ "valid choices are: start, end, start-half or end-half"
  | wordBoundaryUnexpectedEnd => "found either the beginning of a special word boundary or a "
      ++ "bounded repetition on a \\b with an opening brace, but no closing brace"
  | unicodeClassInvalid => "invalid Unicode character class"
  | backreference => "backreferences are not supported"
  | lookAround => "look-around, including look-ahead and look-behind, is not supported"
  | unicodeNotAllowed => "Unicode not allowed here"
  | invalidUtf8 => "pattern can match invalid UTF-8"
  | unicodePropertyNotFound => "Unicode property not found"
  | unicodePropertyValueNotFound => "Unicode property value not found"

/-- A refusal: the fault, where it is, and an earlier place it conflicts with. -/
structure Error where
  fault : Fault
  span : Span
  earlier : Option Span
  deriving Repr

namespace Error

/-- The lines of a text; a break at the end opens no further line. -/
def linesOf (text : List Char) : List (List Char) :=
  match text.splitOn '\n' with
  | [[]] => []
  | lines => if lines.getLast? = some [] then lines.dropLast else lines

/-- Carets under spans of one line, which come in order. -/
def carets : Nat → List Span → List Char
  | _, [] => []
  | column, span :: rest =>
    let gap := span.start.column - 1 - column
    let width := max 1 (span.stop.column - span.start.column)
    List.replicate gap ' ' ++ List.replicate width '^' ++ carets (column + gap + width) rest

def spans (e : Error) : List Span :=
  match e.earlier with
  | none => [e.span]
  | some other =>
    if other.start.offset ≤ e.span.start.offset then [other, e.span] else [e.span, other]

/-- A line of the pattern with its carets. -/
def notated (spans : List Span) (pad : Nat) (label : String) (line : List Char) : String :=
  let body := label ++ String.ofList line ++ "\n"
  if spans.isEmpty then body
  else body ++ String.ofList (List.replicate pad ' ' ++ carets 0 spans) ++ "\n"

/-- A span that covers several lines. -/
def acrossLines (span : Span) : String :=
  s!"on line {span.start.line} (column {span.start.column}) " ++
    s!"through line {span.stop.line} (column {span.stop.column - 1})"

/-- The message of a refusal: the pattern, marks under the places at fault, and the fault. A pattern
of several lines is set between rules and its lines are numbered. -/
def message (pattern : String) (e : Error) : String :=
  let text := pattern.toList
  let lines := linesOf text
  let count := if text.getLast? = some '\n' then lines.length + 1 else lines.length
  let width := if count ≤ 1 then 0 else (toString count).length
  let pad := if width = 0 then 4 else 2 + width
  let (short, long) := e.spans.partition fun span => span.start.line = span.stop.line
  let label := fun (i : Nat) =>
    if width = 0 then "    "
    else
      let number := toString (i + 1)
      String.ofList (List.replicate (width - number.length) ' ') ++ number ++ ": "
  let body := String.join ((List.range lines.length).map fun i =>
    notated (short.filter fun span => span.start.line = i + 1) pad (label i) (lines.getD i []))
  if text.contains '\n' then
    let rule := String.ofList (List.replicate 79 '~') ++ "\n"
    let notes := if long.isEmpty then "" else "\n".intercalate (long.map acrossLines) ++ "\n"
    s!"regex parse error:\n{rule}{body}{rule}{notes}error: {e.fault.text}"
  else s!"regex parse error:\n{body}error: {e.fault.text}"

end Error

end Workflow.Pattern
