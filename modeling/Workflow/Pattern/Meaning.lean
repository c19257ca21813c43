import Workflow.Pattern.Fold
import Workflow.Pattern.Read
import Workflow.Pattern.Size

/-!
# The meaning of written patterns

Switches decide what the parts of a pattern stand for. `Pattern.ofString` goes from text to pattern.
-/

namespace Workflow.Pattern

open Unicode (CharSet)

/-- The switches in force. -/
structure Switches where
  caseless : Bool
  multiLine : Bool
  dotAll : Bool
  swapGreed : Bool
  unicode : Bool
  carriage : Bool

namespace Switches

def initial : Switches := ⟨false, false, false, false, true, false⟩

def set (s : Switches) (items : List FlagItem) : Switches :=
  let state := fun flag (old : Bool) => (flagState? flag false items).getD old
  ⟨state .caseless s.caseless, state .multiLine s.multiLine, state .dotAll s.dotAll,
    state .swapGreed s.swapGreed, state .unicode s.unicode, state .carriage s.carriage⟩

/-- With all members what differs from them in case only, where case does not count. -/
def fold (s : Switches) (set : CharSet) : CharSet :=
  if s.caseless then (if s.unicode then Pattern.caseless set else Pattern.asciiCaseless set)
  else set

end Switches

/-- A set as it is or negated. -/
def negateIf (negated : Bool) (set : CharSet) : CharSet := if negated then .complement set else set

/-- Folds, then negates. Without Unicode a set may not hold other than ASCII characters. -/
def finishSet (s : Switches) (span : Span) (negated : Bool) (set : CharSet) :
    Except Error CharSet :=
  let set := negateIf negated (s.fold set)
  if s.unicode || set.isAscii then .ok set else failAt .invalidUtf8 span

/-- The character of a literal inside a class. -/
def classChar (s : Switches) (l : Literal) : Except Error Char :=
  if s.unicode || l.c.toNat < 128 then .ok l.c
  else failAt (if l.byte then .invalidUtf8 else .unicodeNotAllowed) l.span

def shorthandSet (s : Switches) (span : Span) (negated : Bool) (kind : Shorthand) :
    Except Error CharSet :=
  if s.unicode then .ok (negateIf negated kind.set)
  else finishSet { s with caseless := false } span negated kind.asciiSet

def unicodeSet (s : Switches) (span : Span) (negated : Bool) (name : UnicodeName) :
    Except Error CharSet :=
  let found := fun (negated : Bool) (result : Except Property.Fault CharSet) =>
    match result with
    | .ok set => finishSet s span negated set
    | .error .unknownProperty => failAt .unicodePropertyNotFound span
    | .error .unknownValue => failAt .unicodePropertyValueNotFound span
  if !s.unicode then failAt .unicodeNotAllowed span
  else
    match name with
    | .named name => found negated (Property.named name)
    | .valued unequal name value => found (negated != unequal) (Property.valued name value)

mutual

def ClassSyntax.set (s : Switches) : ClassSyntax → Except Error CharSet
  | .empty _ => .ok .empty
  | .literal l => do return .single (← classChar s l)
  | .range first last => do return .range (← classChar s first).toNat (← classChar s last).toNat
  | .ascii span negated name => finishSet s span negated ((asciiClass? name).getD .empty)
  | .shorthand span negated kind => shorthandSet s span negated kind
  | .unicode span negated name => unicodeSet s span negated name
  | .bracketed span negated content => do finishSet s span negated (← content.set s)
  | .union _ items => do return .unions (← ClassSyntax.sets s items)
  | .operation _ operator left right => do
    let a := s.fold (← left.set s)
    let b := s.fold (← right.set s)
    return match operator with
      | .intersection => a.inter b
      | .difference => a.diff b
      | .symmetricDifference => a.exclusive b

def ClassSyntax.sets (s : Switches) : List ClassSyntax → Except Error (List CharSet)
  | [] => .ok []
  | item :: rest => do
    let first ← item.set s
    return first :: (← ClassSyntax.sets s rest)

end

def dotSet (s : Switches) (span : Span) : Except Error CharSet :=
  if !s.unicode then failAt .invalidUtf8 span
  else if s.dotAll then .ok .all
  else if s.carriage then .ok (CharSet.ofText "A D").complement
  else .ok (CharSet.single '\n').complement

def literalSet (s : Switches) (l : Literal) : Except Error CharSet :=
  if s.unicode || l.c.toNat < 128 then .ok (s.fold (.single l.c))
  else if l.byte then failAt .invalidUtf8 l.span
  else if s.caseless then failAt .unicodeNotAllowed l.span
  else .ok (.single l.c)

def AssertionSyntax.meaning (s : Switches) : AssertionSyntax → Assertion
  | lineStart => if s.multiLine then .lineStart s.carriage else .textStart
  | lineEnd => if s.multiLine then .lineEnd s.carriage else .textEnd
  | textStart => .textStart
  | textEnd => .textEnd
  | wordEdge => .wordEdge s.unicode
  | wordInside => .wordInside s.unicode
  | wordStart => .wordStart s.unicode
  | wordEnd => .wordEnd s.unicode
  | wordStartHalf => .wordStartHalf s.unicode
  | wordEndHalf => .wordEndHalf s.unicode

mutual

/-- The form that a written pattern stands for, and the switches behind it. -/
def PatternSyntax.form (s : Switches) : PatternSyntax → Except Error (Form × Switches)
  | .empty => .ok (.empty, s)
  | .flags items => .ok (.empty, s.set items)
  | .literal l => do return (.ofSet (← literalSet s l), s)
  | .dot span => do return (.ofSet (← dotSet s span), s)
  | .assertion _ kind => .ok (.assertion (kind.meaning s), s)
  | .unicode span negated name => do return (.ofSet (← unicodeSet s span negated name), s)
  | .shorthand span negated kind => do return (.ofSet (← shorthandSet s span negated kind), s)
  | .bracketed span negated content => do
    return (.ofSet (← finishSet s span negated (← content.set s)), s)
  | .repetition _ least most greedy part => do
    let (body, behind) ← part.form s
    return (.ofRepetition body least most (greedy != s.swapGreed), behind)
  | .group span items captures part => do
    let (body, _) ← part.form (s.set items)
    return (if captures then .capture span.start.offset body else body, s)
  | .alternation _ branches => do
    let (forms, s) ← PatternSyntax.forms s branches
    return (.ofBranches forms, s)
  | .concat _ parts => do
    let (forms, s) ← PatternSyntax.forms s parts
    return (.ofParts forms, s)

def PatternSyntax.forms (s : Switches) : List PatternSyntax → Except Error (List Form × Switches)
  | [] => .ok ([], s)
  | part :: rest => do
    let (first, s) ← part.form s
    let (others, s) ← PatternSyntax.forms s rest
    return (first :: others, s)

end

/-- Why a text gives no pattern. -/
inductive Defect where
  | written (error : Error)
  | tooLarge

def Defect.message (text : String) : Defect → String
  | written error => error.message text
  | tooLarge => s!"Compiled regex exceeds size limit of {maxSize} bytes."

/-- The form of the pattern that a text means, whatever its size. -/
def Form.ofWritten (text : String) : Except Error Form := do
  let parts ← PatternSyntax.read text
  let (form, _) ← parts.form .initial
  return form

def ofString (text : String) : Except Defect Pattern :=
  match Form.ofWritten text with
  | .ok form => if form.isTooLarge then .error .tooLarge else .ok form.pattern
  | .error error => .error (.written error)

end Workflow.Pattern
