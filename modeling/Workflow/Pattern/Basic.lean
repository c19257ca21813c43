import Std.Data.HashSet
import Workflow.Pattern.Class

/-!
# Patterns

What a pattern matches, by derivatives: reading a character turns a pattern into the patterns that
the rest of the text must match. Assertions look at the characters on both sides of a place, so
whether a pattern matches the empty text there depends on them.
-/

namespace Workflow

open Unicode (CharSet)

/-- Conditions on a place in a text. -/
inductive Pattern.Assertion where
  | textStart
  | textEnd
  | lineStart (carriage : Bool)
  | lineEnd (carriage : Bool)
  | wordEdge (unicode : Bool)
  | wordInside (unicode : Bool)
  | wordStart (unicode : Bool)
  | wordEnd (unicode : Bool)
  | wordStartHalf (unicode : Bool)
  | wordEndHalf (unicode : Bool)
  deriving DecidableEq, Hashable, Repr

inductive Pattern where
  | empty
  | chars (set : CharSet)
  | assertion (condition : Pattern.Assertion)
  | seq (first second : Pattern)
  | alt (left right : Pattern)
  | repeated (body : Pattern) (least : Nat) (most : Option Nat)
  deriving DecidableEq, Hashable, Repr

namespace Pattern

/-- Whether a neighbour is a word character. -/
def isWordAt (unicode : Bool) : Option Char → Bool
  | none => false
  | some c => if unicode then Shorthand.word.set.has c else Shorthand.word.asciiSet.has c

/-- Whether a condition holds between two characters, of which either may be missing. -/
def Assertion.holds (before after : Option Char) : Assertion → Bool
  | textStart => before.isNone
  | textEnd => after.isNone
  | lineStart false => before.isNone || before = some '\n'
  | lineStart true =>
    before.isNone || before = some '\n' || (before = some '\r' && after ≠ some '\n')
  | lineEnd false => after.isNone || after = some '\n'
  | lineEnd true => after.isNone || after = some '\r' || (after = some '\n' && before ≠ some '\r')
  | wordEdge u => isWordAt u before != isWordAt u after
  | wordInside u => isWordAt u before == isWordAt u after
  | wordStart u => !isWordAt u before && isWordAt u after
  | wordEnd u => isWordAt u before && !isWordAt u after
  | wordStartHalf u => !isWordAt u before
  | wordEndHalf u => !isWordAt u after

/-- Whether a pattern matches the empty text between two characters. -/
def nullable (before after : Option Char) : Pattern → Bool
  | empty => true
  | chars _ => false
  | assertion condition => condition.holds before after
  | seq a b => nullable before after a && nullable before after b
  | alt a b => nullable before after a || nullable before after b
  | repeated body least _ => least = 0 || nullable before after body

/-- A sequence, without a first part that has been used up. -/
def andThen : Pattern → Pattern → Pattern
  | empty, b => b
  | a, b => seq a b

/-- What must follow when `c`, which stands behind `before`, is read. Rounds of a repetition that
match the empty text here count towards the least number. -/
def derivatives (before : Option Char) (c : Char) : Pattern → List Pattern
  | empty => []
  | chars set => if set.mem c.toNat then [empty] else []
  | assertion _ => []
  | seq a b =>
    (derivatives before c a).map (andThen · b)
      ++ (if nullable before (some c) a then derivatives before c b else [])
  | alt a b => derivatives before c a ++ derivatives before c b
  | repeated body least most =>
    if most = some 0 then []
    else
      let least := if nullable before (some c) body then 0 else least - 1
      let rest := repeated body least (most.map (· - 1))
      (derivatives before c body).map (andThen · rest)

def distinct (patterns : List Pattern) : List Pattern := (Std.HashSet.ofList patterns).toList

@[simp] theorem mem_distinct {pattern : Pattern} {patterns : List Pattern} :
    pattern ∈ distinct patterns ↔ pattern ∈ patterns := by
  simp [distinct]

/-- Whether a pattern matches somewhere in the rest of a text, given what
matches begun earlier still need. -/
def search (pattern : Pattern) (before : Option Char) (open_ : List Pattern) : List Char → Bool
  | [] => (pattern :: open_).any (nullable before none)
  | c :: rest =>
    let states := pattern :: open_
    states.any (nullable before (some c))
      || search pattern (some c) (distinct (states.flatMap (derivatives before c))) rest

/-- Whether a pattern matches somewhere in a text. -/
def matches? (pattern : Pattern) (text : String) : Bool := search pattern none [] text.toList

end Pattern

end Workflow
