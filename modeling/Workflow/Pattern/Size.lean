import Workflow.Pattern.Automaton.CharStates
import Workflow.Pattern.Automaton.Trie
import Workflow.Pattern.Form

/-!
# The size of patterns

A form is matched by two automata, one that reads a text forwards and one that reads it backwards. A
pattern is refused if either is too large.
-/

namespace Workflow.Pattern

namespace Form

def literal? : Form → Option (List Char)
  | literal text => some text
  | _ => none

mutual

def step (direction : Direction) : Form → Step
  | empty | assertion _ => Step.idle
  | literal text => Step.closed fun d => d.add? (literalBytes text).length 0
  | chars set => setStep direction set
  | repeated body least most _ => (step direction body).repeated body.isNonempty least most
  | capture _ body =>
    match direction with
    | .forwards => Step.closed fun d => do
      let a ← step direction body (← d.add? 1 0)
      a.draft.add? 1 (Step.growth a)
    | .backwards => step direction body
  | concat parts =>
    let steps := steps direction parts
    Step.sequence (match direction with
      | .forwards => steps
      | .backwards => steps.reverse)
  | choice branches =>
    match branches.mapM literal? with
    | some texts =>
      Trie.step ((texts.map literalBytes).map fun bytes =>
        match direction with
        | .forwards => bytes
        | .backwards => bytes.reverse)
    | none => Step.choice (steps direction branches)

def steps (direction : Direction) : List Form → List Step
  | [] => []
  | form :: rest => step direction form :: steps direction rest

end

/-! ## Anchors -/

/-- The assertion that ties a match to the end of the text where an automaton starts. -/
def anchor : Direction → Assertion
  | .forwards => .textStart
  | .backwards => .textEnd

mutual

/-- Whether every match begins, in a direction, where the text does, as far as
the parts of the form show. -/
def isAnchored (direction : Direction) : Form → Bool
  | assertion condition => condition = anchor direction
  | repeated body least _ _ => 0 < least && isAnchored direction body
  | capture _ body => isAnchored direction body
  | concat parts =>
    let marks := anchors direction parts
    let marks := match direction with
      | .forwards => marks
      | .backwards => marks.reverse
    let reached := marks.takeWhile Prod.snd
    reached.any Prod.fst || ((marks.drop reached.length).head?.map Prod.fst).getD false
  | choice branches => (anchors direction branches).all Prod.fst
  | empty | literal _ | chars _ => false

/-- Of each of several forms whether it is anchored, and whether it matches the empty text alone. -/
def anchors (direction : Direction) : List Form → List (Bool × Bool)
  | [] => []
  | form :: rest => (isAnchored direction form, form.isWidthless) :: anchors direction rest

end

/-! ## Automata -/

/-- The whole automaton in a direction: unless the form is anchored, it first skips any bytes; a
state that says that all has matched comes last. -/
def automaton? (direction : Direction) (form : Form) : Option Draft := do
  let start : Draft :=
    if form.isAnchored direction then ⟨1, 0⟩ else ⟨3, transitionSize + 2 * alternateSize⟩
  match direction with
  | .forwards =>
    let a ← form.step direction (← start.add? 1 0)
    a.draft.add? 2 (Step.growth a)
  | .backwards =>
    let a ← form.step direction start
    a.draft.add? 1 (Step.growth a)

/-- Whether one of the automata of a form is too large. -/
def isTooLarge (form : Form) : Bool :=
  (form.automaton? .forwards).isNone || (form.automaton? .backwards).isNone

end Form

end Workflow.Pattern
