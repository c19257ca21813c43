/-!
# Drafts of automata

A pattern is matched by automata over bytes whose memory is limited. They are not built here: what
is counted is how many states they have and how much more memory those take, in the order in which
the states are made.
-/

namespace Workflow.Pattern

/-- Bytes of a state, of a way out of it by a range of bytes, and of a way out of it by choice. -/
def stateSize : Nat := 32

def transitionSize : Nat := 8

def alternateSize : Nat := 4

def maxSize : Nat := 10485760

/-- In which direction an automaton reads. -/
inductive Direction where
  | forwards
  | backwards
  deriving DecidableEq, Repr

/-- What has been made of an automaton: its states, which are numbered from zero, and the bytes that
they take beyond their own size. -/
structure Draft where
  states : Nat
  extra : Nat

namespace Draft

def size (d : Draft) : Nat := stateSize * d.states + d.extra

/-- The draft if it is not too large. -/
def check? (d : Draft) : Option Draft := if d.size ≤ maxSize then some d else none

/-- With more states, which take some bytes beyond their size. -/
def add? (d : Draft) (states extra : Nat) : Option Draft :=
  check? ⟨d.states + states, d.extra + extra⟩

end Draft

/-- A piece of an automaton after which the draft stands. The state where it ends gains a way out
when something follows; only one that chooses grows by that. -/
structure Piece where
  choosesLast : Bool
  draft : Draft

/-- What may be made next, from a draft. -/
abbrev Step := Draft → Option Piece

namespace Step

def closed (make : Draft → Option Draft) : Step := fun d => (make d).map fun d => ⟨false, d⟩

def idle : Step := closed fun d => d.add? 1 0

/-- The bytes by which the end of a piece grows when something follows. -/
def growth (a : Piece) : Nat := if a.choosesLast then alternateSize else 0

def andThen (first second : Step) : Step := fun d => do
  let a ← first d
  let b ← second a.draft
  return ⟨b.choosesLast, ← b.draft.add? 0 (growth a)⟩

/-- A piece `count` times after another one. -/
def repeatAfter (step : Step) (a : Piece) : Nat → Option Piece
  | 0 => some a
  | count + 1 => do
    let b ← step a.draft
    let d ← b.draft.add? 0 (growth a)
    repeatAfter step ⟨b.choosesLast, d⟩ count

/-- A piece `count` times in a row; none at all is a state that does nothing. -/
def exactly (step : Step) : Nat → Step
  | 0 => idle
  | count + 1 => fun d => do repeatAfter step (← step d) count

def optional (step : Step) : Step := closed fun d => do
  let a ← step (← d.add? 1 (2 * alternateSize))
  a.draft.add? 1 (growth a)

/-- A piece `count` times after another one, each of which may be left out with those behind it. -/
def optionalAfter (step : Step) (a : Piece) : Nat → Option Draft
  | 0 => a.draft.add? 0 (growth a)
  | count + 1 => do
    let b ← step (← a.draft.add? 1 (2 * alternateSize + growth a))
    optionalAfter step b count

/-- A piece at least `least` times and `more` times more at most. -/
def bounded (step : Step) (least more : Nat) : Step := closed fun d => do
  let a ← exactly step least d
  optionalAfter step ⟨a.choosesLast, ← a.draft.add? 1 0⟩ more

def onceOrMore (step : Step) : Step := fun d => do
  let a ← step d
  return ⟨true, ← a.draft.add? 1 (alternateSize + growth a)⟩

/-- A piece any number of times. What may match the empty text needs a way around it of its own. -/
def anyTimes (step : Step) (isNonempty : Bool) : Step := fun d =>
  if isNonempty then do
    let a ← step (← d.add? 1 alternateSize)
    return ⟨true, ← a.draft.add? 0 (growth a)⟩
  else do
    let a ← step d
    return ⟨false, ← a.draft.add? 3 (4 * alternateSize + growth a)⟩

/-- A piece as often as bounds say. -/
def repeated (step : Step) (isNonempty : Bool) : Nat → Option Nat → Step
  | 0, some 1 => step.optional
  | 0, none => step.anyTimes isNonempty
  | 1, none => step.onceOrMore
  | least + 1, none => (step.exactly least).andThen step.onceOrMore
  | least, some most =>
    if least = most then step.exactly least else step.bounded least (most - least)

/-- One of several pieces: the first two are made before the state that chooses. -/
def choice : List Step → Step
  | [] => closed fun d => d.add? 1 0
  | [step] => step
  | first :: second :: rest => closed fun d => do
    let a ← first d
    let b ← second a.draft
    let d ← b.draft.add? 2 (2 * alternateSize + growth a + growth b)
    rest.foldlM (fun d step => do
      let c ← step d
      c.draft.add? 0 (alternateSize + growth c)) d

def sequence : List Step → Step
  | [] => idle
  | [step] => step
  | first :: rest => first.andThen (sequence rest)

end Step

end Workflow.Pattern
