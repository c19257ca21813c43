import Std.Data.HashMap
import Workflow.Pattern.Automaton.Draft
import Workflow.Pattern.ByteSequence
import Workflow.Unicode.CharSet

/-!
# States of sets of characters

A set of characters is matched by a tree of states that lead through bytes. Equal states are shared
through a table with few places, each of which knows the state made for it last; which states meet
at a place depends on their numbers.
-/

namespace Workflow.Pattern

open Unicode (CharSet)

/-- A way out of a state by a range of bytes, to the state with a number. -/
structure Transition where
  range : ByteRange
  next : Nat
  deriving DecidableEq, Inhabited

def hashSeed : UInt64 := 14695981039346656037

def mixHash (h : UInt64) (n : Nat) : UInt64 := (h ^^^ UInt64.ofNat n) * 1099511628211

/-- A table with few places, each of which holds what was put there last. -/
structure Places (α : Type) where
  entries : Std.HashMap UInt64 (α × Nat)

/-- The states of a set that have been made, in a draft. -/
structure SetDraft (α : Type) where
  made : Places α
  draft : Draft

namespace SetDraft

/-- The number of the state for a key: that of the state made for it last if its place in the table
still shows it, else that of a new state. -/
@[inline] def state? {α : Type} [BEq α] (places : UInt64) (hash : α → UInt64)
    (transitions : α → Nat) (s : SetDraft α) (key : α) : Option (Nat × SetDraft α) :=
  let place := hash key % places
  match (s.made.entries[place]?).filter (·.1 == key) with
  | some (_, number) => some (number, s)
  | none => do
    let ⟨⟨entries⟩, draft⟩ := s
    let number := draft.states
    let draft ← draft.add? 1 (transitionSize * transitions key)
    return (number, ⟨⟨entries.insert place (key, number)⟩, draft⟩)

end SetDraft

/-! Forwards, a set is a tree of bytes whose equal ends are shared. -/

namespace ForwardSet

/-- The ways out of a state that is known so far, last first, and the range of a last one
whose goal is not known yet. -/
structure Node where
  transitions : List Transition
  last : Option ByteRange

/-- A node whose last way out leads to a state. -/
def Node.freeze (node : Node) (next : Nat) : List Transition :=
  match node.last with
  | some range => ⟨range, next⟩ :: node.transitions
  | none => node.transitions

/-- The number of the state with some ways out, given last first. -/
def state? (s : SetDraft (List Transition)) (transitions : List Transition) :
    Option (Nat × SetDraft (List Transition)) :=
  s.state? 10000 (fun ts =>
    ts.foldr (fun t h => mixHash (mixHash (mixHash h t.range.first) t.range.last) t.next) hashSeed)
    List.length transitions

/-- Makes the states of all nodes but the last `keep` ones, given deepest first, and lets the node
before them lead to the first. -/
def freezeTo? (keep : Nat) : Nat → List Node → SetDraft (List Transition) →
    Option (List Node × SetDraft (List Transition))
  | _, [], s => some ([], s)
  | next, node :: nodes, s =>
    if nodes.length < keep then some (⟨node.freeze next, none⟩ :: nodes, s)
    else do
      let (next, s) ← state? s (node.freeze next)
      freezeTo? keep next nodes s

/-- How many leading ranges of a sequence the open nodes, given from the root,
already lead through. -/
def sharedLength : List ByteRange → List Node → Nat
  | range :: ranges, node :: nodes =>
    if node.last = some range then sharedLength ranges nodes + 1 else 0
  | _, _ => 0

/-- Adds a sequence to the nodes, which are given deepest first; `target` is
the state behind the set. -/
def add? (target : Nat) (nodes : List Node) (s : SetDraft (List Transition))
    (sequence : List ByteRange) :
    Option (List Node × SetDraft (List Transition)) := do
  let shared := sharedLength sequence nodes.reverse
  let (nodes, s) ← freezeTo? (shared + 1) target nodes s
  match sequence.drop shared, nodes with
  | range :: ranges, node :: nodes =>
    let deeper :=
      ranges.foldl (fun nodes range => ⟨[], some range⟩ :: nodes)
        (⟨node.transitions, some range⟩ :: nodes)
    return (deeper, s)
  | _, nodes => return (nodes, s)

/-- The piece for sets with the given sequences. -/
def stepOf (sequences : List (List ByteRange)) : Step := Step.closed fun d => do
  let target := d.states
  let d ← d.add? 1 0
  let (nodes, s) ← sequences.foldlM (fun (nodes, s) sequence => add? target nodes s sequence)
    (([⟨[], none⟩] : List Node), (⟨⟨∅⟩, d⟩ : SetDraft (List Transition)))
  let (nodes, s) ← freezeTo? 1 target nodes s
  match nodes with
  | [root] => (state? s root.transitions).map fun (_, s) => s.draft
  | _ => some s.draft

def step (set : CharSet) : Step := stepOf (ByteSequence.ofRanges set.ranges)

end ForwardSet

/-! Backwards, a set is a choice among its sequences, of which those that begin alike are shared. -/

namespace BackwardSet

/-- The number of the state that leads through a range of bytes. -/
def state? (s : SetDraft Transition) (key : Transition) : Option (Nat × SetDraft Transition) :=
  s.state? 1000 (fun t => mixHash (mixHash (mixHash hashSeed t.next) t.range.first) t.range.last)
    (fun _ => 0) key

/-- Makes the states of a sequence, each of which leads to the one before it. -/
def addSequence? (target : Nat) (s : SetDraft Transition) (sequence : List ByteRange) :
    Option (SetDraft Transition) := do
  let (_, s) ← sequence.foldlM (fun (next, s) range => state? s ⟨range, next⟩) (target, s)
  return ⟨s.made, ← s.draft.add? 0 alternateSize⟩

/-- The piece for sets with the given sequences. -/
def stepOf (sequences : List (List ByteRange)) : Step := Step.closed fun d => do
  let target := d.states + 1
  let d ← d.add? 2 0
  let s ← sequences.foldlM (addSequence? target) (⟨⟨∅⟩, d⟩ : SetDraft Transition)
  return s.draft

def step (set : CharSet) : Step := stepOf (ByteSequence.ofRanges set.ranges)

end BackwardSet

/-- The piece for a set of characters. Sets of ASCII characters have one state
that chooses among them. -/
def setStep (direction : Direction) (set : CharSet) : Step :=
  if set.isAscii then
    Step.closed fun d => d.add? 2 (transitionSize * set.ranges.length)
  else
    match direction with
    | .forwards => ForwardSet.step set
    | .backwards => BackwardSet.step set

end Workflow.Pattern
