import Workflow.Pattern.Automaton.Draft
import Workflow.Pattern.ByteSequence

/-!
# States of literals

Alternatives that are all literals share what they begin with: their bytes make a tree.
-/

namespace Workflow.Pattern

def literalBytes (text : List Char) : List Nat := text.flatMap fun c => ByteSequence.encode c.toNat

/-- A tree of literals. Where one of them ends, what has been added to a node is closed, and what is
added later stands behind it. -/
inductive Trie where
  | node (closed : List (List (Nat × Trie))) (active : List (Nat × Trie))
  deriving Inhabited

namespace Trie

def isLeaf : Trie → Bool
  | node closed active => active.isEmpty && closed.all List.isEmpty

/-- Marks the end of a literal. -/
def close : Trie → Trie
  | node closed active =>
    if active.isEmpty && closed.all List.isEmpty && !closed.isEmpty then node closed active
    else node (closed ++ [active]) []

def single : List Nat → Trie
  | [] => node [[]] []
  | byte :: bytes => node [] [(byte, single bytes)]

mutual

def add : Trie → List Nat → Trie
  | trie, [] => trie.close
  | node closed active, byte :: bytes => node closed (addTo active byte bytes)

/-- Adds a literal that begins with `byte` to what leads on from a node, in
the order of the bytes. -/
def addTo : List (Nat × Trie) → Nat → List Nat → List (Nat × Trie)
  | [], byte, bytes => [(byte, single bytes)]
  | (other, trie) :: rest, byte, bytes =>
    if byte < other then (byte, single bytes) :: (other, trie) :: rest
    else if byte = other then (other, add trie bytes) :: rest
    else (other, trie) :: addTo rest byte bytes

end

mutual

/-- Makes the states of a node: one for each part of what leads on from it, and one
that chooses among the parts. -/
def make? (d : Draft) : Trie → Option Draft
  | node closed active => do
    let d ← makeClosed? d closed
    let d ← makePart? d active
    d.add? 1 (alternateSize * closed.length)

def makeClosed? (d : Draft) : List (List (Nat × Trie)) → Option Draft
  | [] => some d
  | part :: rest => do
    let d ← makePart? d part
    makeClosed? d rest

/-- Makes the states that lead on from a node, and the one that leads to them if there are any. -/
def makePart? (d : Draft) : List (Nat × Trie) → Option Draft
  | [] => some d
  | part => do
    let d ← makeAll? d part
    d.add? 1 (alternateSize + if part.length = 1 then 0 else transitionSize * part.length)

/-- Makes the states of several nodes that are no leaves. -/
def makeAll? (d : Draft) : List (Nat × Trie) → Option Draft
  | [] => some d
  | (_, trie) :: rest => do
    let d ← if trie.isLeaf then some d else make? d trie
    makeAll? d rest

end

/-- The piece for one of several literals. -/
def step (literals : List (List Nat)) : Step := Step.closed fun d => do
  let d ← d.add? 1 0
  make? d (literals.foldl add (node [] []))

end Trie

end Workflow.Pattern
