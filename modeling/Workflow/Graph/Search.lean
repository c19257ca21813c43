import Workflow.Graph.Basic

/-!
# Depth-first search

A search goes from node to node along `next` and notes when it discovers a node, when
it has finished with it, and every cycle it closes: an edge to a node on the path
that leads to where it stands.
-/

namespace Workflow.Graph

/-- What a search has found. -/
structure Search where
  /-- Nodes in the order of their discovery. -/
  discovered : List String
  /-- Nodes the search has finished with, the last one first. -/
  finished : List String
  /-- Cycles in the order in which they were closed. -/
  cycles : List (List String)

namespace Search

def empty : Search := ⟨[], [], []⟩

/-- Visits a node, and what can be reached from it, unless it is known. `path` leads to the node,
and at most `fuel` more nodes can follow on it. -/
def visit (next : String → List String) : Nat → List String → String → Search → Search
  | 0, _, _, s => s
  | fuel + 1, path, node, s =>
    if node ∈ s.discovered then s
    else
      let path := path ++ [node]
      let s := { s with discovered := s.discovered ++ [node] }
      let s := (next node).foldl (fun s other =>
        if other ∈ s.discovered then
          if other ∈ s.finished then s
          else { s with cycles := s.cycles ++ [path.dropWhile (· ≠ other)] }
        else visit next fuel path other s) s
      { s with finished := node :: s.finished }

def ofRoots (next : String → List String) (fuel : Nat) (roots : List String) : Search :=
  roots.foldl (fun s root => visit next fuel [] root s) empty

end Search

/-- The cycles that a search from all nodes closes. -/
def cycles (g : Graph) : List (List String) :=
  (Search.ofRoots g.latestDependents (g.ids.length + 1) g.ids).cycles

/-- A cycle as a text that comes back to its beginning. -/
def cycleText (cycle : List String) : String := " -> ".intercalate (cycle ++ cycle.take 1)

end Workflow.Graph
