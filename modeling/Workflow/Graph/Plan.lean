import Workflow.Graph.Search

/-!
# Execution plans

A plan puts steps into levels such that each step depends on steps of earlier levels only. It exists
if ids are unique, all dependencies are known and none leads back to its own step.
-/

namespace Workflow

/-- Why steps have no plan. -/
inductive PlanFault where
  | duplicate (id : String)
  | unknown (id dependency : String)
  | cycle (id : String)
  deriving DecidableEq, Repr

def PlanFault.message : PlanFault → String
  | duplicate id => s!"duplicate step id '{id}'"
  | unknown id dependency => s!"step '{id}' depends on unknown step '{dependency}'"
  | cycle id => s!"cycle detected involving step '{id}'"

namespace Plan

variable {α : Type} [Dependent α]

/-- The first id that stands a second time in a list. -/
def duplicate? (seen : List String) : List String → Option String
  | [] => none
  | id :: rest => if id ∈ seen then some id else duplicate? (seen ++ [id]) rest

/-- The first dependency on an id that no node has. -/
def unknown? (ids : List String) (nodes : List α) : Option (String × String) :=
  nodes.findSome? fun node =>
    ((Dependent.dependsOn node).find? (· ∉ ids)).map fun dependency =>
      (Dependent.id node, dependency)

def dependenciesOf (nodes : List α) (id : String) : List String :=
  ((nodes.find? fun node => Dependent.id node = id).map Dependent.dependsOn).getD []

/-- The first dependency in an order of nodes that does not stand before what depends on it. -/
def misplaced? (nodes : List α) (placed : List String) : List String → Option String
  | [] => none
  | id :: rest =>
    match (dependenciesOf nodes id).find? (· ∉ placed) with
    | some dependency => some dependency
    | none => misplaced? nodes (id :: placed) rest

/-- An order of the ids in which dependencies come first, or an id on a cycle. Nodes
are finished after all that depends on them, so an order from the last to the first
finished one will do if any does. -/
def order (nodes : List α) : Except String (List String) :=
  let g := Graph.ofNodes nodes
  let search := Graph.Search.ofRoots g.dependents (g.ids.length + 1) g.ids
  match search.discovered.find? fun id => id ∈ g.dependents id with
  | some id => .error id
  | none =>
    match misplaced? nodes [] search.finished with
    | some id => .error id
    | none => .ok search.finished

/-- The depth of a node whose dependencies have the depths given. -/
def depthOf (depths : List (String × Nat)) (dependencies : List String) : Nat :=
  (dependencies.map fun dependency => (depths.lookup dependency).getD 0 + 1).foldl max 0

/-- The depths of the nodes, along an order in which dependencies come first. -/
def depths (nodes : List α) (order : List String) : List (String × Nat) :=
  order.foldl (fun depths id => (id, depthOf depths (dependenciesOf nodes id)) :: depths) []

/-- The nodes by depth, each level in the order of the nodes. -/
def levels (nodes : List α) (depths : List (String × Nat)) : List (List α) :=
  let deepest := (depths.map Prod.snd).foldl max 0
  (List.range (deepest + 1)).map fun level =>
    nodes.filter fun node => (depths.lookup (Dependent.id node)).getD 0 = level

/-- The levels of a plan for the nodes. -/
def make (nodes : List α) : Except PlanFault (List (List α)) :=
  if nodes.isEmpty then .ok []
  else
    let ids := nodes.map Dependent.id
    match duplicate? [] ids with
    | some id => .error (.duplicate id)
    | none =>
      match unknown? ids nodes with
      | some (id, dependency) => .error (.unknown id dependency)
      | none =>
        match order nodes with
        | .error id => .error (.cycle id)
        | .ok order => .ok (levels nodes (depths nodes order))

/-- The nodes in an order in which they can be executed: one level of the plan after the other. -/
def sequence (nodes : List α) : Except PlanFault (List α) := do
  return (← make nodes).flatten

end Plan

end Workflow
