import Workflow.Graph.Basic

/-!
# Reachability

What can be reached in a graph is found with a queue of nodes. A node is visited once, and what
depends on it is queued then. So no edge is queued twice, and the queue runs empty.
-/

namespace Workflow.Graph

/-- The edges from nodes that have not been visited. -/
def ahead (g : Graph) (visited : List String) : List (String × String) :=
  g.edges.filter fun edge => edge.1 ∉ visited

/-- The edges from a node are no longer ahead when it has been visited. -/
theorem length_ahead_snoc (g : Graph) {visited : List String} {node : String}
    (hnew : node ∉ visited) :
    (g.ahead visited).length =
      (g.latestDependents node).length + (g.ahead (visited ++ [node])).length := by
  have hnode : (g.ahead visited).countP (fun edge => edge.1 = node) =
      (g.latestDependents node).length := by
    rw [latestDependents, dependents, List.length_reverse, List.length_map,
      ← List.countP_eq_length_filter, ahead, List.countP_filter]
    exact List.countP_congr fun edge _ => by grind
  have hother : (g.ahead visited).countP (fun edge => ¬ decide (edge.1 = node) = true) =
      (g.ahead (visited ++ [node])).length := by
    rw [ahead, ahead, List.countP_filter, ← List.countP_eq_length_filter]
    exact List.countP_congr fun edge _ => by grind
  rw [List.length_eq_countP_add_countP fun edge => decide (edge.1 = node), hnode, hother]

/-- Takes nodes from the queue, the first one first, and visits those that have not
been visited. Which of the nodes that depend on it are queued then, `queues` says, from
all that have been visited. -/
def spread (g : Graph) (queues : List String → String → Bool) (visited : List String) :
    List String → List String
  | [] => visited
  | node :: rest =>
    if node ∈ visited then g.spread queues visited rest
    else
      g.spread queues (visited ++ [node])
        (rest ++ (g.latestDependents node).filter (queues (visited ++ [node])))
termination_by queue => (g.ahead visited).length + queue.length
decreasing_by
  · exact Nat.lt_succ_self _
  · next hnew =>
    have hqueued := List.length_filter_le (queues (visited ++ [node])) (g.latestDependents node)
    rw [g.length_ahead_snoc hnew, List.length_append, List.length_cons]
    omega

/-- The nodes that can be reached from known roots, roots included. Visited
nodes are not queued again. -/
def reachable (g : Graph) (roots : List String) : List String :=
  g.spread (fun visited other => other ∉ visited) [] (roots.filter (· ∈ g.ids))

/-- The nodes that depend on `id`, directly or through others. All of a node's
dependents are queued. -/
def descendants (g : Graph) (id : String) : List String :=
  g.spread (fun _ _ => true) [] (g.latestDependents id)

end Workflow.Graph
