/-!
# Dependency graphs

Steps depend on other steps by id. The graph of a list of them has an edge from each
dependency to the step that declares it. Of two steps with one id the first counts, and
dependencies on unknown ids have no edge.
-/

namespace Workflow

/-- What has an id and depends on others by theirs. -/
class Dependent (α : Type) where
  id : α → String
  dependsOn : α → List String

/-- An id with the ids it depends on. -/
structure Node where
  id : String
  dependsOn : List String
  deriving DecidableEq, Repr

instance : Dependent Node := ⟨Node.id, Node.dependsOn⟩

/-- A directed graph; edges are kept in the order in which they were added. -/
structure Graph where
  ids : List String
  edges : List (String × String)

namespace Graph

variable {α : Type} [Dependent α]

/-- The first of the nodes with each id. -/
def firsts (nodes : List α) : List α :=
  nodes.foldl (fun found node =>
    if found.any fun other => Dependent.id other = Dependent.id node then found
    else found ++ [node]) []

def ofNodes (nodes : List α) : Graph :=
  let owners := firsts nodes
  let ids := owners.map Dependent.id
  let edges := owners.flatMap fun node =>
    ((Dependent.dependsOn node).filter (· ∈ ids)).map fun dependency =>
      (dependency, Dependent.id node)
  ⟨ids, edges⟩

/-- The ids that depend on an id, in the order of the edges. -/
def dependents (g : Graph) (id : String) : List String :=
  (g.edges.filter fun edge => edge.1 = id).map Prod.snd

/-- The ids that depend on an id, newest edge first. -/
def latestDependents (g : Graph) (id : String) : List String := (g.dependents id).reverse

end Graph

end Workflow
