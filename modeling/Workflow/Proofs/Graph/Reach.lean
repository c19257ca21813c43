import Workflow.Graph.Reach
import Workflow.Proofs.Graph.Cycles

/-!
# What is reachable

The queue of a search for reachable nodes runs empty after one round for each node that was queued
at first and for each edge, at most. By then exactly the nodes have been visited that the queued
ones lead to, whether nodes that have been visited are queued again or not.
-/

namespace Workflow.Graph

open Relation

/-- An edge of the graph leads from one node to another, or the same. -/
def Joins (g : Graph) (a b : String) : Prop := (a, b) ∈ g.edges

section

variable {g : Graph} {queues : List String → String → Bool} {visited queue : List String}

/-! ## Rounds -/

/-- Nodes are taken from the queue, one in each round, until there are none. -/
inductive Rounds (g : Graph) (queues : List String → String → Bool) :
    Nat → List String → List String → List String → Prop
  | done (visited : List String) : Rounds g queues 0 visited [] visited
  | known {n : Nat} {visited rest found : List String} {node : String} (hknown : node ∈ visited)
      (hrest : Rounds g queues n visited rest found) :
      Rounds g queues (n + 1) visited (node :: rest) found
  | visit {n : Nat} {visited rest found : List String} {node : String} (hnew : node ∉ visited)
      (hrest : Rounds g queues n (visited ++ [node])
        (rest ++ (g.latestDependents node).filter (queues (visited ++ [node]))) found) :
      Rounds g queues (n + 1) visited (node :: rest) found

/-- A search comes to its end after one round for each queued node and each edge that is ahead. -/
theorem exists_rounds (g : Graph) (queues : List String → String → Bool)
    (visited queue : List String) :
    ∃ n ≤ (g.ahead visited).length + queue.length,
      Rounds g queues n visited queue (g.spread queues visited queue) := by
  fun_induction spread g queues visited queue with
  | case1 visited => exact ⟨0, Nat.zero_le _, .done visited⟩
  | case2 visited node rest hknown ih =>
    obtain ⟨n, hn, hrounds⟩ := ih
    exact ⟨n + 1, Nat.succ_le_succ hn, .known hknown hrounds⟩
  | case3 visited node rest hnew ih =>
    obtain ⟨n, hn, hrounds⟩ := ih
    refine ⟨n + 1, ?_, .visit hnew hrounds⟩
    have hqueued := List.length_filter_le (queues (visited ++ [node])) (g.latestDependents node)
    rw [List.length_append] at hn
    rw [g.length_ahead_snoc hnew, List.length_cons]
    omega

/-! ## What has been visited at the end -/

/-- What is visited follows on a queued node. -/
theorem of_mem_spread {x : String} (h : x ∈ g.spread queues visited queue) :
    x ∈ visited ∨ ∃ node ∈ queue, ReflTransGen g.Joins node x := by
  fun_induction spread g queues visited queue with
  | case1 visited => exact Or.inl h
  | case2 visited node rest hknown ih =>
    apply (ih h).imp_right
    rintro ⟨start, hstart, hpath⟩
    exact ⟨start, List.mem_cons_of_mem node hstart, hpath⟩
  | case3 visited node rest hnew ih =>
    rcases ih h with hvisited | ⟨start, hstart, hpath⟩
    · apply (List.mem_append.mp hvisited).imp_right
      intro hnode
      exact ⟨node, List.mem_cons_self, (List.mem_singleton.mp hnode) ▸ .refl⟩
    right
    rcases List.mem_append.mp hstart with hrest | hqueued
    · exact ⟨start, List.mem_cons_of_mem node hrest, hpath⟩
    · have hedge : g.Joins node start :=
        mem_latestDependents.mp (List.mem_filter.mp hqueued).1
      exact ⟨node, List.mem_cons_self, .head hedge hpath⟩

/-- Nodes that have not been visited are queued, whatever becomes of others. -/
def Thorough (queues : List String → String → Bool) : Prop :=
  ∀ visited other, other ∉ visited → queues visited other = true

/-- What follows on a visited node is visited or queued. -/
def Covered (g : Graph) (visited queue : List String) : Prop :=
  ∀ a ∈ visited, ∀ b, g.Joins a b → b ∈ visited ∨ b ∈ queue

/-- Nothing is lost when a node that has been visited is taken from the queue. -/
theorem mem_visited_or_rest {node x : String} {rest : List String} (hknown : node ∈ visited)
    (h : x ∈ visited ∨ x ∈ node :: rest) : x ∈ visited ∨ x ∈ rest := by
  rw [List.mem_cons, ← or_assoc] at h
  apply h.imp_left
  rintro (hvisited | rfl)
  · exact hvisited
  · exact hknown

theorem Covered.known {node : String} {rest : List String} (h : g.Covered visited (node :: rest))
    (hknown : node ∈ visited) : g.Covered visited rest :=
  fun a ha b hab => mem_visited_or_rest hknown (h a ha b hab)

theorem Covered.visit {node : String} {rest : List String} (h : g.Covered visited (node :: rest))
    (hthorough : Thorough queues) :
    g.Covered (visited ++ [node])
      (rest ++ (g.latestDependents node).filter (queues (visited ++ [node]))) := by
  intro a ha b hab
  by_cases hb : b ∈ visited ++ [node]
  · exact Or.inl hb
  right
  rcases List.mem_append.mp ha with hvisited | hnode
  · have hqueued := (h a hvisited b hab).resolve_left fun hin => hb (List.mem_append_left _ hin)
    apply List.mem_append_left
    exact (List.mem_cons.mp hqueued).resolve_left fun heq => hb (by simp [heq])
  · obtain rfl := List.mem_singleton.mp hnode
    apply List.mem_append_right
    exact List.mem_filter.mpr ⟨mem_latestDependents.mpr hab, hthorough _ b hb⟩

/-- In the end all that was queued has been visited, and all that follows on what has been. -/
theorem spread_closed (hthorough : Thorough queues) (h : g.Covered visited queue) :
    (∀ a, a ∈ visited ∨ a ∈ queue → a ∈ g.spread queues visited queue) ∧
      ∀ a ∈ g.spread queues visited queue, ∀ b, g.Joins a b →
        b ∈ g.spread queues visited queue := by
  fun_induction spread g queues visited queue with
  | case1 visited =>
    have hvisited : ∀ a, a ∈ visited ∨ a ∈ [] → a ∈ visited :=
      fun a ha => ha.resolve_right List.not_mem_nil
    exact ⟨hvisited, fun a ha b hab => hvisited b (h a ha b hab)⟩
  | case2 visited node rest hknown ih =>
    obtain ⟨hall, hclosed⟩ := ih (h.known hknown)
    exact ⟨fun a ha => hall a (mem_visited_or_rest hknown ha), hclosed⟩
  | case3 visited node rest hnew ih =>
    obtain ⟨hall, hclosed⟩ := ih (h.visit hthorough)
    refine ⟨fun a ha => hall a ?_, hclosed⟩
    simp only [List.mem_append, List.mem_cons, List.not_mem_nil, or_false] at ha ⊢
    tauto

/-- A search that has visited nothing before finds exactly what the queued nodes lead to. -/
theorem mem_spread_iff (hthorough : Thorough queues) {x : String} :
    x ∈ g.spread queues [] queue ↔ ∃ node ∈ queue, ReflTransGen g.Joins node x := by
  constructor
  · exact fun h => (of_mem_spread h).resolve_left List.not_mem_nil
  · rintro ⟨node, hnode, hpath⟩
    obtain ⟨hall, hclosed⟩ :=
      g.spread_closed hthorough (fun a ha => absurd ha List.not_mem_nil : g.Covered [] queue)
    induction hpath with
    | refl => exact hall node (Or.inr hnode)
    | tail _ hedge ih => exact hclosed _ ih _ hedge

/-- No node is visited twice. -/
theorem nodup_spread (h : visited.Nodup) : (g.spread queues visited queue).Nodup := by
  fun_induction spread g queues visited queue with
  | case1 visited => exact h
  | case2 visited node rest hknown ih => exact ih h
  | case3 visited node rest hnew ih =>
    apply ih
    apply List.Nodup.append h (List.nodup_singleton node)
    exact List.disjoint_singleton.mpr hnew

end

/-! ## Nodes that can be reached -/

theorem mem_reachable_iff {g : Graph} {roots : List String} {x : String} :
    x ∈ g.reachable roots ↔ ∃ root ∈ roots, root ∈ g.ids ∧ ReflTransGen g.Joins root x := by
  have hthorough : Thorough fun visited other => other ∉ visited :=
    fun visited other hnew => decide_eq_true hnew
  rw [reachable, mem_spread_iff hthorough]
  simp only [List.mem_filter, decide_eq_true_eq, and_assoc]

theorem mem_descendants_iff {g : Graph} {id x : String} :
    x ∈ g.descendants id ↔ TransGen g.Joins id x := by
  rw [descendants, mem_spread_iff fun _ _ _ => rfl, TransGen.head'_iff]
  simp only [mem_latestDependents, Joins]

variable {α : Type} [Dependent α]

/-- The edges of the graph of a list of nodes are their dependencies. -/
theorem joins_ofNodes (nodes : List α) : (ofNodes nodes).Joins = IsDependency nodes := by
  funext dependency id
  exact propext mem_edges_iff_isDependency

/-- What the searches for reachable nodes find in the graph of a list of
nodes, and that they end. -/
structure ReachExact (nodes : List α) : Prop where
  /-- Known roots lead to what is reachable by dependencies, any number of them. -/
  reachable : ∀ roots id, id ∈ (ofNodes nodes).reachable roots ↔
    ∃ root ∈ roots, root ∈ nodes.map Dependent.id ∧ ReflTransGen (IsDependency nodes) root id
  /-- A node leads to its descendants by one dependency or more. -/
  descendants : ∀ id other, other ∈ (ofNodes nodes).descendants id ↔
    TransGen (IsDependency nodes) id other
  unknown : ∀ id, id ∉ nodes.map Dependent.id → (ofNodes nodes).descendants id = []
  once : (∀ roots, ((ofNodes nodes).reachable roots).Nodup) ∧
    ∀ id, ((ofNodes nodes).descendants id).Nodup
  /-- There is a round for each root and each edge, at most. -/
  reachable_ends : ∀ roots, ∃ n ≤ (ofNodes nodes).edges.length + roots.length,
    Rounds (ofNodes nodes) (fun visited other => other ∉ visited) n []
      (roots.filter (· ∈ (ofNodes nodes).ids)) ((ofNodes nodes).reachable roots)
  descendants_ends : ∀ id, ∃ n ≤ 2 * (ofNodes nodes).edges.length,
    Rounds (ofNodes nodes) (fun _ _ => true) n []
      ((ofNodes nodes).latestDependents id) ((ofNodes nodes).descendants id)

theorem length_ahead_nil (g : Graph) : (g.ahead []).length = g.edges.length := by
  simp [ahead]

theorem length_latestDependents_le (g : Graph) (id : String) :
    (g.latestDependents id).length ≤ g.edges.length := by
  rw [latestDependents, dependents, List.length_reverse, List.length_map]
  exact List.length_filter_le _ _

/-- Searches for reachable nodes find these and no others. -/
theorem reach_exact (nodes : List α) : ReachExact nodes where
  reachable roots id := by
    rw [mem_reachable_iff, joins_ofNodes]
    simp only [ids_ofNodes, mem_ids_firsts]
  descendants id other := by rw [mem_descendants_iff, joins_ofNodes]
  unknown id hunknown := by
    apply List.eq_nil_iff_forall_not_mem.mpr
    intro other hother
    rw [mem_descendants_iff, TransGen.head'_iff] at hother
    obtain ⟨next, hedge, -⟩ := hother
    exact hunknown (mem_ids_firsts.mp ((proper_ofNodes nodes).source id next hedge))
  once := ⟨fun _ => nodup_spread List.nodup_nil, fun _ => nodup_spread List.nodup_nil⟩
  reachable_ends roots := by
    obtain ⟨n, hn, hrounds⟩ := exists_rounds (ofNodes nodes) (fun visited other => other ∉ visited)
      [] (roots.filter (· ∈ (ofNodes nodes).ids))
    refine ⟨n, ?_, hrounds⟩
    have hroots := List.length_filter_le (fun root => decide (root ∈ (ofNodes nodes).ids)) roots
    rw [length_ahead_nil] at hn
    omega
  descendants_ends id := by
    obtain ⟨n, hn, hrounds⟩ := exists_rounds (ofNodes nodes) (fun _ _ => true) []
      ((ofNodes nodes).latestDependents id)
    refine ⟨n, ?_, hrounds⟩
    have hqueued := length_latestDependents_le (ofNodes nodes) id
    rw [length_ahead_nil] at hn
    omega

-- Two nodes that wait for each other lead to themselves, and to what depends on either.
example : (ofNodes [(⟨"ask", ["check"]⟩ : Node), ⟨"check", ["ask"]⟩,
    ⟨"wait", ["check", "nobody"]⟩]).descendants "ask" = ["check", "wait", "ask"] := by
  decide +kernel

end Workflow.Graph
