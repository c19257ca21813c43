import Mathlib.Data.List.Induction
import Workflow.Proofs.Graph.Plan

/-!
# Plans as rounds of a scan

A scan takes, round after round, every waiting node all of whose dependencies are placed, in the
order of the nodes. The levels of a plan are the rounds of such a scan, whichever topological order
of the graph the depths are found along: both put a node on a level up to `n` exactly if all that it
depends on is on levels before `n`.
-/

namespace Workflow

open Dependent (dependsOn)

variable {α : Type} [Dependent α] {nodes : List α}

namespace Graph

/-- An order of the ids of a graph in which every edge leads forward. -/
structure Topological (g : Graph) (order : List String) : Prop where
  perm : order.Perm g.ids
  forward : ∀ edge ∈ g.edges, [edge.1, edge.2].Sublist order

theorem firsts_append_singleton (nodes : List α) (node : α) :
    firsts (nodes ++ [node]) = addFirst (firsts nodes) node := by
  rw [firsts, List.foldl_append]
  rfl

theorem mem_addFirst {found : List α} {node other : α} :
    other ∈ addFirst found node ↔
      other ∈ found ∨ other = node ∧ Dependent.id node ∉ found.map Dependent.id := by
  have hany : (found.any fun other => Dependent.id other = Dependent.id node) = true ↔
      Dependent.id node ∈ found.map Dependent.id := by
    simp only [List.any_eq_true, decide_eq_true_eq, List.mem_map]
  rw [addFirst]
  split
  · next hold => simp [hany.mp hold]
  · next hnew => simp [hany.not.mp hnew]

/-- Every id has a first node. -/
theorem mem_ids_firsts {id : String} :
    id ∈ (firsts nodes).map Dependent.id ↔ id ∈ nodes.map Dependent.id := by
  induction nodes using List.reverseRecOn with
  | nil => rfl
  | append_singleton nodes node ih =>
    rw [firsts_append_singleton, List.map_append, List.mem_append, ← ih]
    simp only [List.mem_map, mem_addFirst, List.mem_singleton]
    constructor
    · rintro ⟨other, hother | ⟨rfl, -⟩, rfl⟩
      · exact Or.inl ⟨other, hother, rfl⟩
      · exact Or.inr ⟨other, rfl, rfl⟩
    · rintro (⟨other, hother, rfl⟩ | ⟨other, rfl, rfl⟩)
      · exact ⟨other, Or.inl hother, rfl⟩
      · by_cases hold : ∃ first ∈ firsts nodes, Dependent.id first = Dependent.id other
        · obtain ⟨first, hfirst, heq⟩ := hold
          exact ⟨first, Or.inl hfirst, heq⟩
        · exact ⟨other, Or.inr ⟨rfl, hold⟩, rfl⟩

/-- The first node of an id is the one that is found by it. -/
theorem find?_of_mem_firsts {node : α} (h : node ∈ firsts nodes) :
    nodes.find? (fun other => Dependent.id other = Dependent.id node) = some node := by
  induction nodes using List.reverseRecOn with
  | nil => exact absurd h List.not_mem_nil
  | append_singleton nodes last ih =>
    rw [firsts_append_singleton, mem_addFirst] at h
    rw [List.find?_append]
    rcases h with hold | ⟨rfl, hnew⟩
    · rw [ih hold, Option.some_or]
    · have hnone : nodes.find? (fun other => Dependent.id other = Dependent.id node) = none := by
        rw [mem_ids_firsts] at hnew
        refine List.find?_eq_none.mpr fun other hother heq => hnew ?_
        exact List.mem_map.mpr ⟨other, hother, of_decide_eq_true heq⟩
      simp [hnone]

end Graph

namespace Plan

/-! ## Scans -/

/-- Whether all that a node depends on is placed. -/
def isReady (placed : List String) (node : α) : Bool := (dependsOn node).all (· ∈ placed)

def ready (placed : List String) (waiting : List α) : List α := waiting.filter (isReady placed)

/-- The waiting nodes that go on waiting. -/
def unready (placed : List String) (waiting : List α) : List α :=
  waiting.filter fun node => !isReady placed node

theorem length_unready_lt {placed : List String} {waiting : List α}
    (h : ready placed waiting ≠ []) : (unready placed waiting).length < waiting.length := by
  obtain ⟨node, hnode⟩ := List.exists_mem_of_ne_nil _ h
  obtain ⟨hwaiting, hready⟩ := List.mem_filter.mp hnode
  exact List.length_filter_lt_length_iff_exists.mpr ⟨node, hwaiting, by simp [hready]⟩

/-- The rounds of a scan of waiting nodes. It ends when none of them is ready. -/
def scan (placed : List String) (waiting : List α) : List (List α) :=
  if _ : ready placed waiting = [] then []
  else ready placed waiting ::
    scan (placed ++ (ready placed waiting).map Dependent.id) (unready placed waiting)
termination_by waiting.length
decreasing_by exact length_unready_lt ‹_›

/-- The rounds of a scan that begins with no node placed. -/
def rounds (nodes : List α) : List (List α) := scan [] nodes

/-- What a node of a round depends on has been placed in earlier rounds. -/
theorem placed_before_round {placed : List String} {waiting : List α} {before after : List (List α)}
    {round : List α} (h : scan placed waiting = before ++ round :: after) :
    ∀ node ∈ round, ∀ dependency ∈ dependsOn node,
      dependency ∈ placed ∨ dependency ∈ before.flatten.map Dependent.id := by
  induction before generalizing placed waiting with
  | nil =>
    rw [scan] at h
    split at h
    · simp at h
    · obtain ⟨rfl, -⟩ := List.cons.inj h
      intro node hnode dependency hdependency
      have hready := (List.mem_filter.mp hnode).2
      exact Or.inl (of_decide_eq_true (List.all_eq_true.mp hready dependency hdependency))
  | cons first before ih =>
    rw [scan] at h
    split at h
    · simp at h
    · obtain ⟨rfl, htail⟩ := List.cons.inj h
      intro node hnode dependency hdependency
      have hplaced := ih htail node hnode dependency hdependency
      rwa [List.mem_append, or_assoc, ← List.mem_append, ← List.map_append,
        ← List.flatten_cons] at hplaced

/-- No round is empty. -/
theorem ne_nil_of_mem_scan {placed : List String} {waiting : List α} :
    ∀ round ∈ scan placed waiting, round ≠ [] := by
  fun_induction scan placed waiting with
  | case1 placed waiting hnone => simp
  | case2 placed waiting hsome ih => exact List.forall_mem_cons.mpr ⟨hsome, ih⟩

/-- A level is where all that a node depends on is on earlier ones, and no later. -/
def Leveled (nodes : List α) (level : α → Nat) : Prop :=
  ∀ node ∈ nodes, ∀ n, level node ≤ n ↔
    ∀ dependency ∈ dependsOn node,
      ∃ other ∈ nodes, Dependent.id other = dependency ∧ level other < n

variable {level : α → Nat}

/-- No level below that of a node is empty. -/
theorem Leveled.exists_level (h : Leveled nodes level) {node : α} (hnode : node ∈ nodes) {n : Nat}
    (hn : n ≤ level node) : ∃ other ∈ nodes, level other = n := by
  generalize hk : level node = k at hn
  induction k generalizing node with
  | zero => exact ⟨node, hnode, by omega⟩
  | succ k ih =>
    rcases Nat.eq_or_lt_of_le hn with rfl | hlt
    · exact ⟨node, hnode, hk⟩
    -- The node is not on level `k`, so something it depends on is not below `k`.
    have hnot : ¬ level node ≤ k := by omega
    rw [h node hnode k, not_forall] at hnot
    obtain ⟨dependency, hnot⟩ := hnot
    obtain ⟨hdependency, hdeep⟩ := Classical.not_imp.mp hnot
    obtain ⟨other, hother, hid, hbelow⟩ :=
      (h node hnode (k + 1)).mp (Nat.le_of_eq hk) dependency hdependency
    have hlevel : level other = k :=
      Nat.le_antisymm (Nat.lt_succ_iff.mp hbelow)
        (Nat.not_lt.mp fun hlt => hdeep ⟨other, hother, hid, hlt⟩)
    exact ih hother hlevel (Nat.lt_succ_iff.mp hlt)

/-- With the levels before `n` placed, the nodes of level `n` are those that
are ready among the rest. -/
theorem Leveled.isReady_iff (h : Leveled nodes level) {placed : List String} {n : Nat}
    (hplaced : ∀ x, x ∈ placed ↔ ∃ other ∈ nodes, Dependent.id other = x ∧ level other < n)
    {node : α} (hnode : node ∈ nodes) : isReady placed node = true ↔ level node ≤ n := by
  rw [h node hnode n, isReady, List.all_eq_true]
  simp only [decide_eq_true_eq, hplaced]

theorem scan_eq_levels (h : Leveled nodes level) (count : Nat)
    (hbound : ∀ node ∈ nodes, level node < count)
    (hall : ∀ n < count, ∃ node ∈ nodes, level node = n) (left n : Nat) (hleft : n + left = count)
    (placed : List String)
    (hplaced : ∀ x, x ∈ placed ↔ ∃ other ∈ nodes, Dependent.id other = x ∧ level other < n) :
    scan placed (nodes.filter fun node => n ≤ level node) =
      (List.range' n left).map fun n => nodes.filter fun node => level node = n := by
  induction left generalizing n placed with
  | zero =>
    have hnone : nodes.filter (fun node => n ≤ level node) = [] := by
      refine List.filter_eq_nil_iff.mpr fun node hnode => ?_
      have := hbound node hnode
      simp only [decide_eq_true_eq]
      omega
    rw [hnone, scan]
    rfl
  | succ left ih =>
    have hready : ready placed (nodes.filter fun node => n ≤ level node) =
        nodes.filter fun node => level node = n := by
      rw [ready, List.filter_filter]
      refine List.filter_congr fun node hnode => ?_
      rw [Bool.eq_iff_iff, Bool.and_eq_true, h.isReady_iff hplaced hnode]
      simp only [decide_eq_true_eq]
      omega
    have hwaiting : unready placed (nodes.filter fun node => n ≤ level node) =
        nodes.filter fun node => n + 1 ≤ level node := by
      rw [unready, List.filter_filter]
      refine List.filter_congr fun node hnode => ?_
      rw [Bool.eq_iff_iff, Bool.and_eq_true, Bool.not_eq_true', Bool.eq_false_iff, ne_eq,
        h.isReady_iff hplaced hnode]
      simp only [decide_eq_true_eq]
      omega
    have hsome : nodes.filter (fun node => level node = n) ≠ [] := by
      obtain ⟨node, hnode, hlevel⟩ := hall n (by omega)
      exact List.ne_nil_of_mem (List.mem_filter.mpr ⟨hnode, decide_eq_true hlevel⟩)
    rw [scan]
    simp only [hready, hwaiting, hsome, dite_false]
    rw [List.range'_succ, List.map_cons, ih (n + 1) (by omega)]
    intro x
    rw [List.mem_append, hplaced, List.mem_map]
    constructor
    · rintro (⟨other, hother, hid, hlt⟩ | ⟨other, hother, hid⟩)
      · exact ⟨other, hother, hid, by omega⟩
      · obtain ⟨hmem, hlevel⟩ := List.mem_filter.mp hother
        exact ⟨other, hmem, hid, by simp only [decide_eq_true_eq] at hlevel; omega⟩
    · rintro ⟨other, hother, hid, hlt⟩
      rcases Nat.lt_succ_iff_lt_or_eq.mp hlt with hlt | heq
      · exact Or.inl ⟨other, hother, hid, hlt⟩
      · exact Or.inr ⟨other, List.mem_filter.mpr ⟨hother, decide_eq_true heq⟩, hid⟩

/-- Levels up to the deepest one are the rounds of a scan. -/
theorem rounds_eq_levels (h : Leveled nodes level) {deepest : α} (hdeepest : deepest ∈ nodes)
    (hbound : ∀ node ∈ nodes, level node ≤ level deepest) :
    rounds nodes =
      (List.range (level deepest + 1)).map fun n => nodes.filter fun node => level node = n := by
  have hscan := scan_eq_levels h (level deepest + 1)
    (fun node hnode => Nat.lt_succ_of_le (hbound node hnode))
    (fun n hn => h.exists_level hdeepest (Nat.lt_succ_iff.mp hn)) (level deepest + 1) 0
    (Nat.zero_add _) [] (by simp)
  rw [List.range_eq_range', ← hscan, rounds]
  simp

/-! ## Depths along topological orders -/

theorem respects_iff (dependencies : String → List String) (placed ids : List String) :
    Respects dependencies placed ids ↔
      ∀ done id rest, ids = done ++ id :: rest →
        ∀ dependency ∈ dependencies id, dependency ∈ placed ∨ dependency ∈ done := by
  induction ids generalizing placed with
  | nil =>
    refine iff_of_true trivial fun done id rest heq => ?_
    simp at heq
  | cons head tail ih =>
    rw [Respects, ih]
    constructor
    · rintro ⟨hhead, htail⟩ done id rest heq dependency hdependency
      cases done with
      | nil =>
        obtain ⟨rfl, rfl⟩ := List.cons.inj heq
        exact Or.inl (hhead dependency hdependency)
      | cons first done =>
        obtain ⟨rfl, rfl⟩ := List.cons.inj heq
        have := htail done id rest rfl dependency hdependency
        rw [List.mem_cons] at this ⊢
        tauto
    · intro h
      refine ⟨fun dependency hdependency => ?_, fun done id rest heq dependency hdependency => ?_⟩
      · simpa using h [] head tail rfl dependency hdependency
      · have := h (head :: done) id rest (by rw [heq, List.cons_append]) dependency hdependency
        rw [List.mem_cons] at this ⊢
        tauto

/-- What a sublist of two leads forward from stands before what it leads to. -/
theorem mem_of_sublist_pair {a b : String} {done rest : List String}
    (h : [a, b].Sublist (done ++ b :: rest)) (hrest : b ∉ rest) : a ∈ done := by
  obtain ⟨front, back, heq, hfront, hback⟩ := List.sublist_append_iff.mp h
  cases front with
  | nil =>
    obtain rfl : [a, b] = back := heq
    have hlater : b ∈ rest := by
      rcases List.cons_sublist_cons'.mp hback with htail | ⟨-, htail⟩
      · exact htail.mem (by simp)
      · exact List.singleton_sublist.mp htail
    exact absurd hlater hrest
  | cons first front =>
    obtain ⟨rfl, -⟩ := List.cons.inj heq
    exact hfront.mem List.mem_cons_self

theorem mem_dependenciesOf_of_edge {a b : String} (h : (a, b) ∈ (Graph.ofNodes nodes).edges) :
    a ∈ dependenciesOf nodes b := by
  obtain ⟨-, node, hnode, rfl, hdependency⟩ := Graph.mem_edges_ofNodes.mp h
  rwa [dependenciesOf, Graph.find?_of_mem_firsts hnode]

/-- An order that respects dependencies is topological. -/
theorem topological_of_respects {ids : List String} (hperm : ids.Perm (Graph.ofNodes nodes).ids)
    (hrespects : Respects (dependenciesOf nodes) [] ids) :
    (Graph.ofNodes nodes).Topological ids := by
  refine ⟨hperm, fun ⟨a, b⟩ hab => ?_⟩
  have hb : b ∈ ids := hperm.mem_iff.mpr ((Graph.proper_ofNodes nodes).target a b hab)
  obtain ⟨done, rest, rfl⟩ := List.append_of_mem hb
  have hdone := (respects_iff _ _ _).mp hrespects done b rest rfl a (mem_dependenciesOf_of_edge hab)
  have ha : a ∈ done := hdone.resolve_left List.not_mem_nil
  exact (List.singleton_sublist.mpr ha).append (List.singleton_sublist.mpr List.mem_cons_self)

/-- The order that plans are made along is topological. -/
theorem topological_of_order {ids : List String} (h : Plan.order nodes = .ok ids) :
    (Graph.ofNodes nodes).Topological ids :=
  topological_of_respects (order_eq_ok h).1 (order_eq_ok h).2

omit [Dependent α] in
theorem foldl_max_le_iff (ns : List Nat) (m n : Nat) :
    ns.foldl max m ≤ n ↔ m ≤ n ∧ ∀ k ∈ ns, k ≤ n := by
  induction ns generalizing m with
  | nil => simp
  | cons head tail ih =>
    rw [List.foldl_cons, ih, Nat.max_le, List.forall_mem_cons, and_assoc]

theorem depthOf_le_iff (depths : List (String × Nat)) (dependencies : List String) (n : Nat) :
    depthOf depths dependencies ≤ n ↔
      ∀ dependency ∈ dependencies, (depths.lookup dependency).getD 0 < n := by
  rw [depthOf, foldl_max_le_iff, List.forall_mem_map]
  exact and_iff_right (Nat.zero_le n)

section

variable (hnodup : (nodes.map Dependent.id).Nodup)
  (hknown : ∀ node ∈ nodes, ∀ dependency ∈ dependsOn node, dependency ∈ nodes.map Dependent.id)

include hnodup hknown

/-- A topological order of a graph that has all dependencies respects them. -/
theorem respects_of_topological {ids : List String}
    (h : (Graph.ofNodes nodes).Topological ids) : Respects (dependenciesOf nodes) [] ids := by
  refine (respects_iff _ _ _).mpr fun done id rest heq dependency hdependency => ?_
  have hedge := edge_of_mem_dependenciesOf hnodup hknown hdependency
  have hids := h.perm.nodup_iff.mpr (Graph.proper_ofNodes nodes).nodup
  have hforward := h.forward _ hedge
  rw [heq] at hids hforward
  have hrest := (List.nodup_cons.mp (List.nodup_append.mp hids).2.1).1
  exact Or.inr (mem_of_sublist_pair hforward hrest)

/-- Along a topological order every node gets to its level. -/
theorem leveled_depths {ids : List String} (hids : (Graph.ofNodes nodes).Topological ids) :
    Leveled nodes (levelOf (depths nodes ids)) := by
  have hperm := hids.perm
  obtain ⟨hgraded, hall⟩ := graded_depths (respects_of_topological hnodup hknown hids)
    (hperm.nodup_iff.mpr (Graph.proper_ofNodes nodes).nodup)
  intro node hnode n
  have hkey : Dependent.id node ∈ (depths nodes ids).map Prod.fst := by
    refine hall _ (hperm.mem_iff.mpr ?_)
    rw [Graph.ids_ofNodes, Graph.firsts_eq_self hnodup]
    exact List.mem_map_of_mem hnode
  rw [levelOf, (hgraded _ hkey).2, Option.getD_some, dependenciesOf_eq hnodup hnode,
    depthOf_le_iff]
  refine forall₂_congr fun dependency hdependency => ⟨fun hlt => ?_, ?_⟩
  · obtain ⟨other, hother, rfl⟩ := List.mem_map.mp (hknown node hnode dependency hdependency)
    exact ⟨other, hother, rfl, hlt⟩
  · rintro ⟨other, -, rfl, hlt⟩
    exact hlt

end

/-- The depths that are found have the ids for keys, the last one first. -/
theorem keys_depths (nodes : List α) (ids : List String) :
    (depths nodes ids).map Prod.fst = ids.reverse := by
  have hfold : ∀ (ids : List String) (found : List (String × Nat)),
      (ids.foldl (fun depths id => (id, depthOf depths (dependenciesOf nodes id)) :: depths)
        found).map Prod.fst = ids.reverse ++ found.map Prod.fst := by
    intro ids
    induction ids with
    | nil => exact fun _ => rfl
    | cons head tail ih =>
      intro found
      rw [List.foldl_cons, ih, List.map_cons, List.reverse_cons, List.append_assoc,
        List.singleton_append]
  exact (hfold ids []).trans (List.append_nil _)

omit [Dependent α] in
theorem lookup_eq_some_of_mem {depths : List (String × Nat)} (hnodup : (depths.map Prod.fst).Nodup)
    {x : String} {n : Nat} (h : (x, n) ∈ depths) : depths.lookup x = some n := by
  obtain ⟨before, after, rfl⟩ := List.append_of_mem h
  refine List.lookup_eq_some_iff.mpr ⟨before, after, rfl, fun pair hpair => ?_⟩
  rw [List.map_append, List.map_cons] at hnodup
  have hne : pair.1 ≠ x := fun heq =>
    (List.nodup_append'.mp hnodup).2.2 (List.mem_map_of_mem hpair) (by simp [heq])
  simpa using hne.symm

/-- The last level of a plan is that of one of the nodes. -/
theorem exists_deepest (hnodup : (nodes.map Dependent.id).Nodup) (hne : nodes ≠ [])
    {ids : List String} (hperm : ids.Perm (nodes.map Dependent.id)) :
    ∃ node ∈ nodes,
      levelOf (depths nodes ids) node = ((depths nodes ids).map Prod.snd).foldl max 0 := by
  have hkeys := keys_depths nodes ids
  have hnone : (depths nodes ids).map Prod.snd ≠ [] := by
    intro hnil
    rw [List.map_eq_nil_iff.mp hnil, List.map_nil] at hkeys
    have hids : ids = [] := List.reverse_eq_nil_iff.mp hkeys.symm
    exact hne (List.map_eq_nil_iff.mp (List.perm_nil.mp (hids ▸ hperm).symm))
  have hmax : ((depths nodes ids).map Prod.snd).foldl max 0 ∈ (depths nodes ids).map Prod.snd := by
    rw [List.foldl_max_eq_max hnone, Nat.zero_max]
    exact List.max_mem hnone
  obtain ⟨⟨x, n⟩, hpair, hn⟩ := List.mem_map.mp hmax
  have hx : x ∈ nodes.map Dependent.id := by
    rw [← hperm.mem_iff, ← List.mem_reverse, ← hkeys]
    exact List.mem_map_of_mem hpair
  obtain ⟨node, hnode, rfl⟩ := List.mem_map.mp hx
  have hdistinct : ((depths nodes ids).map Prod.fst).Nodup := by
    rw [hkeys, List.nodup_reverse]
    exact hperm.nodup_iff.mpr hnodup
  refine ⟨node, hnode, ?_⟩
  rw [levelOf, lookup_eq_some_of_mem hdistinct hpair, Option.getD_some, ← hn]

/-- The levels along a topological order are the rounds of a scan. -/
theorem levels_eq_rounds (hnodup : (nodes.map Dependent.id).Nodup)
    (hknown : ∀ node ∈ nodes, ∀ dependency ∈ dependsOn node, dependency ∈ nodes.map Dependent.id)
    (hne : nodes ≠ []) {ids : List String} (hids : (Graph.ofNodes nodes).Topological ids) :
    levels nodes (depths nodes ids) = rounds nodes := by
  have hperm : ids.Perm (nodes.map Dependent.id) := by
    have := hids.perm
    rwa [Graph.ids_ofNodes, Graph.firsts_eq_self hnodup] at this
  obtain ⟨deepest, hdeepest, hmax⟩ := exists_deepest hnodup hne hperm
  rw [levels_eq, ← hmax]
  refine (rounds_eq_levels (leveled_depths hnodup hknown hids) hdeepest fun node _ => ?_).symm
  rw [hmax]
  exact levelOf_le _ node

/-! ## Plans -/

/-- Levels that are the rounds of a scan which places every node. -/
structure Scanned (nodes : List α) (levels : List (List α)) : Prop where
  rounds : levels = Plan.rounds nodes
  /-- Every node stands on one level, once. -/
  perm : levels.flatten.Perm nodes
  nodup : (levels.flatten.map Dependent.id).Nodup
  /-- What a node depends on stands on levels before its own. -/
  lower : ∀ before level after, levels = before ++ level :: after →
    ∀ node ∈ level, ∀ dependency ∈ dependsOn node,
      dependency ∈ before.flatten.map Dependent.id
  occupied : ∀ level ∈ levels, level ≠ []

theorem scanned_of_makeBy {sort : List α → Except String (List String)}
    (hsort : ∀ ids, sort nodes = .ok ids → (Graph.ofNodes nodes).Topological ids)
    {levels : List (List α)} (h : makeBy sort nodes = .ok levels) : Scanned nodes levels := by
  by_cases hne : nodes = []
  · subst hne
    cases h
    refine ⟨?_, List.Perm.nil, List.nodup_nil, fun before level after heq => ?_, by simp⟩
    · rw [Plan.rounds, scan]
      rfl
    · simp at heq
  obtain ⟨hnodup, hknown, ids, hids, rfl⟩ := makeBy_eq_ok h hne
  have hrounds := levels_eq_rounds hnodup hknown hne (hsort ids hids)
  have hperm := flatten_levels_perm nodes (depths nodes ids)
  refine ⟨hrounds, hperm, (hperm.map _).nodup_iff.mpr hnodup,
    fun before level after heq node hnode dependency hdependency => ?_, ?_⟩
  · exact (placed_before_round (hrounds ▸ heq) node hnode dependency hdependency).resolve_left
      List.not_mem_nil
  · rw [hrounds]
    exact ne_nil_of_mem_scan

/-- The levels of plans are the rounds of a scan in the order of the nodes, whichever
topological order a sort of the graph finds; so are those of the sort in use, and nodes are
executed round after round. -/
theorem plans_are_scans (nodes : List α) :
    (∀ sort : List α → Except String (List String),
      (∀ ids, sort nodes = .ok ids → (Graph.ofNodes nodes).Topological ids) →
        ∀ levels, makeBy sort nodes = .ok levels → Scanned nodes levels) ∧
      ∀ levels, make nodes = .ok levels →
        Scanned nodes levels ∧ sequence nodes = .ok (Plan.rounds nodes).flatten := by
  refine ⟨fun sort hsort levels h => scanned_of_makeBy hsort h, fun levels h => ?_⟩
  have hscanned : Scanned nodes levels :=
    scanned_of_makeBy (fun ids => topological_of_order) (make_eq_makeBy nodes ▸ h)
  refine ⟨hscanned, ?_⟩
  rw [sequence, h, ← hscanned.rounds]
  rfl

/-- Nodes in reverse, with a dependency that is named twice and a second root. -/
def staircase : List Node :=
  [⟨"roof", ["wall", "door", "wall"]⟩, ⟨"door", ["floor"]⟩, ⟨"wall", ["floor"]⟩, ⟨"fence", []⟩,
    ⟨"floor", []⟩]

def storeys : List (List Node) :=
  [[⟨"fence", []⟩, ⟨"floor", []⟩], [⟨"door", ["floor"]⟩, ⟨"wall", ["floor"]⟩],
    [⟨"roof", ["wall", "door", "wall"]⟩]]

theorem staircase_is_scanned :
    makeBy (fun _ => .ok ["floor", "wall", "door", "roof", "fence"]) staircase = .ok storeys ∧
      make staircase = .ok storeys ∧ Scanned staircase storeys ∧
      sequence staircase = .ok (Plan.rounds staircase).flatten := by
  have hsort : ∀ ids, Except.ok ["floor", "wall", "door", "roof", "fence"] =
      (Except.ok ids : Except String (List String)) →
        (Graph.ofNodes staircase).Topological ids := by
    rintro ids ⟨⟩
    exact ⟨by decide, by decide⟩
  have hplan : makeBy (fun _ => .ok ["floor", "wall", "door", "roof", "fence"]) staircase =
      .ok storeys := rfl
  have hmake : make staircase = .ok storeys := rfl
  exact ⟨hplan, hmake, (plans_are_scans staircase).1 _ hsort storeys hplan,
    ((plans_are_scans staircase).2 storeys hmake).2⟩

end Plan

end Workflow
