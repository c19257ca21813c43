import Mathlib.Data.List.Perm.Basic
import Workflow.Graph.Plan
import Workflow.Proofs.Graph.Search

/-!
# The order of a plan

A plan exists exactly if ids are unique, dependencies are known and none leads back to its own step.
It lists every node once, and each node after all that it depends on: the depth of a node is greater
than that of its dependencies, and the levels are taken by depth.
-/

namespace Workflow

open Dependent (dependsOn)

variable {α : Type} [Dependent α] {nodes order : List α}

/-! ## Graphs of nodes -/

namespace Graph

/-- One step of choosing the first of the nodes with each id. -/
def addFirst (found : List α) (node : α) : List α :=
  if found.any fun other => Dependent.id other = Dependent.id node then found else found ++ [node]

theorem nodup_ids_addFirst {found : List α} (h : (found.map Dependent.id).Nodup) (node : α) :
    ((addFirst found node).map Dependent.id).Nodup := by
  unfold addFirst
  split
  · exact h
  · next hnew =>
    rw [List.map_append, List.map_singleton]
    refine List.Nodup.append h (List.nodup_singleton _)
      (List.disjoint_singleton.mpr fun hin => hnew ?_)
    obtain ⟨other, hother, heq⟩ := List.mem_map.mp hin
    exact List.any_eq_true.mpr ⟨other, hother, decide_eq_true heq⟩

theorem nodup_ids_firsts (nodes : List α) : ((firsts nodes).map Dependent.id).Nodup := by
  have hfold : ∀ (nodes found : List α), (found.map Dependent.id).Nodup →
    ((nodes.foldl addFirst found).map Dependent.id).Nodup := by
    intro nodes
    induction nodes with
    | nil => exact fun _ h => h
    | cons node rest ih => exact fun found h => ih _ (nodup_ids_addFirst h node)
  exact hfold nodes [] List.nodup_nil

/-- With unique ids every node is the first of its id. -/
theorem firsts_eq_self (h : (nodes.map Dependent.id).Nodup) : firsts nodes = nodes := by
  have hfold : ∀ (rest found : List α), ((found ++ rest).map Dependent.id).Nodup →
    rest.foldl addFirst found = found ++ rest := by
    intro rest
    induction rest with
    | nil => exact fun found _ => (List.append_nil found).symm
    | cons node rest ih =>
      intro found hnodup
      have hnew : addFirst found node = found ++ [node] := by
        refine if_neg fun hany => ?_
        obtain ⟨other, hother, heq⟩ := List.any_eq_true.mp hany
        rw [List.map_append] at hnodup
        have hdisjoint := (List.nodup_append'.mp hnodup).2.2
        exact hdisjoint (List.mem_map_of_mem hother) (by simp [of_decide_eq_true heq])
      rw [List.foldl_cons, hnew, ih (found ++ [node]) (by simpa using hnodup), List.append_assoc,
        List.singleton_append]
  exact hfold nodes [] h

/-- All that a graph looks at in a node. -/
def nodeOf (node : α) : Node := ⟨Dependent.id node, dependsOn node⟩

theorem addFirst_map_nodeOf (found : List α) (node : α) :
    addFirst (found.map nodeOf) (nodeOf node) = (addFirst found node).map nodeOf := by
  have hany :
    ((found.map nodeOf).any fun other => Dependent.id other = Dependent.id (nodeOf node)) =
      found.any fun other => Dependent.id other = Dependent.id node := List.any_map
  rw [addFirst, addFirst, hany]
  split
  · rfl
  · rw [List.map_append, List.map_singleton]

theorem firsts_map_nodeOf (nodes : List α) :
    firsts (nodes.map nodeOf) = (firsts nodes).map nodeOf := by
  have hfold : ∀ (nodes found : List α),
      (nodes.map nodeOf).foldl addFirst (found.map nodeOf) =
        (nodes.foldl addFirst found).map nodeOf := by
    intro nodes
    induction nodes with
    | nil => exact fun _ => rfl
    | cons node rest ih =>
      intro found
      rw [List.map_cons, List.foldl_cons, List.foldl_cons, addFirst_map_nodeOf, ih]
  exact hfold nodes []

/-- Only ids and dependencies matter to the graph of a list of nodes. -/
theorem ofNodes_map_nodeOf (nodes : List α) : ofNodes (nodes.map nodeOf) = ofNodes nodes := by
  have hids : ((firsts nodes).map nodeOf).map Dependent.id = (firsts nodes).map Dependent.id :=
    List.map_map
  simp only [ofNodes, firsts_map_nodeOf, hids, List.flatMap_map]
  rfl
theorem ids_ofNodes (nodes : List α) : (ofNodes nodes).ids = (firsts nodes).map Dependent.id := rfl

/-- An edge leads from a known dependency to the node that declares it. -/
theorem mem_edges_ofNodes {a b : String} :
    (a, b) ∈ (ofNodes nodes).edges ↔
      a ∈ (ofNodes nodes).ids ∧
        ∃ node ∈ firsts nodes, Dependent.id node = b ∧ a ∈ dependsOn node := by
  simp only [ofNodes, List.mem_flatMap, List.mem_map, List.mem_filter, decide_eq_true_eq,
    Prod.mk.injEq]
  constructor
  · rintro ⟨node, hnode, dependency, ⟨hdependency, hknown⟩, rfl, rfl⟩
    exact ⟨hknown, node, hnode, rfl, hdependency⟩
  · rintro ⟨hknown, node, hnode, rfl, hdependency⟩
    exact ⟨node, hnode, a, ⟨hdependency, hknown⟩, rfl, rfl⟩

theorem proper_ofNodes (nodes : List α) : (ofNodes nodes).Proper where
  nodup := nodup_ids_firsts nodes
  source _ _ h := (mem_edges_ofNodes.mp h).1
  target _ _ h := by
    obtain ⟨-, node, hnode, rfl, -⟩ := mem_edges_ofNodes.mp h
    exact List.mem_map_of_mem hnode

end Graph

namespace Plan

/-! ## Duplicate and unknown ids -/

theorem duplicate?_eq_none_iff (seen ids : List String) :
    duplicate? seen ids = none ↔ ids.Nodup ∧ ∀ x ∈ ids, x ∉ seen := by
  induction ids generalizing seen with
  | nil => simp [duplicate?]
  | cons head rest ih =>
    rw [duplicate?]
    by_cases hseen : head ∈ seen
    · simp [hseen]
    · rw [if_neg hseen, ih, List.nodup_cons]
      simp only [List.mem_append, List.mem_cons]
      grind

theorem unknown?_eq_none_iff (ids : List String) (nodes : List α) :
    unknown? ids nodes = none ↔
      ∀ node ∈ nodes, ∀ dependency ∈ dependsOn node, dependency ∈ ids := by
  simp [unknown?]

theorem dependenciesOf_eq (h : (nodes.map Dependent.id).Nodup) {node : α} (hnode : node ∈ nodes) :
    dependenciesOf nodes (Dependent.id node) = dependsOn node := by
  obtain ⟨before, after, rfl⟩ := List.append_of_mem hnode
  rw [List.map_append, List.map_cons] at h
  have hbefore : ∀ other ∈ before, Dependent.id other ≠ Dependent.id node := by
    intro other hother heq
    exact (List.nodup_append'.mp h).2.2 (List.mem_map_of_mem hother) (by simp [heq])
  have hfind : (before ++ node :: after).find?
      (fun other => decide (Dependent.id other = Dependent.id node)) = some node := by
    refine List.find?_eq_some_iff_append.mpr ⟨decide_eq_true rfl, before, after, rfl,
      fun other hother => ?_⟩
    simpa using hbefore other hother
  rw [dependenciesOf, hfind]
  rfl

/-! ## Orders in which dependencies come first -/

/-- Each id of a list has its dependencies before it, in the list or among those placed already. -/
def Respects (dependencies : String → List String) (placed : List String) : List String → Prop
  | [] => True
  | head :: rest => (∀ dependency ∈ dependencies head, dependency ∈ placed) ∧
  Respects dependencies (head :: placed) rest

theorem misplaced?_eq_none_iff (nodes : List α) (placed ids : List String) :
    misplaced? nodes placed ids = none ↔ Respects (dependenciesOf nodes) placed ids := by
  induction ids generalizing placed with
  | nil => simp [misplaced?, Respects]
  | cons head rest ih =>
    rw [misplaced?, Respects, ← ih]
    cases hfind : (dependenciesOf nodes head).find? (· ∉ placed) with
    | none =>
      have hall : ∀ dependency ∈ dependenciesOf nodes head, dependency ∈ placed := by
        simpa using hfind
      exact ⟨fun h => ⟨hall, h⟩, fun h => h.2⟩
    | some dependency =>
      have hmem := List.mem_of_find?_eq_some hfind
      have hnot : dependency ∉ placed := by simpa using List.find?_some hfind
      simp only [reduceCtorEq, false_iff]
      exact fun hall => hnot (hall.1 dependency hmem)

/-- A descending order of the dependents respects dependencies. -/
theorem respects_of_descending {dependencies next : String → List String}
    {placed ids : List String} (hdescending : Graph.Search.Descending next ids)
    (hnodup : ids.Nodup)
    (hknown : ∀ x ∈ ids, ∀ dependency ∈ dependencies x, dependency ∈ placed ∨ dependency ∈ ids)
    (hnext : ∀ x, ∀ dependency ∈ dependencies x, x ∈ next dependency) :
    Respects dependencies placed ids := by
  induction ids generalizing placed with
  | nil => trivial
  | cons head rest ih =>
    obtain ⟨hhead, hrest⟩ := List.nodup_cons.mp hnodup
    refine ⟨fun dependency hdependency => ?_,
      ih hdescending.2 hrest fun x hx dependency hdependency => ?_⟩
    · rcases hknown head List.mem_cons_self dependency hdependency with hplaced | hin
      · exact hplaced
      · rcases List.mem_cons.mp hin with rfl | hin
        · exact absurd (hdescending.1 _ (hnext _ _ hdependency)) hhead
        · exact absurd (hdescending.2.closed dependency hin head (hnext _ _ hdependency)) hhead
    · rcases hknown x (List.mem_cons_of_mem head hx) dependency hdependency with hplaced | hin
      · exact Or.inl (List.mem_cons_of_mem head hplaced)
      · rcases List.mem_cons.mp hin with rfl | hin
        · exact Or.inl List.mem_cons_self
        · exact Or.inr hin

/-! ## Depths -/

theorem le_foldl_max {n : Nat} {ns : List Nat} (hn : n ∈ ns) (m : Nat) : n ≤ ns.foldl max m := by
  rw [List.foldl_max_eq_max (List.ne_nil_of_mem hn)]
  exact Nat.le_trans (List.le_max_of_mem hn) (Nat.le_max_right _ _)

theorem lt_depthOf (depths : List (String × Nat)) {dependencies : List String}
    {dependency : String} (h : dependency ∈ dependencies) :
    (depths.lookup dependency).getD 0 < depthOf depths dependencies :=
  le_foldl_max
    (List.mem_map_of_mem (f := fun dependency => (depths.lookup dependency).getD 0 + 1) h) 0

/-- Noting the depth of another id leaves a depth as it is. -/
theorem depthOf_cons {depths : List (String × Nat)} {dependencies : List String} {other : String}
    (n : Nat) (h : other ∉ dependencies) :
    depthOf ((other, n) :: depths) dependencies = depthOf depths dependencies := by
  unfold depthOf
  congr 1
  refine List.map_congr_left fun dependency hdependency => ?_
  have hne : (dependency == other) = false := beq_false_of_ne fun heq => h (heq ▸ hdependency)
  rw [List.lookup_cons, hne]

/-- Every id has the depth that its dependencies give it, and they have theirs. -/
def Graded (dependencies : String → List String) (depths : List (String × Nat)) : Prop :=
  ∀ x ∈ depths.map Prod.fst, (∀ dependency ∈ dependencies x, dependency ∈ depths.map Prod.fst) ∧
    depths.lookup x = some (depthOf depths (dependencies x))

theorem Graded.cons {dependencies : String → List String} {depths : List (String × Nat)}
    (h : Graded dependencies depths) {head : String} (hnew : head ∉ depths.map Prod.fst)
    (hplaced : ∀ dependency ∈ dependencies head, dependency ∈ depths.map Prod.fst) :
    Graded dependencies ((head, depthOf depths (dependencies head)) :: depths) := by
  intro x hx
  rw [List.map_cons, List.mem_cons] at hx
  rcases hx with rfl | hx
  · refine ⟨fun dependency hdependency =>
      List.mem_cons_of_mem _ (hplaced dependency hdependency), ?_⟩
    rw [List.lookup_cons_self, depthOf_cons _ fun hself => hnew (hplaced _ hself)]
  · obtain ⟨hdependencies, hlookup⟩ := h x hx
    have hne : (x == head) = false := beq_false_of_ne fun heq => hnew (heq ▸ hx)
    refine ⟨fun dependency hdependency => List.mem_cons_of_mem _
      (hdependencies dependency hdependency), ?_⟩
    rw [List.lookup_cons, hne, depthOf_cons _ fun hself => hnew (hdependencies _ hself)]
    exact hlookup

/-- Along an order that respects dependencies every id gets its depth. -/
theorem graded_depths {ids : List String} (hrespects : Respects (dependenciesOf nodes) [] ids)
    (hnodup : ids.Nodup) :
    Graded (dependenciesOf nodes) (depths nodes ids) ∧ ∀ x ∈ ids,
    x ∈ (depths nodes ids).map Prod.fst := by
  have hfold : ∀ (ids : List String) (found : List (String × Nat)),
    Graded (dependenciesOf nodes) found →
      Respects (dependenciesOf nodes) (found.map Prod.fst) ids → ids.Nodup →
        (∀ x ∈ ids, x ∉ found.map Prod.fst) →
      let all :=
        ids.foldl (fun depths x => (x, depthOf depths (dependenciesOf nodes x)) :: depths) found
      Graded (dependenciesOf nodes) all ∧ ∀ x, x ∈ ids ∨ x ∈ found.map Prod.fst →
        x ∈ all.map Prod.fst := by
    intro ids
    induction ids with
    | nil =>
      exact fun found hgraded _ _ _ => ⟨hgraded, fun x hx => hx.resolve_left List.not_mem_nil⟩
    | cons head rest ih =>
      intro found hgraded hrespects hnodup hnew
      obtain ⟨hhead, hrest⟩ := List.nodup_cons.mp hnodup
      have hcons := hgraded.cons (hnew head List.mem_cons_self) hrespects.1
      have hfresh : ∀ x ∈ rest,
          x ∉ ((head, depthOf found (dependenciesOf nodes head)) :: found).map Prod.fst := by
        intro x hx hin
        rcases List.mem_cons.mp hin with rfl | hin
        · exact hhead hx
        · exact hnew x (List.mem_cons_of_mem head hx) hin
      obtain ⟨hall, hkeys⟩ := ih _ hcons hrespects.2 hrest hfresh
      refine ⟨hall, fun x hx => hkeys x ?_⟩
      rw [List.mem_cons, or_assoc] at hx
      rcases hx with rfl | hx | hx
      · exact Or.inr List.mem_cons_self
      · exact Or.inl hx
      · exact Or.inr (List.mem_cons_of_mem head hx)
  obtain ⟨hgraded, hkeys⟩ := hfold ids [] (fun x hx => absurd hx List.not_mem_nil) hrespects hnodup
    (fun _ _ => List.not_mem_nil)
  exact ⟨hgraded, fun x hx => hkeys x (Or.inl hx)⟩

/-! ## Levels -/

def levelOf (depths : List (String × Nat)) (node : α) : Nat :=
  (depths.lookup (Dependent.id node)).getD 0

theorem levelOf_le (depths : List (String × Nat)) (node : α) :
    levelOf depths node ≤ (depths.map Prod.snd).foldl max 0 := by
  unfold levelOf
  cases hlookup : depths.lookup (Dependent.id node) with
  | none => exact Nat.zero_le _
  | some n =>
    obtain ⟨before, after, rfl, -⟩ := List.lookup_eq_some_iff.mp hlookup
    exact le_foldl_max (by simp) 0

theorem levels_eq (nodes : List α) (depths : List (String × Nat)) :
    levels nodes depths = (List.range ((depths.map Prod.snd).foldl max 0 + 1)).map fun level =>
      nodes.filter fun node => levelOf depths node = level := rfl

omit [Dependent α] in
/-- The levels up to a limit hold the nodes up to it. -/
theorem flatten_levels_perm_filter (level : α → Nat) (nodes : List α) (limit : Nat) :
    ((List.range limit).map fun n => nodes.filter fun node => level node = n).flatten.Perm
      (nodes.filter fun node => level node < limit) := by
  induction limit with
  | zero => simp
  | succ limit ih =>
    rw [List.range_succ, List.map_append, List.flatten_append, List.map_singleton,
      List.flatten_singleton]
    refine (ih.append_right _).trans ?_
    have hsplit := List.filter_append_perm (fun node => decide (level node < limit))
      (nodes.filter fun node => level node < limit + 1)
    rw [List.filter_filter, List.filter_filter] at hsplit
    refine List.Perm.trans (List.Perm.of_eq ?_) hsplit
    congr 1 <;> refine List.filter_congr fun node _ => ?_
    · grind
    · grind

theorem flatten_levels_perm (nodes : List α) (depths : List (String × Nat)) :
    (levels nodes depths).flatten.Perm nodes := by
  rw [levels_eq]
  refine (flatten_levels_perm_filter _ nodes _).trans (List.Perm.of_eq ?_)
  exact List.filter_eq_self.mpr fun node _ =>
    decide_eq_true (Nat.lt_succ_of_le (levelOf_le depths node))

/-- The levels are taken one after the other. -/
theorem pairwise_flatten_levels (nodes : List α) (depths : List (String × Nat)) :
    (levels nodes depths).flatten.Pairwise fun a b => levelOf depths a ≤ levelOf depths b := by
  have hlevel :
    ∀ {level : Nat} {node : α}, node ∈ nodes.filter (fun node => levelOf depths node = level) →
      levelOf depths node = level := fun h => of_decide_eq_true (List.mem_filter.mp h).2
  rw [levels_eq, List.pairwise_flatten]
  constructor
  · intro nodesOfLevel hin
    obtain ⟨level, -, rfl⟩ := List.mem_map.mp hin
    exact List.pairwise_of_forall_mem_list fun a ha b hb =>
      Nat.le_of_eq ((hlevel ha).trans (hlevel hb).symm)
  · refine List.pairwise_map.mpr (List.pairwise_lt_range.imp fun hlt a ha b hb => ?_)
    rw [hlevel ha, hlevel hb]
    exact Nat.le_of_lt hlt

/-! ## Orders of plans -/

/-- The graph in which the ids of nodes are searched. -/
theorem closed_dependents (nodes : List α) :
    ∀ a ∈ (Graph.ofNodes nodes).ids, ∀ b ∈ (Graph.ofNodes nodes).dependents a,
    b ∈ (Graph.ofNodes nodes).ids :=
  fun a _ b hb => (Graph.proper_ofNodes nodes).target a b (Graph.mem_dependents.mp hb)

/-- An order that has been found lists every id once, with its dependencies before it. -/
theorem order_eq_ok {ids : List String} (h : Plan.order nodes = .ok ids) :
    ids.Perm (Graph.ofNodes nodes).ids ∧ Respects (dependenciesOf nodes) [] ids := by
  unfold Plan.order at h
  simp only at h
  split at h
  · cases h
  split at h
  · cases h
  next hmisplaced =>
    cases h
    exact ⟨Graph.Search.perm_finished_ofRoots (closed_dependents nodes) (Nat.lt_succ_self _)
      (Graph.proper_ofNodes nodes).nodup, (misplaced?_eq_none_iff nodes [] _).mp hmisplaced⟩

/-- A known dependency has an edge to the id that declares it. -/
theorem edge_of_mem_dependenciesOf (hnodup : (nodes.map Dependent.id).Nodup)
    (hknown : ∀ node ∈ nodes, ∀ dependency ∈ dependsOn node, dependency ∈ nodes.map Dependent.id)
    {x dependency : String} (h : dependency ∈ dependenciesOf nodes x) :
    (dependency, x) ∈ (Graph.ofNodes nodes).edges := by
  unfold dependenciesOf at h
  cases hfind : nodes.find? fun node => Dependent.id node = x with
  | none => simp [hfind] at h
  | some node =>
    have hnode := List.mem_of_find?_eq_some hfind
    have hx : Dependent.id node = x := by simpa using List.find?_some hfind
    rw [hfind] at h
    rw [Graph.mem_edges_ofNodes, Graph.ids_ofNodes, Graph.firsts_eq_self hnodup]
    exact ⟨hknown node hnode dependency h, node, hnode, hx, h⟩

/-- Nodes without a cycle have an order. -/
theorem exists_order (hnodup : (nodes.map Dependent.id).Nodup)
    (hknown : ∀ node ∈ nodes, ∀ dependency ∈ dependsOn node, dependency ∈ nodes.map Dependent.id)
    (hacyclic : Graph.Acyclic (Graph.ofNodes nodes).dependents) :
    ∃ ids, Plan.order nodes = .ok ids := by
  have hproper := Graph.proper_ofNodes nodes
  have hclosed := closed_dependents nodes
  have hcycles := (hproper.cycles_ofRoots_eq_nil_iff fun _ _ => Graph.mem_dependents).mpr hacyclic
  have hperm := Graph.Search.perm_finished_ofRoots hclosed (Nat.lt_succ_self _) hproper.nodup
  have hdescending :=
    Graph.Search.descending_ofRoots hclosed (Nat.lt_succ_self _) (fun _ => id) hcycles
  have hself : ∀ ids : List String,
      ids.find? (fun x => x ∈ (Graph.ofNodes nodes).dependents x) = none := by
    intro ids
    refine List.find?_eq_none.mpr fun x _ hx => hacyclic x (Relation.TransGen.single ?_)
    simpa using hx
  have hrespects : Respects (dependenciesOf nodes) [] _ := respects_of_descending hdescending
    (hperm.nodup_iff.mpr hproper.nodup)
    (fun x _ dependency h =>
      Or.inr (hperm.mem_iff.mpr (hproper.source _ _ (edge_of_mem_dependenciesOf hnodup hknown h))))
    (fun x dependency h => Graph.mem_dependents.mpr (edge_of_mem_dependenciesOf hnodup hknown h))
  have hmisplaced := (misplaced?_eq_none_iff nodes [] _).mpr hrespects
  unfold Plan.order
  simp only [hself, hmisplaced]
  exact ⟨_, rfl⟩

/-- An order of execution: every node once, and each after all that it depends on. -/
structure Sequenced (nodes order : List α) : Prop where
  perm : order.Perm nodes
  nodup : (nodes.map Dependent.id).Nodup
  first : ∀ done node rest, order = done ++ node :: rest →
    ∀ dependency ∈ dependsOn node, dependency ∈ done.map Dependent.id

/-- The levels of a plan for the nodes, along the order of their ids that `sort` finds. -/
def makeBy (sort : List α → Except String (List String)) (nodes : List α) :
    Except PlanFault (List (List α)) :=
  if nodes.isEmpty then .ok []
  else
    let ids := nodes.map Dependent.id
    match duplicate? [] ids with
    | some id => .error (.duplicate id)
    | none =>
      match unknown? ids nodes with
      | some (id, dependency) => .error (.unknown id dependency)
      | none =>
        match sort nodes with
        | .error id => .error (.cycle id)
        | .ok order => .ok (levels nodes (depths nodes order))

theorem make_eq_makeBy (nodes : List α) : make nodes = makeBy Plan.order nodes := rfl

/-- What the plan of nodes rests on. -/
theorem makeBy_eq_ok {sort : List α → Except String (List String)} {levels : List (List α)}
    (h : makeBy sort nodes = .ok levels) (hne : nodes ≠ []) :
    (nodes.map Dependent.id).Nodup ∧
      (∀ node ∈ nodes, ∀ dependency ∈ dependsOn node, dependency ∈ nodes.map Dependent.id) ∧
      ∃ ids, sort nodes = .ok ids ∧ levels = Plan.levels nodes (depths nodes ids) := by
  unfold makeBy at h
  rw [if_neg (by simpa using hne)] at h
  simp only at h
  split at h
  · cases h
  next hduplicate =>
    split at h
    · cases h
    next hunknown =>
      split at h
      · cases h
      next ids horder =>
        cases h
        exact ⟨((duplicate?_eq_none_iff [] _).mp hduplicate).1,
          (unknown?_eq_none_iff _ nodes).mp hunknown,
          ids, horder, rfl⟩

theorem make_eq_ok {levels : List (List α)} (h : Plan.make nodes = .ok levels) (hne : nodes ≠ []) :
    (nodes.map Dependent.id).Nodup ∧
      (∀ node ∈ nodes, ∀ dependency ∈ dependsOn node, dependency ∈ nodes.map Dependent.id) ∧
      ∃ ids, Plan.order nodes = .ok ids ∧ levels = Plan.levels nodes (depths nodes ids) :=
  makeBy_eq_ok (make_eq_makeBy nodes ▸ h) hne

/-- Nodes with unique ids and known dependencies have a plan if the ids can be sorted. -/
theorem makeBy_of_known (sort : List α → Except String (List String))
    (hnodup : (nodes.map Dependent.id).Nodup)
    (hknown : ∀ node ∈ nodes, ∀ dependency ∈ dependsOn node, dependency ∈ nodes.map Dependent.id)
    (hne : nodes ≠ []) :
    makeBy sort nodes =
      match sort nodes with
      | .error id => .error (.cycle id)
      | .ok ids => .ok (levels nodes (depths nodes ids)) := by
  have hduplicate :=
    (duplicate?_eq_none_iff [] (nodes.map Dependent.id)).mpr ⟨hnodup, fun _ _ => List.not_mem_nil⟩
  have hunknown := (unknown?_eq_none_iff (nodes.map Dependent.id) nodes).mpr hknown
  unfold makeBy
  rw [if_neg (by simpa using hne)]
  simp only [hduplicate, hunknown]

/-- The order of a plan lists every node once, and each after all that it depends on. -/
theorem sequenced (h : Plan.sequence nodes = .ok order) : Sequenced nodes order := by
  unfold Plan.sequence at h
  cases hmake : Plan.make nodes with
  | error fault => simp [hmake, bind, Except.bind] at h
  | ok levels =>
    have horder : levels.flatten = order := by
      simpa [hmake, bind, Except.bind, pure, Except.pure] using h
    subst horder
    by_cases hne : nodes = []
    · subst hne
      cases hmake
      exact ⟨List.Perm.nil, List.nodup_nil, fun done node rest heq => by simp at heq⟩
    obtain ⟨hnodup, hknown, ids, hids, rfl⟩ := make_eq_ok hmake hne
    obtain ⟨hperm, hrespects⟩ := order_eq_ok hids
    have hproper := Graph.proper_ofNodes nodes
    obtain ⟨hgraded, hall⟩ := graded_depths hrespects (hperm.nodup_iff.mpr hproper.nodup)
    have hdepth : ∀ node ∈ nodes, Dependent.id node ∈ (depths nodes ids).map Prod.fst := by
      intro node hnode
      refine hall _ (hperm.mem_iff.mpr ?_)
      rw [Graph.ids_ofNodes, Graph.firsts_eq_self hnodup]
      exact List.mem_map_of_mem hnode
    have hlevels := flatten_levels_perm nodes (depths nodes ids)
    refine ⟨hlevels, hnodup, fun done node rest heq dependency hdependency => ?_⟩
    have hnode : node ∈ nodes := hlevels.mem_iff.mp (heq ▸ by simp)
    obtain ⟨other, hother, rfl⟩ := List.mem_map.mp (hknown node hnode dependency hdependency)
    have hlower : levelOf (depths nodes ids) other < levelOf (depths nodes ids) node := by
      rw [levelOf, levelOf, (hgraded _ (hdepth node hnode)).2, dependenciesOf_eq hnodup hnode]
      exact lt_depthOf _ hdependency
    -- What is not before the node is on its level or on a deeper one.
    have hsorted := pairwise_flatten_levels nodes (depths nodes ids)
    have hin : other ∈ done ++ node :: rest := heq ▸ hlevels.mem_iff.mpr hother
    rw [heq, List.pairwise_append] at hsorted
    rcases List.mem_append.mp hin with hdone | hlater
    · exact List.mem_map_of_mem hdone
    · rcases List.mem_cons.mp hlater with rfl | hrest
      · exact absurd hlower (Nat.lt_irrefl _)
      · exact absurd ((List.pairwise_cons.mp hsorted.2.1).1 other hrest) (Nat.not_le_of_lt hlower)

/-- Nodes with unique ids, known dependencies and no cycle have a plan. -/
theorem exists_sequence (hnodup : (nodes.map Dependent.id).Nodup)
    (hknown : ∀ node ∈ nodes, ∀ dependency ∈ dependsOn node, dependency ∈ nodes.map Dependent.id)
    (hacyclic : Graph.Acyclic (Graph.ofNodes nodes).dependents) :
    ∃ order, Plan.sequence nodes = .ok order := by
  obtain ⟨ids, hids⟩ := exists_order hnodup hknown hacyclic
  have hduplicate :=
    (duplicate?_eq_none_iff [] (nodes.map Dependent.id)).mpr ⟨hnodup, fun _ _ => List.not_mem_nil⟩
  have hunknown := (unknown?_eq_none_iff (nodes.map Dependent.id) nodes).mpr hknown
  unfold Plan.sequence Plan.make
  simp only [hduplicate, hunknown, hids]
  split <;> exact ⟨_, rfl⟩

end Plan

end Workflow
