import Mathlib.Data.List.Count
import Workflow.Proofs.Graph.Cycles

/-!
# How often a cycle is noted

A search closes a cycle each time it follows an edge back to its path, and it follows every edge
once. The cycle is given by the two ends of that edge, as a node is visited along a single path. So
each cycle is noted as often as there are edges from its last node to its first, and in the graph of
a list of nodes there are as many as the first one lists the last among its dependencies.
-/

namespace Workflow.Graph

/-- The first and the last node of a cycle. -/
def Ends (first last : String) (cycle : List String) : Prop :=
  cycle.head? = some first ∧ cycle.getLast? = some last

namespace Search

variable {next : String → List String} {ids path : List String} {s t u : Search}
  {added more : List (List String)} {cycle : List String} {node other : String}

/-- The cycle that an edge from the end of a path back to one of its nodes closes. -/
abbrev closedBy (path : List String) (other : String) : List String := path.dropWhile (· ≠ other)

theorem ends_closedBy (h : other ∈ path ++ [node]) :
    Ends other node (closedBy (path ++ [node]) other) := by
  obtain ⟨before, after, hsplit, hdrop⟩ := exists_dropWhile_ne h
  have hlast : (path ++ [node]).getLast? = some node := List.getLast?_concat
  rw [hsplit, List.getLast?_append_of_ne_nil _ (List.cons_ne_nil other after)] at hlast
  rw [closedBy, hdrop]
  exact ⟨rfl, hlast⟩

/-- Edges back to different nodes close different cycles. -/
theorem closedBy_injective {first second : String} (hfirst : first ∈ path ++ [node])
    (hsecond : second ∈ path ++ [node])
    (h : closedBy (path ++ [node]) first = closedBy (path ++ [node]) second) : first = second := by
  have hhead := (ends_closedBy hfirst).1
  rw [h, (ends_closedBy hsecond).1] at hhead
  exact (Option.some.inj hhead).symm

/-! ## What is added to a search -/

/-- A cycle that ends with a node discovered between two searches is among the cycles added as often
as there are edges from its last node to its first. -/
def Counted (next : String → List String) (s t : Search) (added : List (List String))
    (cycle : List String) : Prop :=
  ∃ first last, Ends first last cycle ∧ last ∉ s.discovered ∧ last ∈ t.discovered ∧
    added.count cycle = (next last).count first

/-- A visit has made a search into another and added cycles to it. -/
structure Adds (next : String → List String) (s t : Search) (added : List (List String)) :
    Prop where
  cycles : t.cycles = s.cycles ++ added
  discovered : s.discovered ⊆ t.discovered
  counted : ∀ cycle ∈ added, Counted next s t added cycle

theorem Adds.refl (next : String → List String) (s : Search) : Adds next s s [] :=
  ⟨(List.append_nil _).symm, List.Subset.refl _, fun _ h => absurd h List.not_mem_nil⟩

/-- The cycles added end with new nodes. -/
theorem Adds.not_mem_of_old {last : String} (h : Adds next s t added)
    (hlast : cycle.getLast? = some last) (hold : last ∈ s.discovered) : cycle ∉ added := by
  intro hcycle
  obtain ⟨_, new, hends, hnew, -, -⟩ := h.counted cycle hcycle
  obtain rfl : last = new := Option.some.inj (hlast.symm.trans hends.2)
  exact hnew hold

/-- All of these nodes are known after the visit. -/
theorem Adds.not_mem_of_new {last : String} (h : Adds next s t added)
    (hlast : cycle.getLast? = some last) (hnew : last ∉ t.discovered) : cycle ∉ added := by
  intro hcycle
  obtain ⟨_, old, hends, -, hold, -⟩ := h.counted cycle hcycle
  obtain rfl : last = old := Option.some.inj (hlast.symm.trans hends.2)
  exact hnew hold

theorem Counted.append (h : Counted next s t added cycle) (htu : Adds next t u more) :
    Counted next s u (added ++ more) cycle := by
  obtain ⟨first, last, hends, hnew, hold, hcount⟩ := h
  have hmore : more.count cycle = 0 := List.count_eq_zero.mpr (htu.not_mem_of_old hends.2 hold)
  refine ⟨first, last, hends, hnew, htu.discovered hold, ?_⟩
  rw [List.count_append, hmore, Nat.add_zero, hcount]

theorem Counted.prepend (h : Counted next t u more cycle) (hst : s.discovered ⊆ t.discovered)
    (hnot : cycle ∉ added) : Counted next s u (added ++ more) cycle := by
  obtain ⟨first, last, hends, hnew, hold, hcount⟩ := h
  refine ⟨first, last, hends, fun hin => hnew (hst hin), hold, ?_⟩
  rw [List.count_append, List.count_eq_zero.mpr hnot, Nat.zero_add, hcount]

theorem Adds.trans (hst : Adds next s t added) (htu : Adds next t u more) :
    Adds next s u (added ++ more) where
  cycles := by rw [htu.cycles, hst.cycles, List.append_assoc]
  discovered := List.Subset.trans hst.discovered htu.discovered
  counted cycle hcycle := by
    rcases List.mem_append.mp hcycle with hadded | hmore
    · exact (hst.counted cycle hadded).append htu
    · have hcounted := htu.counted cycle hmore
      obtain ⟨_, last, hends, hnew, -, -⟩ := id hcounted
      exact hcounted.prepend hst.discovered (hst.not_mem_of_new hends.2 hnew)

/-! ## Edges from the end of a path -/

/-- What has been added since a node was discovered at the end of a path, when some of its edges
have been followed: the cycles that these edges close, and those of nodes visited behind it. -/
structure AddsAlong (next : String → List String) (path : List String) (node : String)
    (taken : List String) (s t : Search) (added : List (List String)) : Prop where
  cycles : t.cycles = s.cycles ++ added
  discovered : s.discovered ⊆ t.discovered
  own : ∀ other ∈ path ++ [node],
    added.count (closedBy (path ++ [node]) other) = taken.count other
  counted : ∀ cycle ∈ added, (∃ other ∈ path ++ [node], cycle = closedBy (path ++ [node]) other) ∨
    Counted next s t added cycle

variable {taken : List String}

theorem AddsAlong.refl (next : String → List String) (path : List String) (node : String)
    (s : Search) : AddsAlong next path node [] s s [] :=
  ⟨(List.append_nil _).symm, List.Subset.refl _, fun _ _ => rfl,
    fun _ h => absurd h List.not_mem_nil⟩

theorem count_snoc_of_ne {first second : String} (h : second ≠ first) :
    (taken ++ [second]).count first = taken.count first := by
  rw [List.count_append, List.count_singleton, if_neg (by simpa using h), Nat.add_zero]

/-- An edge to a node off the path closes no cycle. -/
theorem AddsAlong.pass (h : AddsAlong next path node taken s t added)
    (hoff : other ∉ path ++ [node]) :
    AddsAlong next path node (taken ++ [other]) s t added where
  cycles := h.cycles
  discovered := h.discovered
  own on hon := by
    have hne : other ≠ on := fun heq => hoff (heq ▸ hon)
    rw [h.own on hon, count_snoc_of_ne hne]
  counted := h.counted

/-- An edge back to the path closes its cycle once more. -/
theorem AddsAlong.close (h : AddsAlong next path node taken s t added)
    (hon : other ∈ path ++ [node]) :
    AddsAlong next path node (taken ++ [other]) s (close t (path ++ [node]) other)
      (added ++ [closedBy (path ++ [node]) other]) where
  cycles := by rw [Search.close, h.cycles, List.append_assoc]
  discovered := h.discovered
  own on hin := by
    rw [List.count_append, List.count_append, h.own on hin]
    by_cases heq : other = on
    · rw [heq, List.count_singleton_self, List.count_singleton_self]
    · have hne : closedBy (path ++ [node]) other ≠ closedBy (path ++ [node]) on :=
        fun hcycle => heq (closedBy_injective hon hin hcycle)
      rw [List.count_singleton, List.count_singleton, if_neg (by simpa using hne),
        if_neg (by simpa using heq)]
  counted cycle hcycle := by
    by_cases hsame : cycle = closedBy (path ++ [node]) other
    · exact Or.inl ⟨other, hon, hsame⟩
    have hold : cycle ∈ added :=
      (List.mem_append.mp hcycle).resolve_right fun hin => hsame (List.mem_singleton.mp hin)
    apply (h.counted cycle hold).imp_right
    rintro ⟨first, last, hends, hnew, hknown, hcount⟩
    refine ⟨first, last, hends, hnew, hknown, ?_⟩
    rw [List.count_append, List.count_singleton, if_neg (by simpa using Ne.symm hsame),
      Nat.add_zero, hcount]

/-- An edge to a new node adds the cycles of a visit. They do not end where the path does. -/
theorem AddsAlong.visit (h : AddsAlong next path node taken s t added)
    (hpath : ∀ x ∈ path ++ [node], x ∈ t.discovered) (hother : other ∉ t.discovered)
    (hvisit : Adds next t u more) :
    AddsAlong next path node (taken ++ [other]) s u (added ++ more) where
  cycles := by rw [hvisit.cycles, h.cycles, List.append_assoc]
  discovered := List.Subset.trans h.discovered hvisit.discovered
  own on hon := by
    have hne : other ≠ on := fun heq => hother (heq ▸ hpath on hon)
    have hmore : closedBy (path ++ [node]) on ∉ more :=
      hvisit.not_mem_of_old (ends_closedBy hon).2 (hpath node (by simp))
    rw [List.count_append, h.own on hon, List.count_eq_zero.mpr hmore, Nat.add_zero,
      count_snoc_of_ne hne]
  counted cycle hcycle := by
    rcases List.mem_append.mp hcycle with hadded | hmore
    · exact (h.counted cycle hadded).imp_right fun hcounted => hcounted.append hvisit
    right
    have hcounted := hvisit.counted cycle hmore
    obtain ⟨_, last, hends, hnew, -, -⟩ := id hcounted
    apply hcounted.prepend h.discovered
    intro hadded
    rcases h.counted cycle hadded with ⟨on, hon, rfl⟩ | ⟨_, old, hends', -, hold, -⟩
    · obtain rfl := Option.some.inj (hends.2.symm.trans (ends_closedBy hon).2)
      exact hnew (hpath last (by simp))
    · obtain rfl := Option.some.inj (hends.2.symm.trans hends'.2)
      exact hnew hold

/-- When all edges of a node have been followed, its visit is over. -/
theorem AddsAlong.finish (h : AddsAlong next path node (next node) (discover s node) t added)
    (hnew : node ∉ s.discovered) : Adds next s (finish t node) added where
  cycles := h.cycles
  discovered := fun x hx => h.discovered (List.mem_append_left [node] hx)
  counted cycle hcycle := by
    rcases h.counted cycle hcycle with ⟨on, hon, rfl⟩ | ⟨first, last, hends, hlast, hknown, hcount⟩
    · have hnode : node ∈ (discover s node).discovered := List.mem_append_right _ (by simp)
      exact ⟨on, node, ends_closedBy hon, hnew, h.discovered hnode, h.own on hon⟩
    · exact ⟨first, last, hends, fun hin => hlast (List.mem_append_left [node] hin), hknown, hcount⟩

/-! ## Visits -/

theorem adds_foldl_follow {fuel : Nat} (hclosed : ∀ a ∈ ids, ∀ b ∈ next a, b ∈ ids)
    (hfuel : ids.length < (path ++ [node]).length + fuel)
    (hvisit : ∀ other t, Sound ids (path ++ [node]) t → other ∈ ids →
      ∃ more, Adds next t (visit next fuel (path ++ [node]) other t) more)
    (others : List String) (hothers : ∀ x ∈ others, x ∈ ids)
    (ht : Sound ids (path ++ [node]) t) (h : AddsAlong next path node taken s t added) :
    ∃ all, AddsAlong next path node (taken ++ others) s
      (others.foldl (follow next fuel (path ++ [node])) t) all := by
  induction others generalizing taken t added with
  | nil => exact ⟨added, (List.append_nil taken).symm ▸ h⟩
  | cons other rest ih =>
    have hid := hothers other List.mem_cons_self
    have hsound := (extends_follow (visits hclosed fuel) ht hid hfuel).1.sound
    suffices hstep : ∃ all, AddsAlong next path node (taken ++ [other]) s
        (follow next fuel (path ++ [node]) t other) all by
      obtain ⟨all, hall⟩ := hstep
      rw [List.append_cons]
      exact ih (fun x hx => hothers x (List.mem_cons_of_mem other hx)) hsound hall
    by_cases hknown : other ∈ t.discovered
    · by_cases hfinished : other ∈ t.finished
      · simp only [follow, hknown, hfinished, if_true]
        exact ⟨added, h.pass fun hon => ht.apart other hon hfinished⟩
      · simp only [follow, hknown, hfinished, if_true, if_false]
        have hon := ((ht.known other).mp hknown).resolve_left hfinished
        exact ⟨_, h.close hon⟩
    · simp only [follow, hknown, if_false]
      obtain ⟨more, hmore⟩ := hvisit other t ht hid
      have hpath : ∀ x ∈ path ++ [node], x ∈ t.discovered :=
        fun x hx => (ht.known x).mpr (Or.inr hx)
      exact ⟨added ++ more, h.visit hpath hknown hmore⟩

theorem adds_visit (hclosed : ∀ a ∈ ids, ∀ b ∈ next a, b ∈ ids) (fuel : Nat) :
    ∀ path node s, Sound ids path s → node ∈ ids → ids.length < path.length + fuel →
      ∃ added, Adds next s (visit next fuel path node s) added := by
  induction fuel with
  | zero => exact fun _ _ s _ _ _ => ⟨[], Adds.refl next s⟩
  | succ fuel ih =>
    intro path node s hs hnode hfuel
    rw [visit_succ]
    by_cases hknown : node ∈ s.discovered
    · rw [if_pos hknown]
      exact ⟨[], Adds.refl next s⟩
    · rw [if_neg hknown]
      have hlength := length_lt_of_snoc node hfuel
      obtain ⟨added, hadded⟩ := adds_foldl_follow hclosed hlength
        (fun other t ht hother => ih _ other t ht hother hlength) (next node) (hclosed node hnode)
        (hs.discover hknown hnode) (AddsAlong.refl next path node (discover s node))
      exact ⟨added, AddsAlong.finish hadded hknown⟩

theorem adds_foldl_visit {fuel : Nat} (hclosed : ∀ a ∈ ids, ∀ b ∈ next a, b ∈ ids)
    (hfuel : ids.length < fuel) (roots : List String) (hroots : ∀ x ∈ roots, x ∈ ids)
    (hs : Sound ids [] s) :
    ∃ added, Adds next s (roots.foldl (fun s root => visit next fuel [] root s) s) added := by
  have hlength : ids.length < ([] : List String).length + fuel := by simpa using hfuel
  induction roots generalizing s with
  | nil => exact ⟨[], Adds.refl next s⟩
  | cons root rest ih =>
    have hroot := hroots root List.mem_cons_self
    obtain ⟨added, hadded⟩ := adds_visit hclosed fuel [] root s hs hroot hlength
    obtain ⟨more, hmore⟩ := ih (fun x hx => hroots x (List.mem_cons_of_mem root hx))
      (visits hclosed fuel [] root s hs hroot hlength).1.sound
    exact ⟨added ++ more, hadded.trans hmore⟩

/-- A search notes each of its cycles as often as there are edges from the
last node to the first. -/
theorem count_cycles_ofRoots {fuel : Nat} (hclosed : ∀ a ∈ ids, ∀ b ∈ next a, b ∈ ids)
    (hfuel : ids.length < fuel) {roots : List String} (hroots : ∀ x ∈ roots, x ∈ ids) :
    ∀ cycle ∈ (ofRoots next fuel roots).cycles, ∃ first last, Ends first last cycle ∧
      last ∈ ids ∧ (ofRoots next fuel roots).cycles.count cycle = (next last).count first := by
  obtain ⟨added, hadded⟩ := adds_foldl_visit hclosed hfuel roots hroots (sound_empty ids)
  have hcycles : (ofRoots next fuel roots).cycles = added := hadded.cycles
  have hsound : Sound ids [] (ofRoots next fuel roots) :=
    (extends_ofRoots hclosed hfuel hroots).sound
  intro cycle hcycle
  rw [hcycles] at hcycle ⊢
  obtain ⟨first, last, hends, -, hknown, hcount⟩ := hadded.counted cycle hcycle
  exact ⟨first, last, hends, hsound.within last hknown, hcount⟩

end Search

/-! ## Cycles of lists of nodes -/

open Dependent (dependsOn)

variable {α : Type} [Dependent α]

theorem dependenciesOf_cons (node : α) (rest : List α) (id : String) :
    Plan.dependenciesOf (node :: rest) id =
      if Dependent.id node = id then dependsOn node else Plan.dependenciesOf rest id := by
  by_cases hid : Dependent.id node = id <;> simp [Plan.dependenciesOf, hid]

theorem dependenciesOf_of_unknown {nodes : List α} {id : String}
    (h : id ∉ nodes.map Dependent.id) : Plan.dependenciesOf nodes id = [] := by
  have hnone : nodes.find? (fun node => Dependent.id node = id) = none := by
    apply List.find?_eq_none.mpr
    intro node hnode heq
    exact h (List.mem_map.mpr ⟨node, hnode, of_decide_eq_true heq⟩)
  rw [Plan.dependenciesOf, hnone]
  rfl

/-- The edges that a node declares. -/
abbrev declared (ids : List String) (node : α) : List (String × String) :=
  ((dependsOn node).filter (· ∈ ids)).map fun dependency => (dependency, Dependent.id node)

theorem count_declared {ids : List String} {first last : String} (hlast : last ∈ ids) (node : α) :
    (declared ids node).count (last, first) =
      if Dependent.id node = first then (dependsOn node).count last else 0 := by
  by_cases hid : Dependent.id node = first
  · subst hid
    have hlists := List.count_map_of_injective ((dependsOn node).filter (· ∈ ids))
      (fun dependency => (dependency, Dependent.id node)) (fun _ _ h => congrArg Prod.fst h) last
    rw [if_pos rfl, hlists]
    exact List.count_filter (decide_eq_true hlast)
  · rw [if_neg hid, List.count_eq_zero]
    intro hin
    obtain ⟨_, -, heq⟩ := List.mem_map.mp hin
    exact hid (congrArg Prod.snd heq)

/-- Of nodes with different ids, only the one with the id declares edges to it. -/
theorem count_flatMap_declared {owners : List α} (hnodup : (owners.map Dependent.id).Nodup)
    {ids : List String} {first last : String} (hlast : last ∈ ids) :
    (owners.flatMap (declared ids)).count (last, first) =
      (Plan.dependenciesOf owners first).count last := by
  induction owners with
  | nil => rfl
  | cons node rest ih =>
    obtain ⟨hnew, hrest⟩ := List.nodup_cons.mp hnodup
    rw [List.flatMap_cons, List.count_append, ih hrest, count_declared hlast, dependenciesOf_cons]
    by_cases hid : Dependent.id node = first
    · rw [if_pos hid, if_pos hid, dependenciesOf_of_unknown (hid ▸ hnew), List.count_nil,
        Nat.add_zero]
    · rw [if_neg hid, if_neg hid, Nat.zero_add]

theorem find?_firsts (nodes : List α) (id : String) :
    (firsts nodes).find? (fun node => Dependent.id node = id) =
      nodes.find? fun node => Dependent.id node = id := by
  cases hfind : (firsts nodes).find? fun node => Dependent.id node = id with
  | some node =>
    obtain rfl : Dependent.id node = id := by simpa using List.find?_some hfind
    exact (find?_of_mem_firsts (List.mem_of_find?_eq_some hfind)).symm
  | none =>
    symm
    rw [List.find?_eq_none] at hfind ⊢
    intro node hnode heq
    obtain ⟨owner, howner, hid⟩ :=
      List.mem_map.mp (mem_ids_firsts.mpr (List.mem_map_of_mem (f := Dependent.id) hnode))
    apply hfind owner howner
    rwa [hid]

/-- There are as many edges as the first node with an id lists the dependency. -/
theorem count_latestDependents {nodes : List α} {first last : String}
    (hlast : last ∈ (ofNodes nodes).ids) :
    ((ofNodes nodes).latestDependents last).count first =
      (Plan.dependenciesOf nodes first).count last := by
  have hedges : ((ofNodes nodes).latestDependents last).count first =
      (ofNodes nodes).edges.count (last, first) := by
    rw [latestDependents, dependents, List.count_reverse, List.count, List.countP_map,
      List.countP_filter, List.count]
    apply List.countP_congr
    intro edge _
    simp [Prod.ext_iff, and_comm]
  have howners : (ofNodes nodes).edges.count (last, first) =
      (Plan.dependenciesOf (firsts nodes) first).count last :=
    count_flatMap_declared (nodup_ids_firsts nodes) hlast
  rw [hedges, howners, Plan.dependenciesOf, Plan.dependenciesOf, find?_firsts]

/-- How often a cycle is noted for a list of nodes. -/
structure CyclesCounted (nodes : List α) : Prop where
  /-- As often as its first node lists its last one. -/
  counted : ∀ cycle ∈ (ofNodes nodes).cycles, ∃ first last, Ends first last cycle ∧
    (ofNodes nodes).cycles.count cycle = (Plan.dependenciesOf nodes first).count last
  /-- So none is noted twice exactly if these nodes list each other once. -/
  nodup_iff : (ofNodes nodes).cycles.Nodup ↔
    ∀ cycle ∈ (ofNodes nodes).cycles, ∀ first last, Ends first last cycle →
      (Plan.dependenciesOf nodes first).count last = 1
  /-- It is enough that no node lists a dependency twice. -/
  nodup : (∀ node ∈ nodes, (dependsOn node).Nodup) → (ofNodes nodes).cycles.Nodup

theorem nodup_dependenciesOf {nodes : List α} (h : ∀ node ∈ nodes, (dependsOn node).Nodup)
    (id : String) : (Plan.dependenciesOf nodes id).Nodup := by
  rw [Plan.dependenciesOf]
  cases hfind : nodes.find? fun node => Dependent.id node = id with
  | none => exact List.nodup_nil
  | some node => exact h node (List.mem_of_find?_eq_some hfind)

theorem count_cycles_ofNodes (nodes : List α) :
    ∀ cycle ∈ (ofNodes nodes).cycles, ∃ first last, Ends first last cycle ∧
      (ofNodes nodes).cycles.count cycle = (Plan.dependenciesOf nodes first).count last := by
  have hproper := proper_ofNodes nodes
  have hclosed : ∀ a ∈ (ofNodes nodes).ids, ∀ b ∈ (ofNodes nodes).latestDependents a,
      b ∈ (ofNodes nodes).ids :=
    fun a _ b hb => hproper.target a b (mem_latestDependents.mp hb)
  intro cycle hcycle
  obtain ⟨first, last, hends, hlast, hcount⟩ :=
    Search.count_cycles_ofRoots hclosed (Nat.lt_succ_self _) (fun _ => id) cycle hcycle
  exact ⟨first, last, hends, hcount.trans (count_latestDependents hlast)⟩

theorem Ends.eq {first last other final : String} {cycle : List String} (h : Ends first last cycle)
    (hother : Ends other final cycle) : first = other ∧ last = final :=
  ⟨Option.some.inj (h.1.symm.trans hother.1), Option.some.inj (h.2.symm.trans hother.2)⟩

theorem nodup_cycles_iff (nodes : List α) : (ofNodes nodes).cycles.Nodup ↔
    ∀ cycle ∈ (ofNodes nodes).cycles, ∀ first last, Ends first last cycle →
      (Plan.dependenciesOf nodes first).count last = 1 := by
  rw [List.nodup_iff_count_eq_one]
  apply forall₂_congr
  intro cycle hcycle
  obtain ⟨first, last, hends, hcount⟩ := count_cycles_ofNodes nodes cycle hcycle
  rw [hcount]
  constructor
  · intro honce other final hother
    obtain ⟨rfl, rfl⟩ := hends.eq hother
    exact honce
  · exact fun honce => honce first last hends

theorem cycles_counted (nodes : List α) : CyclesCounted nodes where
  counted := count_cycles_ofNodes nodes
  nodup_iff := nodup_cycles_iff nodes
  nodup hnodup := by
    apply List.nodup_iff_count_eq_one.mpr
    intro cycle hcycle
    obtain ⟨first, last, -, hcount⟩ := count_cycles_ofNodes nodes cycle hcycle
    have hpositive : 0 < (Plan.dependenciesOf nodes first).count last :=
      hcount ▸ List.count_pos_iff.mpr hcycle
    rw [hcount]
    exact List.count_eq_one_of_mem (nodup_dependenciesOf hnodup first)
      (List.count_pos_iff.mp hpositive)

end Workflow.Graph
