import Workflow.Proofs.Graph.Existence
import Workflow.Proofs.Graph.Walk

/-!
# Why there is no plan

Nodes have no plan because two of them share an id, because one depends on an id that no
node has, or because dependencies lead in a circle, and the first of these that is so is
reported. What a report names is at fault: the id of a cycle is found by walking backwards
from the nodes in the order in which a search has finished with them, and what such a walk
meets too late lies on a cycle itself.
-/

namespace Workflow

open Dependent (dependsOn)
open Relation

variable {α : Type} [Dependent α] {nodes : List α}

namespace Plan

/-- A node with an id declares that it depends on another, or the same, id. -/
def DependsOn (nodes : List α) (id dependency : String) : Prop :=
  ∃ node ∈ nodes, Dependent.id node = id ∧ dependency ∈ dependsOn node

/-! ## Ids at fault -/

/-- The id that is reported stands twice. -/
theorem two_le_count_of_duplicate? {seen ids : List String} {id : String}
    (h : duplicate? seen ids = some id) : 2 ≤ (seen ++ ids).count id := by
  induction ids generalizing seen with
  | nil => simp [duplicate?] at h
  | cons head rest ih =>
    rw [duplicate?] at h
    split at h
    · next hseen =>
      obtain rfl : head = id := Option.some.inj h
      rw [List.count_append, List.count_cons_self]
      have := List.count_pos_iff.mpr hseen
      omega
    · simpa using ih h

theorem dependsOn_of_unknown? {ids : List String} {id dependency : String}
    (h : unknown? ids nodes = some (id, dependency)) :
    DependsOn nodes id dependency ∧ dependency ∉ ids := by
  obtain ⟨node, hnode, hfind⟩ := List.exists_of_findSome?_eq_some h
  obtain ⟨found, hfound, heq⟩ := Option.map_eq_some_iff.mp hfind
  obtain ⟨rfl, rfl⟩ := Prod.mk.inj heq
  exact ⟨⟨node, hnode, rfl, List.mem_of_find?_eq_some hfound⟩,
    by simpa using List.find?_some hfound⟩

/-- A dependency that is reported as misplaced does not stand before what depends on it. -/
theorem misplaced?_eq_some {placed ids : List String} {dependency : String}
    (h : misplaced? nodes placed ids = some dependency) :
    ∃ done id rest, ids = done ++ id :: rest ∧ dependency ∈ dependenciesOf nodes id ∧
      dependency ∉ placed ∧ dependency ∉ done := by
  induction ids generalizing placed with
  | nil => simp [misplaced?] at h
  | cons head rest ih =>
    rw [misplaced?] at h
    split at h
    · next found hfound =>
      obtain rfl : found = dependency := Option.some.inj h
      exact ⟨[], head, rest, rfl, List.mem_of_find?_eq_some hfound,
        by simpa using List.find?_some hfound, List.not_mem_nil⟩
    · obtain ⟨done, id, rest, rfl, hdependency, hplaced, hdone⟩ := ih h
      obtain ⟨hhead, hplaced⟩ := not_or.mp (List.mem_cons.not.mp hplaced)
      exact ⟨head :: done, id, rest, rfl, hdependency, hplaced, by simp [hhead, hdone]⟩

theorem returning_of_append {next : String → List String} {before after : List String}
    {node : String} (h : Graph.Search.Returning next (before ++ node :: after)) :
    ∀ other ∈ next node, other ∈ after ∨ TransGen (fun a b => b ∈ next a) other node := by
  induction before with
  | nil => exact h.1
  | cons head before ih => exact ih h.2

/-- What leads to a node that stands before it, or to itself, lies on a cycle. -/
theorem transGen_of_returning {next : String → List String} {done rest : List String}
    {id dependency : String} (h : Graph.Search.Returning next (done ++ id :: rest))
    (hnodup : (done ++ id :: rest).Nodup) (hedge : id ∈ next dependency)
    (hin : dependency ∈ done ++ id :: rest) (hdone : dependency ∉ done) :
    TransGen (fun a b => b ∈ next a) dependency dependency := by
  rcases List.mem_cons.mp ((List.mem_append.mp hin).resolve_left hdone) with rfl | hrest
  · exact TransGen.single hedge
  obtain ⟨between, after, rfl⟩ := List.append_of_mem hrest
  rw [← List.cons_append, ← List.append_assoc] at h hnodup
  rcases returning_of_append h id hedge with hafter | hback
  · exact absurd (List.mem_cons_of_mem dependency hafter)
      ((List.nodup_append'.mp hnodup).2.2 (by simp))
  · exact TransGen.head hedge hback

section

variable (hnodup : (nodes.map Dependent.id).Nodup)
  (hknown : ∀ node ∈ nodes, ∀ dependency ∈ dependsOn node, dependency ∈ nodes.map Dependent.id)

include hnodup hknown

/-- The edges of the graph are what nodes declare, the other way round. -/
theorem transGen_dependents_iff {a b : String} :
    TransGen (fun a b => b ∈ (Graph.ofNodes nodes).dependents a) a b ↔
      TransGen (DependsOn nodes) b a := by
  have hedge : ∀ a b, b ∈ (Graph.ofNodes nodes).dependents a ↔ DependsOn nodes b a := by
    intro a b
    rw [Graph.mem_dependents, Graph.mem_edges_ofNodes, Graph.ids_ofNodes,
      Graph.firsts_eq_self hnodup]
    exact and_iff_right_of_imp fun ⟨node, hnode, _, hdependency⟩ => hknown node hnode a hdependency
  rw [← transGen_swap]
  simp only [hedge]

/-- The id that is reported for a cycle lies on one. -/
theorem transGen_of_order {id : String} (h : order nodes = .error id) :
    TransGen (DependsOn nodes) id id := by
  rw [← transGen_dependents_iff hnodup hknown]
  unfold order at h
  simp only at h
  split at h
  · next found hfound =>
    obtain rfl : found = id := Except.error.inj h
    exact TransGen.single (by simpa using List.find?_some hfound)
  split at h
  · next found hfound =>
    obtain rfl : found = id := Except.error.inj h
    have hproper := Graph.proper_ofNodes nodes
    have hperm := Graph.Search.perm_finished_ofRoots (closed_dependents nodes)
      (Nat.lt_succ_self _) hproper.nodup
    have hreturning := Graph.Search.returning_ofRoots (closed_dependents nodes)
      (Nat.lt_succ_self _) (fun _ => id)
    obtain ⟨done, id, rest, hsplit, hdependency, -, hdone⟩ := misplaced?_eq_some hfound
    have hedge := edge_of_mem_dependenciesOf hnodup hknown hdependency
    have hin := hperm.mem_iff.mpr (hproper.source _ _ hedge)
    have hdistinct := hperm.nodup_iff.mpr hproper.nodup
    rw [hsplit] at hreturning hin hdistinct
    exact transGen_of_returning hreturning hdistinct (Graph.mem_dependents.mpr hedge) hin hdone
  · cases h

end

/-! ## Faults -/

/-- How planning ends: the first thing that is wrong with the nodes is reported. -/
inductive Ends (nodes : List α) : Except PlanFault (List (List α)) → Prop
  | duplicate {id : String} (h : 2 ≤ (nodes.map Dependent.id).count id) :
    Ends nodes (.error (.duplicate id))
  | unknown {id dependency : String} (hnodup : (nodes.map Dependent.id).Nodup)
    (h : DependsOn nodes id dependency) (hunknown : dependency ∉ nodes.map Dependent.id) :
    Ends nodes (.error (.unknown id dependency))
  | cycle {id : String} (hnodup : (nodes.map Dependent.id).Nodup)
    (hknown : ∀ id dependency, DependsOn nodes id dependency →
      dependency ∈ nodes.map Dependent.id)
    (hoffender : offender? nodes = some id) (h : TransGen (DependsOn nodes) id id) :
    Ends nodes (.error (.cycle id))
  | planned {levels : List (List α)} (hnodup : (nodes.map Dependent.id).Nodup)
    (hknown : ∀ id dependency, DependsOn nodes id dependency →
      dependency ∈ nodes.map Dependent.id)
    (hacyclic : ∀ id, ¬ TransGen (DependsOn nodes) id id) : Ends nodes (.ok levels)

theorem forall_dependsOn_iff {p : String → Prop} :
    (∀ id dependency, DependsOn nodes id dependency → p dependency) ↔
      ∀ node ∈ nodes, ∀ dependency ∈ dependsOn node, p dependency :=
  ⟨fun h node hnode _ hdependency => h _ _ ⟨node, hnode, rfl, hdependency⟩,
    fun h _ _ ⟨node, hnode, _, hdependency⟩ => h node hnode _ hdependency⟩

theorem ends_make (nodes : List α) : Ends nodes (make nodes) := by
  by_cases hplan : ∃ levels, make nodes = .ok levels
  · obtain ⟨levels, hlevels⟩ := hplan
    obtain ⟨hnodup, hknown, hacyclic⟩ := exists_make_iff.mp ⟨levels, hlevels⟩
    rw [hlevels]
    exact .planned hnodup (forall_dependsOn_iff.mpr hknown) fun id hcycle =>
      hacyclic id ((transGen_dependents_iff hnodup hknown).mpr hcycle)
  have hne : nodes ≠ [] := fun h => hplan ⟨[], by rw [h]; rfl⟩
  unfold make at hplan ⊢
  rw [if_neg (by simpa using hne)] at hplan ⊢
  simp only at hplan ⊢
  split
  · next id hduplicate => exact .duplicate (two_le_count_of_duplicate? hduplicate)
  next hduplicate =>
  have hnodup := ((duplicate?_eq_none_iff [] _).mp hduplicate).1
  split
  · next id dependency hunknown =>
    obtain ⟨hdepends, hnot⟩ := dependsOn_of_unknown? hunknown
    exact .unknown hnodup hdepends hnot
  next hunknown =>
  have hknown := (unknown?_eq_none_iff _ nodes).mp hunknown
  simp only [hduplicate, hunknown] at hplan
  split
  · next id horder =>
    exact .cycle hnodup (forall_dependsOn_iff.mpr hknown) (offender?_of_order hnodup hknown horder)
      (transGen_of_order hnodup hknown horder)
  · next ids horder =>
    rw [horder] at hplan
    exact absurd ⟨_, rfl⟩ hplan

/-- When there is no plan, what is reported, and what it names. -/
structure FaultsExact (nodes : List α) : Prop where
  duplicate_iff : (∃ id, make nodes = .error (.duplicate id)) ↔ ¬ (nodes.map Dependent.id).Nodup
  duplicate_names : ∀ id, make nodes = .error (.duplicate id) →
    2 ≤ (nodes.map Dependent.id).count id
  unknown_iff : (nodes.map Dependent.id).Nodup →
    ((∃ id dependency, make nodes = .error (.unknown id dependency)) ↔
      ∃ id dependency, DependsOn nodes id dependency ∧ dependency ∉ nodes.map Dependent.id)
  unknown_names : ∀ id dependency, make nodes = .error (.unknown id dependency) →
    DependsOn nodes id dependency ∧ dependency ∉ nodes.map Dependent.id
  cycle_iff : (nodes.map Dependent.id).Nodup →
    (∀ id dependency, DependsOn nodes id dependency → dependency ∈ nodes.map Dependent.id) →
      ((∃ id, make nodes = .error (.cycle id)) ↔ ∃ id, TransGen (DependsOn nodes) id id)
  cycle_names : ∀ id, make nodes = .error (.cycle id) →
    TransGen (DependsOn nodes) id id ∧ offender? nodes = some id
  /-- Otherwise there is a plan. -/
  planned : (nodes.map Dependent.id).Nodup →
    (∀ id dependency, DependsOn nodes id dependency → dependency ∈ nodes.map Dependent.id) →
      (∀ id, ¬ TransGen (DependsOn nodes) id id) → ∃ levels, make nodes = .ok levels

/-- A plan is refused for the first of three reasons that applies, the refusal names what is at
fault, and without such a reason there is a plan. -/
theorem faults_exact (nodes : List α) : FaultsExact nodes := by
  have hends := ends_make nodes
  generalize hresult : make nodes = result at hends
  cases hends with
  | @duplicate id h =>
    have hshared : ¬ (nodes.map Dependent.id).Nodup := fun hnodup => by
      have := List.nodup_iff_count_le_one.mp hnodup id
      omega
    exact ⟨by simp [hresult, hshared], by simpa [hresult] using h,
      fun hnodup => absurd hnodup hshared, by simp [hresult],
      fun hnodup => absurd hnodup hshared, by simp [hresult],
      fun hnodup => absurd hnodup hshared⟩
  | unknown hnodup h hunknown =>
    refine ⟨by simp [hresult, hnodup], by simp [hresult],
      fun _ => iff_of_true ⟨_, _, hresult⟩ ⟨_, _, h, hunknown⟩, fun _ _ heq => ?_,
      fun _ hknown => absurd (hknown _ _ h) hunknown, by simp [hresult],
      fun _ hknown => absurd (hknown _ _ h) hunknown⟩
    cases hresult.symm.trans heq
    exact ⟨h, hunknown⟩
  | cycle hnodup hknown hoffender h =>
    refine ⟨by simp [hresult, hnodup], by simp [hresult], fun _ => ?_, by simp [hresult],
      fun _ _ => iff_of_true ⟨_, hresult⟩ ⟨_, h⟩, by simpa [hresult] using ⟨h, hoffender⟩,
      fun _ _ hacyclic => absurd h (hacyclic _)⟩
    refine iff_of_false (by simp [hresult]) ?_
    rintro ⟨id, dependency, hdepends, hunknown⟩
    exact hunknown (hknown id dependency hdepends)
  | planned hnodup hknown hacyclic =>
    refine ⟨by simp [hresult, hnodup], by simp [hresult], fun _ => ?_, by simp [hresult],
      fun _ _ => iff_of_false (by simp [hresult]) fun ⟨id, h⟩ => hacyclic id h, by simp [hresult],
      fun _ _ _ => ⟨_, hresult⟩⟩
    refine iff_of_false (by simp [hresult]) ?_
    rintro ⟨id, dependency, hdepends, hunknown⟩
    exact hunknown (hknown id dependency hdepends)

/-- A step behind a cycle, and the two steps of the cycle. -/
def knot : List Node := [⟨"report", ["check"]⟩, ⟨"ask", ["check"]⟩, ⟨"check", ["ask"]⟩]

theorem cycle_of_knot :
    make knot = .error (.cycle "check") ∧ TransGen (DependsOn knot) "check" "check" := by
  have hmake : make knot = .error (.cycle "check") := by decide +kernel
  exact ⟨hmake, ((faults_exact knot).cycle_names "check" hmake).1⟩

end Plan

end Workflow
