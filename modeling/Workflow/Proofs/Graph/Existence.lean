import Workflow.Proofs.Graph.Rounds

/-!
# When there is a plan

Nodes have a plan exactly if ids are unique, dependencies are known and no node leads back to
itself. An edge leads to a higher level, so the edges of nodes that have levels make no cycle.
-/

namespace Workflow

open Dependent (dependsOn)
open Relation

variable {α : Type} [Dependent α] {nodes : List α}

namespace Plan

section

variable (hnodup : (nodes.map Dependent.id).Nodup)
include hnodup

/-- What leads to a node stands on a level before it. -/
theorem Leveled.lt_of_transGen {level : α → Nat} (h : Leveled nodes level) {a b : String}
    (hab : TransGen (fun a b => b ∈ (Graph.ofNodes nodes).dependents a) a b) :
    ∀ node ∈ nodes, Dependent.id node = b →
      ∃ other ∈ nodes, Dependent.id other = a ∧ level other < level node := by
  have hedge : ∀ {a b : String}, b ∈ (Graph.ofNodes nodes).dependents a →
      ∀ node ∈ nodes, Dependent.id node = b →
        ∃ other ∈ nodes, Dependent.id other = a ∧ level other < level node := by
    rintro a b hab node hnode rfl
    have hdependency := mem_dependenciesOf_of_edge (Graph.mem_dependents.mp hab)
    rw [dependenciesOf_eq hnodup hnode] at hdependency
    exact (h node hnode (level node)).mp (Nat.le_refl _) a hdependency
  induction hab with
  | single hab => exact hedge hab
  | tail _ hbc ih =>
    intro node hnode hid
    obtain ⟨middle, hmiddle, hmid, hbelow⟩ := hedge hbc node hnode hid
    obtain ⟨other, hother, heq, hlower⟩ := ih middle hmiddle hmid
    exact ⟨other, hother, heq, Nat.lt_trans hlower hbelow⟩

theorem Leveled.acyclic {level : α → Nat} (h : Leveled nodes level) :
    Graph.Acyclic (Graph.ofNodes nodes).dependents := by
  intro a hcycle
  obtain ⟨b, hb, -⟩ := TransGen.head'_iff.mp hcycle
  have ha := (Graph.proper_ofNodes nodes).source a b (Graph.mem_dependents.mp hb)
  rw [Graph.ids_ofNodes, Graph.firsts_eq_self hnodup] at ha
  obtain ⟨node, hnode, rfl⟩ := List.mem_map.mp ha
  obtain ⟨other, hother, hid, hlower⟩ := h.lt_of_transGen hnodup hcycle node hnode rfl
  rw [List.inj_on_of_nodup_map hnodup hother hnode hid] at hlower
  exact Nat.lt_irrefl _ hlower

end

/-- Steps can be planned exactly if nothing is wrong with their ids and dependencies. -/
theorem exists_make_iff :
    (∃ levels, make nodes = .ok levels) ↔
      (nodes.map Dependent.id).Nodup ∧
        (∀ node ∈ nodes, ∀ dependency ∈ dependsOn node, dependency ∈ nodes.map Dependent.id) ∧
        Graph.Acyclic (Graph.ofNodes nodes).dependents := by
  by_cases hne : nodes = []
  · subst hne
    refine iff_of_true ⟨[], rfl⟩ ⟨List.nodup_nil, fun _ h => absurd h List.not_mem_nil, ?_⟩
    intro a hcycle
    obtain ⟨b, hb, -⟩ := TransGen.head'_iff.mp hcycle
    exact absurd hb List.not_mem_nil
  constructor
  · rintro ⟨levels, hlevels⟩
    obtain ⟨hnodup, hknown, ids, hids, -⟩ := make_eq_ok hlevels hne
    have hleveled := leveled_depths hnodup hknown (topological_of_order hids)
    exact ⟨hnodup, hknown, hleveled.acyclic hnodup⟩
  · rintro ⟨hnodup, hknown, hacyclic⟩
    obtain ⟨ids, hids⟩ := exists_order hnodup hknown hacyclic
    refine ⟨levels nodes (depths nodes ids), ?_⟩
    rw [make_eq_makeBy, makeBy_of_known Plan.order hnodup hknown hne, hids]

/-- With unique ids and known dependencies, only a cycle stands in the way of a plan. -/
theorem exists_cycle_iff (hnodup : (nodes.map Dependent.id).Nodup)
    (hknown : ∀ node ∈ nodes, ∀ dependency ∈ dependsOn node, dependency ∈ nodes.map Dependent.id) :
    (∃ id, make nodes = .error (.cycle id)) ↔
      ¬ Graph.Acyclic (Graph.ofNodes nodes).dependents := by
  constructor
  · rintro ⟨id, hid⟩ hacyclic
    obtain ⟨levels, hlevels⟩ := exists_make_iff.mpr ⟨hnodup, hknown, hacyclic⟩
    rw [hid] at hlevels
    cases hlevels
  · intro hcyclic
    have hmake : ¬ ∃ levels, make nodes = .ok levels := fun h => hcyclic (exists_make_iff.mp h).2.2
    have hne : nodes ≠ [] := fun h => hmake ⟨[], by rw [h]; rfl⟩
    rw [make_eq_makeBy, makeBy_of_known Plan.order hnodup hknown hne] at hmake ⊢
    cases horder : Plan.order nodes with
    | error id => exact ⟨id, rfl⟩
    | ok ids =>
      rw [horder] at hmake
      exact absurd ⟨_, rfl⟩ hmake

end Plan

end Workflow
