import Workflow.Proofs.Graph.Rounds

/-!
# Cycles of dependencies

Of several nodes with one id the first counts, and what it declares to depend on counts if it is
known. The search of the graph of a list of nodes finds a cycle exactly if these dependencies have
one, and all that it finds are simple cycles of them.
-/

namespace Workflow.Graph

open Dependent (dependsOn)
open Relation

variable {α : Type} [Dependent α] {nodes : List α}

/-- The first node with an id declares that it depends on another, or the same, known id. -/
def IsDependency (nodes : List α) (dependency id : String) : Prop :=
  dependency ∈ nodes.map Dependent.id ∧
    ∃ node, nodes.find? (fun node => Dependent.id node = id) = some node ∧
      dependency ∈ dependsOn node

/-- The first node with an id is the one that is found by it. -/
theorem mem_firsts_iff_find? {node : α} :
    node ∈ firsts nodes ↔
      nodes.find? (fun other => Dependent.id other = Dependent.id node) = some node := by
  refine ⟨find?_of_mem_firsts, fun hfind => ?_⟩
  have hid := List.mem_map_of_mem (f := Dependent.id) (List.mem_of_find?_eq_some hfind)
  obtain ⟨first, hfirst, heq⟩ := List.mem_map.mp (mem_ids_firsts.mpr hid)
  have hfound := find?_of_mem_firsts hfirst
  rw [heq, hfind] at hfound
  exact Option.some.inj hfound ▸ hfirst

/-- The edges of the graph are the dependencies. -/
theorem mem_edges_iff_isDependency {dependency id : String} :
    (dependency, id) ∈ (ofNodes nodes).edges ↔ IsDependency nodes dependency id := by
  rw [mem_edges_ofNodes, ids_ofNodes, mem_ids_firsts, IsDependency]
  refine and_congr_right fun _ => exists_congr fun node => ?_
  constructor
  · rintro ⟨hnode, rfl, hdependency⟩
    exact ⟨mem_firsts_iff_find?.mp hnode, hdependency⟩
  · rintro ⟨hfind, hdependency⟩
    obtain rfl : Dependent.id node = id := by simpa using List.find?_some hfind
    exact ⟨mem_firsts_iff_find?.mpr hfind, rfl, hdependency⟩

/-- A cycle is found exactly if there is one, and every cycle that is found consists of different
ids each of which is a dependency of the next one, and the last one of the first. -/
theorem cycles_sound_and_complete (nodes : List α) :
    ((ofNodes nodes).cycles ≠ [] ↔ ∃ id, TransGen (IsDependency nodes) id id) ∧
      ∀ cycle ∈ (ofNodes nodes).cycles, SimpleCycle (IsDependency nodes) cycle := by
  have hproper := proper_ofNodes nodes
  have hedge : ∀ a b, b ∈ (ofNodes nodes).latestDependents a ↔ IsDependency nodes a b :=
    fun a b => mem_latestDependents.trans mem_edges_iff_isDependency
  have hleads : (fun a b => b ∈ (ofNodes nodes).latestDependents a) = IsDependency nodes :=
    funext fun a => funext fun b => propext (hedge a b)
  constructor
  · rw [cycles, ne_eq, hproper.cycles_ofRoots_eq_nil_iff fun _ _ => mem_latestDependents, Acyclic,
      hleads, not_forall_not]
  · intro cycle hcycle
    have hclosed : ∀ a ∈ (ofNodes nodes).ids, ∀ b ∈ (ofNodes nodes).latestDependents a,
        b ∈ (ofNodes nodes).ids :=
      fun a _ b hb => hproper.target a b (mem_latestDependents.mp hb)
    exact hleads ▸ Search.simpleCycle_of_mem hclosed (Nat.lt_succ_self _) (fun _ => id) hcycle

/-- Two steps that wait for each other, one that waits for itself, a second node with a known id and
a dependency on an unknown one. -/
def tangle : List Node :=
  [⟨"ask", ["check", "nobody"]⟩, ⟨"check", ["ask"]⟩, ⟨"ask", []⟩, ⟨"wait", ["check", "wait"]⟩]

theorem cycles_of_tangle :
    (ofNodes tangle).cycles = [["wait"], ["ask", "check"]] ∧
      SimpleCycle (IsDependency tangle) ["ask", "check"] := by
  have hcycles : (ofNodes tangle).cycles = [["wait"], ["ask", "check"]] := by decide +kernel
  refine ⟨hcycles, (cycles_sound_and_complete tangle).2 _ ?_⟩
  rw [hcycles]
  exact List.mem_cons_of_mem _ List.mem_cons_self

end Workflow.Graph
