import Workflow.Proofs.Document.Acceptance
import Workflow.Proofs.Document.Concerns
import Workflow.Proofs.Graph.Reach
import Workflow.Proofs.Graph.Repeats

/-!
# The flow of a document

The check for cycles reports what the search of the graph notes, so a cycle that two edges close is
reported twice. The check for unreachable steps warns of exactly those that no start leads to.
-/

namespace Workflow.Validation

open Relation
open Workflow.Graph (CyclesCounted IsDependency ReachExact)

/-! ## Cycles -/

theorem Problem.concern_eq_cycles_iff {problem : Problem} :
    problem.concern = .cycles ↔ problem.code = "CIRCULAR_DEPENDENCY" := by
  cases problem <;> simp [concern, code]

theorem Findings.errors_all_error {α : Type} (path : String) (problem : α → Problem)
    (items : List α) :
    (all (items.map fun item => error path (problem item))).errors =
      items.map fun item => ⟨problem item, some path⟩ := by
  induction items with
  | nil => rfl
  | cons head tail ih =>
    rw [List.map_cons, all, errors_append, ih, List.map_cons]
    rfl

/-- The problems with a code are those of a concern. -/
theorem Findings.errors_about_cycles (f : Findings) :
    (f.about .cycles).errors =
      f.errors.filter fun finding => finding.problem.code = "CIRCULAR_DEPENDENCY" := by
  rw [about]
  apply List.filter_congr
  intro finding _
  simp only [Problem.concern_eq_cycles_iff]

theorem errors_cycles (document : Json) :
    ((checkSemantics document).errors.filter fun finding =>
        finding.problem.code = "CIRCULAR_DEPENDENCY") =
      (Graph.ofNodes (stepViews document)).cycles.map fun cycle =>
        ⟨.circularDependency cycle, some "/workflow/steps"⟩ := by
  rw [checkSemantics, Report.toFindings_ofFindings, ← Findings.errors_about_cycles,
    Semantics.about_cycles, Semantics.cycles, Findings.errors_all_error]

/-- Of a list of nodes, a cycle is noted as often as its first node lists its last one. Of a
document with the same ids and dependencies all the cycles that are noted are reported, each as
often as it is noted. -/
theorem cycles_reported_as_noted {α : Type} [Dependent α] (nodes : List α) :
    CyclesCounted nodes ∧
      ∀ document : Json, (stepViews document).map Graph.nodeOf = nodes.map Graph.nodeOf →
        ((checkSemantics document).errors.filter fun finding =>
            finding.problem.code = "CIRCULAR_DEPENDENCY") =
          (Graph.ofNodes nodes).cycles.map fun cycle =>
            ⟨.circularDependency cycle, some "/workflow/steps"⟩ := by
  constructor
  · exact Graph.cycles_counted nodes
  · intro document hnodes
    rw [errors_cycles, ← Graph.ofNodes_map_nodeOf, hnodes, Graph.ofNodes_map_nodeOf]

/-- A document with one step, which lists itself twice among its dependencies. -/
def echo : Json :=
  outline "echo" [.obj [("id", .str "again"), ("type", .str "end"),
    ("depends_on", .arr [.str "again", .str "again"])]]

/-- Its only cycle is noted, and reported, twice. -/
theorem echo_reported_twice :
    (checkSchema echo).valid = true ∧
      (Graph.ofNodes (stepViews echo)).cycles = [["again"], ["again"]] ∧
      ¬ (Graph.ofNodes (stepViews echo)).cycles.Nodup ∧
      ¬ ((checkSemantics echo).errors.filter fun finding =>
          finding.problem.code = "CIRCULAR_DEPENDENCY").Nodup := by
  have hform : (checkSchema echo).valid = true := by
    apply valid_checkSchema_iff.mpr
    exact Schema.document_outline (List.isEmpty_iff.mp (by decide +kernel))
      (List.isEmpty_iff.mp (by decide +kernel))
  have hcycles : (Graph.ofNodes (stepViews echo)).cycles = [["again"], ["again"]] := by
    decide +kernel
  refine ⟨hform, hcycles, by simp [hcycles], ?_⟩
  rw [errors_cycles, hcycles]
  simp

/-! ## Steps that no start leads to -/

/-- There is a start, and none leads to the step with an id. -/
def CutOff (views : List StepView) (id : String) : Prop :=
  (∃ start ∈ views, start.type = .start) ∧
    ∀ start ∈ views, start.type = .start → ¬ ReflTransGen (IsDependency views) start.id id

theorem Advice.concern_eq_reach_iff {advice : Advice} :
    advice.concern = .reach ↔ advice.code = "UNREACHABLE_STEP" := by
  cases advice <;> simp [concern, code]

theorem mem_starts {views : List StepView} {id : String} :
    id ∈ Semantics.starts views ↔ ∃ start ∈ views, start.type = .start ∧ start.id = id := by
  simp [Semantics.starts, and_assoc]

theorem cutOff_iff {views : List StepView} {id : String} :
    CutOff views id ↔ Semantics.starts views ≠ [] ∧
      id ∉ (Graph.ofNodes views).reachable (Semantics.starts views) := by
  have hstarts : Semantics.starts views ≠ [] ↔ ∃ start ∈ views, start.type = .start := by
    simp [Semantics.starts, List.filter_eq_nil_iff]
  rw [CutOff, hstarts, (Graph.reach_exact views).reachable]
  apply and_congr_right
  intro _
  constructor
  · intro hnone hreached
    obtain ⟨root, hroot, -, hpath⟩ := hreached
    obtain ⟨start, hstart, htype, rfl⟩ := mem_starts.mp hroot
    exact hnone start hstart htype hpath
  · intro hunreached start hstart htype hpath
    exact hunreached ⟨start.id, mem_starts.mpr ⟨start, hstart, htype, rfl⟩,
      List.mem_map_of_mem hstart, hpath⟩

theorem mem_unreachable_iff {views : List StepView} {notice : Notice} :
    notice ∈ (Semantics.unreachable (Graph.ofNodes views) views).warnings ↔
      ∃ view ∈ views, CutOff views view.id ∧ notice = ⟨.unreachable view.id, view.path⟩ := by
  simp only [Semantics.unreachable, Findings.mem_warnings_given, Findings.mem_warnings_all_map,
    Findings.warnings_warning, List.mem_singleton, cutOff_iff, Bool.not_eq_true',
    List.isEmpty_eq_false_iff, List.contains_eq_mem, decide_eq_false_iff_not]
  constructor
  · rintro ⟨hstarts, view, hview, hunreached, hnotice⟩
    exact ⟨view, hview, ⟨hstarts, hunreached⟩, hnotice⟩
  · rintro ⟨view, hview, ⟨hstarts, hunreached⟩, hnotice⟩
    exact ⟨hstarts, view, hview, hunreached, hnotice⟩

/-- The searches for reachable nodes are exact for each list of nodes, and of each document a step
is reported as unreachable exactly if there is a start and none leads to it. -/
theorem reachability_exact :
    (∀ {α : Type} [Dependent α] (nodes : List α), ReachExact nodes) ∧
      ∀ (document : Json) (notice : Notice),
        notice ∈ (checkSemantics document).warnings ∧ notice.advice.code = "UNREACHABLE_STEP" ↔
          ∃ view ∈ stepViews document, CutOff (stepViews document) view.id ∧
            notice = ⟨.unreachable view.id, view.path⟩ := by
  refine ⟨Graph.reach_exact, fun document notice => ?_⟩
  rw [checkSemantics, Report.toFindings_ofFindings, ← Advice.concern_eq_reach_iff,
    ← Findings.mem_warnings_about, Semantics.about_reach, mem_unreachable_iff]

end Workflow.Validation
