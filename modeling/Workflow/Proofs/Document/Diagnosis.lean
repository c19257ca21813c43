import Workflow.Proofs.Document.Concerns
import Workflow.Proofs.Document.Written
import Workflow.Proofs.Graph.Existence
import Workflow.Validation.Pipeline

/-!
# Problems of graphs

Of all the checks on a document, one reports duplicate ids, one unknown dependencies and one cycles,
each exactly if there are any. The planner refuses steps for the same three reasons, so a document
passes these checks exactly if its steps have a plan.
-/

namespace Workflow

namespace Validation

namespace Findings

/-- All problems of some findings are of a kind. -/
def Only (f : Findings) (P : Problem → Prop) : Prop := ∀ finding ∈ f.errors, P finding.problem

variable {P : Problem → Prop}

@[simp] theorem only_none : none.Only P := fun _ h => absurd h List.not_mem_nil

@[simp] theorem only_error_iff {path : String} {problem : Problem} :
    (error path problem).Only P ↔ P problem := by
  simp [Only]

@[simp] theorem only_append_iff {a b : Findings} : (a ++ b).Only P ↔ a.Only P ∧ b.Only P := by
  simp only [Only, errors_append, List.mem_append]
  exact ⟨fun h => ⟨fun f hf => h f (Or.inl hf), fun f hf => h f (Or.inr hf)⟩,
    fun h f hf => hf.elim (h.1 f) (h.2 f)⟩

@[simp] theorem only_given_iff {condition : Bool} {f : Findings} :
    (given condition f).Only P ↔ (condition = true → f.Only P) := by
  cases condition <;> simp [given]

@[simp] theorem only_all_iff {findings : List Findings} :
    (all findings).Only P ↔ ∀ f ∈ findings, f.Only P := by
  induction findings with
  | nil => simp [all]
  | cons head tail ih => simp [all, ih]

end Findings

theorem Report.hasError_eq_true_iff {r : Report} {code : String} :
    r.hasError code = true ↔ ¬ r.Only fun problem => problem.code ≠ code := by
  simp [Report.hasError, Findings.Only]

def Problem.isOfGraph : Problem → Bool
  | duplicateStep _ | missingDependency _ _ | circularDependency _ => true
  | _ => false

theorem Problem.not_isOfGraph_of_concern {problem : Problem}
    (h : problem.concern ∉ [Concern.ids, .dependencies, .cycles]) : problem.isOfGraph = false := by
  cases problem <;> simp [concern, isOfGraph] at h ⊢

namespace Semantics

variable {P : Problem → Prop} {known : List String} {g : Graph}

/-! ## Checks of graphs -/

theorem only_ids_of_forall (h : ∀ id, P (.duplicateStep id) ∧ P (.reservedStep id))
    (seen : List String) (views : List StepView) : (ids seen views).Only P := by
  induction views generalizing seen with
  | nil => simp [ids]
  | cons head tail ih => simp [ids, ih, h]

/-- Ids are reported as duplicate unless each is new. -/
theorem only_ids_iff (seen : List String) (views : List StepView) :
    ((ids seen views).Only fun problem => problem.code ≠ "DUPLICATE_STEP_ID") ↔
      (views.map StepView.id).Nodup ∧ ∀ view ∈ views, view.id ∉ seen := by
  induction views generalizing seen with
  | nil => simp [ids]
  | cons head tail ih =>
    have hsplit : ((ids seen (head :: tail)).Only fun problem =>
        problem.code ≠ "DUPLICATE_STEP_ID") ↔
        head.id ∉ seen ∧ ((ids (head.id :: seen) tail).Only fun problem =>
          problem.code ≠ "DUPLICATE_STEP_ID") := by
      simp [ids, Problem.code]
    rw [hsplit, ih, List.map_cons, List.nodup_cons, List.forall_mem_cons, List.mem_map]
    grind

theorem only_dependencies_iff {view : StepView} :
    (dependencies known view).Only P ↔
      ∀ dependency ∈ view.dependsOn, dependency ∉ known →
        P (.missingDependency view.id dependency) := by
  rw [dependencies, Findings.only_all_iff, List.forall_mem_map, ← forall_mem_zipIdx_iff
    (P := fun dependency => dependency ∉ known → P (.missingDependency view.id dependency))]
  simp

theorem only_cycles_iff :
    (cycles g).Only P ↔ ∀ cycle ∈ g.cycles, P (.circularDependency cycle) := by
  rw [cycles, Findings.only_all_iff, List.forall_mem_map]
  simp

/-! ## Whole documents -/

/-- What a document has to say of its graph, if other problems do not matter. -/
theorem only_document_iff (h : ∀ problem : Problem, problem.isOfGraph = false → P problem)
    {document : Json} :
    (Semantics.document document).Only P ↔
      (ids [] (stepViews document)).Only P ∧
        (∀ view ∈ stepViews document,
          (dependencies ((stepViews document).map StepView.id) view).Only P) ∧
        (cycles (Graph.ofNodes (stepViews document))).Only P := by
  have hspared : ∀ {f : Findings} {cs : List Concern}, f.Within cs →
      (∀ c ∈ cs, c ∉ [Concern.ids, .dependencies, .cycles]) → f.Only P :=
    fun hf hcs finding hfinding =>
      h finding.problem (Problem.not_isOfGraph_of_concern (hcs _ (hf.1 finding hfinding)))
  simp only [Semantics.document, Findings.only_append_iff, Findings.only_all_iff,
    List.forall_mem_map, Names.ofDocument]
  constructor
  · rintro ⟨⟨⟨⟨⟨⟨⟨⟨hids, hdependencies⟩, hcycles⟩, -⟩, -⟩, -⟩, -⟩, -⟩, -⟩
    exact ⟨hids, hdependencies, hcycles⟩
  · rintro ⟨hids, hdependencies, hcycles⟩
    refine ⟨⟨⟨⟨⟨⟨⟨⟨hids, hdependencies⟩, hcycles⟩, hspared (ends_within _) (by decide)⟩,
      hspared (unreachable_within ..) (by decide)⟩, ?_⟩, ?_⟩, ?_⟩, ?_⟩
    · exact fun view _ => hspared (edges_within view) (by decide)
    · exact fun view _ => ⟨⟨hspared (config_within ..) (by decide),
        hspared (fallback_within ..) (by decide)⟩, hspared (stepReferences_within ..) (by decide)⟩
    · exact fun pair _ => hspared (outputReferences_within ..) (by decide)
    · exact fun pair _ => hspared (input_within ..) (by decide)

end Semantics

variable {document : Json}

/-! ## Reports -/

/-- Which codes the checks of graphs give. -/
theorem Problem.code_ne_of_isOfGraph {problem : Problem} (h : problem.isOfGraph = false) :
    problem.code ≠ "DUPLICATE_STEP_ID" ∧ problem.code ≠ "MISSING_DEPENDENCY" ∧
      problem.code ≠ "CIRCULAR_DEPENDENCY" := by
  cases problem <;> simp [isOfGraph, code] at h ⊢

/-- Ids are reported as duplicate exactly if they are. -/
theorem reports_duplicate_iff :
    (checkSemantics document).hasError "DUPLICATE_STEP_ID" = true ↔
      ¬ ((stepViews document).map StepView.id).Nodup := by
  rw [Report.hasError_eq_true_iff, checkSemantics, Report.toFindings_ofFindings, not_iff_not,
    Semantics.only_document_iff fun _ h => (Problem.code_ne_of_isOfGraph h).1,
    Semantics.only_ids_iff]
  refine ⟨fun h => h.1.1, fun h => ⟨⟨h, fun _ _ => List.not_mem_nil⟩, fun view _ => ?_, ?_⟩⟩
  · exact Semantics.only_dependencies_iff.mpr (by simp [Problem.code])
  · exact Semantics.only_cycles_iff.mpr (by simp [Problem.code])

/-- A dependency is reported as missing exactly if one is not the id of a step. -/
theorem reports_missing_iff :
    (checkSemantics document).hasError "MISSING_DEPENDENCY" = true ↔
      ¬ ∀ view ∈ stepViews document, ∀ dependency ∈ view.dependsOn,
        dependency ∈ (stepViews document).map StepView.id := by
  rw [Report.hasError_eq_true_iff, checkSemantics, Report.toFindings_ofFindings, not_iff_not,
    Semantics.only_document_iff fun _ h => (Problem.code_ne_of_isOfGraph h).2.1]
  simp only [Semantics.only_dependencies_iff, Problem.code, ne_eq, not_true_eq_false, imp_false,
    not_not]
  refine ⟨fun h => h.2.1, fun h => ⟨?_, h, ?_⟩⟩
  · exact Semantics.only_ids_of_forall (by simp) _ _
  · exact Semantics.only_cycles_iff.mpr (by simp)

/-- A dependency is reported as circular exactly if the graph of the steps has a cycle. -/
theorem reports_circular_iff :
    (checkSemantics document).hasError "CIRCULAR_DEPENDENCY" = true ↔
      ¬ Graph.Acyclic (Graph.ofNodes (stepViews document)).dependents := by
  rw [Report.hasError_eq_true_iff, checkSemantics, Report.toFindings_ofFindings, not_iff_not,
    Semantics.only_document_iff fun _ h => (Problem.code_ne_of_isOfGraph h).2.2,
    ← (Graph.proper_ofNodes _).cycles_eq_nil_iff, List.eq_nil_iff_forall_not_mem]
  simp only [Semantics.only_cycles_iff, Problem.code, ne_eq, not_true_eq_false, imp_false]
  refine ⟨fun h => h.2.2, fun h => ⟨?_, fun view _ => ?_, h⟩⟩
  · exact Semantics.only_ids_of_forall (by simp) _ _
  · exact Semantics.only_dependencies_iff.mpr (by simp)

/-! ## Agreement with the planner -/

variable {steps : List Step}

theorem Lists.ids (h : Lists document steps) :
    (stepViews document).map StepView.id = steps.map Step.id := by
  have hids := congrArg (List.map Node.id) h
  rwa [List.map_map, List.map_map] at hids

theorem Lists.dependencies (h : Lists document steps) :
    (stepViews document).map StepView.dependsOn = steps.map Step.dependsOn := by
  have hdependencies := congrArg (List.map Node.dependsOn) h
  rwa [List.map_map, List.map_map] at hdependencies

theorem Lists.graph (h : Lists document steps) :
    Graph.ofNodes (stepViews document) = Graph.ofNodes steps := by
  rw [← Graph.ofNodes_map_nodeOf, h, Graph.ofNodes_map_nodeOf]

/-- The planner finds a cycle where the checks do. -/
theorem reports_circular_iff_cycle (h : Lists document steps)
    (hnodup : (steps.map Step.id).Nodup)
    (hknown : ∀ step ∈ steps, ∀ dependency ∈ step.dependsOn, dependency ∈ steps.map Step.id) :
    (checkSemantics document).hasError "CIRCULAR_DEPENDENCY" = true ↔
      ∃ id, Plan.make steps = .error (.cycle id) := by
  rw [reports_circular_iff, h.graph, Plan.exists_cycle_iff hnodup hknown]

/-- The planner refuses the steps on which the checks report a problem of the graph. -/
theorem reports_iff_refused (h : Lists document steps) :
    ((checkSemantics document).hasError "DUPLICATE_STEP_ID" = true ∨
        (checkSemantics document).hasError "MISSING_DEPENDENCY" = true ∨
        (checkSemantics document).hasError "CIRCULAR_DEPENDENCY" = true) ↔
      ∃ fault, Plan.make steps = .error fault := by
  have hrefused : (∃ fault, Plan.make steps = .error fault) ↔
      ¬ ∃ levels, Plan.make steps = .ok levels := by
    cases Plan.make steps <;> simp
  have hknown : (∀ view ∈ stepViews document, ∀ dependency ∈ view.dependsOn,
        dependency ∈ (stepViews document).map StepView.id) ↔
      ∀ step ∈ steps, ∀ dependency ∈ step.dependsOn, dependency ∈ steps.map Step.id := by
    rw [h.ids]
    have hlists := congrArg (fun lists => ∀ list ∈ lists, ∀ dependency ∈ list,
      dependency ∈ steps.map Step.id) h.dependencies
    rwa [List.forall_mem_map, List.forall_mem_map, eq_iff_iff] at hlists
  rw [reports_duplicate_iff, reports_missing_iff, reports_circular_iff, hknown, h.ids, h.graph,
    hrefused, Plan.exists_make_iff, ← not_and_or, ← not_and_or]
  exact Iff.rfl

/-- The checks of documents and the planner agree. Whatever ids and dependencies steps have, a
document lists them, and the checks of any such document report a problem of the graph exactly if
the planner refuses the steps. -/
theorem graph_checks_agree (steps : List Step) :
    (∃ document, Lists document steps) ∧
      ∀ document, Lists document steps →
        (((checkSemantics document).hasError "DUPLICATE_STEP_ID" = true ∨
            (checkSemantics document).hasError "MISSING_DEPENDENCY" = true ∨
            (checkSemantics document).hasError "CIRCULAR_DEPENDENCY" = true) ↔
          ∃ fault, Plan.make steps = .error fault) ∧
        ((steps.map Step.id).Nodup →
          (∀ step ∈ steps, ∀ dependency ∈ step.dependsOn, dependency ∈ steps.map Step.id) →
          ((checkSemantics document).hasError "CIRCULAR_DEPENDENCY" = true ↔
            ∃ id, Plan.make steps = .error (.cycle id))) := by
  refine ⟨⟨_, lists_toJson ⟨default, [], steps, []⟩⟩, fun document h => ⟨?_, ?_⟩⟩
  · exact reports_iff_refused h
  · exact reports_circular_iff_cycle h

/-- Steps of which two wait for each other and a third for itself. -/
def deadlock : List Step :=
  [("tie", ["knot", "knot"]), ("start", []), ("knot", ["tie"]), ("loop", ["start", "loop"])].map
    fun (id, dependsOn) => { (default : Step) with id, dependsOn }

theorem deadlock_is_reported :
    Lists (Definition.toJson ⟨default, [], deadlock, []⟩) deadlock ∧
      (deadlock.map Step.id).Nodup ∧
      (∀ step ∈ deadlock, ∀ dependency ∈ step.dependsOn, dependency ∈ deadlock.map Step.id) ∧
      (∃ id, Plan.make deadlock = .error (.cycle id)) ∧
      (checkSemantics (Definition.toJson ⟨default, [], deadlock, []⟩)).hasError
        "CIRCULAR_DEPENDENCY" = true := by
  have hlists : Lists (Definition.toJson ⟨default, [], deadlock, []⟩) deadlock := lists_toJson _
  have hnodup : (deadlock.map Step.id).Nodup := by decide
  have hknown : ∀ step ∈ deadlock, ∀ dependency ∈ step.dependsOn,
      dependency ∈ deadlock.map Step.id := by decide
  have hcycle : ∃ id, Plan.make deadlock = .error (.cycle id) := ⟨_, rfl⟩
  have hagree := (graph_checks_agree deadlock).2 _ hlists
  exact ⟨hlists, hnodup, hknown, hcycle, (hagree.2 hnodup hknown).mpr hcycle⟩

end Validation

end Workflow
