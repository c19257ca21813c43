import Workflow.Proofs.Graph.Plan
import Workflow.Validation.Semantics

/-!
# What fits together in a document

If the checks find no error, ids are unique and not reserved, dependencies are known and lead in no
circle, and branches and fallbacks name other steps of the document.
-/

namespace Workflow.Validation

namespace Findings

@[simp] theorem errors_none : none.errors = [] := rfl

@[simp] theorem errors_error (path : String) (problem : Problem) :
    (error path problem).errors = [⟨problem, some path⟩] := rfl

@[simp] theorem errors_warning (path : String) (advice : Advice) :
    (warning path advice).errors = [] :=
  rfl

@[simp] theorem errors_given_eq_nil_iff {condition : Bool} {findings : Findings} :
    (given condition findings).errors = [] ↔ (condition = true → findings.errors = []) := by
  cases condition <;> simp [given]

@[simp] theorem errors_all_eq_nil_iff {findings : List Findings} :
    (all findings).errors = [] ↔ ∀ f ∈ findings, f.errors = [] := by
  induction findings with
  | nil => simp [all]
  | cons head tail ih => simp [all, ih]

end Findings

namespace Semantics

variable {views : List StepView} {view : StepView} {known : List String} {g : Graph}

theorem errors_ids_eq_nil_iff (seen : List String) :
    (ids seen views).errors = [] ↔
      (views.map StepView.id).Nodup ∧ ∀ view ∈ views, view.id ∉ seen ∧ view.id ∉ reservedIds := by
  induction views generalizing seen with
  | nil => simp [ids]
  | cons head tail ih =>
    have hsplit : (ids seen (head :: tail)).errors = [] ↔
        (head.id ∉ seen ∧ head.id ∉ reservedIds) ∧ (ids (head.id :: seen) tail).errors = [] := by
      simp [ids, and_assoc]
    rw [hsplit, ih, List.map_cons, List.nodup_cons, List.forall_mem_cons, List.mem_map]
    constructor
    · rintro ⟨hhead, hnodup, htail⟩
      refine ⟨⟨fun ⟨view, hview, heq⟩ => ?_, hnodup⟩, hhead, fun view hview => ?_⟩
      · exact (htail view hview).1 (heq ▸ List.mem_cons_self)
      · exact ⟨fun hin => (htail view hview).1 (List.mem_cons_of_mem _ hin), (htail view hview).2⟩
    · rintro ⟨⟨hfresh, hnodup⟩, hhead, htail⟩
      refine ⟨hhead, hnodup, fun view hview => ⟨fun hin => ?_, (htail view hview).2⟩⟩
      rcases List.mem_cons.mp hin with heq | hin
      · exact hfresh ⟨view, hview, heq⟩
      · exact (htail view hview).1 hin

theorem forall_mem_zipIdx_iff {α : Type} {P : α → Prop} {items : List α} :
    (∀ pair ∈ items.zipIdx, P pair.1) ↔ ∀ item ∈ items, P item := by
  rw [← List.forall_mem_map, List.zipIdx_map_fst]

theorem errors_dependencies_eq_nil_iff :
    (dependencies known view).errors = [] ↔ ∀ dependency ∈ view.dependsOn, dependency ∈ known := by
  rw [dependencies, Findings.errors_all_eq_nil_iff, List.forall_mem_map,
    ← forall_mem_zipIdx_iff (P := (· ∈ known))]
  simp

theorem errors_cycles_eq_nil_iff : (cycles g).errors = [] ↔ g.cycles = [] := by
  cases hcycles : g.cycles <;> simp [cycles, hcycles]

/-- A branch that is named leads to another step. -/
theorem target_of_branch {key target : String} (h : (branch g known view key).errors = [])
    (htarget : view.text? key = some target) : target ∈ known ∧ target ≠ view.id := by
  simp only [branch, htarget] at h
  split at h
  · simp at h
  · next hnot => simpa using hnot

theorem target_of_config {key target : String} (h : (config g known view).errors = [])
    (htype : view.type = .condition) (hconfig : view.config.isSome = true)
    (hkey : key = "true_step" ∨ key = "false_step") (htarget : view.text? key = some target) :
    target ∈ known ∧ target ≠ view.id := by
  have hsome : view.config.isNone = false := by simpa using hconfig
  simp only [config, htype, hsome, Bool.false_eq_true, if_false, condition, Findings.errors_append,
    List.append_eq_nil_iff] at h
  rcases hkey with rfl | rfl
  · exact target_of_branch h.1.2 htarget
  · exact target_of_branch h.2 htarget

/-- A fallback that is named is another step. -/
theorem target_of_fallback {handling : Entries Json} {target : String}
    (h : (fallback known view).errors = []) (hhandling : view.errorHandling = some handling)
    (htarget : (handling.get? "fallback_step").bind Json.string? = some target) :
    target ∈ known ∧ target ≠ view.id := by
  simp only [fallback, hhandling, htarget] at h
  split at h
  · simp at h
  · next hne => exact ⟨by simpa using h, hne⟩

end Semantics

/-- The views of steps that fit together. -/
structure Consistent (views : List StepView) : Prop where
  nodup : (views.map StepView.id).Nodup
  unreserved : ∀ view ∈ views, view.id ∉ Semantics.reservedIds
  known : ∀ view ∈ views, ∀ dependency ∈ view.dependsOn, dependency ∈ views.map StepView.id
  acyclic : (Graph.ofNodes views).cycles = []
  branches : ∀ view ∈ views, view.type = .condition → view.config.isSome = true →
    ∀ key target, (key = "true_step" ∨ key = "false_step") → view.text? key = some target →
      target ∈ views.map StepView.id ∧ target ≠ view.id
  fallbacks : ∀ view ∈ views, ∀ handling target, view.errorHandling = some handling →
    (handling.get? "fallback_step").bind Json.string? = some target →
      target ∈ views.map StepView.id ∧ target ≠ view.id

theorem consistent_of_errors {document : Json} (h : (Semantics.document document).errors = []) :
    Consistent (stepViews document) := by
  simp only [Semantics.document, Findings.errors_append, List.append_eq_nil_iff,
    Findings.errors_all_eq_nil_iff,
    List.forall_mem_map, Names.ofDocument] at h
  obtain ⟨⟨⟨⟨⟨⟨⟨⟨hids, hdependencies⟩, hcycles⟩, -⟩, -⟩, -⟩, hsteps⟩, -⟩, -⟩ := h
  obtain ⟨hnodup, hunreserved⟩ := (Semantics.errors_ids_eq_nil_iff []).mp hids
  refine ⟨hnodup, fun view hview => (hunreserved view hview).2, fun view hview => ?_,
    Semantics.errors_cycles_eq_nil_iff.mp hcycles, ?_, ?_⟩
  · exact Semantics.errors_dependencies_eq_nil_iff.mp (hdependencies view hview)
  · intro view hview htype hconfig key target hkey htarget
    exact Semantics.target_of_config (hsteps view hview).1.1 htype hconfig hkey htarget
  · intro view hview handling target hhandling htarget
    exact Semantics.target_of_fallback (hsteps view hview).1.2 hhandling htarget

end Workflow.Validation
