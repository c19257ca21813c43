import Workflow.Proofs.Document.Agreement
import Workflow.Proofs.Document.Diagnosis
import Workflow.Proofs.Graph.Fault
import Workflow.Proofs.Graph.Reach

/-!
# Branches that come after their condition

A warning says of a branch that it does not depend on its condition. Without it the branch has a
path of dependencies to the condition, of any length, so the plan puts it behind the condition and
no run begins it before the condition is settled.
-/

namespace Workflow

open Dependent (dependsOn)
open Relation

/-! ## Plans -/

namespace Plan

variable {α : Type} [Dependent α] {nodes order : List α}

/-- A node stands in an order after what it depends on. -/
theorem Sequenced.mem_of_dependsOn (h : Sequenced nodes order) {id dependency : String}
    (hedge : DependsOn nodes id dependency) {done rest : List α} {node : α}
    (horder : order = done ++ node :: rest) (hid : Dependent.id node = id) :
    dependency ∈ done.map Dependent.id := by
  obtain ⟨other, hother, rfl, hdependency⟩ := hedge
  have hnode : node ∈ nodes := h.perm.mem_iff.mp (horder ▸ by simp)
  obtain rfl := List.inj_on_of_nodup_map h.nodup hother hnode hid.symm
  exact h.first done other rest horder dependency hdependency

/-- So it does after all that it depends on through others. -/
theorem Sequenced.mem_of_transGen (h : Sequenced nodes order) {id dependency : String}
    (hpath : TransGen (DependsOn nodes) id dependency) {done rest : List α} {node : α}
    (horder : order = done ++ node :: rest) (hid : Dependent.id node = id) :
    dependency ∈ done.map Dependent.id := by
  induction hpath using TransGen.head_induction_on generalizing done rest node with
  | single hlast => exact h.mem_of_dependsOn hlast horder hid
  | head hfirst _ ih =>
    obtain ⟨other, hother, heq⟩ := List.mem_map.mp (h.mem_of_dependsOn hfirst horder hid)
    obtain ⟨before, between, rfl⟩ := List.append_of_mem hother
    have hsplit : order = before ++ other :: (between ++ node :: rest) := by simpa using horder
    rw [List.map_append]
    exact List.mem_append_left _ (ih hsplit heq)

end Plan

/-- One step takes its turn before another does, in an order and in every run along it. -/
structure Definition.Precedes (d : Definition) (order : List Step) (step : Step) (target : String) :
    Prop where
  order : ∃ done between other rest,
    order = done ++ step :: (between ++ other :: rest) ∧ other.id = target
  /-- When the other step begins, the first one is settled. -/
  runs : ∀ {σ : Type} (env : Environment σ) (executionId : String) (inputs : Entries Json)
    (clock : Clock) (world : σ),
    ∃ outcome session, execute env d executionId inputs clock world = .ok (outcome, session) ∧
      ∀ moment ∈ session.journal, moment.event = .begun target →
        moment.progress.isSettled step.id = true

section

variable {d : Definition} {order : List Step} {step : Step} {target : String}

/-- A step takes its turn after what it depends on, through others too. -/
theorem Definition.precedes_of_transGen (h : Plan.sequence d.steps = .ok order)
    (hstep : step ∈ d.steps) (htarget : target ∈ d.steps.map Step.id)
    (hpath : TransGen (Plan.DependsOn d.steps) target step.id) :
    d.Precedes order step target := by
  have hplan := Plan.sequenced h
  -- Ids are unique, so the step itself is found where its id is.
  have hmem : ∀ {done rest : List Step} {other : Step}, order = done ++ other :: rest →
      other.id = target → step ∈ done := by
    intro done rest other horder hid
    obtain ⟨first, hfirst, heq⟩ := List.mem_map.mp (hplan.mem_of_transGen hpath horder hid)
    have hin : first ∈ d.steps :=
      hplan.perm.mem_iff.mp (horder ▸ List.mem_append_left (other :: rest) hfirst)
    exact List.inj_on_of_nodup_map hplan.nodup hin hstep heq ▸ hfirst
  constructor
  · obtain ⟨other, hother, hid⟩ := List.mem_map.mp htarget
    obtain ⟨before, rest, horder⟩ := List.append_of_mem (hplan.perm.mem_iff.mpr hother)
    obtain ⟨done, between, rfl⟩ := List.append_of_mem (hmem horder hid)
    exact ⟨done, between, other, rest, by simp [horder], hid⟩
  · intro σ env executionId inputs clock world
    refine ⟨_, _, Run.execute_eq h env executionId inputs clock world, ?_⟩
    intro moment hmoment hbegun
    rcases Run.journal_turns hmoment with hinitial | ⟨done, other, rest, r, horder, hdone, hturn⟩
    · exact absurd hinitial List.not_mem_nil
    have hsteps : ∀ s ∈ done, s ∈ d.steps := fun s hs =>
      hplan.perm.mem_iff.mp (horder ▸ List.mem_append_left (other :: rest) hs)
    rw [hturn.progress]
    exact Run.isSettled_turns hsteps hdone step (hmem horder (hturn.begun target hbegun).symm)

end

def ConditionConfig.branch? (c : ConditionConfig) (key : String) : Option String :=
  if key = "true_step" then c.trueStep else if key = "false_step" then c.falseStep else none

theorem ConditionConfig.key_of_branch? {c : ConditionConfig} {key target : String}
    (h : c.branch? key = some target) : key = "true_step" ∨ key = "false_step" := by
  by_contra hother
  rw [not_or] at hother
  rw [branch?, if_neg hother.1, if_neg hother.2] at h
  cases h

theorem ConditionConfig.target_of_branch? {c : ConditionConfig} {key target : String}
    (h : c.branch? key = some target) : c.trueStep = some target ∨ c.falseStep = some target := by
  rw [branch?] at h
  split_ifs at h
  · exact Or.inl h
  · exact Or.inr h

/-! ## Warnings -/

namespace Validation

/-- The report on a document warns of a branch of a step. -/
def WarnsOfBranch (document : Json) (id key target : String) : Prop :=
  ∃ notice ∈ (validateDocument document).warnings,
    notice.advice = .branchNotDownstream id key target

namespace Semantics

variable {g : Graph} {known : List String} {view : StepView} {notice : Notice}

theorem mem_warnings_branch_iff {key : String} :
    notice ∈ (branch g known view key).warnings ↔
      ∃ target, view.text? key = some target ∧ (target ∈ known ∧ target ≠ view.id) ∧
        target ∉ g.descendants view.id ∧
        notice = ⟨.branchNotDownstream view.id key target, view.configPath key⟩ := by
  rw [branch]
  cases htext : view.text? key with
  | none => simp
  | some target =>
    by_cases hfits : target ∈ known ∧ target ≠ view.id
    · simp [hfits]
    · have hbad : target ∉ known ∨ target = view.id := by tauto
      simp [hfits, hbad]

theorem mem_warnings_branches_iff :
    notice ∈ (branches g known view).warnings ↔
      (view.type = .condition ∧ view.config.isSome = true) ∧
        ∃ key, (key = "true_step" ∨ key = "false_step") ∧
          notice ∈ (branch g known view key).warnings := by
  simp [branches]

end Semantics

theorem Lint.document_within (document : Json) : (Lint.document document).Within [.practice] := by
  simp only [Lint.document, Findings.within_append_iff]
  refine ⟨⟨⟨?name, ?description⟩, ?steps⟩, ?inputs⟩
  case name => split <;> simp [Advice.concern]
  all_goals simp [Advice.concern]

variable {document : Json} {d : Definition}

/-- Warnings of branches come from the check of the branches. -/
theorem mem_warnings_validate_iff (hform : Schema.document document = []) {notice : Notice}
    (hconcern : notice.advice.concern = .branches) :
    notice ∈ (validateDocument document).warnings ↔
      ∃ view ∈ stepViews document,
        notice ∈ (Semantics.branches (Graph.ofNodes (stepViews document))
          ((stepViews document).map StepView.id) view).warnings := by
  have herrors : (checkSchema document).errors = [] := by simp [checkSchema, hform]
  have hpractice : notice ∉ (Lint.document document).warnings := by
    intro hin
    have hother := (Lint.document_within document).2 notice hin
    rw [hconcern] at hother
    revert hother
    decide
  rw [validateDocument, ((ends_analyze document).staged herrors).warnings, List.mem_append,
    checkSemantics, checkPractice, Report.toFindings_ofFindings, Report.toFindings_ofFindings,
    or_iff_left hpractice, ← Findings.mem_warnings_all_map]
  have habout := congrArg Findings.warnings (Semantics.about_branches document)
  rw [Names.ofDocument] at habout
  rw [← habout, Findings.mem_warnings_about, and_iff_left hconcern]

theorem StepView.Shows.text? {view : StepView} {step : Step} (h : view.Shows step)
    {c : ConditionConfig} (hc : step.config = .condition c) {key : String}
    (hkey : key = "true_step" ∨ key = "false_step") : view.text? key = c.branch? key := by
  obtain ⟨-, -, htrue, hfalse⟩ := h.condition c hc
  rcases hkey with rfl | rfl
  · exact htrue
  · exact hfalse

/-- The report on an accepted document warns of a branch exactly if its target does
not depend on the condition. -/
theorem warnsOfBranch_iff (h : (analyze document).2 = some d) {step : Step} (hstep : step ∈ d.steps)
    {c : ConditionConfig} (hc : step.config = .condition c) {key target : String}
    (hbranch : c.branch? key = some target) :
    WarnsOfBranch document step.id key target ↔
      ¬ TransGen (Plan.DependsOn d.steps) target step.id := by
  obtain ⟨hform, hfits, hdecoder⟩ := analyze_eq_some_iff.mp h
  have hsound := Definition.sound_of_accepted h
  have hlists : Lists document d.steps := map_nodeOf_of_shows (shows_of_accepted hform hdecoder)
  have hpath : target ∈ (Graph.ofNodes (stepViews document)).descendants step.id ↔
      TransGen (Plan.DependsOn d.steps) target step.id := by
    rw [hlists.graph, Graph.mem_descendants_iff,
      ← Plan.transGen_dependents_iff hsound.nodup hsound.known]
    simp only [Graph.mem_dependents]
    rfl
  rw [WarnsOfBranch, ← hpath]
  constructor
  · rintro ⟨notice, hnotice, hadvice⟩
    have hconcern : notice.advice.concern = .branches := hadvice ▸ rfl
    obtain ⟨view, -, hfound⟩ := (mem_warnings_validate_iff hform hconcern).mp hnotice
    obtain ⟨-, _, -, hfound⟩ := Semantics.mem_warnings_branches_iff.mp hfound
    obtain ⟨_, -, -, hnot, rfl⟩ := Semantics.mem_warnings_branch_iff.mp hfound
    obtain ⟨hid, -, rfl⟩ := (Advice.branchNotDownstream.injEq ..).mp hadvice
    exact hid ▸ hnot
  · intro hnot
    obtain ⟨view, hview, hshow⟩ := Decode.exists_of_forall₂ (shows_of_accepted hform hdecoder) hstep
    obtain ⟨htype, hconfig, -⟩ := hshow.condition c hc
    have hkey := ConditionConfig.key_of_branch? hbranch
    have htext : view.text? key = some target := (hshow.text? hc hkey).trans hbranch
    have hfit :=
      (consistent_of_errors hfits).branches view hview htype hconfig key target hkey htext
    refine ⟨⟨.branchNotDownstream step.id key target, view.configPath key⟩, ?_, rfl⟩
    apply (mem_warnings_validate_iff hform rfl).mpr
    refine ⟨view, hview, Semantics.mem_warnings_branches_iff.mpr ⟨⟨htype, hconfig⟩, key, hkey, ?_⟩⟩
    rw [← hshow.id] at hnot ⊢
    exact Semantics.mem_warnings_branch_iff.mpr ⟨target, htext, hfit, hnot, rfl⟩

end Validation

/-- In an accepted document the report warns of a branch of a condition exactly if its target does
not depend on the condition, not even through other steps. If it does not warn, the condition takes
its turn before the target does, in the plan and in every run. -/
theorem conditions_precede_branches {document : Json} {d : Definition}
    (h : (Validation.analyze document).2 = some d) {step : Step} (hstep : step ∈ d.steps)
    {c : ConditionConfig} (hc : step.config = .condition c) {key target : String}
    (hbranch : c.branch? key = some target) :
    ∃ order, Plan.sequence d.steps = .ok order ∧
      (Validation.WarnsOfBranch document step.id key target ↔
        ¬ TransGen (Plan.DependsOn d.steps) target step.id) ∧
      (¬ Validation.WarnsOfBranch document step.id key target → d.Precedes order step target) := by
  have hsound := Definition.sound_of_accepted h
  obtain ⟨order, horder⟩ := hsound.exists_sequence
  have hwarns := Validation.warnsOfBranch_iff h hstep hc hbranch
  refine ⟨order, horder, hwarns, fun hsilent => ?_⟩
  have hpath : TransGen (Plan.DependsOn d.steps) target step.id :=
    not_not.mp (hwarns.not.mp hsilent)
  have htarget := (hsound.branches step hstep c hc target (c.target_of_branch? hbranch)).1
  exact Definition.precedes_of_transGen horder hstep htarget hpath

/-- The steps of a document with a condition that one branch depends on through another step, and
the other branch not at all. -/
def triageSteps : List Json := [
  .obj [("id", .str "archive"), ("type", .str "end"), ("depends_on", .arr [.str "sort"])],
  .obj [("id", .str "sort"), ("type", .str "end"), ("depends_on", .arr [.str "choose"])],
  .obj [("id", .str "choose"), ("type", .str "condition"),
    ("config",
      .obj [("condition", .str "true"), ("true_step", .str "archive"),
        ("false_step", .str "notify")])],
  .obj [("id", .str "notify"), ("type", .str "end")]]

def triage : Definition where
  metadata := ⟨"triage", "", "1.0.0", none, []⟩
  inputs := []
  steps := [
    ⟨"archive", .finish, none, none, ["sort"], .finish, [], none⟩,
    ⟨"sort", .finish, none, none, ["choose"], .finish, [], none⟩,
    ⟨"choose", .condition, none, none, [],
      .condition ⟨"true", some "archive", some "notify"⟩, [], none⟩,
    ⟨"notify", .finish, none, none, [], .finish, [], none⟩]
  outputs := []

theorem accepted_triage : (Validation.analyze (outline "triage" triageSteps)).2 = some triage := by
  have hdecoder : Definition.decoder (outline "triage" triageSteps) = .ok triage := rfl
  apply Validation.analyze_outline _ _ _ hdecoder
  all_goals exact List.isEmpty_iff.mp (by decide +kernel)

def triageChoice : ConditionConfig := ⟨"true", some "archive", some "notify"⟩

/-- Its condition precedes one branch, and the report warns of the other. -/
theorem choose_precedes_archive :
    (Validation.analyze (outline "triage" triageSteps)).2 = some triage ∧
      ∃ step ∈ triage.steps, step.config = .condition triageChoice ∧
        triageChoice.branch? "true_step" = some "archive" ∧
        triageChoice.branch? "false_step" = some "notify" ∧
        (∃ order, Plan.sequence triage.steps = .ok order ∧
          triage.Precedes order step "archive") ∧
        Validation.WarnsOfBranch (outline "triage" triageSteps) step.id "false_step" "notify" := by
  have hstep : ⟨"choose", .condition, none, none, [], .condition triageChoice, [], none⟩ ∈
      triage.steps := by
    simp [triage, triageChoice]
  have harchive : triageChoice.branch? "true_step" = some "archive" := rfl
  have hnotify : triageChoice.branch? "false_step" = some "notify" := rfl
  have hsort : Plan.DependsOn triage.steps "archive" "sort" :=
    ⟨_, List.mem_cons_self, rfl, List.mem_cons_self⟩
  have hchoose : Plan.DependsOn triage.steps "sort" "choose" :=
    ⟨_, List.mem_cons_of_mem _ List.mem_cons_self, rfl, List.mem_cons_self⟩
  have hnone : ¬ TransGen (Plan.DependsOn triage.steps) "notify" "choose" := by
    intro hpath
    obtain ⟨_, ⟨node, hnode, hid, hdependency⟩, -⟩ := TransGen.head'_iff.mp hpath
    have hfree : ∀ node ∈ triage.steps, Dependent.id node = "notify" → dependsOn node = [] := by
      decide
    rw [hfree node hnode hid] at hdependency
    exact List.not_mem_nil hdependency
  obtain ⟨order, horder, hwarns, hprecedes⟩ :=
    conditions_precede_branches accepted_triage hstep rfl harchive
  obtain ⟨-, -, hwarned, -⟩ := conditions_precede_branches accepted_triage hstep rfl hnotify
  have hsilent := hwarns.not.mpr (not_not.mpr (.head hsort (.single hchoose)))
  exact ⟨accepted_triage, _, hstep, rfl, harchive, hnotify, ⟨order, horder, hprecedes hsilent⟩,
    hwarned.mpr hnone⟩

end Workflow
