import Workflow.Proofs.Document.Consistency

/-!
# What a check is concerned with

Each check of how the parts of a document fit together has problems and advice of its
own. So what a report says about one concern is what the check for it has found, and
the other checks do not matter.
-/

namespace Workflow.Validation

inductive Concern where
  | form
  | ids
  | dependencies
  | cycles
  | flow
  | reach
  | configuration
  | branches
  | fallbacks
  | references
  | inputs
  | practice
  deriving DecidableEq

def Problem.concern : Problem → Concern
  | unreadable _ _ | schema _ | invalidConfig _ => .form
  | duplicateStep _ | reservedStep _ => .ids
  | missingDependency _ _ => .dependencies
  | circularDependency _ => .cycles
  | missingConfig _ _ | unsupportedLanguage _ _ | missingCode _ | missingModel _ | missingPrompt _
  | temperature _ _ | missingUrl _ | invalidUrl _ _ _ | invalidMethod _ _ | missingCondition _ =>
    .configuration
  | branchTarget _ _ _ => .branches
  | ownFallback _ | unknownFallback _ _ => .fallbacks
  | malformedReference _ | incompleteReference _ | undeclaredInput _ _ | unknownReference _ _ =>
    .references
  | invalidPattern _ _ => .inputs

def Advice.concern : Advice → Concern
  | noStart | severalStarts _ | noEnd | startDependencies _ | endWithoutDependencies _ => .flow
  | unreachable _ => .reach
  | reservedType _ _ | missingLanguage _ | languageNotExecutable _ _ | missingMain _ | longCode _
  | shortPrompt _ | longPrompt _ | maxTokens _ _ | missingMethod _ | unusualTimeout _ _ =>
    .configuration
  | branchNotDownstream _ _ _ => .branches
  | missingFallback _ => .fallbacks
  | defaultType _ _ => .inputs
  | naming _ _ | shortDescription | manySteps _ | manyInputs _ => .practice

namespace Findings

variable {cs : List Concern} {c : Concern}

/-! ## Findings within some concerns -/

/-- All that has been found is about some concerns. -/
def Within (f : Findings) (cs : List Concern) : Prop :=
  (∀ finding ∈ f.errors, finding.problem.concern ∈ cs) ∧
    ∀ notice ∈ f.warnings, notice.advice.concern ∈ cs

@[simp] theorem within_none : none.Within cs :=
  ⟨fun _ h => absurd h List.not_mem_nil, fun _ h => absurd h List.not_mem_nil⟩

@[simp] theorem within_error_iff {path : String} {problem : Problem} :
    (error path problem).Within cs ↔ problem.concern ∈ cs := by
  simp [Within, error]

@[simp] theorem within_warning_iff {path : String} {advice : Advice} :
    (warning path advice).Within cs ↔ advice.concern ∈ cs := by
  simp [Within, warning]

@[simp] theorem within_append_iff {a b : Findings} :
    (a ++ b).Within cs ↔ a.Within cs ∧ b.Within cs := by
  simp only [Within, errors_append, warnings_append, List.forall_mem_append]
  tauto

@[simp] theorem within_given_iff {condition : Bool} {f : Findings} :
    (given condition f).Within cs ↔ (condition = true → f.Within cs) := by
  cases condition <;> simp [given]

@[simp] theorem within_all_iff {findings : List Findings} :
    (all findings).Within cs ↔ ∀ f ∈ findings, f.Within cs := by
  induction findings with
  | nil => simp [all]
  | cons head tail ih => simp [all, ih]

theorem within_all_map_iff {α : Type} {items : List α} {check : α → Findings} :
    (all (items.map check)).Within cs ↔ ∀ item ∈ items, (check item).Within cs := by
  rw [within_all_iff, List.forall_mem_map]

theorem Within.mono {cs' : List Concern} {f : Findings} (h : f.Within cs) (hsub : cs ⊆ cs') :
    f.Within cs' :=
  ⟨fun finding hfinding => hsub (h.1 finding hfinding),
    fun notice hnotice => hsub (h.2 notice hnotice)⟩

/-! ## What has been found -/

@[simp] theorem warnings_none : none.warnings = [] := rfl

@[simp] theorem warnings_error (path : String) (problem : Problem) :
    (error path problem).warnings = [] := rfl

@[simp] theorem warnings_warning (path : String) (advice : Advice) :
    (warning path advice).warnings = [⟨advice, path⟩] := rfl

@[simp] theorem mem_errors_given {finding : Finding} {condition : Bool} {f : Findings} :
    finding ∈ (given condition f).errors ↔ condition = true ∧ finding ∈ f.errors := by
  cases condition <;> simp [given]

@[simp] theorem mem_warnings_given {notice : Notice} {condition : Bool} {f : Findings} :
    notice ∈ (given condition f).warnings ↔ condition = true ∧ notice ∈ f.warnings := by
  cases condition <;> simp [given]

theorem mem_errors_all_map {α : Type} {items : List α} {check : α → Findings} {finding : Finding} :
    finding ∈ (all (items.map check)).errors ↔ ∃ item ∈ items, finding ∈ (check item).errors := by
  induction items with
  | nil => simp [all]
  | cons head tail ih => simp [all, ih]

theorem mem_warnings_all_map {α : Type} {items : List α} {check : α → Findings} {notice : Notice} :
    notice ∈ (all (items.map check)).warnings ↔
      ∃ item ∈ items, notice ∈ (check item).warnings := by
  induction items with
  | nil => simp [all]
  | cons head tail ih => simp [all, ih]

/-! ## Findings about one concern -/

/-- What has been found about a concern. -/
def about (c : Concern) (f : Findings) : Findings :=
  ⟨f.errors.filter fun finding => finding.problem.concern = c,
    f.warnings.filter fun notice => notice.advice.concern = c⟩

theorem mem_errors_about {finding : Finding} {f : Findings} :
    finding ∈ (f.about c).errors ↔ finding ∈ f.errors ∧ finding.problem.concern = c := by
  simp [about]

theorem mem_warnings_about {notice : Notice} {f : Findings} :
    notice ∈ (f.about c).warnings ↔ notice ∈ f.warnings ∧ notice.advice.concern = c := by
  simp [about]

@[simp] theorem none_append (f : Findings) : none ++ f = f := rfl

@[simp] theorem append_none (f : Findings) : f ++ none = f := by
  cases f
  simp only [HAppend.hAppend, Append.append, none]
  simp

theorem append_assoc (a b c : Findings) : a ++ b ++ c = a ++ (b ++ c) := by
  cases a
  cases b
  cases c
  simp only [HAppend.hAppend, Append.append]
  simp

theorem all_append (xs ys : List Findings) : all (xs ++ ys) = all xs ++ all ys := by
  induction xs with
  | nil => rfl
  | cons head tail ih => rw [List.cons_append, all, ih, all, append_assoc]

@[simp] theorem about_append (a b : Findings) : (a ++ b).about c = a.about c ++ b.about c := by
  simp only [about, errors_append, warnings_append, List.filter_append]
  rfl

@[simp] theorem about_all (findings : List Findings) :
    (all findings).about c = all (findings.map (about c)) := by
  induction findings with
  | nil => rfl
  | cons head tail ih => rw [all, about_append, ih, List.map_cons, all]

theorem about_of_not_mem {f : Findings} (h : f.Within cs) (hc : c ∉ cs) : f.about c = none := by
  have herrors : f.errors.filter (fun finding => finding.problem.concern = c) = [] := by
    apply List.filter_eq_nil_iff.mpr
    intro finding hfinding heq
    exact hc (of_decide_eq_true heq ▸ h.1 finding hfinding)
  have hwarnings : f.warnings.filter (fun notice => notice.advice.concern = c) = [] := by
    apply List.filter_eq_nil_iff.mpr
    intro notice hnotice heq
    exact hc (of_decide_eq_true heq ▸ h.2 notice hnotice)
  rw [about, herrors, hwarnings, none]

/-- A check that is about one concern matters to this one alone. -/
theorem Within.about {own : Concern} {f : Findings} (h : f.Within [own]) (c : Concern) :
    f.about c = given (c = own) f := by
  by_cases hc : c = own
  · subst hc
    have herrors : f.errors.filter (fun finding => finding.problem.concern = c) = f.errors :=
      List.filter_eq_self.mpr fun finding hfinding => by simpa using h.1 finding hfinding
    have hwarnings : f.warnings.filter (fun notice => notice.advice.concern = c) = f.warnings :=
      List.filter_eq_self.mpr fun notice hnotice => by simpa using h.2 notice hnotice
    rw [Findings.about, herrors, hwarnings, decide_eq_true rfl, given, if_pos rfl]
  · rw [about_of_not_mem h (by simpa using hc), decide_eq_false hc]
    rfl

@[simp] theorem all_replicate_none (n : Nat) : all (List.replicate n none) = none := by
  induction n with
  | zero => rfl
  | succ n ih => rw [List.replicate_succ, all, ih, none_append]

end Findings

namespace Semantics

variable (g : Graph) (known : List String) (names : Names) (path : String) (view : StepView)

/-! ## Texts inside a value -/

mutual

/-- The texts inside a value, each with its place. -/
def placed (path : String) : Json → List (String × String)
  | .str s => [(path, s)]
  | .arr items => placedInItems path 0 items
  | .obj fields => placedInFields path fields
  | _ => []

def placedInItems (path : String) (i : Nat) : List Json → List (String × String)
  | [] => []
  | item :: rest => placed s!"{path}/{i}" item ++ placedInItems path (i + 1) rest

def placedInFields (path : String) : List (String × Json) → List (String × String)
  | [] => []
  | (key, item) :: rest => placed s!"{path}/{key}" item ++ placedInFields path rest

end

mutual

/-- The references of a value are those of the texts inside it. -/
theorem value_eq (path : String) (json : Json) :
    value names path json =
      .all ((placed path json).map fun (place, text) => template names place text) := by
  cases json with
  | null | bool | num => rfl
  | str s => simp [value, placed, Findings.all]
  | arr items => exact valueItems_eq path 0 items
  | obj fields => exact valueFields_eq path fields

theorem valueItems_eq (path : String) (i : Nat) (items : List Json) :
    valueItems names path i items =
      .all ((placedInItems path i items).map fun (place, text) => template names place text) := by
  match items with
  | [] => rfl
  | item :: rest =>
    rw [valueItems, placedInItems, List.map_append, Findings.all_append, value_eq _ item,
      valueItems_eq path (i + 1) rest]

theorem valueFields_eq (path : String) (fields : List (String × Json)) :
    valueFields names path fields =
      .all ((placedInFields path fields).map fun (place, text) => template names place text) := by
  match fields with
  | [] => rfl
  | (key, item) :: rest =>
    rw [valueFields, placedInFields, List.map_append, Findings.all_append, value_eq _ item,
      valueFields_eq path rest]

end

/-! ## The concern of each check -/

theorem ids_within (seen : List String) (views : List StepView) :
    (ids seen views).Within [.ids] := by
  induction views generalizing seen with
  | nil => exact Findings.within_none
  | cons head tail ih => simp [ids, ih, Problem.concern]

theorem dependencies_within : (dependencies known view).Within [.dependencies] := by
  rw [dependencies, Findings.within_all_map_iff]
  intro dependency _
  simp [Problem.concern]

theorem cycles_within : (cycles g).Within [.cycles] := by
  rw [cycles, Findings.within_all_map_iff]
  intro cycle _
  simp [Problem.concern]

theorem ends_within (views : List StepView) : (ends views).Within [.flow] := by
  rw [ends, Findings.within_append_iff]
  constructor
  · split <;> simp [Advice.concern]
  · simp [Advice.concern]

theorem unreachable_within (views : List StepView) : (unreachable g views).Within [.reach] := by
  rw [unreachable, Findings.within_given_iff]
  intro _
  rw [Findings.within_all_map_iff]
  intro other _
  simp [Advice.concern]

theorem edges_within : (edges view).Within [.flow] := by
  rw [edges]
  split <;> simp [Advice.concern]

theorem code_within : (code view).Within [.configuration] := by
  simp only [code, Findings.within_append_iff]
  refine ⟨⟨?language, ?executable⟩, ?body⟩
  all_goals split <;> simp [Problem.concern, Advice.concern]

theorem prompt_within : (prompt view).Within [.configuration] := by
  rw [prompt]
  repeat' split
  all_goals simp [Problem.concern, Advice.concern]

theorem llm_within : (llm view).Within [.configuration] := by
  simp only [llm, Findings.within_append_iff, prompt_within, and_true]
  refine ⟨⟨?model, ?temperature⟩, ?tokens⟩
  case model => simp [Problem.concern]
  case temperature | tokens => split <;> simp [Problem.concern, Advice.concern]

theorem url_within : (url view).Within [.configuration] := by
  rw [url]
  repeat' split
  all_goals simp [Problem.concern]

theorem http_within : (http view).Within [.configuration] := by
  simp only [http, Findings.within_append_iff, url_within, true_and]
  constructor <;> split <;> simp [Problem.concern, Advice.concern]

theorem branch_within (key : String) : (branch g known view key).Within [.branches] := by
  rw [branch]
  repeat' split
  all_goals simp [Problem.concern, Advice.concern]

theorem fallback_within : (fallback known view).Within [.fallbacks] := by
  rw [fallback]
  simp only
  repeat' split
  all_goals simp [Problem.concern, Advice.concern]

theorem reference_within (token : Template.Token) :
    (reference names path token).Within [.references] := by
  rw [reference]
  repeat' split
  all_goals simp [Problem.concern]

theorem template_within (text : String) : (template names path text).Within [.references] := by
  rw [template, Findings.within_all_map_iff]
  exact fun token _ => reference_within names path token

theorem value_within (json : Json) : (value names path json).Within [.references] := by
  rw [value_eq, Findings.within_all_map_iff]
  exact fun (place, text) _ => template_within names place text

theorem stepReferences_within : (stepReferences names view).Within [.references] := by
  rw [stepReferences, Findings.within_all_map_iff]
  rintro ⟨key, item⟩ -
  exact Findings.within_given_iff.mpr fun _ => value_within names _ item

theorem outputReferences_within (name : String) (spec : Json) :
    (outputReferences names name spec).Within [.references] := by
  rw [outputReferences]
  split
  · exact template_within names _ _
  · exact Findings.within_none

theorem input_within (name : String) (spec : Json) : (input name spec).Within [.inputs] := by
  rw [input, Findings.within_append_iff]
  constructor
  · repeat' split
    all_goals simp [Problem.concern]
  · split <;> simp [Advice.concern]

/-! ## Branches -/

/-- What is found about the branches of a step. -/
def branches : Findings :=
  .given (view.type = .condition && view.config.isSome) <|
    branch g known view "true_step" ++ branch g known view "false_step"

theorem condition_within : (condition g known view).Within [.configuration, .branches] := by
  have hbranch : ∀ key, (branch g known view key).Within [.configuration, .branches] :=
    fun key => (branch_within g known view key).mono (by simp)
  simp only [condition, Findings.within_append_iff, hbranch, and_true]
  simp [Problem.concern]

theorem config_within : (config g known view).Within [.configuration, .branches] := by
  rw [config]
  split
  case h_1 | h_2 | h_3 | h_4 =>
    split
    · simp [Problem.concern]
    split
    · exact (code_within view).mono (by simp)
    · exact (llm_within view).mono (by simp)
    · exact (http_within view).mono (by simp)
    · exact condition_within g known view
  all_goals simp [Advice.concern]

theorem about_condition :
    (condition g known view).about .branches =
      branch g known view "true_step" ++ branch g known view "false_step" := by
  have hmissing : (Findings.given (isMissing (view.text? "condition"))
      (.error (view.configPath "condition") (.missingCondition view.id))).Within
        [.configuration] := by
    simp [Problem.concern]
  rw [condition, Findings.about_append, Findings.about_append,
    Findings.about_of_not_mem hmissing (by decide), (branch_within ..).about,
    (branch_within ..).about, Findings.none_append]
  rfl

theorem about_config : (config g known view).about .branches = branches g known view := by
  have hothers : ∀ {f : Findings}, f.Within [.configuration] → f.about .branches = .none :=
    fun hf => Findings.about_of_not_mem hf (by decide)
  have hmissing : ∀ type,
      (Findings.error view.path (.missingConfig view.id type)).about .branches = .none :=
    fun type => hothers (by simp [Problem.concern])
  rw [config, branches]
  cases view.config with
  | none => cases view.type with
    | start | finish => rfl
    | loop | parallel => exact hothers (by simp [Advice.concern])
    | code | llm | http | condition => exact hmissing _
  | some fields => cases view.type with
    | start | finish => rfl
    | loop | parallel => exact hothers (by simp [Advice.concern])
    | code => exact hothers (code_within view)
    | llm => exact hothers (llm_within view)
    | http => exact hothers (http_within view)
    | condition => exact about_condition g known view

/-! ## Whole documents -/

variable (doc : Json)

/-- What is found in a document about a concern is found by the checks for it. -/
theorem about_document (c : Concern) :
    (document doc).about c =
      let views := stepViews doc
      let names := Names.ofDocument doc
      let g := Graph.ofNodes views
      .given (c = .ids) (ids [] views)
      ++ .given (c = .dependencies) (.all (views.map (dependencies names.steps)))
      ++ .given (c = .cycles) (cycles g)
      ++ .given (c = .flow) (ends views)
      ++ .given (c = .reach) (unreachable g views)
      ++ .given (c = .flow) (.all (views.map edges))
      ++ .all (views.map fun view =>
          (config g names.steps view).about c
          ++ .given (c = .fallbacks) (fallback names.steps view)
          ++ .given (c = .references) (stepReferences names view))
      ++ .given (c = .references)
          (.all ((sectionFields doc "outputs").map fun (name, spec) =>
            outputReferences names name spec))
      ++ .given (c = .inputs)
          (.all ((sectionFields doc "inputs").map fun (name, spec) => input name spec)) := by
  have hdependencies : ∀ known, (Findings.all ((stepViews doc).map (dependencies known))).Within
      [.dependencies] :=
    fun known => Findings.within_all_map_iff.mpr fun view _ => dependencies_within known view
  have hedges : (Findings.all ((stepViews doc).map edges)).Within [.flow] :=
    Findings.within_all_map_iff.mpr fun view _ => edges_within view
  have houtputs : ∀ names (outputs : Entries Json), (Findings.all (outputs.map fun (name, spec) =>
      outputReferences names name spec)).Within [.references] :=
    fun names _ => Findings.within_all_map_iff.mpr fun (name, spec) _ =>
      outputReferences_within names name spec
  have hinputs : ∀ inputs : Entries Json,
      (Findings.all (inputs.map fun (name, spec) => input name spec)).Within [.inputs] :=
    fun _ => Findings.within_all_map_iff.mpr fun (name, spec) _ => input_within name spec
  have hsteps : ∀ g known names, (Findings.all ((stepViews doc).map fun view =>
        config g known view ++ fallback known view ++ stepReferences names view)).about c =
      .all ((stepViews doc).map fun view =>
        (config g known view).about c
        ++ .given (c = .fallbacks) (fallback known view)
        ++ .given (c = .references) (stepReferences names view)) := by
    intro g known names
    rw [Findings.about_all, List.map_map]
    congr
    funext view
    rw [Function.comp_apply, Findings.about_append, Findings.about_append,
      (fallback_within ..).about, (stepReferences_within ..).about]
  simp only [document, Findings.about_append, hsteps, (ids_within ..).about,
    (hdependencies _).about, (cycles_within _).about, (ends_within _).about,
    (unreachable_within ..).about, hedges.about, (houtputs ..).about, (hinputs _).about]

theorem about_cycles :
    (document doc).about .cycles = cycles (Graph.ofNodes (stepViews doc)) := by
  have hconfig : ∀ g known view, (config g known view).about .cycles = .none := fun _ _ _ =>
    Findings.about_of_not_mem (config_within ..) (by decide)
  rw [about_document]
  simp [Findings.given, hconfig]

theorem about_reach :
    (document doc).about .reach =
      unreachable (Graph.ofNodes (stepViews doc)) (stepViews doc) := by
  have hconfig : ∀ g known view, (config g known view).about .reach = .none := fun _ _ _ =>
    Findings.about_of_not_mem (config_within ..) (by decide)
  rw [about_document]
  simp [Findings.given, hconfig]

theorem about_branches :
    (document doc).about .branches =
      .all ((stepViews doc).map
        (branches (Graph.ofNodes (stepViews doc)) (Names.ofDocument doc).steps)) := by
  rw [about_document]
  simp [Findings.given, about_config]

theorem about_references :
    (document doc).about .references =
      .all ((stepViews doc).map (stepReferences (Names.ofDocument doc)))
      ++ .all ((sectionFields doc "outputs").map fun (name, spec) =>
        outputReferences (Names.ofDocument doc) name spec) := by
  have hconfig : ∀ g known view, (config g known view).about .references = .none := fun _ _ _ =>
    Findings.about_of_not_mem (config_within ..) (by decide)
  rw [about_document]
  simp [Findings.given, hconfig]

end Semantics

end Workflow.Validation
