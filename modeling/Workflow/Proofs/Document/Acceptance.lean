import Workflow.Proofs.Document.Consistency
import Workflow.Proofs.Document.Retry
import Workflow.Proofs.Pattern.Digit
import Workflow.Proofs.Run.Fallback
import Workflow.Proofs.Run.Settlement
import Workflow.Validation.Pipeline

/-!
# Definitions of accepted documents

A document is accepted if its form is right, its parts fit together and it can be converted. What
the checks say about the steps as they stand in the document holds of the steps of the definition,
so a run of it never meets what it is prepared for in vain: a missing plan, an unknown step or a
fallback that is none.
-/

namespace Workflow

namespace Validation

/-- Advice on good practice is no error. -/
theorem Lint.errors_document (document : Json) : (Lint.document document).errors = [] := by
  unfold Lint.document
  cases workflowName document <;> simp

theorem valid_checkSchema_iff {document : Json} :
    (checkSchema document).valid = true ↔ Schema.document document = [] := by
  simp [checkSchema]

theorem valid_checks_iff {document : Json} :
    (((checkSchema document).extend (checkSemantics document)).extend
        (checkPractice document)).valid = true ↔
      Schema.document document = [] ∧ (Semantics.document document).errors = [] := by
  simp [checkSchema, checkSemantics, checkPractice, Lint.errors_document]

/-- A document is accepted exactly if no rule of form is broken, all parts fit
together and it can be converted. -/
theorem analyze_eq_some_iff {document : Json} {d : Definition} :
    (analyze document).2 = some d ↔
      Schema.document document = [] ∧ (Semantics.document document).errors = [] ∧
        Definition.decoder document = .ok d := by
  rw [analyze]
  by_cases hform : Schema.document document = []
  · by_cases hfits : (Semantics.document document).errors = []
    · simp only [valid_checkSchema_iff.mpr hform, valid_checks_iff.mpr ⟨hform, hfits⟩,
        Bool.not_true, Bool.false_eq_true, if_false]
      cases Definition.decoder document <;> simp [hform, hfits]
    · have hinvalid := Bool.eq_false_iff.mpr fun h => hfits (valid_checks_iff.mp h).2
      simp only [valid_checkSchema_iff.mpr hform, hinvalid, Bool.not_true, Bool.false_eq_true,
        Bool.not_false, if_false, if_true]
      simp [hfits]
  · have hinvalid := Bool.eq_false_iff.mpr fun h => hform (valid_checkSchema_iff.mp h)
    simp [hinvalid, hform]

/-- The views of an accepted document show all of the objects that its steps are read from. -/
theorem depicts_of_accepted {document : Json} {d : Definition}
    (hform : Schema.document document = []) (hdecoder : Definition.decoder document = .ok d) :
    List.Forall₂ (fun view step => ∃ index fields, StepView.Depicts view index fields ∧
      Step.decoder (.obj fields) = .ok step) (stepViews document) d.steps := by
  obtain ⟨items, hsteps⟩ := Schema.stepsForm hform
  obtain ⟨top, graph, rfl, hgraph, hitems⟩ := hsteps.place
  have hread := Definition.forall₂_of_decoder hdecoder hgraph hitems
  rw [stepViews_eq hsteps, ← List.zipIdx_map_fst 0 d.steps, List.forall₂_map_right_iff]
  apply (forall₂_depicts hread hsteps.each 0).imp
  rintro view ⟨step, index⟩ ⟨fields, hdepicts, hstep⟩
  exact ⟨index, fields, hdepicts, hstep⟩

/-- So they show the steps of its definition. -/
theorem shows_of_accepted {document : Json} {d : Definition}
    (hform : Schema.document document = []) (hdecoder : Definition.decoder document = .ok d) :
    List.Forall₂ StepView.Shows (stepViews document) d.steps :=
  (depicts_of_accepted hform hdecoder).imp fun _ _ ⟨_, _, hdepicts, hstep⟩ => hdepicts.shows hstep

/-- A graph sees the same in a step and in a view that shows it. -/
theorem map_nodeOf_of_shows {views : List StepView} {steps : List Step}
    (h : List.Forall₂ StepView.Shows views steps) :
    views.map Graph.nodeOf = steps.map Graph.nodeOf := by
  have hnode : ∀ (view : StepView) (step : Step), view.Shows step →
      Graph.nodeOf view = Graph.nodeOf step :=
    fun _ _ hshow => Node.mk.injEq _ _ _ _ ▸ ⟨hshow.id, hshow.dependsOn⟩
  have hnodes := List.rel_map hnode h
  rwa [List.forall₂_eq_eq_eq] at hnodes

end Validation

/-- What the checks of a document promise of its definition. -/
structure Definition.Sound (d : Definition) : Prop where
  nodup : (d.steps.map Step.id).Nodup
  unreserved : ∀ step ∈ d.steps, step.id ∉ Validation.Semantics.reservedIds
  known : ∀ step ∈ d.steps, ∀ dependency ∈ step.dependsOn, dependency ∈ d.steps.map Step.id
  acyclic : Graph.Acyclic (Graph.ofNodes d.steps).dependents
  /-- The branches of a condition lead to other steps. -/
  branches : ∀ step ∈ d.steps, ∀ c, step.config = .condition c → ∀ target,
    c.trueStep = some target ∨ c.falseStep = some target →
      target ∈ d.steps.map Step.id ∧ target ≠ step.id
  /-- A fallback is another step. -/
  fallbacks : ∀ step ∈ d.steps, ∀ handling, step.errorHandling = some handling → ∀ target,
    handling.fallbackStep = some target → target ∈ d.steps.map Step.id ∧ target ≠ step.id

namespace Validation.Consistent

variable {views : List StepView} {view : StepView} {step : Step}

theorem branch_of_shows (h : Consistent views) (hview : view ∈ views) (hshow : view.Shows step)
    {c : ConditionConfig} (hc : step.config = .condition c) {target : String}
    (htarget : c.trueStep = some target ∨ c.falseStep = some target) :
    target ∈ views.map StepView.id ∧ target ≠ step.id := by
  obtain ⟨htype, hconfig, htrue, hfalse⟩ := hshow.condition c hc
  rw [← hshow.id]
  rcases htarget with htarget | htarget
  · exact h.branches view hview htype hconfig "true_step" target (Or.inl rfl) (htrue.trans htarget)
  · exact h.branches view hview htype hconfig "false_step" target (Or.inr rfl)
      (hfalse.trans htarget)

theorem fallback_of_shows (h : Consistent views) (hview : view ∈ views) (hshow : view.Shows step)
    {handling : ErrorHandling} (hhandling : step.errorHandling = some handling) {target : String}
    (htarget : handling.fallbackStep = some target) :
    target ∈ views.map StepView.id ∧ target ≠ step.id := by
  obtain ⟨fields, hfields, hfallback⟩ := hshow.fallback handling hhandling
  rw [← hshow.id]
  exact h.fallbacks view hview fields target hfields (hfallback.trans htarget)

end Validation.Consistent

/-- What holds of views holds of the steps that they show. -/
theorem Definition.sound_of_consistent {views : List Validation.StepView} {d : Definition}
    (hshows : List.Forall₂ Validation.StepView.Shows views d.steps)
    (h : Validation.Consistent views) : d.Sound := by
  have hids : views.map Validation.StepView.id = d.steps.map Step.id :=
    List.forall₂_eq_eq_eq ▸ List.rel_map (fun _ _ hshow => hshow.id) hshows
  have hnodes := Validation.map_nodeOf_of_shows hshows
  refine ⟨hids ▸ h.nodup, fun step hstep => ?_, fun step hstep => ?_, ?_, fun step hstep => ?_,
    fun step hstep => ?_⟩
  · obtain ⟨view, hview, hshow⟩ := Decode.exists_of_forall₂ hshows hstep
    exact hshow.id ▸ h.unreserved view hview
  · obtain ⟨view, hview, hshow⟩ := Decode.exists_of_forall₂ hshows hstep
    exact hids ▸ hshow.dependsOn ▸ h.known view hview
  · rw [← Graph.ofNodes_map_nodeOf, ← hnodes, Graph.ofNodes_map_nodeOf]
    exact (Graph.proper_ofNodes views).cycles_eq_nil_iff.mp h.acyclic
  · obtain ⟨view, hview, hshow⟩ := Decode.exists_of_forall₂ hshows hstep
    exact fun c hc target htarget => hids ▸ h.branch_of_shows hview hshow hc htarget
  · obtain ⟨view, hview, hshow⟩ := Decode.exists_of_forall₂ hshows hstep
    exact fun handling hhandling target htarget =>
      hids ▸ h.fallback_of_shows hview hshow hhandling htarget

theorem Definition.sound_of_accepted {document : Json} {d : Definition}
    (h : (Validation.analyze document).2 = some d) : d.Sound := by
  obtain ⟨hform, hfits, hdecoder⟩ := Validation.analyze_eq_some_iff.mp h
  exact sound_of_consistent (Validation.shows_of_accepted hform hdecoder)
    (Validation.consistent_of_errors hfits)

/-- A step of an accepted document is tried eleven times at most. -/
theorem Definition.limit_le_of_accepted {document : Json} {d : Definition}
    (h : (Validation.analyze document).2 = some d) {step : Step} (hstep : step ∈ d.steps) :
    Policy.limit step ≤ 11 := by
  obtain ⟨hform, -, hdecoder⟩ := Validation.analyze_eq_some_iff.mp h
  exact limit_le_of_form hform hdecoder hstep

theorem Definition.countable_of_accepted {document : Json} {d : Definition}
    (h : (Validation.analyze document).2 = some d) : d.Countable := by
  obtain ⟨hform, -, hdecoder⟩ := Validation.analyze_eq_some_iff.mp h
  exact countable_of_form hform hdecoder

/-! ## Runs of accepted documents -/

/-- A run of an accepted document has a result. -/
theorem Run.execute_of_accepted {σ : Type} {document : Json} {d : Definition} {order : List Step}
    (h : (Validation.analyze document).2 = some d) (horder : Plan.sequence d.steps = .ok order)
    (env : Environment σ) (executionId : String) (inputs : Entries Json) (clock : Clock)
    (world : σ) :
    let (r, stop) := (Run.initial env d executionId inputs clock world).turns env d order
    execute env d executionId inputs clock world = .ok (some (r.result d stop), r.session) := by
  have hsteps : ∀ s ∈ order, s ∈ d.steps := fun s hs => (Plan.sequenced horder).perm.mem_iff.mp hs
  have hresult := outcome_of_countable (Definition.countable_of_accepted h) hsteps
    (Prod.mk.eta (p := (Run.initial env d executionId inputs clock world).turns env d order)).symm
  have hexecute := execute_eq horder env executionId inputs clock world
  simp only at hexecute
  rwa [hresult] at hexecute

/-- A policy falls back on a step only if it names it. -/
theorem Policy.handling_of_fallback {step : Step} {target : String}
    (h : Policy.decision step = .fallback target) :
    ∃ count, step.errorHandling = some ⟨.fallback, count, some target⟩ := by
  unfold Policy.decision at h
  split at h
  · cases h
  · next count other heq =>
    split at h <;> cases h
    exact ⟨count, heq⟩
  · cases h

namespace Definition.Sound

variable {d : Definition}

theorem exists_sequence (h : d.Sound) : ∃ order, Plan.sequence d.steps = .ok order :=
  Plan.exists_sequence h.nodup h.known h.acyclic

theorem knowsFallbacks (h : d.Sound) : d.KnowsFallbacks := by
  intro step hstep target hdecision
  obtain ⟨count, hhandling⟩ := Policy.handling_of_fallback hdecision
  obtain ⟨htarget, -⟩ := h.fallbacks step hstep _ hhandling target rfl
  obtain ⟨fallback, hfallback, rfl⟩ := List.mem_map.mp htarget
  exact ⟨fallback, hfallback, rfl, step?_id h.nodup hfallback⟩

/-- A fallback that a policy names is not given up. -/
theorem decision_eq_fallback (h : d.Sound) {step : Step} (hstep : step ∈ d.steps)
    {count : Option UInt32} {target : String}
    (hhandling : step.errorHandling = some ⟨.fallback, count, some target⟩) :
    Policy.decision step = .fallback target := by
  obtain ⟨-, hother⟩ := h.fallbacks step hstep _ hhandling target rfl
  rw [Policy.decision, hhandling]
  exact if_neg hother

end Definition.Sound

/-- A definition that never lets down a run: whatever a run looks for is there. -/
structure Definition.Dependable (d : Definition) : Prop where
  planned : ∃ order, Plan.sequence d.steps = .ok order
  /-- Every run has a result. If it stops because of a fallback, it has executed it. -/
  runs : ∀ {σ : Type} (env : Environment σ) (executionId : String) (inputs : Entries Json)
    (clock : Clock) (world : σ),
    ∃ (r : Run σ) (stop : Option Stop),
      execute env d executionId inputs clock world = .ok (some (r.result d stop), r.session) ∧
        ∀ id fault target targetFault, stop = some (.fallbackFailed id fault target targetFault) →
          ∃ moment ∈ r.session.journal, moment.event = .replaced id target
  found : ∀ step ∈ d.steps, d.step? step.id = some step
  knowsFallbacks : d.KnowsFallbacks
  /-- A policy that names a fallback falls back on it. -/
  decided : ∀ step ∈ d.steps, ∀ handling target, step.errorHandling = some handling →
    handling.onError = .fallback → handling.fallbackStep = some target →
      Policy.decision step = .fallback target
  /-- The branches of a condition lead to other steps. -/
  branches : ∀ step ∈ d.steps, ∀ c, step.config = .condition c → ∀ target,
    c.trueStep = some target ∨ c.falseStep = some target →
      ∃ other ∈ d.steps, other.id = target ∧ other.id ≠ step.id

/-- Definitions of accepted documents are dependable. -/
theorem dependable_of_accepted {document : Json} {d : Definition}
    (h : (Validation.analyze document).2 = some d) : d.Dependable := by
  have hsound := Definition.sound_of_accepted h
  obtain ⟨order, horder⟩ := hsound.exists_sequence
  have hsteps : ∀ s ∈ order, s ∈ d.steps := fun s hs => (Plan.sequenced horder).perm.mem_iff.mp hs
  refine ⟨⟨order, horder⟩, fun env executionId inputs clock world => ?_,
    fun step hstep => Definition.step?_id hsound.nodup hstep, hsound.knowsFallbacks, ?_, ?_⟩
  · refine ⟨_, _, Run.execute_of_accepted h horder env executionId inputs clock world,
      fun id fault target targetFault hstop => ?_⟩
    exact Run.replaced_of_fallbackFailed (Prod.ext rfl hstop) hsteps hsound.knowsFallbacks
  · rintro step hstep ⟨onError, count, fallbackStep⟩ target hhandling rfl rfl
    exact hsound.decision_eq_fallback hstep hhandling
  · intro step hstep c hc target htarget
    obtain ⟨hknown, hne⟩ := hsound.branches step hstep c hc target htarget
    obtain ⟨other, hother, rfl⟩ := List.mem_map.mp hknown
    exact ⟨other, hother, rfl, hne⟩

def sheet (name : String) (inputs : Entries Json) (steps : List Json) (outputs : Entries Json) :
    Json :=
  .obj [
    ("metadata",
      .obj [("name", .str name), ("description", .str ""), ("version", .str "1.0.0")]),
    ("inputs", .obj inputs),
    ("workflow", .obj [("steps", .arr steps)]),
    ("outputs", .obj outputs)]

def outline (name : String) (steps : List Json) : Json :=
  .obj [
    ("metadata",
      .obj [("name", .str name), ("description", .str ""), ("version", .str "1.0.0")]),
    ("inputs", .obj []),
    ("workflow", .obj [("steps", .arr steps)]),
    ("outputs", .obj [])]

namespace Validation.Schema

theorem version_sheet : version "/metadata/version" "1.0.0" = [] := by
  have hparts : "1.0.0".toList.splitOn '.' = [['1'], ['0'], ['0']] := by decide
  -- The table of digits is too long to be evaluated here.
  have hdigits : NamePattern.version.accepts "1.0.0" = true := by
    simp only [NamePattern.accepts, hparts]
    simp [Pattern.has_digit]
  have hread : Version.read "1.0.0" = .ok ⟨1, 0, 0⟩ := by decide +kernel
  rw [version, if_pos hdigits, hread]

theorem document_sheet {name : String} {declared : Entries Json} {items : List Json}
    {sources : Entries Json}
    (hname : matching "/metadata/name" .workflow name ++ atLeast "/metadata/name" 3 name ++
      atMost "/metadata/name" 100 name = [])
    (hinputs : inputs (.obj declared) = []) (hsteps : steps (.arr items) = [])
    (houtputs : outputs (.obj sources) = []) :
    document (sheet name declared items sources) = [] := by
  refine object_eq_nil_iff.mpr ⟨_, rfl, ?_⟩
  simp only [List.append_eq_nil_iff, mandatory_eq_nil_iff]
  refine ⟨⟨⟨⟨?sections, _, rfl, object_eq_nil_iff.mpr ⟨_, rfl, ?metadata⟩⟩, _, rfl, hinputs⟩,
    _, rfl, object_eq_nil_iff.mpr ⟨_, rfl, ?steps⟩⟩, _, rfl, houtputs⟩
  case sections => simp [Entries.keys, sections, require]
  case metadata =>
    simp only [List.append_eq_nil_iff, mandatory_eq_nil_iff]
    have hversion : string "/metadata/version" (version "/metadata/version") (.str "1.0.0") = [] :=
      string_eq_nil_iff.mpr ⟨_, rfl, version_sheet⟩
    refine ⟨⟨⟨⟨⟨_, rfl, string_eq_nil_iff.mpr ⟨_, rfl, hname⟩⟩, _, rfl, ?_⟩, _, rfl, hversion⟩,
      rfl⟩, rfl⟩
    exact List.isEmpty_iff.mp (by decide +kernel)
  case steps => exact mandatory_eq_nil_iff.mpr ⟨_, rfl, hsteps⟩

theorem document_outline {name : String} {items : List Json}
    (hname : matching "/metadata/name" .workflow name ++ atLeast "/metadata/name" 3 name ++
      atMost "/metadata/name" 100 name = [])
    (hsteps : steps (.arr items) = []) : document (outline name items) = [] :=
  document_sheet hname rfl hsteps rfl

end Validation.Schema

/-- An outline is accepted if its name and its steps are in form, its parts fit
together and it can be converted. -/
theorem Validation.analyze_outline {name : String} {items : List Json} {d : Definition}
    (hname : Schema.matching "/metadata/name" .workflow name ++
      Schema.atLeast "/metadata/name" 3 name ++ Schema.atMost "/metadata/name" 100 name = [])
    (hsteps : Schema.steps (.arr items) = [])
    (hfits : (Semantics.document (outline name items)).errors = [])
    (hdecoder : Definition.decoder (outline name items) = .ok d) :
    (analyze (outline name items)).2 = some d :=
  analyze_eq_some_iff.mpr ⟨Schema.document_outline hname hsteps, hfits, hdecoder⟩

/-- What is computed from a document about the run of its definition holds of that run. -/
theorem exists_run_of_decoder {σ α : Type} {env : Environment σ} {executionId : String}
    {inputs : Entries Json} {clock : Clock} {world : σ} {document : Json} {d : Definition}
    (hdecoder : Definition.decoder document = .ok d)
    {f : Definition → RunResult × Session σ → α} {a : α}
    (h : (Definition.decoder document).toOption.bind (fun d =>
      (Run.ended? (execute env d executionId inputs clock world)).map (f d)) = some a) :
    ∃ result session, execute env d executionId inputs clock world = .ok (some result, session) ∧
      f d (result, session) = a := by
  rw [hdecoder] at h
  obtain ⟨⟨result, session⟩, hrun, hcourse⟩ := Option.map_eq_some_iff.mp h
  exact ⟨result, session, Run.ended?_eq_some_iff.mp hrun, hcourse⟩

/-- A document with a branch and a fallback. -/
def review : Json :=
  .obj [
    ("metadata",
      .obj [("name", .str "review"), ("description", .str ""), ("version", .str "1.0.0")]),
    ("inputs", .obj []),
    ("workflow", .obj [("steps", .arr [
      .obj [("id", .str "ask"), ("type", .str "llm"), ("depends_on", .arr [.str "choose"]),
        ("config", .obj [("model", .str "m"), ("prompt", .str "?")]),
        ("error_handling", .obj [("on_error", .str "fallback"), ("fallback_step", .str "leave")])],
      .obj [("id", .str "choose"), ("type", .str "condition"),
        ("config",
          .obj [("condition", .str "1 == 1"), ("true_step", .str "ask"),
            ("false_step", .str "leave")])],
      .obj [("id", .str "leave"), ("type", .str "end"), ("depends_on", .arr [.str "choose"])]])]),
    ("outputs", .obj [])]

theorem Validation.Schema.document_review : document review = [] :=
  document_outline (List.isEmpty_iff.mp (by decide +kernel))
    (List.isEmpty_iff.mp (by decide +kernel))

theorem dependable_review : ∃ d, (Validation.analyze review).2 = some d ∧ d.Dependable := by
  have hfits : (Validation.Semantics.document review).errors = [] :=
    List.isEmpty_iff.mp (by decide +kernel)
  obtain ⟨d, hdecoder⟩ : ∃ d, Definition.decoder review = .ok d := ⟨_, rfl⟩
  have haccepted : (Validation.analyze review).2 = some d :=
    Validation.analyze_eq_some_iff.mpr ⟨Validation.Schema.document_review, hfits, hdecoder⟩
  exact ⟨d, haccepted, dependable_of_accepted haccepted⟩

end Workflow
