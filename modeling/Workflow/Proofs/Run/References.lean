import Workflow.Proofs.Document.References
import Workflow.Proofs.Run.Finality

/-!
# References in runs

The inputs of a run and the names that it declares stay as they are; only results come in. So
whatever a run of an accepted document resolves, and whenever, every reference points to an
input or a step that the definition has, and it leads nowhere only if the input was not provided
or the step has no result yet.
-/

namespace Workflow

open Template (Excused FailsOn FailsIn)
open Decode (bind_eq_error mapError_eq_error map_eq_error)

/-! ## Contexts of a run -/

/-- A context in a run of a definition with some inputs. -/
structure Context.Given (d : Definition) (inputs : Entries Json) (c : Context) : Prop where
  inputs : c.inputs = inputs
  declared : c.declared = d.inputs.keys

theorem Context.Given.put {d : Definition} {inputs : Entries Json} {c : Context}
    (h : c.Given d inputs) (id : String) (value : Json) : (c.put id value).Given d inputs :=
  ⟨h.inputs, h.declared⟩

namespace Run

variable {σ : Type} {env : Environment σ} {d : Definition} {step : Step} {r r' : Run σ}
  {stop : Option Stop} {inputs : Entries Json}

theorem Substituted.given {target : String} {value : Option (Except StepFault Json)}
    (h : Substituted env d step target r value r') (hr : r.progress.context.Given d inputs) :
    r'.progress.context.Given d inputs := by
  cases h with
  | reused | missing | failed | uncounted => exact hr
  | executed | outgrown => exact hr.put _ _

theorem CarriedOut.given (h : CarriedOut env d step r r' stop)
    (hr : r.progress.context.Given d inputs) : r'.progress.context.Given d inputs := by
  cases h with
  | succeeded success session hrun hfits =>
    rw [Progress.context_record, Progress.context_leave]
    exact hr.put _ _
  | outgrown success session overflow hrun hoverflow =>
    rw [Progress.publish, Progress.context_leave]
    exact hr.put _ _
  | interrupted | aborted | skipped | uncounted => exact hr
  | replaced failure session target value r' hrun hlive hdecision hsubstituted hfits =>
    exact (hsubstituted.given hr).put _ _
  | overfilled failure session target value r' overflow hrun hlive hdecision hsubstituted
      hoverflow =>
    exact (hsubstituted.given hr).put _ _
  | unreplaced failure session target fault r' hrun hlive hdecision hsubstituted =>
    exact hsubstituted.given hr
  | brokenOff failure session target r' hrun hlive hdecision hsubstituted =>
    exact hsubstituted.given hr

theorem Turned.given (h : Turned env d step r r' stop) (hr : r.progress.context.Given d inputs) :
    r'.progress.context.Given d inputs := by
  cases h with
  | cancelled | settled | passed => exact hr
  | carriedOut hlive hunsettled htaken r' stop hcarried => exact hcarried.given hr

theorem given_turns {steps : List Step} (h : r.turns env d steps = (r', stop))
    (hr : r.progress.context.Given d inputs) : r'.progress.context.Given d inputs := by
  have hturns : (r.turns env d steps).1.progress.context.Given d inputs :=
    turns_invariant (P := fun p => p.context.Given d inputs)
      (fun _ _ _ _ _ hturned hp => hturned.given hp) hr
  rw [h] at hturns
  exact hturns

/-- At every point of a run the context has the inputs of the run. -/
theorem Passes.given {start point : Run σ} {order : List Step}
    (h : Passes env d start order point) (hstart : start.progress.context.Given d inputs) :
    point.progress.context.Given d inputs := by
  cases h with
  | between done rest horder => exact given_turns (Prod.ext rfl rfl) hstart
  | within done rest step r failure session target horder hdone hlive hunsettled htaken hrun hfault
      hdecision =>
    have hbefore : r.progress.context.Given d inputs := given_turns hdone hstart
    exact (substituted env d step target (⟨r.progress, session⟩ : Run σ)).given hbefore

end Run

/-! ## Faults of handlers -/

namespace Handling

variable {P : StepFault → Prop}

/-- A handling that fails without a request fails for certain reasons only. -/
def FailsFor (h : Handling) (P : StepFault → Prop) : Prop :=
  ∀ fault, h = .done (.error fault) → P fault

theorem failsFor_error {fault : StepFault} (h : P fault) : (done (.error fault)).FailsFor P := by
  rintro _ ⟨⟩
  exact h

theorem failsFor_ok (output : StepOutput) : (done (.ok output)).FailsFor P := by
  rintro _ ⟨⟩

theorem failsFor_request {request : Request}
    {finish : request.Response → Except StepFault StepOutput} :
    (Handling.request request finish).FailsFor P := by
  rintro _ ⟨⟩

theorem failsFor_bind {α : Type} {x : Except StepFault α} {f : α → Except StepFault Handling}
    (hx : ∀ fault, x = .error fault → P fault) (hf : ∀ a, (ofExcept (f a)).FailsFor P) :
    (ofExcept (x >>= f)).FailsFor P := by
  cases x with
  | error fault => exact failsFor_error (hx fault rfl)
  | ok a => exact hf a

end Handling

namespace StepFault

theorem ofTemplate_injective : Function.Injective ofTemplate := by
  intro a b h
  cases a <;> cases b <;> cases h <;> rfl

/-- Whether a fault comes from a reference. -/
def fromReference : StepFault → Bool
  | unresolved _ _ | notFound _ _ | malformed _ => true
  | _ => false

theorem fromReference_ofTemplate (cause : Template.Fault) : (ofTemplate cause).fromReference := by
  cases cause <;> rfl

end StepFault

namespace Handler

variable {σ : Type} {c : Context} {fault : StepFault}

/-- A fault that comes from a reference in one of several texts. -/
def FromTexts (c : Context) (texts : List String) (fault : StepFault) : Prop :=
  ∃ cause, StepFault.ofTemplate cause = fault ∧ FailsIn c.scope texts cause

theorem FromTexts.mono {texts more : List String} (h : FromTexts c texts fault)
    (hsubset : texts ⊆ more) : FromTexts c more fault := by
  obtain ⟨cause, hfault, hfails⟩ := h
  exact ⟨cause, hfault, hfails.mono hsubset⟩

theorem resolve_eq_error {template : String} (h : resolve c template = .error fault) :
    FromTexts c [template] fault := by
  obtain ⟨cause, hcause, hfault⟩ := mapError_eq_error h
  exact ⟨cause, hfault, template, List.mem_singleton.mpr rfl,
    Template.resolveString_eq_error hcause⟩

theorem resolveHeaders_eq_error {headers : Entries String}
    (h : resolveHeaders c headers = .error fault) : FromTexts c (Entries.values headers) fault := by
  induction headers with
  | nil => cases h
  | cons header rest ih =>
    obtain ⟨name, template⟩ := header
    rcases bind_eq_error h with hvalue | ⟨value, -, h⟩
    · exact (resolve_eq_error hvalue).mono
        (List.cons_subset_cons template (List.nil_subset (Entries.values rest)))
    · rcases bind_eq_error h with hrest | ⟨values, -, hpure⟩
      · exact (ih hrest).mono (List.subset_cons_self template (Entries.values rest))
      · cases hpure

theorem checkReferences_eq_error {tokens : List Template.Token}
    (h : checkReferences c tokens = .error fault) :
    ∃ cause, StepFault.ofTemplate cause = fault ∧ FailsOn c.scope tokens cause := by
  induction tokens with
  | nil => cases h
  | cons token rest ih =>
    rcases bind_eq_error h with hpath | ⟨value, -, hrest⟩
    · obtain ⟨cause, hcause, hfault⟩ := mapError_eq_error hpath
      exact ⟨cause, hfault, token, List.mem_cons_self, hcause⟩
    · obtain ⟨cause, hfault, hfails⟩ := ih hrest
      exact ⟨cause, hfault, hfails.mono (List.subset_cons_self token rest)⟩

/-- A fault that comes from a reference in one of several texts, or from no reference at all. -/
def Accountable (c : Context) (texts : List String) (fault : StepFault) : Prop :=
  FromTexts c texts fault ∨ fault.fromReference = false

theorem accountable_of_resolve {template : String} {texts : List String} (h : template ∈ texts) :
    ∀ fault, resolve c template = .error fault → Accountable c texts fault := by
  intro fault hfault
  exact Or.inl ((resolve_eq_error hfault).mono (List.cons_subset.mpr ⟨h, List.nil_subset texts⟩))

theorem failsFor_llm (cs : Collaborators σ) (config : LlmConfig) (time : String) :
    (llm cs config time c).FailsFor
      (Accountable c (config.prompt :: config.systemPrompt.toList)) := by
  have hgenerated : ∀ (prompt : String) (system : Option String),
      (Handling.ofExcept (if cs.generates then
        return .request
          (.generation ⟨config.model, prompt, system, config.temperature, config.maxTokens⟩)
          fun (g : Generation) =>
            .ok (.value (.obj [("text", .str g.text), ("metadata", g.metadata)]))
      else return .done (.ok (.value (echo config.model prompt time))))).FailsFor
        (Accountable c (config.prompt :: config.systemPrompt.toList)) := by
    intro prompt system
    split
    · exact Handling.failsFor_request
    · exact Handling.failsFor_ok _
  unfold llm
  refine Handling.failsFor_bind (accountable_of_resolve List.mem_cons_self) fun prompt => ?_
  dsimp only
  split
  · next template hsystem =>
    refine Handling.failsFor_bind (fun fault hfault => ?_) (hgenerated prompt)
    refine accountable_of_resolve (List.mem_cons_of_mem _ ?_) fault (map_eq_error hfault)
    rw [hsystem]
    exact List.mem_singleton.mpr rfl
  · exact Handling.failsFor_bind nofun (hgenerated prompt)

theorem failsFor_http (cs : Collaborators σ) (timeouts : Timeouts) (config : HttpConfig) :
    (http cs timeouts config c).FailsFor
      (Accountable c (config.url ::
        (config.headers.values ++ (config.body.map Json.texts).getD []))) := by
  have hsent : ∀ request : HttpRequest, (Handling.ofExcept (if cs.sends then
      return .request (.http request) fun (r : HttpResponse) => response request r
      else .error (.http "no HTTP client configured"))).FailsFor
        (Accountable c (config.url ::
          (config.headers.values ++ (config.body.map Json.texts).getD []))) := by
    intro request
    split
    · exact Handling.failsFor_request
    · exact Handling.failsFor_error (Or.inr rfl)
  unfold http
  refine Handling.failsFor_bind (accountable_of_resolve List.mem_cons_self) fun url => ?_
  split
  · exact Handling.failsFor_error (Or.inr rfl)
  · refine Handling.failsFor_bind (fun fault hfault => ?_) fun headers => ?_
    · refine Or.inl ((resolveHeaders_eq_error hfault).mono fun text htext => ?_)
      exact List.mem_cons_of_mem _ (List.mem_append_left _ htext)
    · dsimp only
      split
      · next body hbody =>
        split
        · refine Handling.failsFor_bind (fun fault hfault => ?_) fun body => hsent _
          obtain ⟨cause, hcause, hof⟩ := mapError_eq_error (map_eq_error hfault)
          refine Or.inl ⟨cause, hof, (Template.resolveValue_eq_error body hcause).mono ?_⟩
          intro text htext
          rw [hbody]
          exact List.mem_cons_of_mem _ (List.mem_append_right _ htext)
        · exact Handling.failsFor_bind nofun fun body => hsent _
      · exact Handling.failsFor_bind nofun fun body => hsent _

theorem failsFor_condition (config : ConditionConfig) :
    (Handling.done (condition config c)).FailsFor (Accountable c [config.condition]) := by
  rintro fault hfault
  have herror : condition config c = .error fault := Handling.done.inj hfault
  rcases bind_eq_error herror with hreferences | ⟨_, -, herror⟩
  · obtain ⟨cause, hof, hfails⟩ := checkReferences_eq_error hreferences
    exact Or.inl ⟨cause, hof, config.condition, List.mem_singleton.mpr rfl, hfails⟩
  · rcases bind_eq_error herror with hverdict | ⟨verdict, -, hpure⟩
    · obtain ⟨cause, -, rfl⟩ := mapError_eq_error hverdict
      exact Or.inr rfl
    · cases verdict <;> cases hpure

/-- A handler that fails without a request fails for a reference in a text that it resolves, or for
no reference at all. -/
theorem failsFor_handle (cs : Collaborators σ) (timeouts : Timeouts) (time : String) (step : Step) :
    (handle cs timeouts time step c).FailsFor (Accountable c step.templates) := by
  rw [handle, Step.templates]
  cases step.config with
  | start | finish => exact Handling.failsFor_ok _
  | code config =>
    simp only [code]
    split
    · exact Handling.failsFor_request
    · exact Handling.failsFor_error (Or.inr rfl)
  | llm config => exact failsFor_llm cs config time
  | http config => exact failsFor_http cs timeouts config
  | condition config => exact failsFor_condition config
  | reserved raw => exact Handling.failsFor_error (Or.inr rfl)

end Handler

/-! ## References in contexts -/

namespace Definition

variable {d : Definition} {inputs : Entries Json} {c : Context}

/-- Something that is resolved in a context has a value, or an excused fault. -/
def Excuses {α : Type} (d : Definition) (c : Context) (resolved : Except Template.Fault α) : Prop :=
  ∀ fault, resolved = .error fault → Excused d.inputs.keys (d.steps.map Step.id) c.scope fault

/-- Whatever a run resolves in a context has a value or an excused fault: the templates of
its steps, the references of its conditions and the sources of its outputs. No other
references make its handlers fail. -/
structure ResolvesIn (d : Definition) (inputs : Entries Json) (c : Context) : Prop where
  given : c.Given d inputs
  prompts : ∀ step ∈ d.steps, ∀ config, step.config = .llm config →
    d.Excuses c (Template.resolveString c.scope config.prompt) ∧
      ∀ system, config.systemPrompt = some system →
        d.Excuses c (Template.resolveString c.scope system)
  requests : ∀ step ∈ d.steps, ∀ config, step.config = .http config →
    d.Excuses c (Template.resolveString c.scope config.url) ∧
      (∀ header ∈ config.headers.values, d.Excuses c (Template.resolveString c.scope header)) ∧
      ∀ body, config.body = some body → d.Excuses c (Template.resolveValue c.scope body)
  conditions : ∀ step ∈ d.steps, ∀ config, step.config = .condition config →
    ∀ token ∈ Template.tokens config.condition,
      d.Excuses c (Template.resolvePath c.scope token.path)
  outputs : ∀ spec ∈ d.outputs.values, d.Excuses c (Template.resolveTemplate c.scope spec.source)
  handlers : ∀ {σ : Type} (cs : Collaborators σ) (timeouts : Timeouts) (time : String),
    ∀ step ∈ d.steps, ∀ fault,
      Handler.handle cs timeouts time step c = .done (.error (.ofTemplate fault)) →
        Excused d.inputs.keys (d.steps.map Step.id) c.scope fault

theorem KnowsReferences.excused (h : d.KnowsReferences) (hgiven : c.Given d inputs)
    {texts : List String} (htexts : texts ⊆ d.templates) {fault : Template.Fault}
    (hfails : FailsIn c.scope texts fault) :
    Excused d.inputs.keys (d.steps.map Step.id) c.scope fault := by
  apply hfails.excused
  · intro name
    rw [← hgiven.declared]
    exact List.contains_iff_mem
  · exact fun text htext => h text (htexts htext)

theorem templates_subset {step : Step} (hstep : step ∈ d.steps) : step.templates ⊆ d.templates :=
  fun _ htext => List.mem_append_left _ (List.mem_flatMap.mpr ⟨step, hstep, htext⟩)

/-- In the contexts of its runs a definition whose references are known resolves them. -/
theorem KnowsReferences.resolvesIn (h : d.KnowsReferences) (hgiven : c.Given d inputs) :
    d.ResolvesIn inputs c := by
  have hone : ∀ {text : String} {fault : Template.Fault}, text ∈ d.templates →
      FailsOn c.scope (Template.tokens text) fault →
        Excused d.inputs.keys (d.steps.map Step.id) c.scope fault := by
    intro text fault htext hfails
    exact h.excused hgiven (fun _ hmem => hmem) ⟨text, htext, hfails⟩
  have hstring : ∀ {text : String}, text ∈ d.templates →
      d.Excuses c (Template.resolveString c.scope text) :=
    fun htext fault hfault => hone htext (Template.resolveString_eq_error hfault)
  refine ⟨hgiven, ?prompts, ?requests, ?conditions, ?outputs, ?handlers⟩
  case prompts =>
    intro step hstep config hconfig
    have htemplates := templates_subset hstep
    rw [Step.templates, hconfig] at htemplates
    refine ⟨hstring (htemplates List.mem_cons_self), fun system hsystem => ?_⟩
    exact hstring (htemplates (List.mem_cons_of_mem _ (Option.mem_toList.mpr hsystem)))
  case requests =>
    intro step hstep config hconfig
    have htemplates := templates_subset hstep
    rw [Step.templates, hconfig] at htemplates
    have hrest := (List.cons_subset.mp htemplates).2
    refine ⟨hstring (htemplates List.mem_cons_self), fun header hheader => ?_,
      fun body hbody fault hfault => ?_⟩
    · exact hstring (hrest (List.mem_append_left _ hheader))
    · apply h.excused hgiven _ (Template.resolveValue_eq_error body hfault)
      rw [hbody] at hrest
      exact fun _ htext => hrest (List.mem_append_right _ htext)
  case conditions =>
    intro step hstep config hconfig token htoken fault hfault
    have htemplates := templates_subset hstep
    rw [Step.templates, hconfig] at htemplates
    exact hone (htemplates (List.mem_singleton.mpr rfl)) ⟨token, htoken, hfault⟩
  case outputs =>
    intro spec hspec fault hfault
    apply hone _ (Template.resolveTemplate_eq_error hfault)
    exact List.mem_append_right _ (List.mem_map.mpr ⟨spec, hspec, rfl⟩)
  case handlers =>
    intro σ cs timeouts time step hstep fault hhandle
    rcases Handler.failsFor_handle cs timeouts time step _ hhandle with ⟨cause, hof, hfails⟩ | hnone
    · have hcause := h.excused hgiven (templates_subset hstep) hfails
      rwa [StepFault.ofTemplate_injective hof] at hcause
    · rw [StepFault.fromReference_ofTemplate] at hnone
      cases hnone

end Definition

variable {σ : Type}

/-- The checks on references are sound. In every run of the definition of an accepted document,
whenever a step begins or is called and at whatever other point, whatever the run resolves has a
value or an excused fault: it is never malformed, and it is unresolved only for a declared input
that the run was not given or for a step that has no result yet. -/
theorem accepted_references_resolve {document : Json} {d : Definition}
    (h : (Validation.analyze document).2 = some d) (env : Environment σ) (executionId : String)
    (inputs : Entries Json) (clock : Clock) (world : σ) :
    ∃ order, Plan.sequence d.steps = .ok order ∧ ∃ (r : Run σ) (stop : Option Stop),
      execute env d executionId inputs clock world = .ok (some (r.result d stop), r.session) ∧
        (∀ moment ∈ r.session.journal, d.ResolvesIn inputs moment.progress.context) ∧
        (∀ point, (Run.initial env d executionId inputs clock world).Passes env d order point →
          d.ResolvesIn inputs point.progress.context) ∧
        (Run.initial env d executionId inputs clock world).Passes env d order r := by
  obtain ⟨order, horder⟩ := (Definition.sound_of_accepted h).exists_sequence
  have hknows := Definition.knowsReferences_of_accepted h
  have hinitial :
      (Run.initial env d executionId inputs clock world).progress.context.Given d inputs :=
    ⟨rfl, rfl⟩
  refine ⟨order, horder, _, _, Run.execute_of_accepted h horder env executionId inputs clock world,
    ?_, ?_, .between order [] (List.append_nil order).symm⟩
  · intro moment hmoment
    rcases Run.journal_turns hmoment with hnone | ⟨done, step, rest, r, -, hdone, hturn⟩
    · exact absurd hnone List.not_mem_nil
    · rw [hturn.progress]
      exact hknows.resolvesIn (Run.given_turns hdone hinitial)
  · intro point hpoint
    exact hknows.resolvesIn (hpoint.given hinitial)

/-- A document whose references lead to an input that need not be provided, to facts about the run
and to the result of a step. -/
def summary : Json :=
  sheet "summary"
    [("topic", .obj [("type", .str "string"), ("required", .bool false)])]
    [.obj [("id", .str "ask"), ("type", .str "llm"),
      ("config", .obj [("model", .str "m"), ("prompt", .str "$\x7binputs.topic\x7d?"),
        ("system_prompt", .str "$\x7btopic\x7d in $\x7bsys.workflow_name\x7d")]),
      ("error_handling", .obj [("on_error", .str "skip")])],
    .obj [("id", .str "choose"), ("type", .str "condition"), ("depends_on", .arr [.str "ask"]),
      ("config", .obj [("condition", .str "$\x7bask.text\x7d == 'x'"),
        ("true_step", .str "leave")])],
    .obj [("id", .str "leave"), ("type", .str "end"), ("depends_on", .arr [.str "choose"])]]
    [("text", .obj [("source", .str "$\x7bask.text\x7d")])]

theorem accepted_summary : ∃ d, (Validation.analyze summary).2 = some d := by
  obtain ⟨d, hdecoder⟩ : ∃ d, Definition.decoder summary = .ok d := ⟨_, rfl⟩
  have hform : Validation.Schema.document summary = [] := by
    apply Validation.Schema.document_sheet
    all_goals exact List.isEmpty_iff.mp (by decide +kernel)
  have hfits : (Validation.Semantics.document summary).errors = [] :=
    List.isEmpty_iff.mp (by decide +kernel)
  exact ⟨d, Validation.analyze_eq_some_iff.mpr ⟨hform, hfits, hdecoder⟩⟩

theorem accepted_references_resolve_in_summary :
    ∃ d, (Validation.analyze summary).2 = some d ∧
      ∃ order, Plan.sequence d.steps = .ok order ∧ ∃ (r : Run Nat) (stop : Option Stop),
        execute calm d "exec" [] (.initial false none) 0 = .ok (some (r.result d stop), r.session) ∧
          (∀ moment ∈ r.session.journal, d.ResolvesIn [] moment.progress.context) ∧
          (∀ point, (Run.initial calm d "exec" [] (.initial false none) 0).Passes calm d order
            point → d.ResolvesIn [] point.progress.context) ∧
          (Run.initial calm d "exec" [] (.initial false none) 0).Passes calm d order r := by
  obtain ⟨d, haccepted⟩ := accepted_summary
  exact ⟨d, haccepted,
    accepted_references_resolve haccepted calm "exec" [] (.initial false none) 0⟩

/-- Without its input the prompt is unresolved, and then so is the condition on the text. -/
example : (Definition.decoder summary).toOption.bind (fun d =>
    (Run.ended? (execute calm d "exec" [] (.initial false none) 0)).map fun pair =>
      pair.1.steps.map fun entry => (entry.1, entry.2.error?)) =
    some [("ask", some
        "unresolved reference '$\x7binputs.topic\x7d': input 'topic' was not provided"),
      ("choose",
        some "unresolved reference '$\x7bask.text\x7d': no result for 'ask' in scope")] := by
  decide +kernel

end Workflow
