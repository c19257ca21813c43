import Workflow.Proofs.Run.Turn

/-!
# Branches that conclusions leave

A handler makes a value, unless its step is a condition. So attempts that succeed
leave a branch untaken only if they are those at a condition, and it is the branch
that its verdict does not choose.
-/

namespace Workflow

/-- The step that a branch of a condition leads to. -/
def ConditionConfig.target? (config : ConditionConfig) (branch : Bool) : Option String :=
  if branch then config.trueStep else config.falseStep

/-- The verdict of a condition step leaves a branch untaken that leads to a target. -/
def Step.Leaves (step : Step) (context : Context) (target : String) : Prop :=
  ∃ config verdict, step.config = .condition config ∧
    Condition.verdict config.condition (.obj context.bindings) = .ok verdict ∧
    config.target? (!verdict) = some target

/-- The steps that the branches of a condition step lead to. -/
def Step.branches (step : Step) : List String :=
  match step.config with
  | .condition config => config.trueStep.toList ++ config.falseStep.toList
  | _ => []

theorem Step.Leaves.mem_branches {step : Step} {context : Context} {target : String}
    (h : step.Leaves context target) : target ∈ step.branches := by
  obtain ⟨config, verdict, hconfig, -, htarget⟩ := h
  rw [branches, hconfig]
  cases verdict with
  | false => exact List.mem_append_left _ (Option.mem_toList.mpr htarget)
  | true => exact List.mem_append_right _ (Option.mem_toList.mpr htarget)

/-! ## Outputs of handlers -/

namespace Handling

/-- A handling can have an output. -/
def Yields : Handling → StepOutput → Prop
  | done result, output => result = .ok output
  | request _ finish, output => ∃ response, finish response = .ok output

/-- A handling that takes no branch. -/
def Plain (h : Handling) : Prop := ∀ output, h.Yields output → output.notTaken? = none

theorem plain_error (fault : StepFault) : (done (.error fault)).Plain := by
  intro output h
  cases h

theorem plain_value (value : Json) : (done (.ok (.value value))).Plain := by
  intro output h
  cases h
  rfl

theorem plain_request {request : Request} {finish : request.Response → Except StepFault StepOutput}
    (h : ∀ response output, finish response = .ok output → output.notTaken? = none) :
    (Handling.request request finish).Plain := by
  rintro output ⟨response, hresponse⟩
  exact h response output hresponse

theorem plain_bind {α : Type} {x : Except StepFault α} {f : α → Except StepFault Handling}
    (h : ∀ a, (ofExcept (f a)).Plain) : (ofExcept (x >>= f)).Plain := by
  cases x with
  | error fault => exact plain_error fault
  | ok a => exact h a

end Handling

namespace Handler

variable {σ : Type} (cs : Collaborators σ) (timeouts : Timeouts) (c : Context)

theorem plain_code (id : String) (config : CodeConfig) : (code cs timeouts id config c).Plain := by
  unfold code
  split
  · refine Handling.plain_request fun response output h => ?_
    cases h
    rfl
  · exact Handling.plain_error _

theorem plain_llm (config : LlmConfig) (time : String) : (llm cs config time c).Plain := by
  have hgenerated : ∀ (prompt : String) (system : Option String),
      (Handling.ofExcept (if cs.generates then
        return .request
          (.generation ⟨config.model, prompt, system, config.temperature, config.maxTokens⟩)
          fun (g : Generation) =>
            .ok (.value (.obj [("text", .str g.text), ("metadata", g.metadata)]))
      else return .done (.ok (.value (echo config.model prompt time))))).Plain := by
    intro prompt system
    split
    · refine Handling.plain_request fun response output h => ?_
      cases h
      rfl
    · exact Handling.plain_value _
  unfold llm
  refine Handling.plain_bind fun prompt => ?_
  dsimp only
  split <;> exact Handling.plain_bind (hgenerated prompt)

theorem notTaken_response {request : HttpRequest} {reply : HttpResponse} {output : StepOutput}
    (h : response request reply = .ok output) : output.notTaken? = none := by
  unfold response at h
  split at h
  · cases h
  · cases h
    rfl

theorem plain_http (config : HttpConfig) : (http cs timeouts config c).Plain := by
  have hsent : ∀ request : HttpRequest, (Handling.ofExcept (if cs.sends then
      return .request (.http request) fun (r : HttpResponse) => response request r
      else .error (.http "no HTTP client configured"))).Plain := by
    intro request
    split
    · exact Handling.plain_request fun response output h => notTaken_response h
    · exact Handling.plain_error _
  unfold http
  refine Handling.plain_bind fun url => ?_
  split
  · exact Handling.plain_error _
  · refine Handling.plain_bind fun headers => ?_
    dsimp only
    split
    · split <;> exact Handling.plain_bind fun body => hsent _
    · exact Handling.plain_bind fun body => hsent _

theorem condition_eq_ok {config : ConditionConfig} {c : Context} {output : StepOutput}
    (h : condition config c = .ok output) :
    ∃ verdict, Condition.verdict config.condition (.obj c.bindings) = .ok verdict ∧
      output = .branch verdict (config.target? verdict) (config.target? !verdict) := by
  unfold condition at h
  cases hreferences : checkReferences c (Template.tokens config.condition) with
  | error fault =>
    rw [hreferences] at h
    cases h
  | ok _ =>
    rw [hreferences] at h
    cases hverdict : Condition.verdict config.condition (.obj c.bindings) with
    | error fault =>
      rw [hverdict] at h
      cases h
    | ok verdict =>
      rw [hverdict] at h
      refine ⟨verdict, rfl, ?_⟩
      cases verdict <;> cases h <;> rfl

/-- Only conditions take branches. -/
theorem leaves_of_yields {time : String} {step : Step} {output : StepOutput} {target : String}
    (h : (handle cs timeouts time step c).Yields output)
    (htarget : output.notTaken? = some target) : step.Leaves c target := by
  have hplain : ¬ (handle cs timeouts time step c).Plain := fun hplain => by
    rw [hplain output h] at htarget
    cases htarget
  unfold handle at h hplain
  cases hconfig : step.config <;> rw [hconfig] at h hplain
  case start | finish => exact absurd (Handling.plain_value _) hplain
  case code config => exact absurd (plain_code cs timeouts c step.id config) hplain
  case llm config => exact absurd (plain_llm cs c config time) hplain
  case http config => exact absurd (plain_http cs timeouts c config) hplain
  case reserved => exact absurd (Handling.plain_error _) hplain
  case condition config =>
    obtain ⟨verdict, hverdict, rfl⟩ := condition_eq_ok h
    exact ⟨config, verdict, hconfig, hverdict, htarget⟩

end Handler

variable {σ : Type} {env : Environment σ} {step : Step} {p : Progress} {s s' : Session σ}

theorem Session.yields_perform {c : Context} {limit : Option Nat} {output : StepOutput}
    (h : s.perform env step c limit = (.ok output, s')) :
    (Handler.handle env.collaborators env.timeouts env.time step c).Yields output := by
  unfold perform at h
  split at h
  · next result hdone =>
    rw [hdone]
    exact (Prod.mk.inj h).1
  · next request finish hrequest =>
    rw [hrequest]
    rcases hask : s.ask env request limit with ⟨fault | response, t⟩ <;> rw [hask] at h
    · cases h
    · exact ⟨response, (Prod.mk.inj h).1⟩

namespace Attempt

/-- A conclusion leaves a branch untaken only by the verdict of a condition. -/
theorem leaves_once {value : Json} {target : String}
    (h : once env step p s = (.ok (value, some target), s')) : step.Leaves p.context target := by
  unfold once at h
  simp only at h
  split at h
  · cases h
  · rcases hperform : ((s.look env).note p (.called step.id)).perform env step p.context
      (step.timeout? env.timeouts) with ⟨fault | output, t⟩ <;> rw [hperform] at h
    · cases h
    · have hyields := Session.yields_perform hperform
      have hconclude : conclude step output = .ok (value, some target) := (Prod.mk.inj h).1
      unfold conclude at hconclude
      cases hvalue : Projection.apply step.id step.outputs output.toJson with
      | error fault =>
        rw [hvalue] at hconclude
        cases hconclude
      | ok value =>
        rw [hvalue] at hconclude
        have htarget := (Prod.mk.inj (Except.ok.inj hconclude)).2
        exact Handler.leaves_of_yields _ _ _ hyields htarget

theorem leaves_repeated {done : Nat} {success : Success} {target : String}
    (h : repeated env step p done s = (some (.ok success), s'))
    (htarget : success.notTaken = some target) : step.Leaves p.context target := by
  fun_induction repeated env step p done s with
  | case1 done s value notTaken t honce =>
    cases h
    subst htarget
    exact leaves_once honce
  | case2 | case3 | case5 => cases h
  | case4 done s fault t honce hretry t' hpause ih => exact ih h

theorem leaves_all {success : Success} {target : String}
    (h : all env step p s = (some (.ok success), s')) (htarget : success.notTaken = some target) :
    step.Leaves p.context target := by
  unfold all at h
  split at h
  · next other t hrepeated =>
    cases h
    exact leaves_repeated hrepeated htarget
  · cases h
  · cases h

end Attempt

end Workflow
