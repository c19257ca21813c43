import Workflow.Definition.Read
import Workflow.Proofs.Decode.Record

/-!
# What definitions are read from

The parts of steps, of their error policies and of the branches of conditions, as they stand in the
objects from which they are read.
-/

namespace Workflow

open Decode (Holds holds_of_record Governs)

/-- An error policy as an object describes it. -/
structure ErrorHandling.ReadFrom (fields : Entries Json) (handling : ErrorHandling) : Prop where
  onError : Holds fields "on_error" OnError.decoder .fail handling.onError
  retryCount : Holds fields "retry_count" (Decode.optional Decode.u32) none handling.retryCount
  fallbackStep :
    Holds fields "fallback_step" (Decode.optional Decode.text) none handling.fallbackStep

theorem ErrorHandling.readFrom {fields : Entries Json} {handling : ErrorHandling}
    (h : ErrorHandling.decoder (.obj fields) = .ok handling) : handling.ReadFrom fields where
  onError := holds_of_record h "on_error" OnError.decoder ErrorHandling.onError ⟨by simp, by simp⟩
  retryCount :=
    holds_of_record h "retry_count" (Decode.optional Decode.u32) ErrorHandling.retryCount
      ⟨by simp, by simp⟩
  fallbackStep :=
    holds_of_record h "fallback_step" (Decode.optional Decode.text) ErrorHandling.fallbackStep
      ⟨by simp, by simp⟩

/-- The branches of a condition as an object describes them. -/
structure ConditionConfig.ReadFrom (fields : Entries Json) (config : ConditionConfig) : Prop where
  trueStep : Holds fields "true_step" (Decode.optional Decode.text) none config.trueStep
  falseStep : Holds fields "false_step" (Decode.optional Decode.text) none config.falseStep

theorem ConditionConfig.readFrom {fields : Entries Json} {config : ConditionConfig}
    (h : ConditionConfig.decoder (.obj fields) = .ok config) : config.ReadFrom fields where
  trueStep :=
    holds_of_record h "true_step" (Decode.optional Decode.text) ConditionConfig.trueStep
      ⟨by simp, by simp⟩
  falseStep :=
    holds_of_record h "false_step" (Decode.optional Decode.text) ConditionConfig.falseStep
      ⟨by simp, by simp⟩

theorem ConditionConfig.condition_of_decoder {fields : Entries Json} {config : ConditionConfig}
    (h : ConditionConfig.decoder (.obj fields) = .ok config) :
    Holds fields "condition" Decode.text "" config.condition :=
  holds_of_record h "condition" Decode.text ConditionConfig.condition ⟨by simp, by simp⟩

/-- The prompts of a text generation step as an object describes them. -/
structure LlmConfig.ReadFrom (fields : Entries Json) (config : LlmConfig) : Prop where
  prompt : Holds fields "prompt" Decode.text "" config.prompt
  systemPrompt :
    Holds fields "system_prompt" (Decode.optional Decode.text) none config.systemPrompt

theorem LlmConfig.readFrom {fields : Entries Json} {config : LlmConfig}
    (h : LlmConfig.decoder (.obj fields) = .ok config) : config.ReadFrom fields where
  prompt := holds_of_record h "prompt" Decode.text LlmConfig.prompt ⟨by simp, by simp⟩
  systemPrompt :=
    holds_of_record h "system_prompt" (Decode.optional Decode.text) LlmConfig.systemPrompt
      ⟨by simp, by simp⟩

/-- What an HTTP step sends as an object describes it. -/
structure HttpConfig.ReadFrom (fields : Entries Json) (config : HttpConfig) : Prop where
  url : Holds fields "url" Decode.text "" config.url
  headers : Holds fields "headers" (Decode.entries Decode.text) [] config.headers
  body : Holds fields "body" (Decode.optional Decode.any) none config.body

theorem HttpConfig.readFrom {fields : Entries Json} {config : HttpConfig}
    (h : HttpConfig.decoder (.obj fields) = .ok config) : config.ReadFrom fields where
  url := holds_of_record h "url" Decode.text HttpConfig.url ⟨by simp, by simp⟩
  headers :=
    holds_of_record h "headers" (Decode.entries Decode.text) HttpConfig.headers ⟨by simp, by simp⟩
  body :=
    holds_of_record h "body" (Decode.optional Decode.any) HttpConfig.body ⟨by simp, by simp⟩

theorem OutputSpec.source_of_decoder {fields : Entries Json} {spec : OutputSpec}
    (h : OutputSpec.decoder (.obj fields) = .ok spec) :
    Holds fields "source" Decode.text "" spec.source :=
  holds_of_record h "source" Decode.text OutputSpec.source ⟨by simp, by simp⟩

/-- A step whose configuration is yet to be read, as an object describes it. -/
structure Step.Draft.ReadFrom (fields : Entries Json) (draft : Step.Draft) : Prop where
  id : Holds fields "id" Decode.text "" draft.id
  type : Holds fields "type" (Decode.variant StepType.name StepType.all) .start draft.type
  dependsOn : Holds fields "depends_on" (Decode.list Decode.text) [] draft.dependsOn
  config : Holds fields "config" (Decode.optional Decode.any) none draft.config
  errorHandling :
    Holds fields "error_handling" (Decode.optional ErrorHandling.decoder) none draft.errorHandling

theorem Step.Draft.readFrom {fields : Entries Json} {draft : Step.Draft}
    (h : Step.Draft.decoder (.obj fields) = .ok draft) : draft.ReadFrom fields where
  id := holds_of_record h "id" Decode.text Step.Draft.id ⟨by simp, by simp⟩
  type :=
    holds_of_record h "type" (Decode.variant StepType.name StepType.all) Step.Draft.type
      ⟨by simp, by simp⟩
  dependsOn :=
    holds_of_record h "depends_on" (Decode.list Decode.text) Step.Draft.dependsOn ⟨by simp, by simp⟩
  config :=
    holds_of_record h "config" (Decode.optional Decode.any) Step.Draft.config ⟨by simp, by simp⟩
  errorHandling :=
    holds_of_record h "error_handling" (Decode.optional ErrorHandling.decoder)
      Step.Draft.errorHandling ⟨by simp, by simp⟩

/-- The steps of a definition are read one by one from the list in its section. -/
theorem Definition.forall₂_of_decoder {top graph : Entries Json} {items : List Json}
    {d : Definition} (h : Definition.decoder (.obj top) = .ok d)
    (hgraph : top.get? "workflow" = some (.obj graph))
    (hitems : graph.get? "steps" = some (.arr items)) :
    List.Forall₂ (fun item step => Step.decoder item = .ok step) items d.steps := by
  have hsteps :=
    (holds_of_record h "workflow" Definition.stepsDecoder Definition.steps
      ⟨by simp, by simp⟩).of_some hgraph
  exact Decode.forall₂_of_mapM
    ((holds_of_record hsteps "steps" (Decode.list Step.decoder) id ⟨by simp, by simp⟩).of_some
      hitems)

theorem Definition.inputs_of_decoder {top : Entries Json} {d : Definition}
    (h : Definition.decoder (.obj top) = .ok d) :
    Holds top "inputs" (Decode.entries InputSpec.decoder) [] d.inputs :=
  holds_of_record h "inputs" (Decode.entries InputSpec.decoder) Definition.inputs
    ⟨by simp, by simp⟩

theorem Definition.outputs_of_decoder {top : Entries Json} {d : Definition}
    (h : Definition.decoder (.obj top) = .ok d) :
    Holds top "outputs" (Decode.entries OutputSpec.decoder) [] d.outputs :=
  holds_of_record h "outputs" (Decode.entries OutputSpec.decoder) Definition.outputs
    ⟨by simp, by simp⟩

end Workflow
