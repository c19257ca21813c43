import Workflow.Definition.Basic

/-!
# Definitions from documents

The decoders of definitions and their parts.
-/

namespace Workflow

open Decode (Field)

/-! ## Inputs and outputs -/

def InputRules.decoder : Decoder InputRules :=
  Decode.record "InputValidation" [
    .defaulted "pattern" (Decode.optional Decode.text) fun v s => { s with pattern := v },
    .named ["min_length", "minLength"] (Decode.optional Decode.size) fun v s =>
      { s with minLength := v },
    .named ["max_length", "maxLength"] (Decode.optional Decode.size) fun v s =>
      { s with maxLength := v },
    .defaulted "minimum" (Decode.optional Decode.float) fun v s => { s with minimum := v },
    .defaulted "maximum" (Decode.optional Decode.float) fun v s => { s with maximum := v },
    .defaulted "enum" (Decode.optional (Decode.list Decode.any)) fun v s => { s with allowed := v }
  ] ⟨none, none, none, none, none, none⟩

def InputSpec.decoder : Decoder InputSpec :=
  Decode.record "InputSpec" [
    .mandatory "type" ValueType.decoder fun v s => { s with type := v },
    .defaulted "required" Decode.boolean fun v s => { s with required := v },
    .defaulted "default" (Decode.optional Decode.any) fun v s => { s with default := v },
    .defaulted "description" (Decode.optional Decode.text) fun v s => { s with description := v },
    .defaulted "validation" (Decode.optional InputRules.decoder) fun v s => { s with rules := v },
    .defaulted "example" (Decode.optional Decode.any) fun v s => { s with sample := v }
  ] ⟨.string, false, none, none, none, none⟩

def OutputSpec.decoder : Decoder OutputSpec :=
  Decode.record "OutputSpec" [
    .mandatory "source" Decode.text fun v s => { s with source := v },
    .defaulted "type" (Decode.optional ValueType.decoder) fun v s => { s with type := v },
    .defaulted "description" (Decode.optional Decode.text) fun v s => { s with description := v }
  ] ⟨"", none, none⟩

/-! ## Step configurations -/

def CodeConfig.decoder : Decoder CodeConfig :=
  Decode.record "CodeConfig" [
    .defaulted "language" Language.decoder fun v s => { s with language := v },
    .mandatory "code" Decode.text fun v s => { s with code := v },
    .defaulted "timeout" (Decode.optional Decode.u64) fun v s => { s with timeout := v }
  ] ⟨.javascript, "", none⟩

def LlmConfig.decoder : Decoder LlmConfig :=
  Decode.record "LlmConfig" [
    .mandatory "model" Decode.text fun v s => { s with model := v },
    .mandatory "prompt" Decode.text fun v s => { s with prompt := v },
    .defaulted "system_prompt" (Decode.optional Decode.text) fun v s =>
      { s with systemPrompt := v },
    .defaulted "temperature" (Decode.optional Decode.float) fun v s => { s with temperature := v },
    .defaulted "max_tokens" (Decode.optional Decode.u32) fun v s => { s with maxTokens := v },
    .defaulted "timeout" (Decode.optional Decode.u64) fun v s => { s with timeout := v }
  ] ⟨"", "", none, none, none, none⟩

def HttpConfig.decoder : Decoder HttpConfig :=
  Decode.record "HttpConfig" [
    .mandatory "url" Decode.text fun v s => { s with url := v },
    .defaulted "method" HttpMethod.decoder fun v s => { s with method := v },
    .defaulted "headers" (Decode.entries Decode.text) fun v s => { s with headers := v },
    .defaulted "body" (Decode.optional Decode.any) fun v s => { s with body := v },
    .defaulted "timeout" (Decode.optional Decode.u64) fun v s => { s with timeout := v }
  ] ⟨"", .get, [], none, none⟩

def ConditionConfig.decoder : Decoder ConditionConfig :=
  Decode.record "ConditionConfig" [
    .mandatory "condition" Decode.text fun v s => { s with condition := v },
    .defaulted "true_step" (Decode.optional Decode.text) fun v s => { s with trueStep := v },
    .defaulted "false_step" (Decode.optional Decode.text) fun v s => { s with falseStep := v }
  ] ⟨"", none, none⟩

def StepConfig.typed {α : Type} (id : String) (type : StepType) (decoder : Decoder α)
    (config : Option Json) :
    Except Decode.Fault α :=
  match config with
  | none => .error (.missingConfig id type.name)
  | some json =>
    match decoder json with
    | .ok value => .ok value
    | .error reason => .error (.invalidConfig id type.name reason)

def StepConfig.read (id : String) (type : StepType) (config : Option Json) :
    Except Decode.Fault StepConfig :=
  match type with
  | .start => .ok .start
  | .finish => .ok .finish
  | .code => (typed id type CodeConfig.decoder config).map .code
  | .llm => (typed id type LlmConfig.decoder config).map .llm
  | .http => (typed id type HttpConfig.decoder config).map .http
  | .condition => (typed id type ConditionConfig.decoder config).map .condition
  | .loop | .parallel => .ok (.reserved (config.getD .null))

/-! ## Steps -/

def ErrorHandling.decoder : Decoder ErrorHandling :=
  Decode.record "ErrorHandling" [
    .defaulted "on_error" OnError.decoder fun v s => { s with onError := v },
    .defaulted "retry_count" (Decode.optional Decode.u32) fun v s => { s with retryCount := v },
    .defaulted "fallback_step" (Decode.optional Decode.text) fun v s => { s with fallbackStep := v }
  ] ⟨.fail, none, none⟩

/-- A step whose configuration has not been read yet. -/
structure Step.Draft where
  id : String
  type : StepType
  name : Option String
  description : Option String
  dependsOn : List String
  config : Option Json
  outputs : Entries String
  errorHandling : Option ErrorHandling

def Step.Draft.decoder : Decoder Step.Draft :=
  Decode.record "RawStep" [
    .mandatory "id" Decode.text fun v s => { s with id := v },
    .mandatory "type" (Decode.variant StepType.name StepType.all) fun v s => { s with type := v },
    .defaulted "name" (Decode.optional Decode.text) fun v s => { s with name := v },
    .defaulted "description" (Decode.optional Decode.text) fun v s => { s with description := v },
    .defaulted "depends_on" (Decode.list Decode.text) fun v s => { s with dependsOn := v },
    .defaulted "config" (Decode.optional Decode.any) fun v s => { s with config := v },
    .defaulted "outputs" (Decode.entries Decode.text) fun v s => { s with outputs := v },
    .defaulted "error_handling" (Decode.optional ErrorHandling.decoder) fun v s =>
      { s with errorHandling := v }
  ] ⟨"", .start, none, none, [], none, [], none⟩

def Step.ofDraft (draft : Step.Draft) : Except Decode.Fault Step := do
  let config ← StepConfig.read draft.id draft.type draft.config
  return ⟨draft.id, draft.type, draft.name, draft.description, draft.dependsOn, config,
    draft.outputs, draft.errorHandling⟩

def Step.decoder : Decoder Step := fun json => do Step.ofDraft (← Step.Draft.decoder json)

/-! ## Definitions -/

def Metadata.decoder : Decoder Metadata :=
  Decode.record "WorkflowMetadata" [
    .mandatory "name" Decode.text fun v s => { s with name := v },
    .mandatory "description" Decode.text fun v s => { s with description := v },
    .mandatory "version" Decode.text fun v s => { s with version := v },
    .defaulted "author" (Decode.optional Decode.text) fun v s => { s with author := v },
    .defaulted "tags" (Decode.list Decode.text) fun v s => { s with tags := v }
  ] ⟨"", "", "", none, []⟩

/-- The section that lists the steps. -/
def Definition.stepsDecoder : Decoder (List Step) :=
  Decode.record "WorkflowGraph" [.mandatory "steps" (Decode.list Step.decoder) fun v _ => v] []

def Definition.decoder : Decoder Definition :=
  Decode.record "WorkflowDefinition" [
    .mandatory "metadata" Metadata.decoder fun v s => { s with metadata := v },
    .defaulted "inputs" (Decode.entries InputSpec.decoder) fun v s => { s with inputs := v },
    .mandatory "workflow" Definition.stepsDecoder fun v s => { s with steps := v },
    .defaulted "outputs" (Decode.entries OutputSpec.decoder) fun v s => { s with outputs := v }
  ] ⟨⟨"", "", "", none, []⟩, [], [], []⟩

end Workflow
