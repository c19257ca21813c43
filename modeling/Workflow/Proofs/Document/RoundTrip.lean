import Workflow.Definition.Read
import Workflow.Definition.Write
import Workflow.Proofs.Decode.Writing
import Workflow.Proofs.Document.Acceptance

/-!
# Definitions that are written and read back

Whatever a definition is read from, the document it is written as is read as the same
definition. What has no form of its own in documents never stands in a definition that has been
read: `null` for a value that may be absent, a float that is not finite, and a configuration
that is not of the type of its step.
-/

namespace Workflow

open Decode (InOrder record_of_inOrder place_of_record isFinite_of_record null_notMem_of_record)

/-! ## Inputs and outputs -/

/-- Rules whose bounds are finite. -/
structure InputRules.Writable (rules : InputRules) : Prop where
  minimum : ∀ x ∈ rules.minimum, x.isFinite = true
  maximum : ∀ x ∈ rules.maximum, x.isFinite = true

theorem InputRules.writable_of_decoder {json : Json} {rules : InputRules} (hproper : json.Proper)
    (h : InputRules.decoder json = .ok rules) : rules.Writable where
  minimum := isFinite_of_record h hproper "minimum" InputRules.minimum ⟨by simp, by simp⟩ rfl
  maximum := isFinite_of_record h hproper "maximum" InputRules.maximum ⟨by simp, by simp⟩ rfl

theorem InputRules.decoder_toJson {rules : InputRules} (h : rules.Writable) :
    InputRules.decoder rules.toJson = .ok rules := by
  refine record_of_inOrder (by simp [Decode.Distinct]) ?_
  exact .append (.append (.append (.append (.append (.text rfl) (.size (by simp) rfl))
    (.size (by simp) rfl)) (.float rfl h.minimum)) (.float rfl h.maximum))
    (.optional (by simp) rfl fun items _ => ⟨Json.noConfusion, Decode.list_any items⟩)

/-- An input whose default and sample are not `null`. -/
structure InputSpec.Writable (spec : InputSpec) : Prop where
  default : .null ∉ spec.default
  rules : ∀ rules ∈ spec.rules, rules.Writable
  sample : .null ∉ spec.sample

theorem InputSpec.writable_of_decoder {json : Json} {spec : InputSpec} (hproper : json.Proper)
    (h : InputSpec.decoder json = .ok spec) : spec.Writable where
  default := null_notMem_of_record h hproper "default" InputSpec.default ⟨by simp, by simp⟩ rfl
  rules :=
    place_of_record h hproper "validation" (Decode.optional InputRules.decoder) InputSpec.rules
      ⟨by simp, by simp⟩ (fun v => ∀ rules ∈ v, rules.Writable)
      (fun _ _ hproper hread _ hrules =>
        InputRules.writable_of_decoder hproper (Decode.optional_eq_ok hread hrules).2) nofun
  sample := null_notMem_of_record h hproper "example" InputSpec.sample ⟨by simp, by simp⟩ rfl

theorem ValueType.decoder_name (type : ValueType) :
    ValueType.decoder (.str type.name) = .ok type := by
  cases type <;> rfl

theorem InputSpec.decoder_toJson {spec : InputSpec} (h : spec.Writable) :
    InputSpec.decoder spec.toJson = .ok spec := by
  refine record_of_inOrder (by simp [Decode.Distinct]) ?_
  exact .append (.append (.append (.append (.append (.mandatory (ValueType.decoder_name spec.type))
    (.written (by simp) rfl)) (.any rfl h.default)) (.text rfl))
    (.optional (by simp) rfl fun rules hrules =>
      ⟨Json.noConfusion, InputRules.decoder_toJson (h.rules rules hrules)⟩)) (.any rfl h.sample)

theorem OutputSpec.decoder_toJson (spec : OutputSpec) :
    OutputSpec.decoder spec.toJson = .ok spec := by
  refine record_of_inOrder (by simp [Decode.Distinct]) ?_
  exact .append (.append (.mandatory rfl) (.nameOf rfl ValueType.decoder_name)) (.text rfl)

/-! ## Configurations of steps -/

theorem Language.decoder_name (language : Language) :
    Language.decoder (.str language.name) = .ok language := by
  cases language <;> rfl

theorem HttpMethod.decoder_name (method : HttpMethod) :
    HttpMethod.decoder (.str method.name) = .ok method := by
  cases method <;> rfl

theorem CodeConfig.decoder_toJson (config : CodeConfig) :
    CodeConfig.decoder config.toJson = .ok config := by
  refine record_of_inOrder (by simp [Decode.Distinct]) ?_
  exact .append (.append (.written (by simp) (Language.decoder_name config.language))
    (.mandatory rfl))
    (.u64 rfl)

theorem LlmConfig.decoder_toJson {config : LlmConfig}
    (h : ∀ x ∈ config.temperature, x.isFinite = true) :
    LlmConfig.decoder config.toJson = .ok config := by
  refine record_of_inOrder (by simp [Decode.Distinct]) ?_
  exact .append (.append (.append (.append (.append (.mandatory rfl) (.mandatory rfl)) (.text rfl))
    (.float rfl h)) (.u32 rfl)) (.u64 rfl)

theorem HttpConfig.decoder_toJson {config : HttpConfig} (h : .null ∉ config.body) :
    HttpConfig.decoder config.toJson = .ok config := by
  refine record_of_inOrder (by simp [Decode.Distinct]) ?_
  exact .append (.append (.append (.append (.mandatory rfl)
    (.written (by simp) (HttpMethod.decoder_name config.method)))
    (.textEntries rfl)) (.any rfl h)) (.u64 rfl)

theorem ConditionConfig.decoder_toJson (config : ConditionConfig) :
    ConditionConfig.decoder config.toJson = .ok config := by
  refine record_of_inOrder (by simp [Decode.Distinct]) ?_
  exact .append (.append (.mandatory rfl) (.text rfl)) (.text rfl)

/-- A configuration that belongs to a type of steps, and has a form in documents. -/
inductive StepConfig.Writable : StepType → StepConfig → Prop
  | start : Writable .start .start
  | finish : Writable .finish .finish
  | code (config : CodeConfig) : Writable .code (.code config)
  | llm {config : LlmConfig}
    (h : ∀ x ∈ config.temperature, x.isFinite = true) : Writable .llm (.llm config)
  | http {config : HttpConfig} (h : .null ∉ config.body) : Writable .http (.http config)
  | condition (config : ConditionConfig) : Writable .condition (.condition config)
  | loop (config : Json) : Writable .loop (.reserved config)
  | parallel (config : Json) : Writable .parallel (.reserved config)

theorem StepConfig.typed_some {α : Type} {id : String} {type : StepType} {decoder : Decoder α}
    {json : Json} {value : α} (h : decoder json = .ok value) :
    StepConfig.typed id type decoder (some json) = .ok value := by
  rw [typed, h]

theorem StepConfig.writable_of_read {id : String} {type : StepType} {draft : Option Json}
    {config : StepConfig} (hproper : ∀ json ∈ draft, json.Proper)
    (h : StepConfig.read id type draft = .ok config) : StepConfig.Writable type config := by
  cases StepConfig.readFrom h with
  | start => exact .start
  | finish => exact .finish
  | code config json hjson hread => exact .code config
  | llm config json hjson hread =>
    exact .llm (isFinite_of_record hread (hproper json hjson) "temperature" LlmConfig.temperature
      ⟨by simp, by simp⟩ rfl)
  | http config json hjson hread =>
    exact .http (null_notMem_of_record hread (hproper json hjson) "body" HttpConfig.body
      ⟨by simp, by simp⟩ rfl)
  | condition config json hjson hread => exact .condition config
  | loop => exact .loop _
  | parallel => exact .parallel _

/-- No configuration is written as `null`. -/
theorem StepConfig.null_notMem_toJson? (config : StepConfig) : .null ∉ config.toJson? := by
  cases config with
  | start | finish | code | llm | http | condition => nofun
  | reserved json => cases json <;> nofun

/-- A configuration that is left out is `null`. -/
theorem StepConfig.getD_toJson?_reserved (json : Json) :
    (StepConfig.toJson? (.reserved json)).getD .null = json := by
  cases json <;> rfl

theorem StepConfig.read_toJson? {type : StepType} {config : StepConfig}
    (h : StepConfig.Writable type config) (id : String) :
    StepConfig.read id type config.toJson? = .ok config := by
  cases h with
  | start => rfl
  | finish => rfl
  | code config =>
    rw [read, toJson?, typed_some config.decoder_toJson]
    rfl
  | llm h =>
    rw [read, toJson?, typed_some (LlmConfig.decoder_toJson h)]
    rfl
  | http h =>
    rw [read, toJson?, typed_some (HttpConfig.decoder_toJson h)]
    rfl
  | condition config =>
    rw [read, toJson?, typed_some config.decoder_toJson]
    rfl
  | loop json =>
    exact congrArg (fun json => Except.ok (StepConfig.reserved json)) (getD_toJson?_reserved json)
  | parallel json =>
    exact congrArg (fun json => Except.ok (StepConfig.reserved json)) (getD_toJson?_reserved json)

/-! ## Steps -/

theorem OnError.decoder_name (onError : OnError) :
    OnError.decoder (.str onError.name) = .ok onError := by
  cases onError <;> rfl

theorem StepType.variant_name (type : StepType) :
    Decode.variant StepType.name StepType.all (.str type.name) = .ok type := by
  cases type <;> rfl

theorem ErrorHandling.decoder_toJson (handling : ErrorHandling) :
    ErrorHandling.decoder handling.toJson = .ok handling := by
  refine record_of_inOrder (by simp [Decode.Distinct]) ?_
  exact .append (.append (.written (by simp) (OnError.decoder_name handling.onError)) (.u32 rfl))
    (.text rfl)

/-- The draft that a step is written as. -/
def Step.draft (step : Step) : Step.Draft :=
  ⟨step.id, step.type, step.name, step.description, step.dependsOn, step.config.toJson?,
    step.outputs, step.errorHandling⟩

theorem Step.Draft.decoder_toJson (step : Step) :
    Step.Draft.decoder step.toJson = .ok step.draft := by
  refine record_of_inOrder (by simp [Decode.Distinct]) ?_
  exact .append (.append (.append (.append (.append (.append (.append (.mandatory rfl)
    (.mandatory (StepType.variant_name step.type))) (.text rfl)) (.text rfl)) (.texts rfl))
    (.any rfl (StepConfig.null_notMem_toJson? step.config))) (.textEntries rfl))
    (.optional (by simp) rfl fun handling _ => ⟨Json.noConfusion, handling.decoder_toJson⟩)

theorem Step.decoder_toJson {step : Step} (h : StepConfig.Writable step.type step.config) :
    Step.decoder step.toJson = .ok step := by
  have hconfig := StepConfig.read_toJson? h step.id
  show (Step.Draft.decoder step.toJson >>= Step.ofDraft) = .ok step
  rw [Step.Draft.decoder_toJson]
  show (StepConfig.read step.id step.type step.config.toJson? >>= fun config => pure _) = _
  rw [hconfig]
  rfl

theorem Step.writable_of_decoder {json : Json} {step : Step} (hproper : json.Proper)
    (h : Step.decoder json = .ok step) : StepConfig.Writable step.type step.config := by
  obtain ⟨draft, hdraft, h⟩ := Decode.bind_eq_ok h
  obtain ⟨config, hconfig, h⟩ := Decode.bind_eq_ok h
  cases h
  refine StepConfig.writable_of_read ?_ hconfig
  refine place_of_record hdraft hproper "config" (Decode.optional Decode.any) Step.Draft.config
    ⟨by simp, by simp⟩ (fun v => ∀ json ∈ v, json.Proper)
      (fun json v hproper hread config hmem => ?_) nofun
  obtain ⟨-, hread⟩ := Decode.optional_eq_ok hread hmem
  cases hread
  exact hproper

/-! ## Definitions -/

theorem Metadata.decoder_toJson (m : Metadata) : Metadata.decoder m.toJson = .ok m := by
  refine record_of_inOrder (by simp [Decode.Distinct]) ?_
  exact .append (.append (.append (.append (.mandatory rfl) (.mandatory rfl)) (.mandatory rfl))
    (.text rfl))
    (.texts rfl)

/-- A definition whose inputs and steps have a form in documents. -/
structure Definition.Writable (d : Definition) : Prop where
  inputs : ∀ entry ∈ d.inputs, entry.2.Writable
  steps : ∀ step ∈ d.steps, StepConfig.Writable step.type step.config

theorem Definition.writable_of_stepsDecoder {json : Json} {steps : List Step}
    (hproper : json.Proper) (h : Definition.stepsDecoder json = .ok steps) :
    ∀ step ∈ steps, StepConfig.Writable step.type step.config := by
  refine place_of_record h hproper "steps" (Decode.list Step.decoder) id ⟨by simp, by simp⟩
    (fun v => ∀ step ∈ v, StepConfig.Writable step.type step.config)
      (fun json v hproper hread => ?_) ?_
  · exact Decode.of_list hproper hread fun _ _ => Step.writable_of_decoder
  · exact fun _ => nofun

/-- What is read from a proper document can be written. -/
theorem Definition.writable_of_decoder {document : Json} {d : Definition}
    (hproper : document.Proper) (h : Definition.decoder document = .ok d) : d.Writable where
  inputs := by
    refine place_of_record h hproper "inputs" (Decode.entries InputSpec.decoder) Definition.inputs
      ⟨by simp, by simp⟩ (fun v => ∀ entry ∈ v, entry.2.Writable)
        (fun json v hproper hread => ?_) ?_
    · exact Decode.of_entries hproper hread fun _ _ => InputSpec.writable_of_decoder
    · exact fun _ => nofun
  steps := by
    refine place_of_record h hproper "workflow" Definition.stepsDecoder Definition.steps
      ⟨by simp, by simp⟩ (fun v => ∀ step ∈ v, StepConfig.Writable step.type step.config)
      (fun json v hproper hread => ?_) ?_
    · exact Definition.writable_of_stepsDecoder hproper hread
    · exact fun _ => nofun

theorem Definition.decoder_toJson {d : Definition} (h : d.Writable) :
    Definition.decoder d.toJson = .ok d := by
  have hsteps : Definition.stepsDecoder (.obj [("steps", .arr (d.steps.map Step.toJson))]) =
      .ok d.steps := by
    refine record_of_inOrder (by simp [Decode.Distinct]) ?_
    exact .mandatory (Decode.list_map fun step hstep => Step.decoder_toJson (h.steps step hstep))
  have hinputs : Decode.entries InputSpec.decoder (.obj (d.inputs.mapValues InputSpec.toJson)) =
      .ok d.inputs :=
    Decode.entries_mapValues fun entry hentry => InputSpec.decoder_toJson (h.inputs entry hentry)
  have houtputs : Decode.entries OutputSpec.decoder (.obj (d.outputs.mapValues OutputSpec.toJson)) =
      .ok d.outputs := Decode.entries_mapValues fun entry _ => entry.2.decoder_toJson
  refine record_of_inOrder (by simp [Decode.Distinct]) ?_
  exact .append (.mandatory d.metadata.decoder_toJson) (.append (.written (by simp) hinputs)
    (.append (.mandatory hsteps) (.written (by simp) houtputs)))

/-- A definition that is read from a document is written as a document that is
read as the same definition. -/
theorem written_definitions_read_back {document : Json} {d : Definition} (hproper : document.Proper)
    (h : Definition.decoder document = .ok d) : Definition.decoder d.toJson = .ok d :=
  Definition.decoder_toJson (Definition.writable_of_decoder hproper h)

/-- A document with steps of every type, some of them with fields that are `null`, empty or written
in another way than they are read. -/
def catalogue : Json :=
  sheet "catalogue"
    [("limit", .obj [("type", .str "integer"), ("default", .null),
      ("validation", .obj [("minLength", .int 2), ("maximum", .int 10),
        ("enum", .arr [.null, .int 3])])])]
    [.obj [("id", .str "begin"), ("type", .str "start"), ("config", .obj [("unused", .null)])],
      .obj [("id", .str "compute"), ("type", .str "code"), ("depends_on", .arr [.str "begin"]),
        ("config", .obj [("code", .str "1"), ("timeout", .null)]), ("outputs", .obj [])],
      .obj [("id", .str "ask"), ("type", .str "llm"),
        ("config", .obj [("model", .str "m"), ("prompt", .str "?"), ("temperature", .int 1)]),
        ("error_handling", .obj [("retry_count", .int 3), ("fallback_step", .null)])],
      .obj [("id", .str "send"), ("type", .str "http"),
        ("config", .obj [("method", .str " post "), ("url", .str "http://localhost"),
          ("body", .null), ("headers", .obj [("accept", .str "text/plain")])])],
      .obj [("id", .str "choose"), ("type", .str "condition"),
        ("config", .obj [("condition", .str "true"), ("true_step", .str "finish")])],
      .obj [("id", .str "repeat"), ("type", .str "loop")],
      .obj [("id", .str "split"), ("type", .str "parallel"),
        ("config", .obj [("branches", .arr [])])],
      .obj [("id", .str "finish"), ("type", .str "end"),
        ("outputs", .obj [("total", .str "compute.result")])]]
    [("total", .obj [("source", .str "compute.result"), ("type", .str "number")])]

theorem proper_catalogue : catalogue.Proper := by
  simp [catalogue, sheet, Entries.keys, Number.Proper, Number.InRange, Number.minInt, Number.maxInt]

theorem catalogue_read_back : ∃ d, Definition.decoder catalogue = .ok d ∧ catalogue.Proper ∧
    Definition.decoder d.toJson = .ok d := by
  obtain ⟨d, hdecoder⟩ : ∃ d, Definition.decoder catalogue = .ok d := ⟨_, rfl⟩
  exact ⟨d, hdecoder, proper_catalogue, written_definitions_read_back proper_catalogue hdecoder⟩

end Workflow
