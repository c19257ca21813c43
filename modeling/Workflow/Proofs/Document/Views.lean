import Workflow.Proofs.Decode.Definition
import Workflow.Proofs.Document.Form
import Workflow.Validation.Semantics

/-!
# Steps as checked and as read

The checks on how the parts of a document fit together look at its steps through views that
pass over whatever has an unexpected shape; a run works with the steps that the document is
converted to. In a document whose form is right nothing is passed over, and the view of each
step shows what the step has become.
-/

namespace Workflow

open Decode (Holds)

theorem StepType.ofName?_name (type : StepType) : ofName? type.name = some type :=
  by cases type <;> decide

/-- A kind is read from its name. -/
theorem StepType.eq_of_variant {type other : StepType}
    (h : Decode.variant StepType.name StepType.all (.str type.name) = .ok other) :
    other = type := by
  have hfind : StepType.all.find? (fun t => t.name = type.name) = some type :=
    StepType.ofName?_name type
  simp only [Decode.variant, hfind] at h
  cases h
  rfl

/-- An optional text is what stands under its key if that is a text. -/
theorem Decode.Holds.string? {entries : Entries Json} {key : String} {value : Option String}
    (h : Holds entries key (Decode.optional Decode.text) none value) :
    (entries.get? key).bind Json.string? = value := by
  cases hget : entries.get? key with
  | none => exact (h.of_none hget).symm
  | some json => exact Decode.optional_text_eq_ok (h.of_some hget)

theorem StepConfig.eq_some_of_typed {α : Type} {id : String} {type : StepType} {decoder : Decoder α}
    {config : Option Json} {value : α} (h : StepConfig.typed id type decoder config = .ok value) :
    ∃ json, config = some json ∧ decoder json = .ok value := by
  cases config with
  | none => cases h
  | some json =>
    cases hread : decoder json with
    | error reason => simp [StepConfig.typed, hread] at h
    | ok other =>
      simp only [StepConfig.typed, hread, Except.ok.injEq] at h
      exact ⟨json, rfl, h ▸ hread⟩

/-- What the configuration of a step of some kind is read from. -/
inductive StepConfig.ReadFrom (config : Option Json) : StepType → StepConfig → Prop
  | start : ReadFrom config .start .start
  | finish : ReadFrom config .finish .finish
  | code (c : CodeConfig) (json : Json) (hjson : config = some json)
      (hread : CodeConfig.decoder json = .ok c) : ReadFrom config .code (.code c)
  | llm (c : LlmConfig) (json : Json) (hjson : config = some json)
      (hread : LlmConfig.decoder json = .ok c) : ReadFrom config .llm (.llm c)
  | http (c : HttpConfig) (json : Json) (hjson : config = some json)
      (hread : HttpConfig.decoder json = .ok c) : ReadFrom config .http (.http c)
  | condition (c : ConditionConfig) (json : Json) (hjson : config = some json)
      (hread : ConditionConfig.decoder json = .ok c) : ReadFrom config .condition (.condition c)
  | loop : ReadFrom config .loop (.reserved (config.getD .null))
  | parallel : ReadFrom config .parallel (.reserved (config.getD .null))

theorem StepConfig.readFrom {id : String} {type : StepType} {config : Option Json}
    {c : StepConfig} (h : StepConfig.read id type config = .ok c) : ReadFrom config type c := by
  cases type with
  | start =>
    cases h
    exact .start
  | finish =>
    cases h
    exact .finish
  | code =>
    obtain ⟨value, hvalue, rfl⟩ := Decode.map_eq_ok h
    obtain ⟨json, hjson, hread⟩ := eq_some_of_typed hvalue
    exact .code value json hjson hread
  | llm =>
    obtain ⟨value, hvalue, rfl⟩ := Decode.map_eq_ok h
    obtain ⟨json, hjson, hread⟩ := eq_some_of_typed hvalue
    exact .llm value json hjson hread
  | http =>
    obtain ⟨value, hvalue, rfl⟩ := Decode.map_eq_ok h
    obtain ⟨json, hjson, hread⟩ := eq_some_of_typed hvalue
    exact .http value json hjson hread
  | condition =>
    obtain ⟨value, hvalue, rfl⟩ := Decode.map_eq_ok h
    obtain ⟨json, hjson, hread⟩ := eq_some_of_typed hvalue
    exact .condition value json hjson hread
  | loop =>
    cases h
    exact .loop
  | parallel =>
    cases h
    exact .parallel

/-- Only condition steps have branches, and these are read from their configuration. -/
theorem StepConfig.condition_of_read {id : String} {type : StepType} {config : Option Json}
    {c : ConditionConfig} (h : StepConfig.read id type config = .ok (.condition c)) :
    type = .condition ∧ ∃ json, config = some json ∧ ConditionConfig.decoder json = .ok c := by
  cases readFrom h with
  | condition c json hjson hread => exact ⟨rfl, json, hjson, hread⟩

namespace Validation

/-- A view shows all that stands in the object of a step. -/
structure StepView.Depicts (view : StepView) (index : Nat) (fields : Entries Json) : Prop where
  index : view.index = index
  id : fields.get? "id" = some (.str view.id)
  type : fields.get? "type" = some (.str view.type.name)
  dependsOn : fields.get? "depends_on" = none ∧ view.dependsOn = [] ∨
    fields.get? "depends_on" = some (.arr (view.dependsOn.map .str))
  config : fields.get? "config" = view.config.map .obj
  errorHandling : fields.get? "error_handling" = view.errorHandling.map .obj

theorem StepView.ofJson?_eq_some {fields : Entries Json} {id : String} {type : StepType}
    (index : Nat) (hid : fields.get? "id" = some (.str id))
    (htype : fields.get? "type" = some (.str type.name)) :
    StepView.ofJson? index (.obj fields) = some ⟨index, id, type,
      (((fields.get? "depends_on").bind Json.items?).getD []).filterMap Json.string?,
      (fields.get? "config").bind Json.fields?,
      (fields.get? "error_handling").bind Json.fields?⟩ := by
  simp only [StepView.ofJson?, Json.fields?, hid, htype, Json.string?, StepType.ofName?_name,
    Option.bind_eq_bind, Option.bind_some]
  rfl

/-- No step in form is passed over, nor is any part of it. -/
theorem StepView.exists_depicts {fields : Entries Json} (hform : Schema.StepForm fields)
    (index : Nat) :
    ∃ view, StepView.ofJson? index (.obj fields) = some view ∧ view.Depicts index fields := by
  obtain ⟨id, hid⟩ := hform.id
  obtain ⟨type, htype⟩ := hform.type
  have hobject : ∀ key, (∀ value, fields.get? key = some value → ∃ object, value = .obj object) →
      fields.get? key = ((fields.get? key).bind Json.fields?).map .obj := by
    intro key h
    cases hget : fields.get? key with
    | none => rfl
    | some value =>
      obtain ⟨object, rfl⟩ := h value hget
      rfl
  have hhandling := hobject "error_handling" fun value hvalue =>
    (hform.errorHandling value hvalue).imp fun _ h => h.1
  refine ⟨_, ofJson?_eq_some index hid htype, rfl, hid, htype, ?_, hobject "config" hform.config,
    hhandling⟩
  cases hget : fields.get? "depends_on" with
  | none => exact Or.inl ⟨rfl, rfl⟩
  | some value =>
    obtain ⟨ids, rfl⟩ := hform.dependsOn value hget
    have hids : (ids.map Json.str).filterMap Json.string? = ids := by
      rw [List.filterMap_map]
      exact List.filterMap_some
    exact Or.inr (congrArg (fun texts : List String => some (Json.arr (texts.map .str))) hids.symm)

/-- A view shows a step: it has its id, its kind and its dependencies, and names the same branches
and the same fallback. -/
structure StepView.Shows (view : StepView) (step : Step) : Prop where
  id : view.id = step.id
  type : view.type = step.type
  dependsOn : view.dependsOn = step.dependsOn
  condition : ∀ c, step.config = .condition c → view.type = .condition ∧ view.config.isSome = true ∧
    view.text? "true_step" = c.trueStep ∧ view.text? "false_step" = c.falseStep
  fallback : ∀ handling, step.errorHandling = some handling →
    ∃ fields, view.errorHandling = some fields ∧
      (fields.get? "fallback_step").bind Json.string? = handling.fallbackStep

section

variable {view : StepView} {index : Nat} {fields : Entries Json} {draft : Step.Draft}

theorem StepView.Depicts.type_eq (h : view.Depicts index fields) (hread : draft.ReadFrom fields) :
    view.type = draft.type :=
  (StepType.eq_of_variant (hread.type.of_some h.type)).symm

theorem StepView.Depicts.dependsOn_eq (h : view.Depicts index fields)
    (hread : draft.ReadFrom fields) :
    view.dependsOn = draft.dependsOn := by
  rcases h.dependsOn with ⟨hnone, hnil⟩ | hsome
  · rw [hnil]
    exact (hread.dependsOn.of_none hnone).symm
  · have htexts := Decode.list_text_eq_ok (hread.dependsOn.of_some hsome)
    simp only [Json.arr.injEq] at htexts
    exact List.map_injective_iff.mpr (fun _ _ heq => Json.str.inj heq) htexts

theorem StepView.Depicts.condition (h : view.Depicts index fields) (hread : draft.ReadFrom fields)
    {c : ConditionConfig}
    (hconfig : StepConfig.read draft.id draft.type draft.config = .ok (.condition c)) :
    view.type = .condition ∧ view.config.isSome = true ∧
      view.text? "true_step" = c.trueStep ∧ view.text? "false_step" = c.falseStep := by
  obtain ⟨htype, json, hjson, hcondition⟩ := StepConfig.condition_of_read hconfig
  have hview := h.config
  cases hobject : view.config with
  | none =>
    rw [hobject] at hview
    rw [hread.config.of_none hview] at hjson
    cases hjson
  | some object =>
    rw [hobject] at hview
    have hsome : draft.config = some (.obj object) :=
      (Except.ok.inj (hread.config.of_some hview)).symm
    obtain rfl : Json.obj object = json := Option.some.inj (hsome.symm.trans hjson)
    have hbranches := ConditionConfig.readFrom hcondition
    have htext : ∀ key, view.text? key = (object.get? key).bind Json.string? := by
      intro key
      rw [StepView.text?, StepView.config?, hobject, Option.bind_some]
    refine ⟨(h.type_eq hread).trans htype, rfl, ?_, ?_⟩
    · rw [htext, hbranches.trueStep.string?]
    · rw [htext, hbranches.falseStep.string?]

theorem StepView.Depicts.fallback (h : view.Depicts index fields) (hread : draft.ReadFrom fields)
    {handling : ErrorHandling} (hhandling : draft.errorHandling = some handling) :
    ∃ fields, view.errorHandling = some fields ∧
      (fields.get? "fallback_step").bind Json.string? = handling.fallbackStep := by
  have hview := h.errorHandling
  cases hobject : view.errorHandling with
  | none =>
    rw [hobject] at hview
    cases (hread.errorHandling.of_none hview).symm.trans hhandling
  | some object =>
    rw [hobject] at hview
    have hsome := hread.errorHandling.of_some hview
    rw [hhandling] at hsome
    cases hpolicy : ErrorHandling.decoder (.obj object) with
    | error fault => simp [Decode.optional, hpolicy, Except.map] at hsome
    | ok other =>
      simp only [Decode.optional, hpolicy, Except.map, Except.ok.injEq, Option.some.injEq] at hsome
      exact ⟨object, rfl, (ErrorHandling.readFrom (hsome ▸ hpolicy)).fallbackStep.string?⟩

/-- What shows all of an object shows the step that is read from it. -/
theorem StepView.Depicts.shows {step : Step} (h : view.Depicts index fields)
    (hstep : Step.decoder (.obj fields) = .ok step) : view.Shows step := by
  obtain ⟨draft, hdraft, hstep⟩ := Decode.bind_eq_ok hstep
  obtain ⟨config, hconfig, hstep⟩ := Decode.bind_eq_ok hstep
  cases hstep
  have hread := Step.Draft.readFrom hdraft
  refine ⟨Except.ok.inj (hread.id.of_some h.id), h.type_eq hread, h.dependsOn_eq hread,
    fun c hc => ?_, ?_⟩
  · obtain rfl : config = .condition c := hc
    exact h.condition hread hconfig
  · exact fun handling hhandling => h.fallback hread hhandling

end

/-- The views of a list of steps in form show all of its objects, each at its place, and so they go
along with whatever is made of these. -/
theorem forall₂_depicts {α : Type} {R : Json → α → Prop} {items : List Json} {parts : List α}
    (hparts : List.Forall₂ R items parts)
    (h : ∀ item ∈ items, ∃ fields, item = .obj fields ∧ Schema.StepForm fields) (start : Nat) :
    List.Forall₂
      (fun view part => ∃ fields, StepView.Depicts view part.2 fields ∧ R (.obj fields) part.1)
      ((items.zipIdx start).filterMap fun pair => StepView.ofJson? pair.2 pair.1)
      (parts.zipIdx start) := by
  induction hparts generalizing start with
  | nil => exact .nil
  | cons hpart _ ih =>
    obtain ⟨fields, rfl, hform⟩ := h _ List.mem_cons_self
    obtain ⟨view, hview, hdepicts⟩ := StepView.exists_depicts hform start
    rw [List.zipIdx_cons, List.zipIdx_cons, List.filterMap_cons]
    simp only [hview]
    exact .cons ⟨fields, hdepicts, hpart⟩
      (ih (fun item hitem => h item (List.mem_cons_of_mem _ hitem)) (start + 1))

section

variable {document : Json} {items : List Json}

theorem Schema.StepsForm.at? (h : Schema.StepsForm document items) :
    document.at? ["workflow", "steps"] = some (.arr items) := by
  obtain ⟨top, graph, rfl, hgraph, hitems⟩ := h.place
  simp [Json.at?, Json.field?, hgraph, hitems]

theorem stepViews_eq (h : Schema.StepsForm document items) :
    stepViews document = items.zipIdx.filterMap fun pair => StepView.ofJson? pair.2 pair.1 := by
  rw [stepViews, h.at?]
  rfl

end

end Validation

end Workflow
