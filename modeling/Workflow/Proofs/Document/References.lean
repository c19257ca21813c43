import Workflow.Proofs.Document.Acceptance
import Workflow.Proofs.Document.Concerns
import Workflow.Proofs.Template.Resolve

/-!
# References of accepted documents

The checks on references look at every text inside the configurations of steps and at the sources of
outputs, as they stand in the document. Whatever a run resolves as a template is among these texts,
so in an accepted document all its references are known.
-/

namespace Workflow

open Decode (Holds)
open Template (Known)

/-! ## References that are checked -/

namespace Validation.Semantics

variable {names : Names} {path : String}

theorem known_of_reference {token : Template.Token} (h : (reference names path token).errors = []) :
    Known names.inputs names.steps token.path := by
  unfold reference at h
  split at h
  · simp at h
  · next head rest hpath =>
    refine ⟨head, rest, hpath, ?_⟩
    by_cases hfacts : head = "sys"
    · subst hfacts
      exact .facts rest
    by_cases hspace : head = "input" ∨ head = "inputs"
    · rw [if_neg hfacts, if_pos (by simpa using hspace)] at h
      cases rest with
      | nil => simp at h
      | cons name rest => exact .namespaced head name rest hspace (by simpa using h)
    · rw [if_neg hfacts, if_neg (by simpa using hspace)] at h
      have hspaces := not_or.mp hspace
      by_cases hname : head ∈ names.inputs
      · exact .input head rest hfacts hspaces hname
      · exact .step head rest hfacts hspaces hname (by simpa [hname] using h)

/-- The references of a text are known. -/
def KnowsIn (names : Names) (text : String) : Prop :=
  ∀ token ∈ Template.tokens text, Known names.inputs names.steps token.path

theorem knowsIn_of_template {text : String} (h : (template names path text).errors = []) :
    KnowsIn names text := by
  rw [template, Findings.errors_all_eq_nil_iff, List.forall_mem_map] at h
  exact fun token htoken => known_of_reference (h token htoken)

mutual

/-- The texts that are placed are all there are. -/
theorem map_snd_placed (path : String) (json : Json) :
    (placed path json).map Prod.snd = json.texts := by
  cases json with
  | null | bool | num | str => rfl
  | arr items => exact map_snd_placedInItems path 0 items
  | obj fields => exact map_snd_placedInFields path fields

theorem map_snd_placedInItems (path : String) (i : Nat) (items : List Json) :
    (placedInItems path i items).map Prod.snd = Json.textsOfItems items := by
  match items with
  | [] => rfl
  | item :: rest =>
    rw [placedInItems, List.map_append, map_snd_placed _ item,
      map_snd_placedInItems path (i + 1) rest, Json.textsOfItems]

theorem map_snd_placedInFields (path : String) (fields : List (String × Json)) :
    (placedInFields path fields).map Prod.snd = Json.textsOfFields fields := by
  match fields with
  | [] => rfl
  | (key, item) :: rest =>
    rw [placedInFields, List.map_append, map_snd_placed _ item,
      map_snd_placedInFields path rest, Json.textsOfFields]

end

theorem knowsIn_of_value (path : String) (value : Json)
    (h : (Semantics.value names path value).errors = []) :
    ∀ text ∈ value.texts, KnowsIn names text := by
  rw [value_eq, Findings.errors_all_eq_nil_iff, List.forall_mem_map] at h
  rw [← map_snd_placed path value, List.forall_mem_map]
  exact fun (place, text) hplaced => knowsIn_of_template (h (place, text) hplaced)

/-- The references in the configuration of a step are known, unless they stand in code. -/
theorem knowsIn_of_stepReferences {view : StepView} (h : (stepReferences names view).errors = [])
    (hcode : view.type ≠ .code) {config : Entries Json} (hconfig : view.config = some config)
    {key : String} {item : Json} (hitem : (key, item) ∈ config) :
    ∀ text ∈ item.texts, KnowsIn names text := by
  rw [stepReferences, Findings.errors_all_eq_nil_iff, List.forall_mem_map, hconfig] at h
  have hchecked := h (key, item) hitem
  simp only [Findings.errors_given_eq_nil_iff] at hchecked
  exact knowsIn_of_value _ item (hchecked (by simp [hcode]))

theorem knowsIn_of_outputReferences {name source : String} {spec : Json}
    (h : (outputReferences names name spec).errors = [])
    (hsource : (spec.field? "source").bind Json.string? = some source) : KnowsIn names source := by
  simp only [outputReferences, hsource] at h
  exact knowsIn_of_template h

end Validation.Semantics

/-! ## Texts that a run resolves -/

/-- The texts that are resolved when a step is executed. -/
def Step.templates (step : Step) : List String :=
  match step.config with
  | .llm c => c.prompt :: c.systemPrompt.toList
  | .http c => c.url :: (c.headers.values ++ (c.body.map Json.texts).getD [])
  | .condition c => [c.condition]
  | .start | .finish | .code _ | .reserved _ => []

/-- The texts that are resolved in a run. -/
def Definition.templates (d : Definition) : List String :=
  d.steps.flatMap Step.templates ++ d.outputs.values.map OutputSpec.source

/-- All references that a run resolves are known. -/
def Definition.KnowsReferences (d : Definition) : Prop :=
  ∀ text ∈ d.templates, ∀ token ∈ Template.tokens text,
    Known d.inputs.keys (d.steps.map Step.id) token.path

theorem Json.mem_textsOfFields {fields : List (String × Json)} {key text : String} {value : Json}
    (hvalue : (key, value) ∈ fields) (htext : text ∈ value.texts) :
    text ∈ textsOfFields fields := by
  induction fields with
  | nil => cases hvalue
  | cons field rest ih =>
    obtain ⟨other, head⟩ := field
    rw [textsOfFields, List.mem_append]
    rcases List.mem_cons.mp hvalue with heq | hrest
    · cases heq
      exact Or.inl htext
    · exact Or.inr (ih hrest)

/-- A text stands somewhere inside a configuration, or there is no reference in it. -/
def Stands (config : Entries Json) (text : String) : Prop :=
  Template.tokens text = [] ∨ ∃ key item, (key, item) ∈ config ∧ text ∈ item.texts

section

variable {config : Entries Json} {key text : String}

theorem stands_of_text (h : Holds config key Decode.text "" text) : Stands config text := by
  cases hitem : config.get? key with
  | none =>
    rw [h.of_none hitem]
    exact Or.inl rfl
  | some item =>
    obtain rfl := Decode.text_eq_ok (h.of_some hitem)
    exact Or.inr ⟨key, _, Entries.mem_of_get? hitem, List.mem_singleton.mpr rfl⟩

theorem stands_of_optional_text
    (h : Holds config key (Decode.optional Decode.text) none (some text)) :
    Stands config text := by
  cases hitem : config.get? key with
  | none => cases h.of_none hitem
  | some item =>
    have hstring := Decode.optional_text_eq_ok (h.of_some hitem)
    cases item with
    | str s =>
      cases hstring
      exact Or.inr ⟨key, _, Entries.mem_of_get? hitem, List.mem_singleton.mpr rfl⟩
    | null | bool | num | arr | obj => cases hstring

theorem stands_of_map {values : Entries String}
    (h : Holds config key (Decode.entries Decode.text) [] values) (htext : text ∈ values.values) :
    Stands config text := by
  cases hitem : config.get? key with
  | none =>
    rw [h.of_none hitem] at htext
    cases htext
  | some item =>
    obtain ⟨fields, rfl, hfields⟩ := Decode.forall₂_of_entries (h.of_some hitem)
    obtain ⟨⟨name, value⟩, hvalue, rfl⟩ := List.mem_map.mp htext
    obtain ⟨⟨other, json⟩, hfield, -, hread⟩ := Decode.exists_of_forall₂ hfields hvalue
    obtain rfl := Decode.text_eq_ok hread
    exact Or.inr ⟨key, _, Entries.mem_of_get? hitem,
      Json.mem_textsOfFields hfield (List.mem_singleton.mpr rfl)⟩

theorem stands_of_any {value : Json}
    (h : Holds config key (Decode.optional Decode.any) none (some value))
    (htext : text ∈ value.texts) : Stands config text := by
  cases hitem : config.get? key with
  | none => cases h.of_none hitem
  | some item =>
    have hvalue : item = value := by
      have hread := h.of_some hitem
      cases item <;> cases hread <;> rfl
    exact Or.inr ⟨key, item, Entries.mem_of_get? hitem, hvalue ▸ htext⟩

/-- Without a configuration nothing is resolved. -/
theorem StepConfig.ReadFrom.templates_eq_nil {type : StepType} {step : Step}
    (h : ReadFrom none type step.config) : step.templates = [] := by
  rw [Step.templates]
  generalize step.config = read at h
  cases h with
  | start | finish | loop | parallel => rfl
  | code c json hjson | llm c json hjson | http c json hjson | condition c json hjson => cases hjson

/-- The texts that are resolved for a step stand in its configuration, and it is no code step. -/
theorem StepConfig.ReadFrom.stands {type : StepType} {step : Step}
    (h : ReadFrom (some (.obj config)) type step.config) (htext : text ∈ step.templates) :
    type ≠ .code ∧ Stands config text := by
  rw [Step.templates] at htext
  generalize step.config = read at h htext
  cases h with
  | start | finish | code | loop | parallel => cases htext
  | llm c json hjson hread =>
    cases hjson
    have hprompts := LlmConfig.readFrom hread
    refine ⟨nofun, ?_⟩
    rcases List.mem_cons.mp htext with rfl | hsystem
    · exact stands_of_text hprompts.prompt
    · exact stands_of_optional_text (Option.mem_toList.mp hsystem ▸ hprompts.systemPrompt)
  | http c json hjson hread =>
    cases hjson
    have hrequest := HttpConfig.readFrom hread
    refine ⟨nofun, ?_⟩
    rcases List.mem_cons.mp htext with rfl | hrest
    · exact stands_of_text hrequest.url
    rcases List.mem_append.mp hrest with hheader | hbody
    · exact stands_of_map hrequest.headers hheader
    · cases hsome : c.body with
      | none =>
        rw [hsome] at hbody
        cases hbody
      | some body =>
        rw [hsome] at hbody
        exact stands_of_any (hsome ▸ hrequest.body) hbody
  | condition c json hjson hread =>
    cases hjson
    obtain rfl := List.mem_singleton.mp htext
    exact ⟨nofun, stands_of_text (ConditionConfig.condition_of_decoder hread)⟩

end

/-! ## Documents -/

namespace Validation

open Semantics (KnowsIn)

/-- The texts that are resolved for a step have known references if the checks find no error in the
view that shows it. -/
theorem StepView.Depicts.knowsIn {view : StepView} {index : Nat} {fields : Entries Json}
    {step : Step} {names : Names} (h : view.Depicts index fields)
    (hstep : Step.decoder (.obj fields) = .ok step)
    (herrors : (Semantics.stepReferences names view).errors = []) :
    ∀ text ∈ step.templates, KnowsIn names text := by
  obtain ⟨draft, hdraft, hstep⟩ := Decode.bind_eq_ok hstep
  obtain ⟨config, hconfig, hstep⟩ := Decode.bind_eq_ok hstep
  cases hstep
  have hread := Step.Draft.readFrom hdraft
  have hshown := h.config
  intro text htext
  cases hobject : view.config with
  | none =>
    rw [hobject] at hshown
    have hnone : draft.config = none := hread.config.of_none hshown
    have hfrom := StepConfig.readFrom hconfig
    rw [hnone] at hfrom
    rw [hfrom.templates_eq_nil] at htext
    cases htext
  | some object =>
    rw [hobject] at hshown
    have hsome : draft.config = some (.obj object) :=
      (Except.ok.inj (hread.config.of_some hshown)).symm
    have hfrom := StepConfig.readFrom hconfig
    rw [hsome, ← h.type_eq hread] at hfrom
    obtain ⟨hcode, hnone | ⟨key, item, hitem, hin⟩⟩ := hfrom.stands htext
    · intro token htoken
      rw [hnone] at htoken
      cases htoken
    · exact Semantics.knowsIn_of_stepReferences herrors hcode hobject hitem text hin

/-- So has the source of an output. -/
theorem knowsIn_source {names : Names} {name : String} {fields : Entries Json} {spec : OutputSpec}
    (hspec : OutputSpec.decoder (.obj fields) = .ok spec)
    (herrors : (Semantics.outputReferences names name (.obj fields)).errors = []) :
    KnowsIn names spec.source := by
  have hsource := OutputSpec.source_of_decoder hspec
  cases hitem : fields.get? "source" with
  | none =>
    rw [hsource.of_none hitem]
    intro token htoken
    cases htoken
  | some item =>
    have htext := Decode.text_eq_ok (hsource.of_some hitem)
    apply Semantics.knowsIn_of_outputReferences herrors
    change (fields.get? "source").bind Json.string? = some spec.source
    rw [hitem, Option.bind_some, htext]
    rfl

/-- The names of an accepted document are those of its definition. -/
theorem names_of_accepted {document : Json} {d : Definition}
    (hform : Schema.document document = []) (hdecoder : Definition.decoder document = .ok d) :
    Names.ofDocument document = ⟨d.steps.map Step.id, d.inputs.keys⟩ := by
  have hids : (stepViews document).map StepView.id = d.steps.map Step.id :=
    List.forall₂_eq_eq_eq ▸
      List.rel_map (fun _ _ hshow => hshow.id) (shows_of_accepted hform hdecoder)
  obtain ⟨top, declared, resolved, hsections⟩ := Schema.sectionsForm hform
  obtain rfl := hsections.document
  have hinputs := (Definition.inputs_of_decoder hdecoder).of_some hsections.inputs
  have hfields : sectionFields (.obj top) "inputs" = declared := by
    simp [sectionFields, Json.field?, Json.fields?, hsections.inputs]
  rw [Names.ofDocument, hids, hfields, Decode.keys_of_entries hinputs]

end Validation

/-- The references that a run of an accepted document resolves are known. -/
theorem Definition.knowsReferences_of_accepted {document : Json} {d : Definition}
    (h : (Validation.analyze document).2 = some d) : d.KnowsReferences := by
  obtain ⟨hform, hfits, hdecoder⟩ := Validation.analyze_eq_some_iff.mp h
  have hnames := Validation.names_of_accepted hform hdecoder
  simp only [Validation.Semantics.document, Validation.Findings.errors_append,
    List.append_eq_nil_iff, Validation.Findings.errors_all_eq_nil_iff, List.forall_mem_map,
    hnames] at hfits
  obtain ⟨⟨⟨-, hsteps⟩, houtputs⟩, -⟩ := hfits
  intro text htext
  rcases List.mem_append.mp htext with hstep | houtput
  · obtain ⟨step, hstep, hin⟩ := List.mem_flatMap.mp hstep
    obtain ⟨view, hview, index, fields, hdepicts, hread⟩ :=
      Decode.exists_of_forall₂ (Validation.depicts_of_accepted hform hdecoder) hstep
    exact hdepicts.knowsIn hread (hsteps view hview).2 text hin
  · obtain ⟨spec, hvalue, rfl⟩ := List.mem_map.mp houtput
    obtain ⟨⟨name, spec⟩, hspec, rfl⟩ := List.mem_map.mp hvalue
    obtain ⟨top, declared, resolved, hsections⟩ := Validation.Schema.sectionsForm hform
    obtain rfl := hsections.document
    obtain ⟨_, ⟨⟩, hfields⟩ := Decode.forall₂_of_entries
      ((Definition.outputs_of_decoder hdecoder).of_some hsections.outputs)
    obtain ⟨⟨other, json⟩, hjson, -, hread⟩ := Decode.exists_of_forall₂ hfields hspec
    obtain ⟨fields, rfl⟩ := hsections.each other json hjson
    refine Validation.knowsIn_source hread (houtputs (other, .obj fields) ?_)
    simpa [Validation.sectionFields, Json.field?, Json.fields?, hsections.outputs] using hjson

end Workflow
