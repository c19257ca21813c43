import Workflow.Proofs.Document.Concerns
import Workflow.Proofs.Document.References

/-!
# References that lead nowhere

The check of references and their resolution look at the first part of a path one after the
other, the check with the names of a document and the resolution with what a scope has. In a
scope that has only what the document names, a reference that is reported leads nowhere; and
one that is not reported leads somewhere as soon as all inputs and results are there, up to a
part that is missing below them.
-/

namespace Workflow

/-! ## Texts inside values -/

namespace Json

variable {text : String}

theorem mem_textsOfItems {items : List Json} {item : Json} (hitem : item ∈ items)
    (htext : text ∈ item.texts) : text ∈ textsOfItems items := by
  induction items with
  | nil => cases hitem
  | cons head rest ih =>
    rw [textsOfItems, List.mem_append]
    apply (List.mem_cons.mp hitem).imp
    · rintro rfl
      exact htext
    · exact ih

theorem texts_subset_of_items? {json item : Json} {items : List Json}
    (h : json.items? = some items) (hitem : item ∈ items) : item.texts ⊆ json.texts := by
  intro text htext
  cases json with
  | arr others =>
    cases h
    exact mem_textsOfItems hitem htext
  | null | bool | num | str | obj => cases h

theorem texts_subset_of_fields? {json value : Json} {fields : Entries Json} {key : String}
    (h : json.fields? = some fields) (hvalue : (key, value) ∈ fields) :
    value.texts ⊆ json.texts := by
  intro text htext
  cases json with
  | obj others =>
    cases h
    exact mem_textsOfFields hvalue htext
  | null | bool | num | str | arr => cases h

theorem texts_subset_of_field? {json value : Json} {key : String}
    (h : json.field? key = some value) :
    value.texts ⊆ json.texts := by
  cases json with
  | obj fields => exact texts_subset_of_fields? rfl (Entries.mem_of_get? h)
  | null | bool | num | str | arr => cases h

theorem texts_subset_of_at? {json value : Json} {path : List String}
    (h : json.at? path = some value) : value.texts ⊆ json.texts := by
  induction path generalizing json with
  | nil =>
    obtain rfl : json = value := Option.some.inj h
    exact List.Subset.refl _
  | cons key rest ih =>
    obtain ⟨inner, hinner, hrest⟩ := Option.bind_eq_some_iff.mp h
    exact List.Subset.trans (ih hrest) (texts_subset_of_field? hinner)

end Json

/-! ## Scopes of a document -/

namespace Validation

def Declares (document : Json) (name : String) : Prop :=
  ∃ spec, document.at? ["inputs", name] = some spec

def HasStep (document : Json) (id : String) : Prop :=
  ∃ items, document.at? ["workflow", "steps"] = some (.arr items) ∧
    ∃ item ∈ items, item.field? "id" = some (.str id)

/-- A scope knows the inputs of a document, and has no inputs but these and no
results but those of its steps. -/
structure Fits (document : Json) (scope : Template.Scope) : Prop where
  declared : ∀ name, scope.isDeclared name = true ↔ Declares document name
  supplied : ∀ name value, scope.input? name = some value → Declares document name
  results : ∀ id value, scope.result? id = some value → HasStep document id

section

variable {document : Json}

theorem mem_inputs_iff (hform : Schema.document document = []) {name : String} :
    name ∈ (Names.ofDocument document).inputs ↔ Declares document name := by
  obtain ⟨top, declared, resolved, hsections⟩ := Schema.sectionsForm hform
  obtain rfl := hsections.document
  have hfield : sectionFields (.obj top) "inputs" = declared := by
    simp [sectionFields, Json.field?, Json.fields?, hsections.inputs]
  have hdeclares : Declares (.obj top) name ↔ ∃ spec, declared.get? name = some spec := by
    simp [Declares, Json.at?, Json.field?, hsections.inputs]
  rw [hdeclares, ← Option.isSome_iff_exists, Names.ofDocument, hfield]
  exact (Entries.contains_iff_mem_keys declared name).symm

theorem mem_steps_iff (hform : Schema.document document = []) {id : String} :
    id ∈ (Names.ofDocument document).steps ↔ HasStep document id := by
  obtain ⟨items, ⟨top, graph, rfl, hgraph, hitems⟩, hsteps⟩ := Schema.stepsForm hform
  have hplace : Json.at? (.obj top) ["workflow", "steps"] = some (.arr items) := by
    simp [Json.at?, Json.field?, hgraph, hitems]
  have hviews : stepViews (.obj top) =
      items.zipIdx.filterMap fun pair => StepView.ofJson? pair.2 pair.1 := by
    simp [stepViews, hplace, Json.items?]
  rw [Names.ofDocument, hviews]
  constructor
  · intro hid
    obtain ⟨view, hview, rfl⟩ := List.mem_map.mp hid
    obtain ⟨⟨item, index⟩, hitem, hread⟩ := List.mem_filterMap.mp hview
    have hmem := List.mem_of_getElem? (List.mem_zipIdx_iff_getElem?.mp hitem)
    obtain ⟨fields, rfl, hform⟩ := hsteps item hmem
    obtain ⟨other, hother, hdepicts⟩ := StepView.exists_depicts hform index
    obtain rfl := Option.some.inj (hother.symm.trans hread)
    exact ⟨items, hplace, _, hmem, hdepicts.id⟩
  · rintro ⟨others, hothers, item, hitem, hid⟩
    cases hplace.symm.trans hothers
    obtain ⟨fields, rfl, hform⟩ := hsteps item hitem
    obtain ⟨index, hindex⟩ := List.mem_iff_getElem?.mp hitem
    obtain ⟨view, hview, hdepicts⟩ := StepView.exists_depicts hform index
    obtain rfl : view.id = id := Json.str.inj (Option.some.inj (hdepicts.id.symm.trans hid))
    apply List.mem_map_of_mem
    exact List.mem_filterMap.mpr
      ⟨(.obj fields, index), List.mem_zipIdx_iff_getElem?.mpr hindex, hview⟩

end

end Validation

/-! ## References -/

namespace Template

/-- A reference leads nowhere: it is malformed or unresolved. -/
def LeadsNowhere (scope : Scope) (path : String) : Prop :=
  resolvePath scope path = .error (.malformed path) ∨
    ∃ reason, resolvePath scope path = .error (.unresolved path reason)

theorem leadsNowhere_of_root {scope : Scope} {path head : String} {rest : List String}
    (hpath : path? path = some (head, rest))
    (hroot : ∃ reason, scope.root path head rest = .error (.unresolved path reason)) :
    LeadsNowhere scope path := by
  apply Or.inr
  apply hroot.imp
  intro reason hreason
  rw [resolvePath, hpath]
  simp only [hreason]
  rfl

end Template

namespace Validation

open Template (LeadsNowhere)

variable {document : Json} {names : Names} {path : String} {token : Template.Token}
  {scope : Template.Scope}

/-- What is reported leads nowhere in a scope that fits. -/
theorem Fits.leadsNowhere (hfits : Fits document scope) (hform : Schema.document document = [])
    (h : (Semantics.reference (Names.ofDocument document) path token).errors ≠ []) :
    LeadsNowhere scope token.path := by
  rw [Semantics.reference] at h
  cases hpath : Template.path? token.path with
  | none =>
    apply Or.inl
    rw [Template.resolvePath, hpath]
  | some parts =>
    obtain ⟨head, rest⟩ := parts
    simp only [hpath] at h
    apply Template.leadsNowhere_of_root hpath
    unfold Template.Scope.root
    by_cases hfacts : head = "sys"
    · simp [hfacts] at h
    by_cases hspace : (head = "input" || head = "inputs") = true
    · rw [if_neg hfacts, if_pos hspace] at h
      rw [if_neg hfacts, if_pos hspace]
      cases rest with
      | nil => exact ⟨_, rfl⟩
      | cons name rest =>
        have hname : ¬ Declares document name := by
          rw [← mem_inputs_iff hform]
          simpa using h
        have habsent : scope.input? name = none :=
          Option.eq_none_iff_forall_ne_some.mpr fun value hvalue =>
            hname (hfits.supplied name value hvalue)
        simp only [Template.Scope.inputValue, habsent]
        exact ⟨_, rfl⟩
    · rw [if_neg hfacts, if_neg hspace] at h
      have hunknown : ¬ Declares document head ∧ ¬ HasStep document head := by
        rw [← mem_inputs_iff hform, ← mem_steps_iff hform]
        simpa using h
      have habsent : scope.result? head = none :=
        Option.eq_none_iff_forall_ne_some.mpr fun value hvalue =>
          hunknown.2 (hfits.results head value hvalue)
      rw [if_neg hfacts, if_neg hspace, if_neg ((hfits.declared head).not.mpr hunknown.1), habsent]
      exact ⟨_, rfl⟩

/-- A scope in which all that has a name is there. -/
def Names.furnished (names : Names) : Template.Scope where
  sys := .null
  isDeclared := names.inputs.contains
  input? name := if name ∈ names.inputs then some .null else none
  result? id := if id ∈ names.steps then some .null else none

theorem fits_furnished (hform : Schema.document document = []) :
    Fits document (Names.ofDocument document).furnished where
  declared name := by
    rw [← mem_inputs_iff hform]
    exact List.contains_iff_mem
  supplied name value h := by
    rw [← mem_inputs_iff hform]
    by_contra hname
    simp [Names.furnished, hname] at h
  results id value h := by
    rw [← mem_steps_iff hform]
    by_contra hid
    simp [Names.furnished, hid] at h

/-- What is not reported leads somewhere there. -/
theorem not_leadsNowhere_furnished (h : (Semantics.reference names path token).errors = []) :
    ¬ LeadsNowhere names.furnished token.path := by
  have hexcused : ∀ fault, Template.resolvePath names.furnished token.path = .error fault →
      Template.Excused names.inputs names.steps names.furnished fault :=
    fun fault hfault =>
      (Semantics.known_of_reference h).excused (fun _ => List.contains_iff_mem) hfault
  rintro (hmalformed | ⟨reason, hunresolved⟩)
  · cases hexcused _ hmalformed
  · cases hexcused _ hunresolved with
    | input _ name hnames hdeclared habsent => simp [Names.furnished, hdeclared] at habsent
    | step _ id hnames hknown habsent => simp [Names.furnished, hknown] at habsent

/-- A reference is reported exactly if it leads nowhere in any scope that fits. -/
theorem reported_iff (hform : Schema.document document = []) :
    (Semantics.reference (Names.ofDocument document) path token).errors ≠ [] ↔
      ∀ scope, Fits document scope → LeadsNowhere scope token.path := by
  constructor
  · exact fun h scope hfits => hfits.leadsNowhere hform h
  · intro h hnone
    exact not_leadsNowhere_furnished hnone (h _ (fits_furnished hform))

/-! ## What a report says of references -/

/-- The text of the reference that a problem is about. -/
def Problem.reference? : Problem → Option String
  | malformedReference raw | incompleteReference raw => some raw
  | undeclaredInput raw _ | unknownReference raw _ => some raw
  | _ => none

theorem Problem.concern_eq_references_iff {problem : Problem} :
    problem.concern = .references ↔
      problem.code = "INVALID_REFERENCE" ∨ problem.code = "INCOMPLETE_REFERENCE" := by
  cases problem <;> simp [concern, code]

/-- A problem is reported of a reference in one of several texts. -/
def ReportedIn (names : Names) (texts : List String) (finding : Finding) : Prop :=
  ∃ text ∈ texts, ∃ token ∈ Template.tokens text, ∃ path,
    finding ∈ (Semantics.reference names path token).errors

variable {finding : Finding} {texts more : List String}

theorem ReportedIn.mono (h : ReportedIn names texts finding) (hsubset : texts ⊆ more) :
    ReportedIn names more finding := by
  obtain ⟨text, htext, hreported⟩ := h
  exact ⟨text, hsubset htext, hreported⟩

namespace Semantics

theorem reference?_of_mem_errors (h : finding ∈ (reference names path token).errors) :
    finding.problem.reference? = some token.raw := by
  rw [reference] at h
  repeat' split at h
  all_goals simp at h
  all_goals simp [h, Problem.reference?]

theorem reportedIn_template {text : String} (h : finding ∈ (template names path text).errors) :
    ReportedIn names [text] finding := by
  obtain ⟨token, htoken, hfinding⟩ := Findings.mem_errors_all_map.mp h
  exact ⟨text, List.mem_singleton.mpr rfl, token, htoken, path, hfinding⟩

theorem reportedIn_value {json : Json} (h : finding ∈ (value names path json).errors) :
    ReportedIn names json.texts finding := by
  rw [value_eq] at h
  obtain ⟨⟨place, text⟩, hplaced, hfinding⟩ := Findings.mem_errors_all_map.mp h
  apply (reportedIn_template hfinding).mono
  rw [← map_snd_placed path json, List.cons_subset]
  exact ⟨List.mem_map_of_mem hplaced, List.nil_subset _⟩

end Semantics

/-- What is found in a list that may be missing. -/
theorem exists_of_mem_getD {α β : Type} {o : Option α} {f : α → Option (List β)} {x : β}
    (h : x ∈ (o.bind f).getD []) : ∃ a l, o = some a ∧ f a = some l ∧ x ∈ l := by
  cases hbind : o.bind f with
  | none =>
    rw [hbind] at h
    cases h
  | some l =>
    rw [hbind] at h
    obtain ⟨a, ha, hl⟩ := Option.bind_eq_some_iff.mp hbind
    exact ⟨a, l, ha, hl, h⟩

theorem StepView.config_of_ofJson? {index : Nat} {item : Json} {view : StepView}
    (h : StepView.ofJson? index item = some view) :
    view.config = (item.field? "config").bind Json.fields? := by
  cases item with
  | obj fields =>
    simp only [ofJson?, Json.fields?, Option.bind_eq_bind, Option.bind_some,
      Option.bind_eq_some_iff, Option.pure_def, Option.some.injEq] at h
    obtain ⟨_, _, _, _, _, _, _, _, _, _, rfl⟩ := h
    rfl
  | null | bool | num | str | arr => cases h

theorem texts_subset_of_stepViews {view : StepView} (hview : view ∈ stepViews document)
    {key : String} {value : Json} (hvalue : (key, value) ∈ view.config.getD []) :
    value.texts ⊆ document.texts := by
  obtain ⟨⟨item, index⟩, hitem, hread⟩ := List.mem_filterMap.mp hview
  have hmem := List.mem_of_getElem? (List.mem_zipIdx_iff_getElem?.mp hitem)
  obtain ⟨steps, items, hsteps, hitems, hitem⟩ := exists_of_mem_getD hmem
  rw [StepView.config_of_ofJson? hread] at hvalue
  obtain ⟨config, fields, hconfig, hfields, hvalue⟩ := exists_of_mem_getD hvalue
  calc
    value.texts ⊆ config.texts := Json.texts_subset_of_fields? hfields hvalue
    _ ⊆ item.texts := Json.texts_subset_of_field? hconfig
    _ ⊆ steps.texts := Json.texts_subset_of_items? hitems hitem
    _ ⊆ document.texts := Json.texts_subset_of_at? hsteps

theorem texts_subset_of_outputs {name : String} {spec source : Json}
    (hspec : (name, spec) ∈ sectionFields document "outputs")
    (hsource : spec.field? "source" = some source) : source.texts ⊆ document.texts := by
  obtain ⟨outputs, fields, houtputs, hfields, hspec⟩ := exists_of_mem_getD hspec
  calc
    source.texts ⊆ spec.texts := Json.texts_subset_of_field? hsource
    _ ⊆ outputs.texts := Json.texts_subset_of_fields? hfields hspec
    _ ⊆ document.texts := Json.texts_subset_of_field? houtputs

/-- Problems of references are reported of references that stand in the document. -/
theorem reportedIn_document (h : finding ∈ (checkSemantics document).errors)
    (hconcern : finding.problem.concern = .references) :
    ReportedIn (Names.ofDocument document) document.texts finding := by
  rw [checkSemantics, Report.toFindings_ofFindings] at h
  have habout := Findings.mem_errors_about.mpr ⟨h, hconcern⟩
  rw [Semantics.about_references, Findings.errors_append, List.mem_append,
    Findings.mem_errors_all_map, Findings.mem_errors_all_map] at habout
  rcases habout with ⟨view, hview, hfinding⟩ | ⟨⟨name, spec⟩, hspec, hfinding⟩
  · obtain ⟨⟨key, value⟩, hvalue, hfinding⟩ := Findings.mem_errors_all_map.mp hfinding
    have hreported := Semantics.reportedIn_value (Findings.mem_errors_given.mp hfinding).2
    exact hreported.mono (texts_subset_of_stepViews hview hvalue)
  · cases hsource : (spec.field? "source").bind Json.string? with
    | none => simp [Semantics.outputReferences, hsource] at hfinding
    | some source =>
      simp only [Semantics.outputReferences, hsource] at hfinding
      obtain ⟨json, hjson, hstring⟩ := Option.bind_eq_some_iff.mp hsource
      have htext : json.texts = [source] := by
        cases json <;> cases hstring
        rfl
      apply (Semantics.reportedIn_template hfinding).mono
      exact htext ▸ texts_subset_of_outputs hspec hjson

/-- If a document is in form, a reference is reported exactly if it leads nowhere in any
scope that fits, and all problems with the codes of references are reported of such
references in the document. -/
theorem reported_references_lead_nowhere (h : (checkSchema document).valid = true) :
    (∀ path token, (Semantics.reference (Names.ofDocument document) path token).errors ≠ [] ↔
        ∀ scope, Fits document scope → LeadsNowhere scope token.path) ∧
      ∀ finding ∈ (checkSemantics document).errors,
        finding.problem.code = "INVALID_REFERENCE" ∨
            finding.problem.code = "INCOMPLETE_REFERENCE" →
          ∃ text ∈ document.texts, ∃ token ∈ Template.tokens text,
            finding.problem.reference? = some token.raw ∧
              ∀ scope, Fits document scope → LeadsNowhere scope token.path := by
  have hform := valid_checkSchema_iff.mp h
  constructor
  · exact fun path token => reported_iff hform
  · intro finding hfinding hcode
    have hconcern := Problem.concern_eq_references_iff.mpr hcode
    obtain ⟨text, htext, token, htoken, path, hreported⟩ := reportedIn_document hfinding hconcern
    refine ⟨text, htext, token, htoken, Semantics.reference?_of_mem_errors hreported, ?_⟩
    exact (reported_iff hform).mp (List.ne_nil_of_mem hreported)

/-- A document with a step that is called like an input. One output names the step as an input does
not exist, one names all inputs at once, and one names the input. -/
def memo : Json :=
  sheet "memo" [("note", .obj [("type", .str "string")])]
    [.obj [("id", .str "begin"), ("type", .str "start")],
      .obj [("id", .str "note"), ("type", .str "end"), ("depends_on", .arr [.str "begin"])]]
    [("first", .obj [("source", .str "$\x7binput.begin\x7d")]),
      ("all", .obj [("source", .str "$\x7binputs\x7d")]),
      ("kept", .obj [("source", .str "$\x7bnote\x7d")])]

theorem inputs_of_memo_lead_nowhere :
    (checkSchema memo).valid = true ∧
      ((checkSemantics memo).errors.map fun finding => finding.problem.code) =
        ["INVALID_REFERENCE", "INCOMPLETE_REFERENCE"] ∧
      (∃ scope, Fits memo scope) ∧
      ∀ finding ∈ (checkSemantics memo).errors,
        ∃ text ∈ memo.texts, ∃ token ∈ Template.tokens text,
          finding.problem.reference? = some token.raw ∧
            ∀ scope, Fits memo scope → LeadsNowhere scope token.path := by
  have hform : Schema.document memo = [] := by
    apply Schema.document_sheet
    all_goals exact List.isEmpty_iff.mp (by decide +kernel)
  have hvalid : (checkSchema memo).valid = true := valid_checkSchema_iff.mpr hform
  have hcodes : ((checkSemantics memo).errors.map fun finding => finding.problem.code) =
      ["INVALID_REFERENCE", "INCOMPLETE_REFERENCE"] := by
    decide +kernel
  refine ⟨hvalid, hcodes, ⟨_, fits_furnished hform⟩, fun finding hfinding => ?_⟩
  have hcode := List.mem_map_of_mem (f := fun finding : Finding => finding.problem.code) hfinding
  rw [hcodes] at hcode
  exact (reported_references_lead_nowhere hvalid).2 finding hfinding (by simpa using hcode)

end Validation

end Workflow
