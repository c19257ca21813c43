import Workflow.Proofs.Document.Acceptance

/-!
# One verdict for every text

A text can be validated, which gives a report, and loaded, which gives its definition or says why
there is none. Both go through the same stages, and the flag that a report carries follows the list
of its problems through every stage, so both come to the same verdict.
-/

namespace Workflow.Validation

namespace Report

/-- The flag of a report says whether its list of problems is empty. -/
def Coherent (r : Report) : Prop := r.valid = r.errors.isEmpty

theorem Coherent.valid_iff {r : Report} (h : r.Coherent) : r.valid = true ↔ r.errors = [] := by
  rw [h, List.isEmpty_iff]

/-- A problem that is entered makes the list and the flag agree again. -/
theorem coherent_error (r : Report) (f : Finding) : (r.error f).Coherent := by
  simp [Coherent, error]

theorem Coherent.extend {r : Report} (h : r.Coherent) (other : Report) :
    (r.extend other).Coherent := by
  rw [Coherent, valid_extend, errors_extend, h, Bool.eq_iff_iff]
  simp

theorem coherent_ofFindings (findings : Findings) (workflowName : Option String) :
    (ofFindings findings workflowName).Coherent := by
  rw [Coherent, valid_ofFindings, toFindings_ofFindings]

end Report

/-! ## The stages of the analysis -/

/-- The report on a document whose form is right, before it is converted. -/
def checked (document : Json) : Report :=
  ((checkSchema document).extend (checkSemantics document)).extend (checkPractice document)

/-- The ways an analysis can end, each with its result. -/
inductive Ends (document : Json) : Report × Option Definition → Prop
  | breached (hform : (checkSchema document).errors ≠ []) :
    Ends document (checkSchema document, none)
  | unfit (hform : (checkSchema document).errors = [])
    (hfits : (checkSemantics document).errors ≠ []) :
    Ends document (checked document, none)
  | converted {d : Definition} (hform : (checkSchema document).errors = [])
    (hfits : (checkSemantics document).errors = [])
    (hdecoder : Definition.decoder document = .ok d) :
    Ends document (checked document, some d)
  | unconverted {fault : Decode.Fault} (hform : (checkSchema document).errors = [])
    (hfits : (checkSemantics document).errors = [])
    (hdecoder : Definition.decoder document = .error fault) :
    Ends document ((checked document).error ⟨.invalidConfig fault, none⟩, none)

variable {document : Json}

theorem coherent_checkSchema : (checkSchema document).Coherent := Report.coherent_ofFindings _ _

theorem coherent_checked : (checked document).Coherent := (coherent_checkSchema.extend _).extend _

/-- Good practice adds no problems. -/
theorem errors_checked :
    (checked document).errors = (checkSchema document).errors ++
      (checkSemantics document).errors := by
  simp [checked, checkPractice, Lint.errors_document]

/-- The form of a document is a matter of problems only. -/
theorem warnings_checked :
    (checked document).warnings =
      (checkSemantics document).warnings ++ (checkPractice document).warnings := by
  simp [checked, checkSchema]

theorem analyze_eq (document : Json) :
    analyze document =
      if !(checkSchema document).valid then (checkSchema document, none)
      else if !(checked document).valid then (checked document, none)
      else
        match Definition.decoder document with
        | .ok d => (checked document, some d)
        | .error fault => ((checked document).error ⟨.invalidConfig fault, none⟩, none) := rfl

theorem ends_analyze (document : Json) : Ends document (analyze document) := by
  rw [analyze_eq]
  by_cases hform : (checkSchema document).errors = []
  · rw [coherent_checkSchema.valid_iff.mpr hform]
    by_cases hfits : (checkSemantics document).errors = []
    · have hnone : (checked document).errors = [] := by rw [errors_checked, hform, hfits]; rfl
      rw [coherent_checked.valid_iff.mpr hnone]
      cases hdecoder : Definition.decoder document with
      | ok d => exact .converted hform hfits hdecoder
      | error fault => exact .unconverted hform hfits hdecoder
    · have hinvalid : ¬ (checked document).valid = true := by
        rw [coherent_checked.valid_iff, errors_checked, hform, List.nil_append]
        exact hfits
      rw [Bool.eq_false_iff.mpr hinvalid]
      exact .unfit hform hfits
  · rw [Bool.eq_false_iff.mpr (coherent_checkSchema.valid_iff.not.mpr hform)]
    exact .breached hform

namespace Ends

variable {result : Report × Option Definition}

theorem coherent (h : Ends document result) : result.1.Coherent := by
  cases h with
  | breached _ => exact coherent_checkSchema
  | unfit _ _ => exact coherent_checked
  | converted _ _ _ => exact coherent_checked
  | unconverted _ _ _ => exact Report.coherent_error _ _

/-- A document has a definition exactly if there is no problem. -/
theorem isSome_iff (h : Ends document result) : result.2.isSome ↔ result.1.errors = [] := by
  cases h with
  | breached hform => simpa using hform
  | unfit hform hfits => simpa [errors_checked, hform] using hfits
  | converted hform hfits _ => simp [errors_checked, hform, hfits]
  | unconverted _ _ _ => simp [Report.error]

end Ends

theorem Ends.eq_of_breached {result : Report × Option Definition} (h : Ends document result)
    (hbreached : (checkSchema document).errors ≠ []) : result.1 = checkSchema document := by
  cases h with
  | breached _ => rfl
  | unfit hform _ => exact absurd hform hbreached
  | converted hform _ _ => exact absurd hform hbreached
  | unconverted hform _ _ => exact absurd hform hbreached

/-- What the stages after the form make of a document: the problems of the second, and if there are
none, at most the one that it cannot be converted. -/
structure Staged (document : Json) (r : Report) : Prop where
  errors : ∃ conversion, r.errors = (checkSemantics document).errors ++ conversion ∧
    (conversion = [] ∨ (checkSemantics document).errors = [] ∧ ∃ fault,
      Definition.decoder document = .error fault ∧ conversion = [⟨.invalidConfig fault, none⟩])
  warnings : r.warnings = (checkSemantics document).warnings ++ (checkPractice document).warnings

theorem Ends.staged {result : Report × Option Definition} (h : Ends document result)
    (hform : (checkSchema document).errors = []) : Staged document result.1 := by
  have herrors : (checked document).errors = (checkSemantics document).errors := by
    rw [errors_checked, hform, List.nil_append]
  cases h with
  | breached hbreached => exact absurd hform hbreached
  | unfit _ _ => exact ⟨⟨[], by rw [herrors, List.append_nil], .inl rfl⟩, warnings_checked⟩
  | converted _ _ _ => exact ⟨⟨[], by rw [herrors, List.append_nil], .inl rfl⟩, warnings_checked⟩
  | unconverted _ hfits hdecoder =>
    refine ⟨⟨_, ?_, .inr ⟨hfits, _, hdecoder, rfl⟩⟩, warnings_checked⟩
    rw [Report.error, herrors]

/-! ## Texts -/

/-- How the report on a text and the attempt to load it belong together. -/
structure Agreed (parse : String → Except ParseFault Json) (text : String) : Prop where
  loads_iff_valid : (∃ loaded, loadBy parse text = .ok loaded) ↔
    (validateTextBy parse text).valid = true
  valid_iff_errors : (validateTextBy parse text).valid = true ↔
    (validateTextBy parse text).errors = []
  /-- A definition comes with the report on the text. -/
  loaded : ∀ d r, loadBy parse text = .ok (d, r) → r = validateTextBy parse text
  /-- So does the refusal of one. -/
  invalid : ∀ r, loadBy parse text = .error (.invalid r) → r = validateTextBy parse text
  /-- A text that cannot be read has this one problem, with the same words and the same place. -/
  unread : ∀ fault, loadBy parse text = .error (.parse fault) →
    ∃ f, (validateTextBy parse text).errors = [f] ∧
      f.problem = .unreadable fault.message fault.place ∧
      f.problem.code = "YAML_PARSE_ERROR" ∧ f.problem.message = fault.message
  /-- If the form is not right, nothing else is looked at. -/
  breached : ∀ document, parse text = .ok document → (checkSchema document).errors ≠ [] →
    validateTextBy parse text = checkSchema document
  staged : ∀ document, parse text = .ok document → (checkSchema document).errors = [] →
    Staged document (validateTextBy parse text)

variable {parse : String → Except ParseFault Json} {text : String}

theorem agreed_of_fault {fault : ParseFault} (h : parse text = .error fault) :
    Agreed parse text := by
  have hload : loadBy parse text = .error (.parse fault) := by rw [loadBy, h]
  have hreport : validateTextBy parse text = .unreadable fault := by rw [validateTextBy, h]
  have hcoherent : (validateTextBy parse text).Coherent := hreport ▸ Report.coherent_error _ _
  refine ⟨?_, hcoherent.valid_iff, ?_, ?_, fun other hother => ?_, ?_, ?_⟩
  · rw [hload, hreport]
    simp [Report.unreadable, Report.error]
  · simp [hload]
  · simp [hload]
  · obtain rfl : fault = other := by simpa [hload] using hother
    exact ⟨_, by rw [hreport]; rfl, rfl, rfl, rfl⟩
  · simp [h]
  · simp [h]

theorem agreed_of_document (h : parse text = .ok document) : Agreed parse text := by
  have hends := ends_analyze document
  have hreport : validateTextBy parse text = (analyze document).1 := by
    simp only [validateTextBy, h, validateDocument]
  have hload : loadBy parse text = match (analyze document).2 with
      | some d => .ok (d, validateTextBy parse text)
      | none => .error (.invalid (validateTextBy parse text)) := by
    simp only [loadBy, h, hreport]
    rcases analyze document with ⟨r, _ | d⟩ <;> rfl
  have hcoherent : (validateTextBy parse text).Coherent := hreport ▸ hends.coherent
  have hloads : (analyze document).2.isSome ↔ (validateTextBy parse text).valid = true := by
    rw [hends.isSome_iff, hcoherent.valid_iff, hreport]
  refine ⟨?_, hcoherent.valid_iff, ?_, ?_, ?_, ?_, ?_⟩
  case refine_1 =>
    rw [← hloads, hload]
    cases (analyze document).2 <;> simp
  case refine_5 =>
    rintro other hother
    obtain rfl : document = other := by simpa [h] using hother
    exact fun hbreached => hreport.trans (hends.eq_of_breached hbreached)
  case refine_6 =>
    rintro other hother
    obtain rfl : document = other := by simpa [h] using hother
    exact fun hform => hreport ▸ hends.staged hform
  all_goals
    rw [hload]
    cases (analyze document).2 <;> simp

/-- Validating a text and loading it come to the same verdict, whatever reads the text. -/
theorem validating_agrees_with_loading (parse : String → Except ParseFault Json) (text : String) :
    Agreed parse text := by
  cases h : parse text with
  | error fault => exact agreed_of_fault h
  | ok document => exact agreed_of_document h

end Workflow.Validation
