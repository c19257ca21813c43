import Workflow.Proofs.Decode.Accepting
import Workflow.Proofs.Document.Acceptance

/-!
# Documents that can be converted

A document in form whose step configurations can be read is converted, but for one thing:
the rules of an input know the bounds of lengths by two spellings, of which the form
allows both and the conversion one.
-/

namespace Workflow

open Decode (Accepts accepts_record accepts_record_of_proper pairwise_apart_iff)
open Decode.Field (served_mandatory served_defaulted served_named)

namespace Validation.Schema

variable {path key : String} {json : Json} {fields : Entries Json}

/-! ## Values in form -/

theorem accepts_of_string {check : String → List Breach} (h : string path check json = []) :
    Accepts Decode.text json := by
  obtain ⟨s, rfl, -⟩ := string_eq_nil_iff.mp h
  exact Decode.accepts_text s

theorem accepts_of_name {α : Type} {name : α → String} {all : List α}
    (h : string path (oneOf path (all.map name)) json = []) :
    Accepts (Decode.variant name all) json := by
  obtain ⟨a, ha, rfl⟩ := exists_name_of_string h
  have hfound : (all.find? fun v => name v = name a).isSome = true :=
    List.find?_isSome.mpr ⟨a, ha, by simp⟩
  obtain ⟨v, hv⟩ := Option.isSome_iff_exists.mp hfound
  exact ⟨v, by simp only [Decode.variant, hv]⟩

theorem accepts_of_each {α : Type} {decoder : Decoder α} {items : List Json}
    {check : Nat → Json → List Breach} (h : each items check = [])
    (hread : ∀ i item, check i item = [] → Accepts decoder item) :
    Accepts (Decode.list decoder) (.arr items) := by
  refine Decode.accepts_list fun item hitem => ?_
  obtain ⟨i, hi⟩ := List.mem_iff_getElem?.mp hitem
  exact hread i item (each_eq_nil_iff.mp h i item hi)

/-- A property that may be left out is accepted as a value that may be absent. -/
theorem accepts_of_optional {α : Type} {decoder : Decoder α} {check : Json → List Breach}
    (h : optional fields key check = [])
    (hread : ∀ value, check value = [] → Accepts decoder value) :
    ∀ value, fields.get? key = some value → Accepts (Decode.optional decoder) value :=
  fun value hvalue => (hread value (optional_eq_nil_iff.mp h value hvalue)).optional

end Validation.Schema

open Validation.Schema

/-! ## Metadata, inputs and outputs -/

theorem Metadata.accepts {json : Json} (hform : metadata json = []) (hproper : json.Proper) :
    Accepts Metadata.decoder json := by
  obtain ⟨fields, rfl, hfields⟩ := object_eq_nil_iff.mp hform
  simp only [List.append_eq_nil_iff, mandatory_eq_nil_iff] at hfields
  obtain ⟨⟨⟨⟨⟨name, hname, hname'⟩, description, hdescription, hdescription'⟩, version, hversion,
    hversion'⟩, hauthor⟩, htags⟩ := hfields
  refine accepts_record_of_proper (by simp [Decode.Distinct]) (by simp [Decode.Field.name])
    hproper ?_
  simp only [List.forall_mem_cons]
  refine ⟨served_mandatory hname (accepts_of_string hname'),
    served_mandatory hdescription (accepts_of_string hdescription'),
    served_mandatory hversion (accepts_of_string hversion'),
    served_defaulted (accepts_of_optional hauthor fun _ => accepts_of_string),
    served_defaulted fun value hvalue => ?_, List.forall_mem_nil _⟩
  obtain ⟨items, rfl, hitems⟩ := array_eq_nil_iff.mp (optional_eq_nil_iff.mp htags value hvalue)
  exact accepts_of_each (List.append_eq_nil_iff.mp hitems).2 fun _ _ => accepts_of_string

/-- The rules of an input spell each bound of lengths in one way at most. -/
structure InputRules.SpelledOnce (rules : Entries Json) : Prop where
  minLength : rules.get? "min_length" = none ∨ rules.get? "minLength" = none
  maxLength : rules.get? "max_length" = none ∨ rules.get? "maxLength" = none

theorem InputRules.spelledOnce_of_decoder {rules : Entries Json} (hkeys : rules.keys.Nodup)
    (h : Accepts InputRules.decoder (.obj rules)) : InputRules.SpelledOnce rules := by
  obtain ⟨_, hread⟩ := h
  have hapart :=
    (pairwise_apart_iff hkeys).mp (Decode.apart_of_record (by simp [Decode.Distinct]) hread)
  simp only [List.forall_mem_cons] at hapart
  obtain ⟨-, hmin, hmax, -⟩ := hapart
  exact ⟨hmin "min_length" (by simp) "minLength" (by simp) (by decide),
    hmax "max_length" (by simp) "maxLength" (by simp) (by decide)⟩

theorem InputRules.accepts {path : String} {rules : Entries Json}
    (hform : inputRules path (.obj rules) = []) (hproper : Json.Proper (.obj rules))
    (hspelled : InputRules.SpelledOnce rules) :
    Accepts InputRules.decoder (.obj rules) := by
  obtain ⟨_, ⟨⟩, hfields⟩ := object_eq_nil_iff.mp hform
  simp only [List.append_eq_nil_iff, List.flatMap_eq_nil_iff, List.forall_mem_cons] at hfields
  obtain ⟨⟨⟨hpattern, hminLength, hmaxLength, hminLength', hmaxLength', -⟩, hminimum, hmaximum, -⟩,
      henum⟩ :=
    hfields
  have hkeys := (Json.proper_obj_iff.mp hproper).1
  have hlength : ∀ {key : String}, (optional rules key fun value =>
      require value.natural?.isSome s!"{path}/{key}" .notNatural) = [] →
      ∀ json, rules.get? key = some json → Accepts (Decode.optional Decode.size) json :=
    fun h json hjson => (Decode.accepts_size (hproper.of_get? hjson)
      (require_eq_nil_iff.mp (optional_eq_nil_iff.mp h json hjson))).optional
  have hbound : ∀ {key : String}, (optional rules key fun value =>
      require value.isNumber s!"{path}/{key}" (.shape .number value)) = [] →
      ∀ json, rules.get? key = some json → Accepts (Decode.optional Decode.float) json :=
    fun h => accepts_of_optional h fun _ hvalue =>
      Decode.accepts_float (require_eq_nil_iff.mp hvalue)
  refine accepts_record (by simp [Decode.Distinct]) hkeys ?_ ((pairwise_apart_iff hkeys).mpr ?_)
  · simp only [List.forall_mem_cons]
    refine ⟨served_defaulted (accepts_of_optional hpattern fun _ => accepts_of_string),
      served_named ?_, served_named ?_, served_defaulted (hbound hminimum),
      served_defaulted (hbound hmaximum),
      served_defaulted (accepts_of_optional henum fun value hvalue => ?_), List.forall_mem_nil _⟩
    · simpa using ⟨hlength hminLength, hlength hminLength'⟩
    · simpa using ⟨hlength hmaxLength, hlength hmaxLength'⟩
    · cases value with
      | arr items => exact ⟨items, Decode.list_any items⟩
      | null | bool | num | str | obj => cases require_eq_nil_iff.mp hvalue
  · obtain ⟨hmin, hmax⟩ := hspelled
    simpa using ⟨⟨hmin, hmin.symm⟩, hmax, hmax.symm⟩

theorem InputSpec.accepts {name : String} {spec : Json} (hform : input name spec = [])
    (hproper : spec.Proper) (hspelled : ∀ rules, spec.field? "validation" = some (.obj rules) →
      InputRules.SpelledOnce rules) :
    Accepts InputSpec.decoder spec := by
  obtain ⟨fields, rfl, hfields⟩ := object_eq_nil_iff.mp (List.append_eq_nil_iff.mp hform).2
  simp only [List.append_eq_nil_iff, mandatory_eq_nil_iff] at hfields
  obtain ⟨⟨⟨⟨type, htype, htype'⟩, hrequired⟩, hdescription⟩, hvalidation⟩ := hfields
  refine accepts_record_of_proper (by simp [Decode.Distinct]) (by simp [Decode.Field.name])
    hproper ?_
  simp only [List.forall_mem_cons]
  refine ⟨served_mandatory htype (accepts_of_name htype'), served_defaulted fun value hvalue => ?_,
    served_defaulted fun _ _ => (Decode.accepts_any _).optional,
    served_defaulted (accepts_of_optional hdescription fun _ => accepts_of_string),
    served_defaulted fun value hvalue => ?_,
    served_defaulted fun _ _ => (Decode.accepts_any _).optional, List.forall_mem_nil _⟩
  · exact Decode.accepts_boolean
      (require_eq_nil_iff.mp (optional_eq_nil_iff.mp hrequired value hvalue))
  · have hrules := optional_eq_nil_iff.mp hvalidation value hvalue
    obtain ⟨rules, rfl, -⟩ := object_eq_nil_iff.mp hrules
    exact (InputRules.accepts hrules (hproper.of_get? hvalue) (hspelled rules hvalue)).optional

/-- The rules of an input that is accepted are read. -/
theorem InputSpec.spelledOnce_of_decoder {spec : Json} (hproper : spec.Proper)
    (h : Accepts InputSpec.decoder spec) {rules : Entries Json}
    (hrules : spec.field? "validation" = some (.obj rules)) : InputRules.SpelledOnce rules := by
  cases spec with
  | obj fields =>
    obtain ⟨_, hread⟩ := h
    have hvalidation :=
      (Decode.holds_of_record hread "validation" (Decode.optional InputRules.decoder)
      InputSpec.rules ⟨by simp, by simp⟩).of_some hrules
    obtain ⟨value, hvalue, -⟩ := Decode.map_eq_ok hvalidation
    exact InputRules.spelledOnce_of_decoder (Json.proper_obj_iff.mp (hproper.of_get? hrules)).1
      ⟨value, hvalue⟩
  | null | bool | num | str | arr => cases hrules

theorem OutputSpec.accepts {name : String} {spec : Json} (hform : output name spec = [])
    (hproper : spec.Proper) : Accepts OutputSpec.decoder spec := by
  obtain ⟨fields, rfl, hfields⟩ := object_eq_nil_iff.mp (List.append_eq_nil_iff.mp hform).2
  simp only [List.append_eq_nil_iff, mandatory_eq_nil_iff] at hfields
  obtain ⟨⟨⟨source, hsource, hsource'⟩, htype⟩, hdescription⟩ := hfields
  refine accepts_record_of_proper (by simp [Decode.Distinct]) (by simp [Decode.Field.name])
    hproper ?_
  simp only [List.forall_mem_cons]
  exact ⟨served_mandatory hsource (accepts_of_string hsource'),
    served_defaulted (accepts_of_optional htype fun _ => accepts_of_name),
    served_defaulted (accepts_of_optional hdescription fun _ => accepts_of_string),
    List.forall_mem_nil _⟩

/-! ## Steps -/

theorem ErrorHandling.accepts {path : String} {json : Json} (hform : errorHandling path json = [])
    (hproper : json.Proper) : Accepts ErrorHandling.decoder json := by
  obtain ⟨fields, rfl, hfields⟩ := object_eq_nil_iff.mp hform
  simp only [List.append_eq_nil_iff] at hfields
  obtain ⟨⟨honError, hretry⟩, hfallback⟩ := hfields
  obtain ⟨_, ⟨⟩, hhandling⟩ := handlingForm hform
  refine accepts_record_of_proper (by simp [Decode.Distinct]) (by simp [Decode.Field.name])
    hproper ?_
  simp only [List.forall_mem_cons]
  refine ⟨served_defaulted fun value hvalue => ?_, served_defaulted fun value hvalue => ?_,
    served_defaulted (accepts_of_optional hfallback fun _ => accepts_of_string),
    List.forall_mem_nil _⟩
  · exact accepts_of_name (optional_eq_nil_iff.mp honError value hvalue)
  · obtain ⟨count, hcount, hnatural⟩ := hhandling.retryCount value hvalue
    exact (Decode.accepts_u32 hnatural (by omega)).optional

theorem Step.Draft.accepts {path : String} {json : Json}
    (hform : Validation.Schema.step path json = []) (hproper : json.Proper) :
    Accepts Step.Draft.decoder json := by
  obtain ⟨fields, rfl, hfields⟩ := object_eq_nil_iff.mp hform
  simp only [List.append_eq_nil_iff, mandatory_eq_nil_iff] at hfields
  obtain ⟨⟨⟨⟨⟨⟨⟨⟨id, hid, hid'⟩, type, htype, htype'⟩, hname⟩, hdescription⟩, hdepends⟩, -⟩,
    houtputs⟩, hhandling⟩ := hfields
  refine accepts_record_of_proper (by simp [Decode.Distinct]) (by simp [Decode.Field.name])
    hproper ?_
  simp only [List.forall_mem_cons]
  refine ⟨served_mandatory hid (accepts_of_string hid'),
    served_mandatory htype (accepts_of_name htype'),
    served_defaulted (accepts_of_optional hname fun _ => accepts_of_string),
    served_defaulted (accepts_of_optional hdescription fun _ => accepts_of_string),
    served_defaulted fun value hvalue => ?_,
    served_defaulted fun _ _ => (Decode.accepts_any _).optional,
    served_defaulted fun value hvalue => ?_, served_defaulted fun value hvalue => ?_,
    List.forall_mem_nil _⟩
  · obtain ⟨items, rfl, hitems⟩ :=
      array_eq_nil_iff.mp (optional_eq_nil_iff.mp hdepends value hvalue)
    exact accepts_of_each hitems fun _ _ => accepts_of_string
  · obtain ⟨outputs, rfl, hitems⟩ :=
      object_eq_nil_iff.mp (optional_eq_nil_iff.mp houtputs value hvalue)
    exact Decode.accepts_entries fun field hfield =>
      accepts_of_string (List.flatMap_eq_nil_iff.mp hitems field hfield)
  · exact (ErrorHandling.accepts (optional_eq_nil_iff.mp hhandling value hvalue)
      (hproper.of_get? hvalue)).optional

/-- The configuration of a step can be read for the type of the step. -/
def Step.ConfigRead (item : Json) : Prop :=
  ∀ id (type : StepType), item.field? "id" = some (.str id) →
    item.field? "type" = some (.str type.name) →
    ∃ config, StepConfig.read id type (item.field? "config") = .ok config

theorem Step.accepts {path : String} {json : Json} (hform : Validation.Schema.step path json = [])
    (hproper : json.Proper) (hconfig : Step.ConfigRead json) : Accepts Step.decoder json := by
  obtain ⟨draft, hdraft⟩ := Step.Draft.accepts hform hproper
  obtain ⟨fields, rfl, hfields⟩ := stepForm hform
  obtain ⟨id, hid⟩ := hfields.id
  obtain ⟨type, htype⟩ := hfields.type
  have hread := Step.Draft.readFrom hdraft
  have hidEq : draft.id = id := (Except.ok.inj (hread.id.of_some hid)).symm
  have htypeEq : draft.type = type := StepType.eq_of_variant (hread.type.of_some htype)
  have hconfigEq : draft.config = Entries.get? fields "config" := by
    cases hget : Entries.get? fields "config" with
    | none => exact hread.config.of_none hget
    | some value =>
      obtain ⟨config, rfl⟩ := hfields.config value hget
      exact (Except.ok.inj (hread.config.of_some hget)).symm
  obtain ⟨config, hstep⟩ := hconfig id type hid htype
  rw [← hidEq, ← htypeEq, Json.field?, ← hconfigEq] at hstep
  refine ⟨⟨draft.id, draft.type, draft.name, draft.description, draft.dependsOn, config,
    draft.outputs, draft.errorHandling⟩, ?_⟩
  show (Step.Draft.decoder (.obj fields) >>= Step.ofDraft) = _
  rw [hdraft]
  show (StepConfig.read draft.id draft.type draft.config >>= _) = _
  rw [hstep]
  rfl

/-! ## Documents -/

theorem Json.at?_eq_some_iff {json value : Json} {key next : String} {path : List String} :
    json.at? (key :: next :: path) = some value ↔
      ∃ inner, json.field? key = some inner ∧ inner.at? (next :: path) = some value :=
  Option.bind_eq_some_iff

theorem Json.at?_singleton (json : Json) (key : String) : json.at? [key] = json.field? key := by
  cases h : json.field? key <;> simp [at?, h]

/-- The configurations of all steps of a document can be read. -/
def Validation.ConfigsRead (document : Json) : Prop :=
  ∀ items, document.at? ["workflow", "steps"] = some (.arr items) →
    ∀ item ∈ items, Step.ConfigRead item

/-- The rules of every input of a document spell each bound of lengths in one way at most. -/
def Validation.SpelledOnce (document : Json) : Prop :=
  ∀ name rules, document.at? ["inputs", name, "validation"] = some (.obj rules) →
    InputRules.SpelledOnce rules

theorem Definition.stepsDecoder_accepts {json : Json} (hform : graph json = [])
    (hproper : json.Proper) (hconfigs : ∀ items, json.field? "steps" = some (.arr items) →
      ∀ item ∈ items, Step.ConfigRead item) :
    Accepts Definition.stepsDecoder json := by
  obtain ⟨fields, rfl, hfields⟩ := object_eq_nil_iff.mp hform
  obtain ⟨value, hvalue, hsteps⟩ := mandatory_eq_nil_iff.mp hfields
  obtain ⟨items, rfl, hitems⟩ := array_eq_nil_iff.mp hsteps
  have hitemsProper := Json.proper_arr_iff.mp (hproper.of_get? hvalue)
  refine accepts_record_of_proper (by simp [Decode.Distinct]) (by simp [Decode.Field.name])
    hproper ?_
  simp only [List.forall_mem_cons]
  refine ⟨served_mandatory hvalue (Decode.accepts_list fun item hitem => ?_), List.forall_mem_nil _⟩
  obtain ⟨i, hi⟩ := List.mem_iff_getElem?.mp hitem
  exact Step.accepts (each_eq_nil_iff.mp (List.append_eq_nil_iff.mp hitems).2 i item hi)
    (hitemsProper item hitem) (hconfigs items hvalue item hitem)

theorem Definition.accepts {document : Json} (hform : Validation.Schema.document document = [])
    (hproper : document.Proper) (hconfigs : Validation.ConfigsRead document)
    (hspelled : Validation.SpelledOnce document) : Accepts Definition.decoder document := by
  obtain ⟨top, rfl, htop⟩ := object_eq_nil_iff.mp hform
  simp only [List.append_eq_nil_iff, mandatory_eq_nil_iff] at htop
  obtain ⟨⟨⟨⟨-, about, habout, habout'⟩, inputs, hinputs, hinputs'⟩, flow, hflow, hflow'⟩, outputs,
    houtputs, houtputs'⟩ := htop
  refine accepts_record_of_proper (by simp [Decode.Distinct]) (by simp [Decode.Field.name])
    hproper ?_
  simp only [List.forall_mem_cons]
  refine ⟨served_mandatory habout (Metadata.accepts habout' (hproper.of_get? habout)),
    served_defaulted fun value hvalue => ?_, served_mandatory hflow ?_,
    served_defaulted fun value hvalue => ?_, List.forall_mem_nil _⟩
  · obtain rfl := Option.some.inj (hinputs.symm.trans hvalue)
    obtain ⟨declared, rfl, hdeclared⟩ := object_eq_nil_iff.mp hinputs'
    obtain ⟨hkeys, hspecs⟩ := Json.proper_obj_iff.mp (hproper.of_get? hinputs)
    refine Decode.accepts_entries fun field hfield => ?_
    refine InputSpec.accepts (List.flatMap_eq_nil_iff.mp hdeclared field hfield)
      (hspecs field hfield)
      fun rules hrules => hspelled field.1 rules ?_
    have hspec := Entries.get?_eq_some_of_mem hkeys hfield
    exact Json.at?_eq_some_iff.mpr ⟨_, hinputs, Json.at?_eq_some_iff.mpr ⟨_, hspec,
      (Json.at?_singleton _ _).trans hrules⟩⟩
  · refine Definition.stepsDecoder_accepts hflow' (hproper.of_get? hflow) fun items hitems => ?_
    exact hconfigs items (Json.at?_eq_some_iff.mpr ⟨_, hflow,
      (Json.at?_singleton _ _).trans hitems⟩)
  · obtain rfl := Option.some.inj (houtputs.symm.trans hvalue)
    obtain ⟨resolved, rfl, hresolved⟩ := object_eq_nil_iff.mp houtputs'
    obtain ⟨-, hspecs⟩ := Json.proper_obj_iff.mp (hproper.of_get? houtputs)
    exact Decode.accepts_entries fun field hfield =>
      OutputSpec.accepts (List.flatMap_eq_nil_iff.mp hresolved field hfield) (hspecs field hfield)

theorem Definition.spelledOnce_of_decoder {document : Json} (hproper : document.Proper)
    (h : Accepts Definition.decoder document) : Validation.SpelledOnce document := by
  intro name rules hrules
  obtain ⟨d, hread⟩ := h
  obtain ⟨sections, hsections, hinput⟩ := Json.at?_eq_some_iff.mp hrules
  obtain ⟨spec, hspec, hvalidation⟩ := Json.at?_eq_some_iff.mp hinput
  rw [Json.at?_singleton] at hvalidation
  cases document with
  | obj top =>
    have hinputs := (Definition.inputs_of_decoder hread).of_some hsections
    obtain ⟨declared, rfl, hdeclared⟩ := Decode.forall₂_of_entries hinputs
    have hspecs := hproper.of_get? hsections
    obtain ⟨value, -, -, hvalue⟩ :=
      Decode.exists_of_forall₂ hdeclared.flip (Entries.mem_of_get? hspec)
    exact InputSpec.spelledOnce_of_decoder (hspecs.of_get? hspec) ⟨value.2, hvalue⟩
      hvalidation
  | null | bool | num | str | arr => cases hsections

/-- A document in form whose configurations can be read is converted exactly if the rules of its
inputs spell each bound of lengths once. -/
theorem converted_iff_spelledOnce {document : Json} (hproper : document.Proper)
    (hform : (Validation.checkSchema document).errors = [])
    (hconfigs : Validation.ConfigsRead document) :
    (∃ d, Definition.decoder document = .ok d) ↔ Validation.SpelledOnce document := by
  have hbreaches : Validation.Schema.document document = [] := by
    simpa [Validation.checkSchema] using hform
  exact ⟨Definition.spelledOnce_of_decoder hproper, Definition.accepts hbreaches hproper hconfigs⟩

/-- A document with one input, whose values have to keep some rules. -/
def bounds (rules : Entries Json) : Json :=
  sheet "bounds" [("code", .obj [("type", .str "string"), ("validation", .obj rules)])]
    [.obj [("id", .str "begin"), ("type", .str "start")]] []

theorem configsRead_bounds (rules : Entries Json) : Validation.ConfigsRead (bounds rules) := by
  rintro items ⟨⟩ item hitem id type - htype
  obtain rfl := List.mem_singleton.mp hitem
  obtain rfl : StepType.start = type := by
    have hname : "start" = type.name := Json.str.inj (Option.some.inj htype)
    exact Option.some.inj ((hname ▸ rfl : StepType.ofName? type.name = some .start).symm.trans
      (StepType.ofName?_name type))
  exact ⟨.start, rfl⟩

theorem errors_bounds {rules : Entries Json} (hrules : input "code"
      (.obj [("type", .str "string"), ("validation", .obj rules)]) = []) :
    (Validation.checkSchema (bounds rules)).errors = [] := by
  have hform : Validation.Schema.document (bounds rules) = [] := by
    refine document_sheet (List.isEmpty_iff.mp (by decide +kernel)) ?_
      (List.isEmpty_iff.mp (by decide +kernel)) rfl
    simpa [Validation.Schema.inputs, object] using hrules
  simpa [Validation.checkSchema] using hform

theorem bounds_converted :
    let document := bounds [("minLength", .int 2), ("max_length", .int 8)]
    document.Proper ∧ (Validation.checkSchema document).errors = [] ∧
      Validation.ConfigsRead document ∧
      Validation.SpelledOnce document ∧ ∃ d, Definition.decoder document = .ok d := by
  have hproper : (bounds [("minLength", .int 2), ("max_length", .int 8)]).Proper := by
    simp [bounds, sheet, Entries.keys, Number.Proper, Number.InRange, Number.minInt, Number.maxInt]
  have hform : (Validation.checkSchema
      (bounds [("minLength", .int 2), ("max_length", .int 8)])).errors = [] :=
    errors_bounds (List.isEmpty_iff.mp (by decide +kernel))
  have hiff := converted_iff_spelledOnce hproper hform (configsRead_bounds _)
  have hconverted : ∃ d, Definition.decoder
      (bounds [("minLength", .int 2), ("max_length", .int 8)]) = .ok d :=
    ⟨_, rfl⟩
  exact ⟨hproper, hform, configsRead_bounds _, hiff.mp hconverted, hconverted⟩

/-- A bound that is spelled in both ways is in form, and nothing else is wrong with the document,
but it is not converted. -/
theorem bounds_not_converted :
    let document := bounds [("min_length", .int 2), ("minLength", .int 2)]
    document.Proper ∧ (Validation.checkSchema document).errors = [] ∧
      (Validation.checkSemantics document).errors = [] ∧ Validation.ConfigsRead document ∧
      Definition.decoder document = .error (.duplicateField "min_length") := by
  refine ⟨?_, errors_bounds (List.isEmpty_iff.mp (by decide +kernel)), ?_,
    configsRead_bounds _, rfl⟩
  · simp [bounds, sheet, Entries.keys, Number.Proper, Number.InRange, Number.minInt, Number.maxInt]
  · simpa [Validation.checkSemantics] using List.isEmpty_iff.mp (by decide +kernel)

end Workflow
